import PredictionLeague.Prize.Award
import PredictionLeague.Stats

/-!
# Results and settlement

What drives the engine: results of matches while a round is played, the settlement of a completed
round, and the settlement of all completed rounds of a season in order.

* `updateMatchResults` records scores and carries them through verdicts, points, figures and, when
  the last match of the round is over, prizes;
* `settleRound` makes the points of a completed round anew and pays its prizes;
* `recalculateSeason` settles the completed rounds of a season and stops at the first that fails.
-/

namespace PredictionLeague

/-- A round in a message. -/
def Round.label (r : Round) : String := toString r.number ++ " (id=" ++ toString r.id ++ ")"

/-! ### Settling a round -/

/-- Settle the prizes of all leagues of a round, and tell how many there are. Each league is
settled on its own, so those before one that fails stay settled. -/
def settlePrizes (round : Round) (now : DateTime) : Engine Nat := do
  let leagues := (← Engine.current).leaguesOf round.seasonId
  leagues.forM fun league => do
    let _ ← Prize.processPrizes league.id round.id now
  return leagues.length

/-- Settle a completed round, and tell how many leagues it has. -/
def settleRound (roundId : Int) (now : DateTime) : Engine Nat := do
  let round ← Engine.getRound roundId
  if round.status ≠ .completed then
    throw (.roundNotCompleted roundId round.number round.status)
  recomputePoints roundId
  let count ← settlePrizes round now
  Engine.say .info .settlement
    ("Settled round " ++ round.label ++ " for " ++ toString count ++ " leagues")
  return count

/-! ### Settling a season -/

/-- The completed rounds of a season in the order in which they were played. -/
def Store.completedRounds (s : Store) (seasonId : Int) : List Round :=
  (s.scheduleOf seasonId).filter (·.status == .completed)

/-- Settle a round of a season walk; a fault is reported with the round at which it arose. -/
def settleStep (seasonId : Int) (now : DateTime) (round : Round) : Engine Unit :=
  tryCatch (do let _ ← settleRound round.id now) fun fault => do
    Engine.say .error .settlement ("Season " ++ toString seasonId ++
      " recalculation stopped at round " ++ toString round.number ++ ": " ++ fault.message)
    throw (.settlement round.id round.number fault.message)

/-- Settle the completed rounds of a season, and tell how many there are. The walk stops at the
first round that fails. -/
def recalculateSeason (seasonId : Int) (now : DateTime) : Engine Nat := do
  let season ← Engine.getSeason seasonId
  let rounds := (← Engine.current).completedRounds seasonId
  rounds.forM (settleStep seasonId now)
  Engine.say .info .settlement
    ("Recalculated season " ++ season.name ++ ": " ++ toString rounds.length ++ " rounds")
  return rounds.length

/-! ### Recording results -/

/-- A score that is reported for a match. -/
structure MatchScore where
  matchId : Int
  home : Int
  away : Int
  status : MatchStatus
  deriving DecidableEq

/-- The matches of a round while scores are recorded: the matches as they are now, the match of
each score that was taken, and whether one of them was completed by it. -/
structure Recording where
  fixtures : List Match
  updated : List Int
  newlyCompleted : Bool
  deriving DecidableEq

namespace Recording

/-- The recording before any score. -/
def start (fixtures : List Match) : Recording := ⟨fixtures, [], false⟩

/-- Take a score of a match of the round. -/
def take (r : Recording) (m : Match) (score : MatchScore) : Except Fault Recording := do
  let updated ← m.record score.home score.away score.status
  let completes := score.status == .completed && m.status != .completed
  return ⟨Table.replace r.fixtures updated, r.updated ++ [m.id], r.newlyCompleted || completes⟩

/-- Whether a match that was updated has kicked off. -/
def anyStarted (r : Recording) : Bool :=
  r.fixtures.any fun m => r.updated.contains m.id && m.status.started

/-- The numbers of the scores. -/
def numbers (r : Recording) : List Int :=
  r.fixtures.flatMap fun m => m.home.toList ++ m.away.toList

end Recording

/-- Take scores one after the other; a score of a match that is not in the round is skipped. -/
def recordScores (roundId : Int) : List MatchScore → Recording → Engine Recording
  | [], r => pure r
  | score :: scores, r => do
    match Table.get? r.fixtures score.matchId with
    | none =>
      Engine.say .warning .settlement ("Match " ++ toString score.matchId ++
        " is not in round " ++ toString roundId ++ ", skipping")
      recordScores roundId scores r
    | some m =>
      let r ← Engine.lift (r.take m score)
      recordScores roundId scores r

/-- The store with the matches of a recording. -/
def Store.withRecording (s : Store) (r : Recording) : Store :=
  { s with fixtures := r.fixtures.foldl Table.replace s.fixtures }

/-- The store with a round in a state. -/
def Store.withRoundStatus (s : Store) (round : Round) (status : RoundStatus) (now : DateTime) :
    Store :=
  { s with rounds := Table.replace s.rounds (round.withStatus status now) }

/-- Start a published round: the figures from before it are frozen. -/
def startRound (round : Round) (now : DateTime) : Engine Unit := do
  Engine.put ((← Engine.current).withRoundStatus round .inProgress now)
  let _ ← takeSnapshots round.id
  Engine.say .info .settlement ("Round " ++ round.label ++ " is now in progress")

/-- Judge the predictions of updated matches again. -/
def rescoreMatches (matchIds : List Int) (now : DateTime) : Engine Unit :=
  matchIds.forM fun id => do
    match (← Engine.current).match? id with
    | none => pure ()
    | some m => let _ ← rescoreMatch m now

/-- Complete a round all of whose matches are over, and settle its prizes. -/
def completeRound (roundId : Int) (now : DateTime) : Engine Unit := do
  let round ← Engine.getRound roundId
  let s ← Engine.current
  if (s.fixturesOf roundId).all (·.status == .completed) then
    if round.status ≠ .completed then
      Engine.put (s.withRoundStatus round .completed now)
      Engine.say .info .settlement ("Round " ++ round.label ++ " completed")
    let _ ← settlePrizes round now

/-- Record scores of the matches of a round and carry them through the engine, and tell how many
were taken. -/
def updateMatchResults (roundId : Int) (scores : List MatchScore) (now : DateTime) :
    Engine Nat := do
  let round ← Engine.getRound roundId
  let s ← Engine.current
  let recording ← recordScores roundId scores (.start (s.fixturesOf roundId))
  if recording.updated.isEmpty then return 0
  Engine.checkAll recording.numbers
  Engine.put (s.withRecording recording)
  if round.status = .published ∧ recording.anyStarted then startRound round now
  rescoreMatches recording.updated now
  recomputePoints roundId
  if recording.newlyCompleted then
    let _ ← updateStableStats roundId
  let _ ← updateLiveStats roundId
  completeRound roundId now
  return recording.updated.length

end PredictionLeague
