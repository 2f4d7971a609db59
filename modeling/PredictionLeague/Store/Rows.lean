import PredictionLeague.Calendar
import PredictionLeague.Fault
import PredictionLeague.Outcome
import PredictionLeague.Prize.Kind

/-!
# The rows of the store

One structure for each table. Every row has an `id`, and rows refer to each other by id; amounts
of money are whole pennies.

* `Match.record` and `Round.withStatus` are the only changes of state that a match and a round
  know;
* `User.displayName` and `PrizeSetting.title` are the names under which players and prizes are
  shown.
-/

namespace PredictionLeague

/-- A player. -/
structure User where
  id : Int
  email : String
  firstName : String
  lastName : String
  deriving DecidableEq

/-- The first name, with the first letter of the last name when there is one. -/
def User.displayName (u : User) : String :=
  match u.lastName.toList with
  | [] => u.firstName
  | c :: _ => u.firstName ++ " " ++ String.singleton c

/-- A season, the name that it has in messages, and the number of rounds it has. -/
structure Season where
  id : Int
  name : String
  start : DateTime
  finish : DateTime
  roundCount : Int
  deriving DecidableEq

/-- The name of a season that is given none. -/
def Season.defaultName (id : Int) : String := "Season " ++ toString id

/-- A round of a season. Boosts may be used until the deadline. -/
structure Round where
  id : Int
  seasonId : Int
  number : Int
  start : DateTime
  deadline : DateTime
  status : RoundStatus
  completed : Option DateTime
  deriving DecidableEq

/-- Change the state of a round; the time of completion is set when it becomes completed and
cleared when it no longer is. -/
def Round.withStatus (r : Round) (status : RoundStatus) (now : DateTime) : Round :=
  { r with
    status
    completed :=
      if r.status ≠ .completed ∧ status = .completed then some now
      else if r.status = .completed ∧ status ≠ .completed then none
      else r.completed }

/-- A match of a round, with its score once it has kicked off. -/
structure Match where
  id : Int
  roundId : Int
  home : Option Int
  away : Option Int
  status : MatchStatus
  deriving DecidableEq

/-- Record a score and a state; a scheduled match has no score. -/
def Match.record (m : Match) (home away : Int) (status : MatchStatus) : Except Fault Match :=
  if home < 0 ∨ away < 0 then .error .negativeScore
  else if status = .scheduled then .ok { m with home := none, away := none, status }
  else .ok { m with home := some home, away := some away, status }

/-- A predicted score with its verdict. -/
structure Prediction where
  id : Int
  userId : Int
  matchId : Int
  home : Int
  away : Int
  outcome : Outcome
  updated : DateTime
  deriving DecidableEq

/-- The verdict on a prediction of a match. -/
def Prediction.verdict (p : Prediction) (m : Match) : Outcome :=
  Outcome.classify p.home p.away m.status m.home m.away

/-- Judge a prediction again. -/
def Prediction.judged (p : Prediction) (m : Match) (now : DateTime) : Prediction :=
  { p with outcome := p.verdict m, updated := now }

/-- A league of a season, with its own weights of points. -/
structure League where
  id : Int
  seasonId : Int
  entryDeadline : DateTime
  exactWeight : Int
  resultWeight : Int
  price : Int
  deriving DecidableEq

/-- The points for numbers of exact scores and correct results. -/
def League.points (l : League) (exact correct : Int) : Int :=
  exact * l.exactWeight + correct * l.resultWeight

/-- A player in a league. -/
structure Membership where
  id : Int
  leagueId : Int
  userId : Int
  status : MembershipStatus
  deriving DecidableEq

/-- A prize that a league pays. -/
structure PrizeSetting where
  id : Int
  leagueId : Int
  kind : PrizeKind
  rank : Int
  amount : Int
  description : Option String
  deriving DecidableEq

/-- A kind of prize with a rank as it is shown. -/
def PrizeKind.titleAt (kind : PrizeKind) (rank : String) : String :=
  kind.name ++ " (rank " ++ rank ++ ")"

/-- The description, or the kind and rank when there is none. -/
def PrizeSetting.title (s : PrizeSetting) : String :=
  match s.description with
  | none | some "" => s.kind.titleAt (toString s.rank)
  | some description => description

/-- How many predictions of a player in a round were exact, correct and incorrect. -/
structure RoundResult where
  id : Int
  roundId : Int
  userId : Int
  exact : Int
  correct : Int
  incorrect : Int
  deriving DecidableEq

/-- What a member made in a round by the weights of the league, before and after a boost. -/
structure LeagueResult where
  id : Int
  leagueId : Int
  roundId : Int
  userId : Int
  basePoints : Int
  boostedPoints : Int
  hasBoost : Bool
  boostCode : Option String
  exactScores : Int
  deriving DecidableEq

/-- What a league allows of a boost. -/
structure BoostRule where
  id : Int
  leagueId : Int
  boostCode : String
  enabled : Bool
  seasonLimit : Int
  deriving DecidableEq

/-- A window of a rule. -/
structure BoostWindow where
  id : Int
  ruleId : Int
  first : Int
  last : Int
  limit : Int
  deriving DecidableEq

/-- A boost that a member uses in a round. -/
structure BoostUsage where
  id : Int
  userId : Int
  leagueId : Int
  seasonId : Int
  roundId : Int
  boostCode : String
  usedAt : DateTime
  deriving DecidableEq

/-- The figures of a member: ranks over the season and the month; rank and points in the round as
they stand (live) and by completed matches alone (stable); and the ranks from before the round. -/
structure MemberStats where
  id : Int
  leagueId : Int
  userId : Int
  overallRank : Int
  monthRank : Int
  liveRank : Int
  livePoints : Int
  stableRank : Int
  stablePoints : Int
  snapshotOverallRank : Option Int
  snapshotMonthRank : Option Int
  deriving DecidableEq

/-- The figures of a member before anything was counted. -/
def MemberStats.fresh (leagueId userId id : Int) : MemberStats :=
  ⟨id, leagueId, userId, 1, 1, 1, 0, 1, 0, none, none⟩

/-- Money that was paid, for a round, a month or a season. -/
structure Winning where
  id : Int
  userId : Int
  settingId : Int
  amount : Int
  roundNumber : Option Int
  month : Option Int
  awarded : DateTime
  deriving DecidableEq

end PredictionLeague
