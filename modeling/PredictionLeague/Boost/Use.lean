import PredictionLeague.Boost.Eligibility
import PredictionLeague.Engine

/-!
# Using and giving back boosts

A member may use one boost in a round of a league, before the deadline of the round and within
the limits of the league's rule for the boost.

* `Store.usage`: the uses a member has made, as the rule counts them;
* `boostEligibility`: the decision from the present store;
* `applyBoost` records a use, `removeBoost` takes it back.
-/

namespace PredictionLeague

open Boost

/-! ### Questions -/

/-- The rule of a league for a boost. -/
def Store.boostRule? (s : Store) (leagueId : Int) (code : String) : Option BoostRule :=
  s.boostRules.find? fun r => r.leagueId == leagueId && r.boostCode == code

/-- The windows of a rule, by their first rounds. -/
def Store.windowsOf (s : Store) (ruleId : Int) : List Window :=
  (sorted (fun (a b : BoostWindow) => decide (a.first ≤ b.first))
    (s.boostWindows.filter (·.ruleId == ruleId))).map fun w => ⟨w.first, w.last, w.limit⟩

/-- The uses of a boost by a member in a season. -/
def Store.usesInSeason (s : Store) (userId leagueId seasonId : Int) (code : String) :
    List BoostUsage :=
  s.boostUsages.filter fun u =>
    u.userId == userId && u.leagueId == leagueId && u.seasonId == seasonId && u.boostCode == code

/-- Whether a use lies in a round of a window. -/
def Store.inWindow (s : Store) (window : Window) (u : BoostUsage) : Bool :=
  (s.round? u.roundId).any fun round => window.contains round.number

/-- The use that a member makes in a round, of whatever boost. -/
def Store.useInRound? (s : Store) (userId leagueId roundId : Int) : Option BoostUsage :=
  s.boostUsages.find? fun u =>
    u.userId == userId && u.leagueId == leagueId && u.roundId == roundId

/-- The uses that count for a member, a boost and a round. -/
def Store.usage (s : Store) (userId leagueId : Int) (round : Round) (code : String)
    (windows : List Window) : Usage :=
  let uses := s.usesInSeason userId leagueId round.seasonId code
  { seasonUses := uses.length
    windowUses :=
      match findWindow round.number windows with
      | none => 0
      | some window => uses.countP (s.inWindow window)
    usedThisRound := (s.useInRound? userId leagueId round.id).isSome }

namespace Boost

/-- Decide whether a member may use a boost in a round. -/
def boostEligibility (userId leagueId roundId : Int) (code : String) (now : DateTime) :
    Engine Eligibility := do
  let round ← Engine.getRound roundId
  let league ← Engine.getLeague leagueId
  let s ← Engine.current
  if round.deadline.stamp < now.stamp then return .rejected .deadlinePassed
  match s.boostRule? leagueId code with
  | none => return .rejected .notConfigured
  | some rule =>
    Engine.checkKey userId
    let windows := s.windowsOf rule.id
    let result := evaluate rule.enabled rule.seasonLimit
      (s.usage userId leagueId round code windows) round.number windows
      (s.isMember leagueId userId) (league.seasonId == round.seasonId)
    let (inWindow, next) := windowStatus round.number windows
    return { result with inActiveWindow := inWindow, nextWindowStart := next }

/-- The member, league and round of a message. -/
def place (userId leagueId roundId : Int) : String :=
  "for user " ++ toString userId ++ " in league " ++ toString leagueId ++ ", round " ++
    toString roundId

/-- Record a use of a boost, unless the member already has one in the round. -/
def recordUse (userId leagueId : Int) (round : Round) (code : String) (now : DateTime) :
    Engine Bool := do
  let s ← Engine.current
  if (s.useInRound? userId leagueId round.id).isSome then return false
  Engine.put
    { s with
      boostUsages := Table.add s.boostUsages fun id =>
        ⟨id, userId, leagueId, round.seasonId, round.id, code, now⟩ }
  return true

/-- Use a boost if that is allowed. What others commit between the decision and the record is
given by `meanwhile`; a use that they make in the same round comes first. -/
def applyBoostAmid (meanwhile : Engine Unit) (userId leagueId roundId : Int) (code : String)
    (now : DateTime) : Engine Eligibility := do
  let eligibility ← boostEligibility userId leagueId roundId code now
  let place := place userId leagueId roundId
  if !eligibility.canUse then
    Engine.say .info .boosts
      ("Boost " ++ code ++ " refused " ++ place ++ ": " ++ eligibility.reason.getD "None")
    return eligibility
  meanwhile
  let round ← Engine.getRound roundId
  if ← recordUse userId leagueId round code now then
    Engine.say .info .boosts ("Boost " ++ code ++ " applied " ++ place)
    return eligibility
  else
    Engine.say .warning .boosts ("Duplicate boost usage " ++ place)
    return .rejected .alreadyUsedThisRound

/-- Use a boost if that is allowed; the answer is the decision. -/
def applyBoost (userId leagueId roundId : Int) (code : String) (now : DateTime) :
    Engine Eligibility :=
  applyBoostAmid (pure ()) userId leagueId roundId code now

/-- Take back the use that a member makes in a round; the answer is whether there was one and the
deadline has not passed. -/
def removeBoost (userId leagueId roundId : Int) (now : DateTime) : Engine Bool := do
  let round ← Engine.getRound roundId
  let _ ← Engine.getLeague leagueId
  if round.deadline.stamp < now.stamp then return false
  Engine.checkKey userId
  let s ← Engine.current
  match s.useInRound? userId leagueId roundId with
  | none => return false
  | some use =>
    Engine.put { s with boostUsages := Table.erase s.boostUsages use.id }
    Engine.say .info .boosts
      ("Boost " ++ use.boostCode ++ " removed " ++ place userId leagueId roundId)
    return true

end Boost

end PredictionLeague
