/-!
# Who may use a boost

A boost may be used a limited number of times in a season, and, when the league has windows, a
limited number of times in each. `evaluate` decides from the uses made so far; the checks run in
a fixed order and the first that fails gives the reason.

* `findWindow`: the first window that contains a round;
* `windowStatus`: whether a round lies in a window, and where the next one begins;
* `evaluate`: the decision.
-/

namespace PredictionLeague.Boost

/-- Why a boost is refused. -/
inductive Rejection
  | roundNotInSeason
  | notAMember
  | notEnabled
  | notUsable
  | alreadyUsedThisRound
  | seasonLimitReached
  | notAvailableThisRound
  | windowDisabled
  | windowLimitReached
  | deadlinePassed
  | notConfigured
  deriving DecidableEq

namespace Rejection

/-- The name of a reason. -/
def name : Rejection → String
  | roundNotInSeason => "RoundNotInSeason"
  | notAMember => "NotAMember"
  | notEnabled => "NotEnabled"
  | notUsable => "NotUsable"
  | alreadyUsedThisRound => "AlreadyUsedThisRound"
  | seasonLimitReached => "SeasonLimitReached"
  | notAvailableThisRound => "NotAvailableThisRound"
  | windowDisabled => "WindowDisabled"
  | windowLimitReached => "WindowLimitReached"
  | deadlinePassed => "DeadlinePassed"
  | notConfigured => "NotConfigured"

/-- The wording of a reason. -/
def message : Rejection → String
  | roundNotInSeason => "Round does not belong to this league's season."
  | notAMember => "User is not a member of this league."
  | notEnabled => "Boost is not enabled for this league."
  | notUsable => "Boost cannot be used in this league."
  | alreadyUsedThisRound => "Boost already used for this league and round."
  | seasonLimitReached => "Season limit reached for this boost in this league."
  | notAvailableThisRound => "Boost is not available for this round."
  | windowDisabled => "Boost cannot be used in this window."
  | windowLimitReached => "Window limit reached for this boost in this league."
  | deadlinePassed => "Cannot apply boost after round deadline has passed."
  | notConfigured => "Boost is not available in this league."

end Rejection

/-- A range of round numbers in which a boost may be used a limited number of times. -/
structure Window where
  first : Int
  last : Int
  limit : Int
  deriving DecidableEq

/-- Whether a window contains a round number. -/
def Window.contains (w : Window) (roundNumber : Int) : Bool :=
  w.first ≤ roundNumber && roundNumber ≤ w.last

/-- How often a member has used a boost: in the season, in the window of the round, and whether
any boost is used in the round. -/
structure Usage where
  seasonUses : Int
  windowUses : Int
  usedThisRound : Bool
  deriving DecidableEq

/-- Whether a boost may be used, and what is left of it. -/
structure Eligibility where
  canUse : Bool
  rejection : Option Rejection
  remainingSeasonUses : Int
  remainingWindowUses : Int
  alreadyUsedThisRound : Bool
  inActiveWindow : Bool
  nextWindowStart : Option Int
  deriving DecidableEq

namespace Eligibility

/-- The boost may be used, with the given uses left. -/
def allowed (seasonUses windowUses : Int) : Eligibility :=
  ⟨true, none, seasonUses, windowUses, false, true, none⟩

/-- The boost is refused. -/
def rejected (r : Rejection) : Eligibility :=
  ⟨false, some r, 0, 0, r == .alreadyUsedThisRound, true, none⟩

/-- The wording of a refusal. -/
def reason (e : Eligibility) : Option String := e.rejection.map Rejection.message

end Eligibility

/-- The first window that contains a round. -/
def findWindow (roundNumber : Int) (windows : List Window) : Option Window :=
  windows.find? (·.contains roundNumber)

/-- Decide whether a boost may be used. -/
def evaluate (enabled : Bool) (seasonLimit : Int) (usage : Usage) (roundNumber : Int)
    (windows : List Window) (isMember inSeason : Bool) : Eligibility :=
  if !inSeason then .rejected .roundNotInSeason
  else if !isMember then .rejected .notAMember
  else if !enabled then .rejected .notEnabled
  else if seasonLimit ≤ 0 then .rejected .notUsable
  else if usage.usedThisRound then .rejected .alreadyUsedThisRound
  else if seasonLimit ≤ usage.seasonUses then .rejected .seasonLimitReached
  else
    let remaining := max 0 (seasonLimit - usage.seasonUses)
    if windows.isEmpty then .allowed remaining remaining
    else match findWindow roundNumber windows with
      | none => .rejected .notAvailableThisRound
      | some window =>
        if window.limit ≤ 0 then .rejected .windowDisabled
        else if window.limit ≤ usage.windowUses then .rejected .windowLimitReached
        else .allowed remaining (window.limit - usage.windowUses)

/-- Whether a round lies in a window (it does when there are none), and if not, the first round
of the next window. -/
def windowStatus (roundNumber : Int) (windows : List Window) : Bool × Option Int :=
  if windows.isEmpty || (findWindow roundNumber windows).isSome then (true, none)
  else (false, ((windows.map (·.first)).filter (roundNumber < ·)).min?)

end PredictionLeague.Boost
