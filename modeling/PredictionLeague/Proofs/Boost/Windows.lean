import Mathlib.Order.Bounds.Basic
import PredictionLeague.Proofs.Boost.Decision

/-!
# The windows around a round

A player is shown whether a boost is available in a round and, if it is not, where the next window
begins. The decision looks at the windows on its own; both come to the same result, and the round
that is shown is the first one in which the boost can be available again.

* `Boost.Available`: the boost is available in a round as far as its windows go;
* `Boost.windowStatus_eq_some`, `Boost.windowStatus_eq_none`: when a next window is shown;
* `Boost.first_between`: a window that contains a later round but not this one begins in between;
* `Boost.rejection_iff_not_available`: when the decision refuses a boost for its windows;
* `Boost.windowStatus_agrees`: what is shown, compared with the windows and with the decision.
-/

namespace PredictionLeague.Boost

variable {number next : Int} {windows : List Window} {w : Window}

/-- A boost is available in the rounds that lie in a window, and in all when there are none. -/
def Available (windows : List Window) (number : Int) : Prop :=
  windows = [] ∨ ∃ w ∈ windows, w.contains number = true

/-- The rounds after a given one in which a window begins. -/
def startsAfter (windows : List Window) (number : Int) : Set Int :=
  {n | number < n ∧ ∃ w ∈ windows, w.first = n}

/-- The checks that come before those of the windows are passed. -/
structure Cleared (enabled : Bool) (seasonLimit : Int) (usage : Usage) (isMember inSeason : Bool) :
    Prop where
  season : inSeason = true
  member : isMember = true
  enabled : enabled = true
  usable : 0 < seasonLimit
  unused : usage.usedThisRound = false
  seasonLeft : usage.seasonUses < seasonLimit

theorem Window.contains_eq_false :
    w.contains number = false ↔ number < w.first ∨ w.last < number := by
  rw [← Bool.not_eq_true, contains_iff]
  omega

/-! ### What is shown -/

theorem available_iff_find : Available windows number ↔
    (windows.isEmpty || (findWindow number windows).isSome) = true := by
  rw [Available, Bool.or_eq_true, List.isEmpty_iff, findWindow, List.find?_isSome]

theorem windowStatus_of_available (h : Available windows number) :
    windowStatus number windows = (true, none) :=
  if_pos (available_iff_find.1 h)

theorem windowStatus_of_not_available (h : ¬Available windows number) :
    windowStatus number windows =
      (false, ((windows.map (·.first)).filter (number < ·)).min?) :=
  if_neg (mt available_iff_find.2 h)

/-- A boost is shown as available exactly when it is. -/
theorem windowStatus_fst : (windowStatus number windows).1 = true ↔ Available windows number := by
  by_cases h : Available windows number
  · simp [windowStatus_of_available h, h]
  · simp [windowStatus_of_not_available h, h]

/-- The starts among which the next one is looked for. -/
theorem mem_starts {n : Int} : n ∈ (windows.map (·.first)).filter (number < ·) ↔
    n ∈ startsAfter windows number := by
  simp only [List.mem_filter, List.mem_map, decide_eq_true_eq, startsAfter, Set.mem_ofPred_eq]
  exact and_comm

/-- A next window is shown when the boost is not available and a window begins later: the first
such start. -/
theorem windowStatus_eq_some : windowStatus number windows = (false, some next) ↔
    ¬Available windows number ∧ IsLeast (startsAfter windows number) next := by
  by_cases h : Available windows number
  · simp [windowStatus_of_available h, h]
  · rw [windowStatus_of_not_available h, Prod.mk.injEq, and_iff_right rfl, and_iff_right h,
      List.min?_eq_some_iff, mem_starts]
    simp only [mem_starts]
    exact Iff.rfl

/-- No next window is shown when the boost is not available and none begins later. -/
theorem windowStatus_eq_none : windowStatus number windows = (false, none) ↔
    ¬Available windows number ∧ ∀ w ∈ windows, w.first ≤ number := by
  by_cases h : Available windows number
  · simp [windowStatus_of_available h, h]
  · rw [windowStatus_of_not_available h, Prod.mk.injEq, and_iff_right rfl, and_iff_right h,
      List.min?_eq_none_iff, List.filter_eq_nil_iff]
    simp

/-! ### The rounds in between -/

theorem not_contains_of_not_available (h : ¬Available windows number) (hw : w ∈ windows) :
    w.contains number = false :=
  Bool.eq_false_of_not_eq_true fun hin => h (.inr ⟨w, hw, hin⟩)

/-- A window that contains a later round but not this one begins in between: it has not ended before
this round, since it reaches the later one. -/
theorem first_between {n : Int} (hout : w.contains number = false) (hlater : number < n)
    (hin : w.contains n = true) : number < w.first ∧ w.first ≤ n := by
  rw [Window.contains_eq_false] at hout
  rw [Window.contains_iff] at hin
  omega

/-- The boost is not available in the rounds before the next start. -/
theorem not_contains_before {n : Int} (h : ¬Available windows number)
    (hnext : IsLeast (startsAfter windows number) next) (hlater : number < n) (hbefore : n < next)
    (hw : w ∈ windows) : w.contains n = false := by
  by_contra hin
  obtain ⟨hstart, hle⟩ := first_between (not_contains_of_not_available h hw) hlater
    (Bool.eq_true_of_not_eq_false hin)
  have hleast : next ≤ w.first := hnext.2 ⟨hstart, w, hw, rfl⟩
  omega

/-- Without a later start it is not available in any later round. -/
theorem not_contains_after {n : Int} (h : ¬Available windows number)
    (hnone : ∀ w ∈ windows, w.first ≤ number) (hlater : number < n) (hw : w ∈ windows) :
    w.contains n = false := by
  by_contra hin
  obtain ⟨hstart, -⟩ := first_between (not_contains_of_not_available h hw) hlater
    (Bool.eq_true_of_not_eq_false hin)
  have hearly := hnone w hw
  omega

/-- At the next start it is available, unless the window ends before it begins. -/
theorem exists_contains_next (hnext : IsLeast (startsAfter windows number) next)
    (hspans : ∀ w ∈ windows, w.first ≤ w.last) : ∃ w ∈ windows, w.contains next = true := by
  obtain ⟨-, w, hw, rfl⟩ := hnext.1
  exact ⟨w, hw, Window.contains_iff.2 ⟨le_rfl, hspans w hw⟩⟩

/-! ### What is decided -/

/-- Once the checks before are passed, a boost is refused as not available exactly when it is
not. -/
theorem rejection_iff_not_available {enabled : Bool} {seasonLimit : Int} {usage : Usage}
    {isMember inSeason : Bool} (h : Cleared enabled seasonLimit usage isMember inSeason) :
    (evaluate enabled seasonLimit usage number windows isMember inSeason).rejection =
      some .notAvailableThisRound ↔ ¬Available windows number := by
  obtain ⟨rfl, rfl, rfl, husable, hunused, hleft⟩ := h
  rw [available_iff_find, rejection_evaluate]
  simp only [hunused, decide_eq_false (Int.not_le.2 husable), decide_eq_false (Int.not_le.2 hleft)]
  cases hempty : windows.isEmpty with
  | true =>
    obtain rfl := List.isEmpty_iff.1 hempty
    simp [findWindow]
  | false =>
    cases hfind : findWindow number windows with
    | none => simp
    | some w =>
      -- Only the two checks on the uses in the window are left, and they have reasons of their own.
      by_cases hlimit : w.limit ≤ 0 <;> by_cases huses : w.limit ≤ usage.windowUses <;>
        simp [hlimit, huses]

/-- A boost is shown as available in a round exactly when there are no windows or one contains the
round, which is exactly when the decision, once the checks before are passed, does not refuse it as
not available. A next window that is shown begins at the first start after the round; the boost is
not available before it, and it is there unless a window ends before it begins. When no next window
is shown the boost is not available in any later round. -/
theorem windowStatus_agrees (number : Int) (windows : List Window) :
    ((windowStatus number windows).1 = true ↔ Available windows number) ∧
    (∀ enabled seasonLimit usage isMember inSeason,
      Cleared enabled seasonLimit usage isMember inSeason →
        ((windowStatus number windows).1 = true ↔
          (evaluate enabled seasonLimit usage number windows isMember inSeason).rejection ≠
            some .notAvailableThisRound)) ∧
    (∀ next, windowStatus number windows = (false, some next) →
      IsLeast (startsAfter windows number) next ∧
      (∀ n, number < n → n < next → ∀ w ∈ windows, w.contains n = false) ∧
      ((∀ w ∈ windows, w.first ≤ w.last) → ∃ w ∈ windows, w.contains next = true)) ∧
    (windowStatus number windows = (false, none) →
      ∀ n, number < n → ∀ w ∈ windows, w.contains n = false) := by
  refine ⟨windowStatus_fst, ?_, ?_, ?_⟩
  · intro enabled seasonLimit usage isMember inSeason hcleared
    rw [windowStatus_fst, ne_eq, rejection_iff_not_available hcleared, not_not]
  · intro next hshown
    obtain ⟨hnot, hnext⟩ := windowStatus_eq_some.1 hshown
    exact ⟨hnext, fun n hlater hbefore w hw => not_contains_before hnot hnext hlater hbefore hw,
      exists_contains_next hnext⟩
  · intro hshown n hlater w hw
    obtain ⟨hnot, hnone⟩ := windowStatus_eq_none.1 hshown
    exact not_contains_after hnot hnone hlater hw

/-- Three windows in no order, two of which overlap. -/
def threeWindows : List Window := [⟨6, 8, 1⟩, ⟨1, 2, 1⟩, ⟨5, 6, 2⟩]

/-- In the third round the fifth is shown, in the ninth no round; both times the boost is
refused. -/
theorem three_windows_agree :
    Cleared true 2 ⟨1, 0, false⟩ true true ∧ (∀ w ∈ threeWindows, w.first ≤ w.last) ∧
      windowStatus 3 threeWindows = (false, some 5) ∧
      (evaluate true 2 ⟨1, 0, false⟩ 3 threeWindows true true).rejection =
        some .notAvailableThisRound ∧
      (∀ w ∈ threeWindows, w.contains 4 = false) ∧ (∃ w ∈ threeWindows, w.contains 5 = true) ∧
      windowStatus 9 threeWindows = (false, none) ∧
      ∀ n, 9 < n → ∀ w ∈ threeWindows, w.contains n = false := by
  have hcleared : Cleared true 2 ⟨1, 0, false⟩ true true :=
    ⟨rfl, rfl, rfl, by decide, rfl, by decide⟩
  have hspans : ∀ w ∈ threeWindows, w.first ≤ w.last := by decide
  have hthird : windowStatus 3 threeWindows = (false, some 5) := by decide
  have hninth : windowStatus 9 threeWindows = (false, none) := by decide
  obtain ⟨-, hdecided, hnext, -⟩ := windowStatus_agrees 3 threeWindows
  obtain ⟨-, hbetween, hstart⟩ := hnext 5 hthird
  obtain ⟨-, -, -, hlater⟩ := windowStatus_agrees 9 threeWindows
  refine ⟨hcleared, hspans, hthird, ?_, hbetween 4 (by decide) (by decide), hstart hspans, hninth,
    hlater hninth⟩
  by_contra hnot
  have hshown := (hdecided _ _ _ _ _ hcleared).2 hnot
  rw [hthird] at hshown
  exact Bool.false_ne_true hshown

end PredictionLeague.Boost
