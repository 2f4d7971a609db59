import PredictionLeague.Proofs.Strict

/-!
# The decision on a boost

Whether a member may use a boost in a round, said by what the store holds: the first of the checks
that fails gives the reason, and when none fails there is something left of the boost. A call to use
it records one use then, and nothing otherwise.

* `Store.firstWindow?`: the window of a round, the first by start among those that contain it;
* `Boost.checks`: the checks in their order, and `Boost.MayUse`: none of them fails;
* `Boost.Decided`: the decision that follows from the checks;
* `Boost.effect_boostEligibility`, `Boost.effect_applyBoost`: what the two calls do;
* `Boost.boostEligibility_decides`: both calls give this decision.
-/

namespace PredictionLeague

open Boost Engine

/-! ### The first by a key -/

section Find

variable {α : Type} {f : α → Int} {p : α → Bool}

/-- In a list in order, what is found once an element is inserted. -/
theorem find?_insertSorted (x : α) {ys : List α} (h : ys.Pairwise fun a b => f a ≤ f b) :
    (insertSorted (fun a b => decide (f a ≤ f b)) x ys).find? p =
      if p x then some ((ys.find? p).elim x (minOn f x)) else ys.find? p := by
  induction ys with
  | nil => simp [insertSorted]
  | cons y ys ih =>
    obtain ⟨hy, hys⟩ := List.pairwise_cons.1 h
    rw [insertSorted]
    by_cases hle : f x ≤ f y
    · -- The element comes first, and nothing behind it is below it.
      rw [if_pos (decide_eq_true hle), List.find?_cons]
      cases hx : p x with
      | false => rfl
      | true =>
        cases hfind : (y :: ys).find? p with
        | none => rfl
        | some z =>
          have hz : f x ≤ f z := by
            rcases List.mem_cons.1 (List.mem_of_find?_eq_some hfind) with rfl | hz
            · exact hle
            · exact hle.trans (hy z hz)
          simp [minOn_eq_left hz]
    · rw [if_neg (by simpa using hle), List.find?_cons, List.find?_cons, ih hys]
      cases hp : p y with
      | false => rfl
      | true => simp [minOn_eq_right hle]

/-- The first match in a sorted list is the first one with the smallest key. -/
theorem find?_sorted (f : α → Int) (p : α → Bool) (xs : List α) :
    (sorted (fun a b => decide (f a ≤ f b)) xs).find? p = (xs.filter p).minOn? f := by
  induction xs with
  | nil => rfl
  | cons x xs ih =>
    have hordered : (sorted (fun a b => decide (f a ≤ f b)) xs).Pairwise fun a b => f a ≤ f b :=
      (pairwise_sorted (fun a b => by simpa using Int.le_total (f a) (f b))
        (fun a b c hab hbc => by
          simp only [decide_eq_true_eq] at hab hbc ⊢
          omega) xs).imp fun hle => by simpa using hle
    rw [sorted, find?_insertSorted x hordered, ih]
    cases hp : p x with
    | false => rw [List.filter_cons_of_neg (by simp [hp])]; rfl
    | true =>
      rw [List.filter_cons_of_pos hp, List.minOn?_cons]
      rfl

end Find

namespace Store

/-- The first window of a rule by its start that contains a round number; among windows with the
same start the one that was made first. -/
def firstWindow? (s : Store) (ruleId number : Int) : Option BoostWindow :=
  ((s.windowRows ruleId).filter fun w => w.first ≤ number && number ≤ w.last).minOn?
    BoostWindow.first

/-- How often a member has used a boost in the rounds of a season that lie in a window. -/
def windowUses (s : Store) (userId leagueId seasonId : Int) (code : String) (w : BoostWindow) :
    Nat :=
  (s.usesInSeason userId leagueId seasonId code).countP (s.inWindow w.span)

theorem findWindow_windowsOf (s : Store) (ruleId number : Int) :
    findWindow number (s.windowsOf ruleId) =
      (s.firstWindow? ruleId number).map BoostWindow.span := by
  have hrows : s.windowsOf ruleId =
      (sorted (fun a b => decide (a.first ≤ b.first)) (s.windowRows ruleId)).map
        BoostWindow.span := rfl
  rw [findWindow, hrows, List.find?_map, find?_sorted BoostWindow.first]
  rfl

end Store

namespace Boost

/-! ### The checks -/

section Checks

variable (s : Store) (userId : Int) (league : League) (round : Round) (code : String)
  (now : DateTime)

/-- The checks on the use of a boost in a round in their order, each with whether it fails. -/
def checks : List (Rejection × Bool) :=
  let rule? := s.boostRule? league.id code
  let window? := rule?.bind fun rule => s.firstWindow? rule.id round.number
  let uses : Int := (s.usesInSeason userId league.id round.seasonId code).length
  [(.deadlinePassed, round.deadline.stamp < now.stamp),
    (.notConfigured, rule?.isNone),
    (.roundNotInSeason, league.seasonId != round.seasonId),
    (.notAMember, !s.isMember league.id userId),
    (.notEnabled, rule?.any fun rule => !rule.enabled),
    (.notUsable, rule?.any fun rule => rule.seasonLimit ≤ 0),
    (.alreadyUsedThisRound, s.boostUsages.any fun u =>
      u.userId == userId && u.leagueId == league.id && u.roundId == round.id),
    (.seasonLimitReached, rule?.any fun rule => rule.seasonLimit ≤ uses),
    (.notAvailableThisRound, rule?.any fun rule =>
      !(s.windowRows rule.id).isEmpty && window?.isNone),
    (.windowDisabled, window?.any fun w => w.limit ≤ 0),
    (.windowLimitReached, window?.any fun w =>
      w.limit ≤ s.windowUses userId league.id round.seasonId code w)]

/-- A member may use a boost in a round by a rule of its league. -/
structure MayUse (rule : BoostRule) : Prop where
  inTime : now.stamp ≤ round.deadline.stamp
  rule_eq : s.boostRule? league.id code = some rule
  season_eq : league.seasonId = round.seasonId
  member : s.isMember league.id userId = true
  enabled : rule.enabled = true
  usable : 0 < rule.seasonLimit
  /-- No boost is used in the round. -/
  unused : ∀ u ∈ s.boostUsages, u.userId = userId → u.leagueId = league.id → u.roundId ≠ round.id
  seasonLeft : ((s.usesInSeason userId league.id round.seasonId code).length : Int) <
    rule.seasonLimit
  windowLeft : s.windowRows rule.id = [] ∨ ∃ w, s.firstWindow? rule.id round.number = some w ∧
    0 < w.limit ∧ (s.windowUses userId league.id round.seasonId code w : Int) < w.limit

/-- The decision on the use of a boost in a round. -/
structure Decided (e : Eligibility) : Prop where
  canUse : e.canUse = true ↔ ∃ rule, MayUse s userId league round code now rule
  /-- What is left, in the season and in the window of the round. -/
  left : ∀ rule, MayUse s userId league round code now rule →
    e.remainingSeasonUses =
        rule.seasonLimit - (s.usesInSeason userId league.id round.seasonId code).length ∧
      (s.windowRows rule.id = [] → e.remainingWindowUses = e.remainingSeasonUses) ∧
      (∀ w, s.firstWindow? rule.id round.number = some w → e.remainingWindowUses =
        w.limit - s.windowUses userId league.id round.seasonId code w) ∧
      1 ≤ e.remainingSeasonUses ∧ 1 ≤ e.remainingWindowUses
  /-- Nothing is left of a boost that is refused. -/
  refused : e.canUse = false → e.remainingSeasonUses = 0 ∧ e.remainingWindowUses = 0
  /-- The reason is the first check that fails. -/
  rejection : e.rejection = ((checks s userId league round code now).find? (·.2)).map (·.1)
  used : e.alreadyUsedThisRound = true ↔ e.rejection = some .alreadyUsedThisRound

end Checks

/-! ### The evaluation -/

section Evaluate

variable {enabled : Bool} {seasonLimit : Int} {usage : Usage} {number : Int}
  {windows : List Window} {isMember inSeason : Bool}

/-- A decision refuses a boost with nothing left, or allows it. -/
theorem evaluate_cases (enabled : Bool) (seasonLimit : Int) (usage : Usage) (number : Int)
    (windows : List Window) (isMember inSeason : Bool) :
    (∃ r, evaluate enabled seasonLimit usage number windows isMember inSeason = .rejected r) ∨
      ∃ seasonUses windowUses, evaluate enabled seasonLimit usage number windows isMember inSeason =
        .allowed seasonUses windowUses := by
  fun_cases evaluate enabled seasonLimit usage number windows isMember inSeason <;>
    first
    | exact .inl ⟨_, rfl⟩
    | exact .inr ⟨_, _, rfl⟩

/-- The reason is the first of the checks that fails. -/
theorem rejection_evaluate :
    (evaluate enabled seasonLimit usage number windows isMember inSeason).rejection =
      ([(Rejection.roundNotInSeason, !inSeason), (.notAMember, !isMember),
        (.notEnabled, !enabled), (.notUsable, decide (seasonLimit ≤ 0)),
        (.alreadyUsedThisRound, usage.usedThisRound),
        (.seasonLimitReached, decide (seasonLimit ≤ usage.seasonUses)),
        (.notAvailableThisRound, !windows.isEmpty && (findWindow number windows).isNone),
        (.windowDisabled, (findWindow number windows).any fun w => decide (w.limit ≤ 0)),
        (.windowLimitReached, (findWindow number windows).any fun w =>
          decide (w.limit ≤ usage.windowUses))].find? (·.2)).map (·.1) := by
  have hnone : findWindow number [] = none := rfl
  fun_cases evaluate enabled seasonLimit usage number windows isMember inSeason <;>
    simp_all [Eligibility.rejected, Eligibility.allowed]

/-- What is left of a boost that is allowed. -/
theorem left_evaluate
    (h : (evaluate enabled seasonLimit usage number windows isMember inSeason).canUse = true) :
    (evaluate enabled seasonLimit usage number windows isMember inSeason).remainingSeasonUses =
        seasonLimit - usage.seasonUses ∧
      (evaluate enabled seasonLimit usage number windows isMember inSeason).remainingWindowUses =
        match findWindow number windows with
        | none => seasonLimit - usage.seasonUses
        | some window => window.limit - usage.windowUses := by
  obtain ⟨hseason, hmember, henabled, hlimit, hused, huses, hwindow⟩ := canUse_evaluate.1 h
  have hmax : max 0 (seasonLimit - usage.seasonUses) = seasonLimit - usage.seasonUses := by omega
  rw [evaluate, if_neg (by simp [hseason]), if_neg (by simp [hmember]),
    if_neg (by simp [henabled]), if_neg (by omega), if_neg (by simp [hused]), if_neg (by omega)]
  dsimp only
  rw [hmax]
  rcases hwindow with rfl | ⟨window, hfind, hpositive, hleft⟩
  · exact ⟨rfl, rfl⟩
  · have hsome : windows.isEmpty = false := by
      rw [List.isEmpty_eq_false_iff]
      rintro rfl
      exact absurd hfind (by simp [findWindow])
    rw [hsome, hfind]
    simp only [Bool.false_eq_true, if_false, if_neg (Int.not_le.2 hpositive),
      if_neg (Int.not_le.2 hleft)]
    exact ⟨rfl, rfl⟩

end Evaluate

/-! ### The two calls -/

section Calls

variable {s : Store} {userId leagueId roundId : Int} {code : String} {now : DateTime}
  {round : Round} {league : League} {rule : BoostRule}

/-- The decision once a rule is found. -/
def ruled (s : Store) (userId : Int) (league : League) (round : Round) (code : String)
    (rule : BoostRule) : Eligibility :=
  let windows := s.windowsOf rule.id
  { evaluate rule.enabled rule.seasonLimit (s.usage userId league.id round code windows)
      round.number windows (s.isMember league.id userId) (league.seasonId == round.seasonId) with
    inActiveWindow := (windowStatus round.number windows).1
    nextWindowStart := (windowStatus round.number windows).2 }

/-- The answer of the decision; an id that no player can have is refused once a rule is found. -/
def answer (s : Store) (userId : Int) (league : League) (round : Round) (code : String)
    (now : DateTime) : Except Fault Eligibility :=
  if round.deadline.stamp < now.stamp then .ok (.rejected .deadlinePassed)
  else match s.boostRule? league.id code with
    | none => .ok (.rejected .notConfigured)
    | some rule =>
      if fits userId then .ok (ruled s userId league round code rule) else .error .integerTooLarge

section Effect

variable (hround : fits roundId = true ∧ s.round? roundId = some round)
  (hleague : fits leagueId = true ∧ s.league? leagueId = some league)

include hround hleague

theorem effect_boostEligibility : (boostEligibility userId leagueId roundId code now).effect s =
    (answer s userId league round code now, s) := by
  obtain rfl : league.id = leagueId := Table.id_of_get? hleague.2
  have houtcome : (boostEligibility userId league.id roundId code now).outcome ⟨s, []⟩ =
      (answer s userId league round code now, ⟨s, []⟩) := by
    have hcurrent : outcome current ⟨s, []⟩ = (.ok s, ⟨s, []⟩) := rfl
    unfold boostEligibility
    rw [outcome_bind, outcome_getRound, found_eq_ok.2 hround]
    dsimp only
    rw [outcome_bind, outcome_getLeague, found_eq_ok.2 hleague]
    dsimp only
    rw [outcome_bind, hcurrent, answer]
    dsimp only
    split
    · rfl
    · cases s.boostRule? league.id code with
      | none => rfl
      | some rule =>
        dsimp only
        rw [outcome_bind, outcome_checkKey]
        cases fits userId <;> rfl
  rw [effect_eq, houtcome]

/-- A call to use a boost ends like the decision; a boost that is allowed gets one use. -/
theorem effect_applyBoost : (applyBoost userId leagueId roundId code now).effect s =
    (answer s userId league round code now,
      match answer s userId league round code now with
      | .ok e => if e.canUse then s.withUse userId leagueId round code now else s
      | .error _ => s) := by
  have hdecided : (boostEligibility userId leagueId roundId code now).effect s =
      (answer s userId league round code now, s) := effect_boostEligibility hround hleague
  unfold applyBoost applyBoostAmid
  rw [effect_bind, hdecided]
  cases hanswer : answer s userId league round code now with
  | error fault => rfl
  | ok e =>
    cases hcan : e.canUse with
    | false =>
      simp only [hcan, Bool.not_false, if_true]
      rfl
    | true =>
      rw [hanswer] at hdecided
      obtain ⟨round', league', rule, hround', rfl, hgranted⟩ := granted_of_eligible hdecided hcan
      obtain rfl : round = round' := Option.some.inj (hround.2.symm.trans hround'.2)
      simp only [hcan, Bool.not_true, Bool.false_eq_true, if_false, if_true]
      rw [effect_bind, effect_pure]
      dsimp only
      rw [effect_bind, effect_getRound, found_eq_ok.2 hround]
      dsimp only
      rw [effect_bind, effect_recordUse hgranted.unused]
      rfl

end Effect

/-! ### The decision follows from the checks -/

theorem useInRound?_isSome : (s.useInRound? userId league.id round.id).isSome =
    s.boostUsages.any fun u =>
      u.userId == userId && u.leagueId == league.id && u.roundId == round.id := by
  rw [Store.useInRound?, List.isSome_find?]

theorem unused_iff : (s.useInRound? userId league.id round.id).isSome = false ↔
    ∀ u ∈ s.boostUsages, u.userId = userId → u.leagueId = league.id → u.roundId ≠ round.id := by
  rw [useInRound?_isSome, List.any_eq_false]
  simp only [Bool.and_eq_true, beq_iff_eq, not_and, and_imp, ne_eq]

/-- The uses that are counted in the window of a round. -/
theorem windowUses_usage {w : BoostWindow}
    (h : s.firstWindow? rule.id round.number = some w) :
    (s.usage userId league.id round code (s.windowsOf rule.id)).windowUses =
      s.windowUses userId league.id round.seasonId code w := by
  have hfind : findWindow round.number (s.windowsOf rule.id) = some w.span := by
    rw [s.findWindow_windowsOf, h, Option.map_some]
  simp only [Store.usage, hfind]
  rfl

/-- The evaluation allows a boost when its checks and those before it are passed. -/
theorem canUse_ruled (hlate : ¬round.deadline.stamp < now.stamp)
    (hrule : s.boostRule? league.id code = some rule) :
    (ruled s userId league round code rule).canUse = true ↔
      MayUse s userId league round code now rule := by
  have hevaluate : (ruled s userId league round code rule).canUse = true ↔ _ := canUse_evaluate
  have hwindow : (s.windowsOf rule.id = [] ∨ ∃ window,
      findWindow round.number (s.windowsOf rule.id) = some window ∧ 0 < window.limit ∧
        (s.usage userId league.id round code (s.windowsOf rule.id)).windowUses < window.limit) ↔
      (s.windowRows rule.id = [] ∨ ∃ w, s.firstWindow? rule.id round.number = some w ∧
        0 < w.limit ∧ (s.windowUses userId league.id round.seasonId code w : Int) < w.limit) := by
    rw [Store.windowsOf_eq_nil, s.findWindow_windowsOf]
    refine or_congr_right ⟨?_, ?_⟩
    · rintro ⟨window, hfind, hpositive, hleft⟩
      obtain ⟨w, hw, rfl⟩ := Option.map_eq_some_iff.1 hfind
      rw [windowUses_usage hw] at hleft
      exact ⟨w, hw, hpositive, hleft⟩
    · rintro ⟨w, hw, hpositive, hleft⟩
      rw [← windowUses_usage hw] at hleft
      exact ⟨w.span, by rw [hw, Option.map_some], hpositive, hleft⟩
  rw [hevaluate, hwindow]
  constructor
  · rintro ⟨hseason, hmember, henabled, hlimit, hused, hleft, hwindow⟩
    exact ⟨not_lt.1 hlate, hrule, beq_iff_eq.1 hseason, hmember, henabled, hlimit,
      unused_iff.1 hused, hleft, hwindow⟩
  · intro h
    exact ⟨beq_iff_eq.2 h.season_eq, h.member, h.enabled, h.usable, unused_iff.2 h.unused,
      h.seasonLeft, h.windowLeft⟩

/-- Nobody may use a boost too late or without a rule. -/
theorem not_mayUse (h : round.deadline.stamp < now.stamp ∨ s.boostRule? league.id code = none) :
    ¬∃ rule, MayUse s userId league round code now rule := by
  rintro ⟨rule, hmay⟩
  rcases h with hlate | hnone
  · exact absurd hlate (not_lt.2 hmay.inTime)
  · exact absurd (hnone.symm.trans hmay.rule_eq) (by simp)

/-- A check that fails first refuses a boost that nobody may use. -/
theorem decided_rejected {r : Rejection}
    (hnot : ¬∃ rule, MayUse s userId league round code now rule)
    (hfirst : ((checks s userId league round code now).find? (·.2)).map (·.1) = some r) :
    Decided s userId league round code now (.rejected r) where
  canUse := iff_of_false Bool.false_ne_true hnot
  left rule hmay := absurd ⟨rule, hmay⟩ hnot
  refused _ := ⟨rfl, rfl⟩
  rejection := hfirst.symm
  used := by
    rw [Eligibility.rejected, Option.some.injEq]
    exact beq_iff_eq

/-- The checks with a rule in time are those of the evaluation. -/
theorem rejection_ruled (hlate : ¬round.deadline.stamp < now.stamp)
    (hrule : s.boostRule? league.id code = some rule) :
    (ruled s userId league round code rule).rejection =
      ((checks s userId league round code now).find? (·.2)).map (·.1) := by
  have hevaluate : (ruled s userId league round code rule).rejection = _ := rejection_evaluate
  have hempty : (s.windowsOf rule.id).isEmpty = (s.windowRows rule.id).isEmpty := by
    rw [Bool.eq_iff_iff, List.isEmpty_iff, List.isEmpty_iff, Store.windowsOf_eq_nil]
  have hchecks : (checks s userId league round code now).find? (·.2) =
      [(Rejection.roundNotInSeason, !(league.seasonId == round.seasonId)),
        (.notAMember, !s.isMember league.id userId), (.notEnabled, !rule.enabled),
        (.notUsable, decide (rule.seasonLimit ≤ 0)),
        (.alreadyUsedThisRound, (s.useInRound? userId league.id round.id).isSome),
        (.seasonLimitReached, decide (rule.seasonLimit ≤
          (s.usesInSeason userId league.id round.seasonId code).length)),
        (.notAvailableThisRound, !(s.windowRows rule.id).isEmpty &&
          (s.firstWindow? rule.id round.number).isNone),
        (.windowDisabled, (s.firstWindow? rule.id round.number).any fun w =>
          decide (w.limit ≤ 0)),
        (.windowLimitReached, (s.firstWindow? rule.id round.number).any fun w => decide
          (w.limit ≤ s.windowUses userId league.id round.seasonId code w))].find? (·.2) := by
    rw [checks, hrule, decide_eq_false hlate, useInRound?_isSome]
    rfl
  rw [hevaluate, hchecks, hempty, s.findWindow_windowsOf]
  cases hfirst : s.firstWindow? rule.id round.number with
  | none => rfl
  | some w =>
    rw [windowUses_usage hfirst]
    rfl

/-- With a rule in time the decision follows from the checks. -/
theorem decided_ruled (hlate : ¬round.deadline.stamp < now.stamp)
    (hrule : s.boostRule? league.id code = some rule) :
    Decided s userId league round code now (ruled s userId league round code rule) where
  canUse := by
    rw [canUse_ruled hlate hrule]
    constructor
    · exact fun hmay => ⟨rule, hmay⟩
    · rintro ⟨rule', hmay⟩
      obtain rfl : rule = rule' := Option.some.inj (hrule.symm.trans hmay.rule_eq)
      exact hmay
  left rule' hmay := by
    obtain rfl : rule = rule' := Option.some.inj (hrule.symm.trans hmay.rule_eq)
    obtain ⟨hseason, hwindow⟩ := left_evaluate ((canUse_ruled hlate hrule).2 hmay)
    have hseasonLeft := hmay.seasonLeft
    have hleft : 1 ≤ rule.seasonLimit -
        (s.usesInSeason userId league.id round.seasonId code).length := by omega
    rw [s.findWindow_windowsOf] at hwindow
    have hsame : (ruled s userId league round code rule).remainingSeasonUses = _ := hseason
    have hnone : s.windowRows rule.id = [] →
        (ruled s userId league round code rule).remainingWindowUses =
          (ruled s userId league round code rule).remainingSeasonUses := by
      intro hempty
      have hfirst : s.firstWindow? rule.id round.number = none := by
        rw [Store.firstWindow?, hempty]
        rfl
      rw [hfirst] at hwindow
      exact hwindow.trans hseason.symm
    have hsome : ∀ w, s.firstWindow? rule.id round.number = some w →
        (ruled s userId league round code rule).remainingWindowUses =
          w.limit - s.windowUses userId league.id round.seasonId code w := by
      intro w hw
      rw [hw, Option.map_some, windowUses_usage hw] at hwindow
      exact hwindow
    refine ⟨hseason, hnone, hsome, hsame ▸ hleft, ?_⟩
    rcases hmay.windowLeft with hempty | ⟨w, hw, -, huses⟩
    · rw [hnone hempty]
      exact hsame ▸ hleft
    · rw [hsome w hw]
      omega
  refused hcan := by
    rcases evaluate_cases rule.enabled rule.seasonLimit
      (s.usage userId league.id round code (s.windowsOf rule.id)) round.number
      (s.windowsOf rule.id) (s.isMember league.id userId) (league.seasonId == round.seasonId)
      with ⟨r, hrejected⟩ | ⟨_, _, hallowed⟩
    · simp only [ruled, hrejected]
      exact ⟨rfl, rfl⟩
    · simp [ruled, hallowed, Eligibility.allowed] at hcan
  rejection := rejection_ruled hlate hrule
  used := by
    rcases evaluate_cases rule.enabled rule.seasonLimit
      (s.usage userId league.id round code (s.windowsOf rule.id)) round.number
      (s.windowsOf rule.id) (s.isMember league.id userId) (league.seasonId == round.seasonId)
      with ⟨r, hrejected⟩ | ⟨_, _, hallowed⟩
    · simp only [ruled, hrejected, Eligibility.rejected, Option.some.injEq]
      exact beq_iff_eq
    · simp [ruled, hallowed, Eligibility.allowed]

/-- Every answer is the decision that follows from the checks. -/
theorem decided_of_answer {e : Eligibility}
    (h : answer s userId league round code now = .ok e) :
    Decided s userId league round code now e := by
  rw [answer] at h
  by_cases hlate : round.deadline.stamp < now.stamp
  · rw [if_pos hlate] at h
    obtain rfl := Except.ok.inj h
    refine decided_rejected (not_mayUse (.inl hlate)) ?_
    rw [checks, decide_eq_true hlate]
    rfl
  · rw [if_neg hlate] at h
    cases hrule : s.boostRule? league.id code with
    | none =>
      rw [hrule] at h
      obtain rfl := Except.ok.inj h
      refine decided_rejected (not_mayUse (.inr hrule)) ?_
      rw [checks, decide_eq_false hlate, hrule]
      rfl
    | some rule =>
      rw [hrule] at h
      cases hfits : fits userId with
      | false => simp [hfits] at h
      | true =>
        simp only [hfits, if_true] at h
        obtain rfl := Except.ok.inj h
        exact decided_ruled hlate hrule

/-- The question is answered for every player, and for an id that no player can have when it comes
too late or finds no rule. -/
theorem exists_answer (h : fits userId = true ∨ round.deadline.stamp < now.stamp ∨
    s.boostRule? league.id code = none) :
    ∃ e, answer s userId league round code now = .ok e := by
  rw [answer]
  by_cases hlate : round.deadline.stamp < now.stamp
  · exact ⟨_, if_pos hlate⟩
  · rw [if_neg hlate]
    cases hrule : s.boostRule? league.id code with
    | none => exact ⟨_, rfl⟩
    | some rule =>
      have hfits : fits userId = true := by
        rcases h with hfits | hlate' | hnone
        · exact hfits
        · exact absurd hlate' hlate
        · exact absurd (hrule.symm.trans hnone) (by simp)
      simp only [hfits, if_true]
      exact ⟨_, rfl⟩

end Calls

/-- In a round and a league that exist, the decision on a boost follows from the checks in their
order, and it changes nothing. A call to use the boost answers with this decision, and records one
use when it is allowed and nothing otherwise. Only an id that no player can have is refused with a
fault by both, once it comes in time and finds a rule. -/
theorem boostEligibility_decides {s : Store} {leagueId roundId : Int} {round : Round}
    {league : League} (hround : fits roundId = true ∧ s.round? roundId = some round)
    (hleague : fits leagueId = true ∧ s.league? leagueId = some league) (userId : Int)
    (code : String) (now : DateTime) :
    (fits userId = true ∨ round.deadline.stamp < now.stamp ∨ s.boostRule? leagueId code = none →
      ∃ e, (boostEligibility userId leagueId roundId code now).Returns s e s ∧
        Decided s userId league round code now e ∧
        (applyBoost userId leagueId roundId code now).Returns s e
          (if e.canUse then s.withUse userId leagueId round code now else s)) ∧
    (fits userId = false → ¬round.deadline.stamp < now.stamp →
      s.boostRule? leagueId code ≠ none →
        (boostEligibility userId leagueId roundId code now).effect s =
            (.error .integerTooLarge, s) ∧
          (applyBoost userId leagueId roundId code now).effect s =
            (.error .integerTooLarge, s)) := by
  obtain rfl : league.id = leagueId := Table.id_of_get? hleague.2
  have hasked : (boostEligibility userId league.id roundId code now).effect s =
      (answer s userId league round code now, s) := effect_boostEligibility hround hleague
  have happlied : (applyBoost userId league.id roundId code now).effect s =
      (answer s userId league round code now,
        match answer s userId league round code now with
        | .ok e => if e.canUse then s.withUse userId league.id round code now else s
        | .error _ => s) := effect_applyBoost hround hleague
  constructor
  · intro hanswered
    obtain ⟨e, he⟩ := exists_answer hanswered
    rw [he] at hasked happlied
    exact ⟨e, hasked, decided_of_answer he, happlied⟩
  · intro hfits hlate hrule
    obtain ⟨rule, hrule⟩ := Option.ne_none_iff_exists'.1 hrule
    have hfault : answer s userId league round code now = .error .integerTooLarge := by
      rw [answer, if_neg hlate, hrule]
      simp [hfits]
    rw [hfault] at hasked happlied
    exact ⟨hasked, happlied⟩

/-- Player 10 may use the boost in the second round when it was used in the third. -/
theorem second_window_decides :
    let round : Round := ⟨2, 1, 2, .newYear2025, .newYear2025, .published, none⟩
    let league : League := ⟨1, 1, .newYear2025, 5, 3, 0⟩
    let s := tenUses 3 windowedStore
    (fits 2 = true ∧ s.round? 2 = some round) ∧ (fits 1 = true ∧ s.league? 1 = some league) ∧
      (boostEligibility 10 1 2 "DoubleUp" .newYear2025).Returns s (.allowed 1 1) s ∧
      Decided s 10 league round "DoubleUp" .newYear2025 (.allowed 1 1) ∧
      (applyBoost 10 1 2 "DoubleUp" .newYear2025).Returns s (.allowed 1 1)
        (s.withUse 10 1 round "DoubleUp" .newYear2025) := by
  intro round league s
  have hround : fits 2 = true ∧ s.round? 2 = some round := by decide
  have hleague : fits 1 = true ∧ s.league? 1 = some league := by decide
  obtain ⟨e, hreturns, hdecided, happlied⟩ :=
    (boostEligibility_decides hround hleague 10 "DoubleUp" .newYear2025).1 (.inl (by decide))
  have hallowed : (boostEligibility 10 1 2 "DoubleUp" .newYear2025).Returns s (.allowed 1 1) s := by
    decide
  obtain rfl : e = .allowed 1 1 :=
    Except.ok.inj (congrArg Prod.fst (hreturns.symm.trans hallowed))
  exact ⟨hround, hleague, hreturns, hdecided, happlied⟩

/-- An id that is too large is no member of the league, and asking for it is a fault. -/
theorem huge_player_is_a_fault : ¬∀ (s : Store) (leagueId roundId : Int) (round : Round)
    (league : League), (fits roundId = true ∧ s.round? roundId = some round) →
    (fits leagueId = true ∧ s.league? leagueId = some league) →
    ∀ (userId : Int) (code : String) (now : DateTime),
      ∃ e, (boostEligibility userId leagueId roundId code now).Returns s e s ∧
        Decided s userId league round code now e := by
  intro h
  obtain ⟨e, hreturns, -⟩ := h windowedStore 1 1
    ⟨1, 1, 1, .newYear2025, .newYear2025, .published, none⟩ ⟨1, 1, .newYear2025, 5, 3, 0⟩
    (by decide) (by decide) 9223372036854775808 "DoubleUp" .newYear2025
  have hfault : ((boostEligibility 9223372036854775808 1 1 "DoubleUp" .newYear2025).effect
      windowedStore).1 = .error .integerTooLarge := by decide
  rw [hreturns] at hfault
  exact absurd hfault (by simp)

end Boost

end PredictionLeague
