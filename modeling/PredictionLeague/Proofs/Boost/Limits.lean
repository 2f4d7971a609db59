import Mathlib.Data.List.Pairwise
import PredictionLeague.Boost.Use
import PredictionLeague.Proofs.Store
import PredictionLeague.Proofs.Invariant

/-!
# Boosts stay within their limits

However members use boosts and take them back, no limit of a rule or of a window is passed.

* `Boost.canUse_evaluate`: the uses that an allowed one finds before it;
* `Boost.storeAfter_applyBoost`, `Boost.storeAfter_removeBoost`: what the two calls change;
* `Store.WithinLimits`: the uses of every member respect the rules and their windows;
* `Boost.Course.withinLimits`: they do after every run of the two calls.
-/

namespace PredictionLeague

open Boost

/-! ### Windows -/

/-- A window as the decision sees it. -/
def BoostWindow.span (w : BoostWindow) : Window := ⟨w.first, w.last, w.limit⟩

@[simp] theorem BoostWindow.limit_span (w : BoostWindow) : w.span.limit = w.limit := rfl

theorem Boost.Window.contains_iff {w : Window} {number : Int} :
    w.contains number = true ↔ w.first ≤ number ∧ number ≤ w.last := by
  rw [Window.contains, Bool.and_eq_true, decide_eq_true_eq, decide_eq_true_eq]

theorem BoostWindow.contains_span {w : BoostWindow} {number : Int} :
    w.span.contains number = true ↔ w.first ≤ number ∧ number ≤ w.last :=
  Window.contains_iff

/-- No round number lies in both windows. -/
def BoostWindow.Disjoint (a b : BoostWindow) : Prop :=
  ∀ number, ¬(a.span.contains number = true ∧ b.span.contains number = true)

namespace Store

variable {s : Store}

/-- The rows of the windows of a rule. -/
def windowRows (s : Store) (ruleId : Int) : List BoostWindow :=
  s.boostWindows.filter (·.ruleId == ruleId)

theorem mem_windowsOf {ruleId : Int} {window : Window} :
    window ∈ s.windowsOf ruleId ↔ ∃ w ∈ s.windowRows ruleId, w.span = window := by
  simp only [windowsOf, List.mem_map, mem_sorted]
  rfl

theorem windowsOf_eq_nil {ruleId : Int} : s.windowsOf ruleId = [] ↔ s.windowRows ruleId = [] := by
  rw [← List.length_eq_zero_iff, windowsOf, List.length_map, length_sorted,
    List.length_eq_zero_iff]
  rfl

/-- The window that is found is the only one of the rule that contains the round. -/
theorem span_eq_of_findWindow {ruleId number : Int}
    (hdisjoint : (s.windowRows ruleId).Pairwise BoostWindow.Disjoint) {window : Window}
    (hfind : findWindow number (s.windowsOf ruleId) = some window) {w : BoostWindow}
    (hw : w ∈ s.windowRows ruleId) (hin : w.span.contains number = true) : w.span = window := by
  have hsymm : Std.Symm BoostWindow.Disjoint := ⟨fun a b h number hin => h number hin.symm⟩
  have hwindow : window.contains number = true := by simpa using List.find?_some hfind
  obtain ⟨w', hw', rfl⟩ := mem_windowsOf.1 (List.mem_of_find?_eq_some hfind)
  by_contra hne
  exact hdisjoint.forall hw hw' (fun heq => hne (congrArg _ heq)) number ⟨hin, hwindow⟩

end Store

/-! ### Allowed uses -/

namespace Boost

/-- A use is allowed to a member of the season's league when the boost is on, no boost is used in
the round, and the limits of the season and of the window of the round are not reached. -/
theorem canUse_evaluate {enabled : Bool} {seasonLimit : Int} {usage : Usage} {number : Int}
    {windows : List Window} {isMember inSeason : Bool} :
    (evaluate enabled seasonLimit usage number windows isMember inSeason).canUse = true ↔
      inSeason = true ∧ isMember = true ∧ enabled = true ∧ 0 < seasonLimit ∧
        usage.usedThisRound = false ∧ usage.seasonUses < seasonLimit ∧
        (windows = [] ∨ ∃ window, findWindow number windows = some window ∧
          0 < window.limit ∧ usage.windowUses < window.limit) := by
  have hrefused (r : Rejection) {p : Prop} (h : ¬p) :
      (Eligibility.rejected r).canUse = true ↔ p := iff_of_false Bool.false_ne_true h
  -- One case for each check, in the order in which they are made.
  fun_cases evaluate enabled seasonLimit usage number windows isMember inSeason with
  | case1 hseason => exact hrefused _ fun h => by simp [h.1] at hseason
  | case2 _ hmember => exact hrefused _ fun h => by simp [h.2.1] at hmember
  | case3 _ _ henabled => exact hrefused _ fun h => by simp [h.2.2.1] at henabled
  | case4 _ _ _ hlimit => exact hrefused _ fun h => by omega
  | case5 _ _ _ _ hused => exact hrefused _ fun h => by simp [h.2.2.2.2.1] at hused
  | case6 _ _ _ _ _ huses => exact hrefused _ fun h => by omega
  | case7 hseason hmember henabled hlimit hused huses _ hnone =>
    refine iff_of_true rfl ⟨by simpa using hseason, by simpa using hmember,
      by simpa using henabled, by omega, by simpa using hused, by omega, .inl ?_⟩
    exact List.isEmpty_iff.1 hnone
  | case8 _ _ _ _ _ _ hsome hfind =>
    refine hrefused _ ?_
    rintro ⟨-, -, -, -, -, -, hnone | ⟨window, hwindow, -⟩⟩
    · simp [hnone] at hsome
    · simp [hfind] at hwindow
  | case9 _ _ _ _ _ _ hsome window hfind hlimit =>
    refine hrefused _ ?_
    rintro ⟨-, -, -, -, -, -, hnone | ⟨window', hwindow, hpositive, -⟩⟩
    · simp [hnone] at hsome
    · obtain rfl := Option.some.inj (hfind.symm.trans hwindow)
      omega
  | case10 _ _ _ _ _ _ hsome window hfind _ huses =>
    refine hrefused _ ?_
    rintro ⟨-, -, -, -, -, -, hnone | ⟨window', hwindow, -, hleft⟩⟩
    · simp [hnone] at hsome
    · obtain rfl := Option.some.inj (hfind.symm.trans hwindow)
      omega
  | case11 hseason hmember henabled hlimit hused huses _ hsome window hfind hpositive hleft =>
    refine iff_of_true rfl ⟨by simpa using hseason, by simpa using hmember,
      by simpa using henabled, by omega, by simpa using hused, by omega, .inr ?_⟩
    exact ⟨window, hfind, by omega, by omega⟩

/-- What an allowed use of a boost in a round finds in the store. -/
structure Granted (s : Store) (userId : Int) (round : Round) (code : String) (league : League)
    (rule : BoostRule) : Prop where
  league_eq : s.league? league.id = some league
  season_eq : league.seasonId = round.seasonId
  rule_eq : s.boostRule? league.id code = some rule
  unused : s.useInRound? userId league.id round.id = none
  season_left : ((s.usesInSeason userId league.id round.seasonId code).length : Int) <
    rule.seasonLimit
  window_left : s.windowsOf rule.id = [] ∨ ∃ window,
    findWindow round.number (s.windowsOf rule.id) = some window ∧
      (((s.usesInSeason userId league.id round.seasonId code).countP (s.inWindow window) : Nat) :
        Int) < window.limit

end Boost

/-- The use of a boost that is recorded next. -/
def Store.newUse (s : Store) (userId leagueId : Int) (round : Round) (code : String)
    (now : DateTime) : BoostUsage :=
  ⟨Table.nextId s.boostUsages, userId, leagueId, round.seasonId, round.id, code, now⟩

/-- The store with one more use of a boost. -/
def Store.withUse (s : Store) (userId leagueId : Int) (round : Round) (code : String)
    (now : DateTime) : Store :=
  { s with
    boostUsages := Table.add s.boostUsages fun id =>
      ⟨id, userId, leagueId, round.seasonId, round.id, code, now⟩ }

/-! ### What the calls change -/

namespace Boost

open Engine

section Calls

variable (s : Store) (userId leagueId roundId : Int) (code : String) (now : DateTime)

instance : Quiet (boostEligibility userId leagueId roundId code now) := by
  refine quiet_bind inferInstance fun round => quiet_bind inferInstance fun league =>
    quiet_bind inferInstance fun s => ?_
  split
  · infer_instance
  · split <;> infer_instance

instance (round : Round) : Quiet (recordUse userId leagueId round code now) := by
  unfold recordUse
  infer_instance

/-- The decision changes nothing. -/
theorem storeAfter_boostEligibility :
    (boostEligibility userId leagueId roundId code now).storeAfter s = s :=
  (KeptByWrites.keeps_boostEligibility (P := (· = s)) userId leagueId roundId code now).storeAfter
    rfl

variable {s userId leagueId roundId code now}

/-- A use that is allowed finds the round and its league, a rule, and room for it. -/
theorem granted_of_eligible {e : Eligibility} {s' : Store}
    (h : (boostEligibility userId leagueId roundId code now).Returns s e s')
    (hcan : e.canUse = true) :
    ∃ round league rule, (fits roundId = true ∧ s.round? roundId = some round) ∧
      league.id = leagueId ∧ Granted s userId round code league rule := by
  unfold boostEligibility at h
  rw [returns_getRound_bind] at h
  obtain ⟨round, hround, h⟩ := h
  rw [returns_getLeague_bind] at h
  obtain ⟨league, ⟨-, hleague⟩, h⟩ := h
  rw [returns_current_bind] at h
  obtain rfl : league.id = leagueId := Table.id_of_get? hleague
  split at h
  · rw [returns_pure] at h
    simp [h.1, Eligibility.rejected] at hcan
  · split at h
    · rw [returns_pure] at h
      simp [h.1, Eligibility.rejected] at hcan
    · rename_i rule hrule
      obtain ⟨_, _, -, h⟩ := returns_bind.1 h
      obtain ⟨rfl, -⟩ := returns_pure.1 h
      obtain ⟨hseason, -, -, -, hunused, hleft, hwindow⟩ := canUse_evaluate.1 hcan
      refine ⟨round, league, rule, hround, rfl, hleague, beq_iff_eq.1 hseason, hrule, ?_, hleft, ?_⟩
      · simpa [Store.usage] using hunused
      · refine hwindow.imp_right ?_
        rintro ⟨window, hfind, -, hlimit⟩
        refine ⟨window, hfind, ?_⟩
        simpa [Store.usage, hfind] using hlimit

/-- A use is recorded when there is none in the round. -/
theorem effect_recordUse {round : Round} (h : s.useInRound? userId leagueId round.id = none) :
    (recordUse userId leagueId round code now).effect s =
      (.ok true, s.withUse userId leagueId round code now) := by
  unfold recordUse
  rw [effect_bind, effect_current]
  simp only [h]
  rfl

/-- A call to use a boost changes nothing, or records one use that was allowed. -/
theorem storeAfter_applyBoost (s : Store) (userId leagueId roundId : Int) (code : String)
    (now : DateTime) : (applyBoost userId leagueId roundId code now).storeAfter s = s ∨
      ∃ round league rule, s.round? roundId = some round ∧ league.id = leagueId ∧
        Granted s userId round code league rule ∧
        (applyBoost userId leagueId roundId code now).storeAfter s =
          s.withUse userId leagueId round code now := by
  have hstore := storeAfter_boostEligibility s userId leagueId roundId code now
  rw [storeAfter_eq] at hstore ⊢
  unfold applyBoost applyBoostAmid
  rw [effect_bind]
  rcases heffect : (boostEligibility userId leagueId roundId code now).effect s with ⟨fault | e, s'⟩
  · rw [heffect] at hstore
    exact .inl hstore
  · obtain rfl : s' = s := by rw [heffect] at hstore; exact hstore
    simp only [effect_ite]
    cases hcan : e.canUse with
    | false => exact .inl rfl
    | true =>
      obtain ⟨round, league, rule, hround, rfl, hgranted⟩ := granted_of_eligible heffect hcan
      refine .inr ⟨round, league, rule, hround.2, rfl, hgranted, ?_⟩
      simp only [Bool.not_true, Bool.false_eq_true, reduceIte]
      rw [effect_bind, effect_pure]
      simp only
      rw [effect_bind, effect_getRound, found_eq_ok.2 hround]
      simp only
      rw [effect_bind, effect_recordUse hgranted.unused]
      rfl

/-- A call to take a use back drops uses and changes nothing else. -/
theorem storeAfter_removeBoost (s : Store) (userId leagueId roundId : Int) (now : DateTime) :
    ∃ uses, uses.Sublist s.boostUsages ∧
      (removeBoost userId leagueId roundId now).storeAfter s = { s with boostUsages := uses } := by
  have hkeeps : Keeps
      (fun t => ∃ uses, uses.Sublist s.boostUsages ∧ t = { s with boostUsages := uses })
      (removeBoost userId leagueId roundId now) := by
    refine KeptByWrites.keeps_removeBoost ?_ userId leagueId roundId now
    rintro _ id ⟨uses, huses, rfl⟩
    exact ⟨_, List.filter_sublist.trans huses, rfl⟩
  exact hkeeps.storeAfter ⟨s.boostUsages, .refl _, rfl⟩

end Calls

end Boost

/-! ### The limits -/

namespace Store

/-- The uses of a boost by a member in the rounds of a season that lie in a window. -/
def usesInWindow (s : Store) (userId leagueId seasonId : Int) (code : String) (w : BoostWindow) :
    List BoostUsage :=
  s.boostUsages.filter fun u =>
    u.userId == userId && u.leagueId == leagueId && u.boostCode == code &&
      (s.round? u.roundId).any fun round =>
        round.seasonId == seasonId && w.span.contains round.number

/-- The uses of every member respect the rules of the leagues and their windows. -/
structure WithinLimits (s : Store) : Prop where
  /-- A member uses one boost in a round of a league. -/
  once : (s.boostUsages.map fun u => (u.userId, u.leagueId, u.roundId)).Nodup
  /-- A use is made in the season of its round and of its league. -/
  placed : ∀ u ∈ s.boostUsages, ∃ round league, s.round? u.roundId = some round ∧
    s.league? u.leagueId = some league ∧ u.seasonId = round.seasonId ∧
    u.seasonId = league.seasonId
  /-- A boost without a rule is not used. -/
  ruled : ∀ u ∈ s.boostUsages, ∃ rule ∈ s.boostRules,
    rule.leagueId = u.leagueId ∧ rule.boostCode = u.boostCode
  /-- The limit of the season is not passed; one below zero allows no use. -/
  seasonUses : ∀ rule ∈ s.boostRules, ∀ userId seasonId,
    ((s.usesInSeason userId rule.leagueId seasonId rule.boostCode).length : Int) ≤
      max 0 rule.seasonLimit
  /-- The limit of no window is passed. -/
  windowUses : ∀ rule ∈ s.boostRules, ∀ w ∈ s.windowRows rule.id, ∀ userId seasonId,
    ((s.usesInWindow userId rule.leagueId seasonId rule.boostCode w).length : Int) ≤ max 0 w.limit
  /-- When there are windows, every use lies in one. -/
  windowed : ∀ rule ∈ s.boostRules, s.windowRows rule.id ≠ [] → ∀ u ∈ s.boostUsages,
    u.leagueId = rule.leagueId → u.boostCode = rule.boostCode →
      ∃ w ∈ s.windowRows rule.id, ∃ round, s.round? u.roundId = some round ∧
        w.span.contains round.number = true

/-- Without uses all limits are respected. -/
theorem withinLimits_nil {s : Store} (h : s.boostUsages = []) : s.WithinLimits where
  once := by simp [h]
  placed := by simp [h]
  ruled := by simp [h]
  seasonUses rule _ userId seasonId := by
    have hnone : s.usesInSeason userId rule.leagueId seasonId rule.boostCode = [] := by
      simp [usesInSeason, h]
    rw [hnone]
    exact Int.le_max_left 0 _
  windowUses rule _ w _ userId seasonId := by
    have hnone : s.usesInWindow userId rule.leagueId seasonId rule.boostCode w = [] := by
      simp [usesInWindow, h]
    rw [hnone]
    exact Int.le_max_left 0 _
  windowed := by simp [h]

/-- The two stores agree on everything that limits boosts. -/
structure SameTerms (s s' : Store) : Prop where
  rounds : s'.rounds = s.rounds
  leagues : s'.leagues = s.leagues
  rules : s'.boostRules = s.boostRules
  windows : s'.boostWindows = s.boostWindows

variable {s s' : Store}

theorem SameTerms.refl (s : Store) : SameTerms s s := ⟨rfl, rfl, rfl, rfl⟩

theorem SameTerms.trans {t : Store} (h : SameTerms s s') (h' : SameTerms s' t) : SameTerms s t :=
  ⟨h'.rounds.trans h.rounds, h'.leagues.trans h.leagues, h'.rules.trans h.rules,
    h'.windows.trans h.windows⟩

/-- Fewer uses respect the limits as well, whatever else changes. -/
theorem WithinLimits.of_sublist (h : s.WithinLimits) (hterms : SameTerms s s')
    (huses : s'.boostUsages.Sublist s.boostUsages) : s'.WithinLimits := by
  have hround (id : Int) : s'.round? id = s.round? id := by rw [round?, round?, hterms.rounds]
  have hleague (id : Int) : s'.league? id = s.league? id := by
    rw [league?, league?, hterms.leagues]
  have hrows (id : Int) : s'.windowRows id = s.windowRows id := by
    rw [windowRows, windowRows, hterms.windows]
  refine ⟨(huses.map _).nodup h.once, ?_, ?_, ?_, ?_, ?_⟩
  · intro u hu
    simpa only [hround, hleague] using h.placed u (huses.subset hu)
  · intro u hu
    simpa only [hterms.rules] using h.ruled u (huses.subset hu)
  · intro rule hrule userId seasonId
    have hle := (huses.filter fun u => u.userId == userId && u.leagueId == rule.leagueId &&
      u.seasonId == seasonId && u.boostCode == rule.boostCode).length_le
    have hlimit := h.seasonUses rule (hterms.rules ▸ hrule) userId seasonId
    rw [usesInSeason] at hlimit ⊢
    omega
  · intro rule hrule w hw userId seasonId
    have hlimit := h.windowUses rule (hterms.rules ▸ hrule) w (hrows rule.id ▸ hw) userId seasonId
    rw [usesInWindow] at hlimit ⊢
    simp only [hround]
    have hle := (huses.filter fun u => u.userId == userId && u.leagueId == rule.leagueId &&
      u.boostCode == rule.boostCode && (s.round? u.roundId).any fun round =>
        round.seasonId == seasonId && w.span.contains round.number).length_le
    omega
  · intro rule hrule hsome u hu
    simpa only [hrows, hround] using h.windowed rule (hterms.rules ▸ hrule)
      (by rwa [hrows] at hsome) u (huses.subset hu)

/-- The decision counts the uses of the season in the window; these are the uses in the rounds of
the season in the window, since every use is made in the season of its round. -/
theorem WithinLimits.length_usesInWindow (h : s.WithinLimits) (userId leagueId seasonId : Int)
    (code : String) (w : BoostWindow) :
    (s.usesInWindow userId leagueId seasonId code w).length =
      (s.usesInSeason userId leagueId seasonId code).countP (s.inWindow w.span) := by
  rw [usesInWindow, usesInSeason, List.countP_eq_length_filter, List.filter_filter]
  congr 1
  apply List.filter_congr
  intro u hu
  obtain ⟨round, league, hround, -, hseason, -⟩ := h.placed u hu
  simp only [inWindow, hround, hseason, Option.any_some]
  cases round.seasonId == seasonId <;> simp [Bool.and_comm, Bool.and_left_comm]

/-- The rule of a league for a boost, when no two rules have the same league and boost. -/
theorem boostRule?_eq_some (hrules : (s.boostRules.map fun r => (r.leagueId, r.boostCode)).Nodup)
    {leagueId : Int} {code : String} {rule : BoostRule}
    (hrule : s.boostRule? leagueId code = some rule) :
    (rule ∈ s.boostRules ∧ rule.leagueId = leagueId ∧ rule.boostCode = code) ∧
      ∀ rule' ∈ s.boostRules, rule'.leagueId = leagueId → rule'.boostCode = code →
        rule' = rule := by
  have hkey : rule.leagueId = leagueId ∧ rule.boostCode = code := by
    simpa using List.find?_some hrule
  have hmem := List.mem_of_find?_eq_some hrule
  refine ⟨⟨hmem, hkey⟩, ?_⟩
  intro rule' hmem' hleague hcode
  exact List.inj_on_of_nodup_map hrules hmem' hmem (by rw [hleague, hcode, hkey.1, hkey.2])

section WithUse

variable {userId : Int} {round : Round} {code : String} {now : DateTime} {league : League}
  {rule : BoostRule}

@[simp] theorem round?_withUse (id : Int) :
    (s.withUse userId league.id round code now).round? id = s.round? id := rfl

/-- Counting with one more use. -/
theorem length_filter_withUse (p : BoostUsage → Bool) :
    ((s.withUse userId league.id round code now).boostUsages.filter p).length =
      (s.boostUsages.filter p).length +
        if p (s.newUse userId league.id round code now) then 1 else 0 := by
  rw [← List.countP_eq_length_filter, ← List.countP_eq_length_filter, ← List.countP_singleton,
    ← List.countP_append]
  rfl

theorem mem_withUse {u : BoostUsage} :
    u ∈ (s.withUse userId league.id round code now).boostUsages ↔
      u ∈ s.boostUsages ∨ u = s.newUse userId league.id round code now := by
  show u ∈ s.boostUsages ++ [s.newUse userId league.id round code now] ↔ _
  rw [List.mem_append, List.mem_singleton]

section Granted

variable (h : s.WithinLimits)
  (hrules : (s.boostRules.map fun r => (r.leagueId, r.boostCode)).Nodup)
  (hgranted : Granted s userId round code league rule)

include h hgranted in
/-- The member uses no other boost in the round. -/
theorem WithinLimits.once_withUse :
    ((s.withUse userId league.id round code now).boostUsages.map fun u =>
      (u.userId, u.leagueId, u.roundId)).Nodup := by
  have hunused := List.find?_eq_none.1 hgranted.unused
  show ((s.boostUsages ++ [s.newUse userId league.id round code now]).map _).Nodup
  rw [List.map_append, List.nodup_append]
  refine ⟨h.once, List.nodup_singleton _, ?_⟩
  intro key hkey key' hkey'
  obtain ⟨u, hu, rfl⟩ := List.mem_map.1 hkey
  obtain rfl := List.mem_singleton.1 hkey'
  intro hsame
  simp only [newUse, Prod.mk.injEq] at hsame
  exact hunused u hu (by simp [hsame])

include h hrules hgranted

/-- The season had room for the use. -/
theorem WithinLimits.seasonUses_withUse {rule' : BoostRule} (hrule' : rule' ∈ s.boostRules)
    (userId' seasonId' : Int) :
    (((s.withUse userId league.id round code now).usesInSeason userId' rule'.leagueId seasonId'
      rule'.boostCode).length : Int) ≤ max 0 rule'.seasonLimit := by
  obtain ⟨-, hunique⟩ := boostRule?_eq_some hrules hgranted.rule_eq
  have hlimit := h.seasonUses rule' hrule' userId' seasonId'
  rw [usesInSeason] at hlimit ⊢
  rw [length_filter_withUse]
  split
  · rename_i hsame
    simp only [newUse, Bool.and_eq_true, beq_iff_eq] at hsame
    obtain ⟨⟨⟨rfl, hleague⟩, rfl⟩, hcode⟩ := hsame
    obtain rfl := hunique rule' hrule' hleague.symm hcode.symm
    have hleft := hgranted.season_left
    rw [usesInSeason, hleague, hcode] at hleft
    omega
  · exact hlimit

/-- The window of the round had room for the use, and no other window contains the round. -/
theorem WithinLimits.windowUses_withUse {rule' : BoostRule} (hrule' : rule' ∈ s.boostRules)
    (hdisjoint : (s.windowRows rule'.id).Pairwise BoostWindow.Disjoint)
    (hround : s.round? round.id = some round) {w : BoostWindow} (hw : w ∈ s.windowRows rule'.id)
    (userId' seasonId' : Int) :
    (((s.withUse userId league.id round code now).usesInWindow userId' rule'.leagueId seasonId'
      rule'.boostCode w).length : Int) ≤ max 0 w.limit := by
  obtain ⟨-, hunique⟩ := boostRule?_eq_some hrules hgranted.rule_eq
  have hlimit := h.windowUses rule' hrule' w hw userId' seasonId'
  rw [usesInWindow] at hlimit ⊢
  simp only [round?_withUse]
  rw [length_filter_withUse]
  split
  · rename_i hsame
    simp only [newUse, Bool.and_eq_true, beq_iff_eq] at hsame
    obtain ⟨⟨⟨rfl, hleague⟩, hcode⟩, hin⟩ := hsame
    obtain ⟨rfl, hcontains⟩ :
        round.seasonId = seasonId' ∧ w.span.contains round.number = true := by
      simpa [hround] using hin
    obtain rfl := hunique rule' hrule' hleague.symm hcode.symm
    rcases hgranted.window_left with hnone | ⟨window, hfind, hleft⟩
    · rw [windowsOf_eq_nil.1 hnone] at hw
      exact absurd hw (by simp)
    · obtain rfl := span_eq_of_findWindow hdisjoint hfind hw hcontains
      rw [← h.length_usesInWindow, usesInWindow, hleague, hcode, BoostWindow.limit_span] at hleft
      omega
  · exact hlimit

end Granted

/-- An allowed use keeps all limits. -/
theorem WithinLimits.withUse (h : s.WithinLimits)
    (hrules : (s.boostRules.map fun r => (r.leagueId, r.boostCode)).Nodup)
    (hdisjoint : ∀ rule ∈ s.boostRules, (s.windowRows rule.id).Pairwise BoostWindow.Disjoint)
    (hround : s.round? round.id = some round)
    (hgranted : Granted s userId round code league rule) :
    (s.withUse userId league.id round code now).WithinLimits := by
  obtain ⟨⟨hrule, hleague, hcode⟩, hunique⟩ := boostRule?_eq_some hrules hgranted.rule_eq
  refine ⟨h.once_withUse hgranted, ?_, ?_, ?_, ?_, ?_⟩
  · intro u hu
    rcases mem_withUse.1 hu with hu | rfl
    · exact h.placed u hu
    · exact ⟨round, league, hround, hgranted.league_eq, rfl, hgranted.season_eq.symm⟩
  · intro u hu
    rcases mem_withUse.1 hu with hu | rfl
    · exact h.ruled u hu
    · exact ⟨rule, hrule, hleague, hcode⟩
  · intro rule' hrule'
    exact h.seasonUses_withUse hrules hgranted hrule'
  · intro rule' hrule' w hw
    exact h.windowUses_withUse hrules hgranted hrule' (hdisjoint rule' hrule') hround hw
  · intro rule' hrule' hsome u hu hleague' hcode'
    rcases mem_withUse.1 hu with hu | rfl
    · exact h.windowed rule' hrule' hsome u hu hleague' hcode'
    · obtain rfl := hunique rule' hrule' hleague'.symm hcode'.symm
      rcases hgranted.window_left with hnone | ⟨window, hfind, -⟩
      · exact absurd (windowsOf_eq_nil.1 hnone) hsome
      · obtain ⟨w, hw, rfl⟩ := mem_windowsOf.1 (List.mem_of_find?_eq_some hfind)
        exact ⟨w, hw, round, hround, by simpa using List.find?_some hfind⟩

end WithUse

end Store

/-! ### Runs -/

namespace Boost

/-- The stores that members lead to by using boosts and taking them back, from a given store. In
between anything may change but the rounds, the leagues, the rules, their windows and the uses. -/
inductive Course (start : Store) : Store → Prop
  | nil : Course start start
  | use {s : Store} (userId leagueId roundId : Int) (code : String) (now : DateTime)
    (h : Course start s) : Course start ((applyBoost userId leagueId roundId code now).storeAfter s)
  | drop {s : Store} (userId leagueId roundId : Int) (now : DateTime) (h : Course start s) :
    Course start ((removeBoost userId leagueId roundId now).storeAfter s)
  | change {s s' : Store} (h : Course start s) (hterms : Store.SameTerms s s')
    (huses : s'.boostUsages = s.boostUsages) : Course start s'

/-- The terms of all boosts stay the same. -/
theorem Course.sameTerms {start s : Store} (h : Course start s) : Store.SameTerms start s := by
  induction h with
  | nil => exact .refl _
  | @use s userId leagueId roundId code now _ ih =>
    obtain heq | ⟨round, league, rule, -, -, -, heq⟩ :=
      storeAfter_applyBoost s userId leagueId roundId code now
    · rwa [heq]
    · rw [heq]
      exact ih.trans ⟨rfl, rfl, rfl, rfl⟩
  | @drop s userId leagueId roundId now _ ih =>
    obtain ⟨uses, -, heq⟩ := storeAfter_removeBoost s userId leagueId roundId now
    rw [heq]
    exact ih.trans ⟨rfl, rfl, rfl, rfl⟩
  | change _ hterms _ ih => exact ih.trans hterms

/-- After every run, the uses of every member respect the rules and their windows. -/
theorem Course.withinLimits {start s : Store} (hnone : start.boostUsages = [])
    (hrules : (start.boostRules.map fun r => (r.leagueId, r.boostCode)).Nodup)
    (hdisjoint : ∀ rule ∈ start.boostRules,
      (start.windowRows rule.id).Pairwise BoostWindow.Disjoint)
    (h : Course start s) : s.WithinLimits := by
  induction h with
  | nil => exact Store.withinLimits_nil hnone
  | @use s userId leagueId roundId code now h ih =>
    have hterms := h.sameTerms
    obtain heq | ⟨round, league, rule, hround, rfl, hgranted, heq⟩ :=
      storeAfter_applyBoost s userId leagueId roundId code now
    · rwa [heq]
    · rw [heq]
      obtain rfl : round.id = roundId := Table.id_of_get? hround
      refine ih.withUse ?_ ?_ hround hgranted
      · rwa [hterms.rules]
      · rw [hterms.rules]
        intro rule hrule
        rw [Store.windowRows, hterms.windows]
        exact hdisjoint rule hrule
  | @drop s userId leagueId roundId now _ ih =>
    obtain ⟨uses, huses, heq⟩ := storeAfter_removeBoost s userId leagueId roundId now
    rw [heq]
    exact ih.of_sublist ⟨rfl, rfl, rfl, rfl⟩ huses
  | change _ hterms huses ih => exact ih.of_sublist hterms (huses ▸ .refl _)

/-- Three rounds of a season, and a league where a boost may be used twice: once in the first two
rounds, and once in the third. -/
def windowedStore : Store :=
  { Store.empty with
    rounds := [⟨1, 1, 1, .newYear2025, .newYear2025, .published, none⟩,
      ⟨2, 1, 2, .newYear2025, .newYear2025, .published, none⟩,
      ⟨3, 1, 3, .newYear2025, .newYear2025, .published, none⟩]
    leagues := [⟨1, 1, .newYear2025, 5, 3, 0⟩]
    members := [⟨1, 1, 10, .approved⟩]
    boostRules := [⟨1, 1, "DoubleUp", true, 2⟩]
    boostWindows := [⟨1, 1, 1, 2, 1⟩, ⟨2, 1, 3, 3, 1⟩] }

/-- Player 10 asks for the boost in a round. -/
def tenUses (roundId : Int) (s : Store) : Store :=
  (applyBoost 10 1 roundId "DoubleUp" .newYear2025).storeAfter s

/-- The boost is used in the first round, refused in the second and used in the third; then it is
taken back from the first round and used in the second. -/
def windowedUses : Store :=
  tenUses 2 ((removeBoost 10 1 1 .newYear2025).storeAfter
    (tenUses 3 (tenUses 2 (tenUses 1 windowedStore))))

theorem course_windowedUses : Course windowedStore windowedUses :=
  .use _ _ _ _ _ (.drop _ _ _ _ (.use _ _ _ _ _ (.use _ _ _ _ _ (.use _ _ _ _ _ .nil))))

theorem windowedUses_withinLimits :
    windowedStore.boostUsages = [] ∧
      (windowedStore.boostRules.map fun r => (r.leagueId, r.boostCode)).Nodup ∧
      (∀ rule ∈ windowedStore.boostRules,
        (windowedStore.windowRows rule.id).Pairwise BoostWindow.Disjoint) ∧
      windowedUses.boostUsages.map (·.roundId) = [3, 2] ∧ windowedUses.WithinLimits := by
  have hrules : (windowedStore.boostRules.map fun r => (r.leagueId, r.boostCode)).Nodup := by
    decide
  have hdisjoint : ∀ rule ∈ windowedStore.boostRules,
      (windowedStore.windowRows rule.id).Pairwise BoostWindow.Disjoint := by
    intro rule hrule
    obtain rfl := List.mem_singleton.1 hrule
    refine List.pairwise_pair.2 ?_
    intro number hboth
    simp only [BoostWindow.contains_span] at hboth
    omega
  exact ⟨rfl, hrules, hdisjoint, rfl,
    course_windowedUses.withinLimits rfl hrules hdisjoint⟩

/-- A rule with a limit below zero allows no use, but nobody has less than none. -/
theorem no_use_exceeds_negative_limit : ¬∀ start s : Store, start.boostUsages = [] →
    (start.boostRules.map fun r => (r.leagueId, r.boostCode)).Nodup →
    (∀ rule ∈ start.boostRules, (start.windowRows rule.id).Pairwise BoostWindow.Disjoint) →
    Course start s → ∀ rule ∈ s.boostRules, ∀ userId seasonId,
      ((s.usesInSeason userId rule.leagueId seasonId rule.boostCode).length : Int) ≤
        rule.seasonLimit := by
  intro h
  have hlimit := h { Store.empty with boostRules := [⟨1, 1, "DoubleUp", true, -1⟩] } _ rfl
    (by simp) (by simp [Store.windowRows, Store.empty]) .nil _ List.mem_cons_self 10 1
  exact absurd hlimit (by decide)

end Boost

end PredictionLeague
