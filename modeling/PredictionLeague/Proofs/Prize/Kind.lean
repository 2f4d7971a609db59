import PredictionLeague.Proofs.FailFast

/-!
# One kind of prize in a settlement

A settlement records an award for each kind of prize that is due. The awards of different kinds
replace winnings of different settings, so what a settlement does to the winnings of one kind is
what the award of that kind does.

* `Prize.recordAwards_one`: one award among others that leave its winnings alone;
* `Store.kindAward`: the award of a kind of prize of a league, and which winnings it replaces
  (`replaces_kindAward`);
* `Keyed.kind_not_due`, `Keyed.kind_due`: the new winnings of a kind of prize, and what is left of
  the winnings of its period;
* `Keyed.new_by_kind`: the new winnings of all kinds, one kind after the other.
-/

namespace PredictionLeague

namespace Prize

/-! ### New winnings -/

theorem new_recordAwards_append (now : DateTime) (winnings : List Winning) (as bs : List Award) :
    (recordAwards now winnings (as ++ bs)).2 =
      (recordAwards now winnings as).2 ++
        (recordAwards now (recordAwards now winnings as).1 bs).2 := by
  induction as generalizing winnings with
  | nil => rfl
  | cons a as ih =>
    refine (congrArg (a.paid now winnings ++ ·) (ih _)).trans ?_
    exact (List.append_assoc ..).symm

/-- New winnings are of the settings and periods of the awards. -/
theorem filter_new_recordAwards {q : Winning → Bool} {as : List Award}
    (hknown : ∀ a ∈ as, a.Known) (hq : ∀ a ∈ as, ∀ w, a.replaces w = true → q w = false)
    (now : DateTime) (winnings : List Winning) :
    (recordAwards now winnings as).2.filter q = [] := by
  induction as generalizing winnings with
  | nil => rfl
  | cons a as ih =>
    obtain ⟨hfirst, hknown⟩ := List.forall_mem_cons.1 hknown
    obtain ⟨hreplaced, hq⟩ := List.forall_mem_cons.1 hq
    have hpaid : (a.paid now winnings).filter q = [] := by
      apply List.filter_eq_nil_iff.2
      intro w hw hqw
      rw [hreplaced w (a.replaces_paid hfirst hw)] at hqw
      exact absurd hqw Bool.false_ne_true
    refine (List.filter_append ..).trans ?_
    rw [hpaid, List.nil_append]
    exact ih hknown hq _

/-- One award among others that are not about its settings: what it pays is what is new of them, and
nothing else is left of the winnings that it replaces. -/
theorem recordAwards_one {award : Award} {before after : List Award} {q : Winning → Bool}
    (hknown : ∀ a ∈ before ++ award :: after, a.Known)
    (hself : ∀ w, award.replaces w = true → q w = true)
    (hother : ∀ a ∈ before ++ after, ∀ w, a.replaces w = true → q w = false)
    (now : DateTime) (winnings : List Winning) :
    ∃ left, (recordAwards now winnings (before ++ award :: after)).2.filter q =
        award.paid now left ∧
      (recordAwards now winnings (before ++ award :: after)).1.filter award.replaces =
        award.paid now left := by
  obtain ⟨hknownBefore, hrest⟩ := List.forall_mem_append.1 hknown
  obtain ⟨hknownSelf, hknownAfter⟩ := List.forall_mem_cons.1 hrest
  obtain ⟨hbefore, hafter⟩ := List.forall_mem_append.1 hother
  have hspared : ∀ a ∈ after, ∀ w, a.replaces w = true → award.replaces w = false := by
    intro a ha w hw
    by_contra hreplaced
    have hq := hself w (Bool.eq_true_of_not_eq_false hreplaced)
    exact Bool.false_ne_true ((hafter a ha w hw).symm.trans hq)
  have hpaid (left : List Winning) :
      (award.paid now left).filter award.replaces = award.paid now left :=
    List.filter_eq_self.2 fun w hw => award.replaces_paid hknownSelf hw
  have hpaidSelf (left : List Winning) : (award.paid now left).filter q = award.paid now left :=
    List.filter_eq_self.2 fun w hw => hself w (award.replaces_paid hknownSelf hw)
  have hkept (left : List Winning) : (award.kept left).filter award.replaces = [] := by
    rw [Award.kept, List.filter_filter]
    simp
  refine ⟨(recordAwards now winnings before).1, ?_, ?_⟩
  · rw [new_recordAwards_append, List.filter_append,
      filter_new_recordAwards hknownBefore hbefore, List.nil_append]
    refine (List.filter_append ..).trans ?_
    rw [hpaidSelf, filter_new_recordAwards hknownAfter hafter, List.append_nil]
  · rw [recordAwards_append]
    refine (filter_recordAwards hknownAfter hspared now _).trans ?_
    rw [List.filter_append, hkept, hpaid, List.nil_append]

/-- The new winnings of an award are worth what it pays. -/
theorem Award.amounts_paid (award : Award) (now : DateTime) (winnings : List Winning) :
    (award.paid now winnings).map (·.amount) = award.payments.map (·.amount) :=
  Table.map_numbered_map _ _ _ fun _ _ => rfl

end Prize

namespace Store

variable {s : Store}

/-! ### The settings of a kind -/

/-- The settings of one kind of prize of a league, the best rank first. -/
def settingsOfKind (s : Store) (leagueId : Int) (kind : PrizeKind) : List PrizeSetting :=
  (Prize.settingsOf s leagueId).filter (·.kind == kind)

/-- A winning is paid by a setting of a kind of prize of a league. -/
def paidByKind (s : Store) (leagueId : Int) (kind : PrizeKind) (w : Winning) : Bool :=
  s.paidBy (fun setting => setting.leagueId == leagueId && setting.kind == kind) w

theorem mem_settingsOfKind {leagueId : Int} {kind : PrizeKind} {setting : PrizeSetting} :
    setting ∈ s.settingsOfKind leagueId kind ↔
      setting ∈ s.prizeSettings ∧ setting.leagueId = leagueId ∧ setting.kind = kind := by
  rw [settingsOfKind, List.mem_filter, Prize.mem_settingsOf, beq_iff_eq, and_assoc]

theorem paidByKind_iff {leagueId : Int} {kind : PrizeKind} {w : Winning} :
    s.paidByKind leagueId kind w = true ↔
      w.settingId ∈ (s.settingsOfKind leagueId kind).map (·.id) := by
  simp only [paidByKind, paidBy, List.any_eq_true, Bool.and_eq_true, beq_iff_eq, List.mem_map,
    mem_settingsOfKind]
  constructor
  · rintro ⟨setting, hstored, hid, hleague, hkind⟩
    exact ⟨setting, ⟨hstored, hleague, hkind⟩, hid⟩
  · rintro ⟨setting, ⟨hstored, hleague, hkind⟩, hid⟩
    exact ⟨setting, hstored, hid, hleague, hkind⟩

theorem settingsOfKind_congr {t : Store} (h : t.prizeSettings = s.prizeSettings) :
    t.settingsOfKind = s.settingsOfKind := by
  funext leagueId kind
  rw [settingsOfKind, Prize.settingsOf, h]
  rfl

theorem paidByKind_congr {t : Store} (h : t.prizeSettings = s.prizeSettings) :
    t.paidByKind = s.paidByKind := by
  funext leagueId kind w
  rw [paidByKind, paidBy, h]
  rfl

/-- A setting has one kind. -/
theorem Keyed.paidByKind_unique (hs : s.Keyed) {leagueId leagueId' : Int} {kind kind' : PrizeKind}
    {w : Winning} (h : s.paidByKind leagueId kind w = true)
    (h' : s.paidByKind leagueId' kind' w = true) : kind = kind' := by
  obtain ⟨setting, hsetting, hid⟩ := List.mem_map.1 (paidByKind_iff.1 h)
  obtain ⟨setting', hsetting', hid'⟩ := List.mem_map.1 (paidByKind_iff.1 h')
  obtain ⟨hstored, -, rfl⟩ := mem_settingsOfKind.1 hsetting
  obtain ⟨hstored', -, rfl⟩ := mem_settingsOfKind.1 hsetting'
  rw [hs.prizeSettings.eq_of_id_eq hstored hstored' (hid.trans hid'.symm)]

/-! ### The settlement of a kind -/

section Kind

variable {round : Round} {league : League} {as : List Prize.Award}

/-- The award of a kind of prize of a league. -/
def kindAward (s : Store) (round : Round) (league : League) (kind : PrizeKind) : Prize.Award :=
  Prize.awardOf s (s.standings league.id) round kind (s.settingsOfKind league.id kind)

theorem kindAward_known (s : Store) (round : Round) (league : League) (kind : PrizeKind) :
    (s.kindAward round league kind).Known :=
  Prize.known_awardOf s (s.standings league.id) round kind (s.settingsOfKind league.id kind)

/-- The award of a kind replaces the winnings of its period that settings of the kind pay. -/
theorem replaces_kindAward (kind : PrizeKind) (w : Winning) :
    (s.kindAward round league kind).replaces w =
      (s.paidByKind league.id kind w && (Prize.periodOf round kind).covers w) := by
  rw [Prize.Award.replaces, Bool.eq_iff_iff, Bool.and_eq_true, Bool.and_eq_true,
    List.contains_iff_mem, paidByKind_iff]
  rfl

/-- The award of a kind leaves the winnings of the other kinds alone. -/
theorem Keyed.replaces_otherKind (hs : s.Keyed) {kind kind' : PrizeKind} (hne : kind' ≠ kind)
    {w : Winning} (hw : (s.kindAward round league kind').replaces w = true) :
    s.paidByKind league.id kind w = false := by
  rw [replaces_kindAward] at hw
  by_contra hpaid
  exact hne (hs.paidByKind_unique (Bool.and_eq_true_iff.1 hw).1
    (Bool.eq_true_of_not_eq_false hpaid))

theorem known_kindAwards (s : Store) (round : Round) (league : League) (kinds : List PrizeKind) :
    ∀ award ∈ kinds.map (s.kindAward round league), award.Known :=
  List.forall_mem_map.2 fun kind _ => s.kindAward_known round league kind

theorem Keyed.replaces_otherKinds (hs : s.Keyed) {kind : PrizeKind} {kinds : List PrizeKind}
    (hout : kind ∉ kinds) : ∀ award ∈ kinds.map (s.kindAward round league), ∀ w,
      award.replaces w = true → s.paidByKind league.id kind w = false :=
  List.forall_mem_map.2 fun _ hkind' _ =>
    hs.replaces_otherKind (ne_of_mem_of_not_mem hkind' hout)

theorem kinds_of_leagueAwards (h : s.leagueAwards round league = .ok as) :
    as = (Prize.dueKinds s (Prize.settingsOf s league.id) round
      (s.season? round.seasonId)).map (s.kindAward round league) :=
  Prize.awards_ok h

theorem nodup_dueKinds (s : Store) (settings : List PrizeSetting) (round : Round)
    (season : Option Season) : (Prize.dueKinds s settings round season).Nodup :=
  List.Nodup.filter _ (by decide)

/-- Without settings of a kind nothing is paid of it. -/
theorem payments_kindAward_of_nil {kind : PrizeKind}
    (hnone : s.settingsOfKind league.id kind = []) :
    (s.kindAward round league kind).payments = [] := by
  rw [kindAward, hnone]
  cases kind <;> rfl

/-- The awards of other kinds pay nothing of a kind. -/
theorem Keyed.filter_new_otherKinds (hs : s.Keyed) {kind : PrizeKind} {kinds : List PrizeKind}
    (hout : kind ∉ kinds) (now : DateTime) (winnings : List Winning) :
    (Prize.recordAwards now winnings (kinds.map (s.kindAward round league))).2.filter
      (s.paidByKind league.id kind) = [] :=
  Prize.filter_new_recordAwards (s.known_kindAwards round league kinds)
    (hs.replaces_otherKinds hout) now winnings

/-- A kind of prize that is not due pays nothing. -/
theorem Keyed.kind_not_due (hs : s.Keyed) (h : s.leagueAwards round league = .ok as)
    {kind : PrizeKind} (hdue : Prize.due s round (s.season? round.seasonId) kind = false)
    (now : DateTime) (winnings : List Winning) :
    (Prize.recordAwards now winnings as).2.filter (s.paidByKind league.id kind) = [] := by
  rw [kinds_of_leagueAwards h]
  refine hs.filter_new_otherKinds (fun hkind => ?_) now winnings
  have hdue' := (Bool.and_eq_true_iff.1 (List.mem_filter.1 hkind).2).2
  exact Bool.false_ne_true (hdue.symm.trans hdue')

/-- What is new after awards of different kinds comes kind by kind. -/
theorem Keyed.new_of_kinds (hs : s.Keyed) (now : DateTime) (p : PrizeKind → Bool)
    {kinds : List PrizeKind} (hnodup : kinds.Nodup) (winnings : List Winning) :
    (Prize.recordAwards now winnings ((kinds.filter p).map (s.kindAward round league))).2 =
      kinds.flatMap fun kind => (Prize.recordAwards now winnings
        ((kinds.filter p).map (s.kindAward round league))).2.filter
          (s.paidByKind league.id kind) := by
  induction kinds generalizing winnings with
  | nil => rfl
  | cons kind kinds ih =>
    obtain ⟨hfirst, hnodup⟩ := List.nodup_cons.1 hnodup
    have hout : kind ∉ kinds.filter p := fun hmem => hfirst (List.mem_of_mem_filter hmem)
    rw [List.flatMap_cons, List.filter_cons]
    split
    · -- The first award pays its kind alone, and those after it pay the others.
      let award := s.kindAward round league kind
      let paid := award.paid now winnings
      let rest := (Prize.recordAwards now (award.kept winnings ++ paid)
        ((kinds.filter p).map (s.kindAward round league))).2
      have hreplaces : ∀ w ∈ paid, award.replaces w = true := fun w hw =>
        award.replaces_paid (s.kindAward_known round league kind) hw
      have hself : paid.filter (s.paidByKind league.id kind) = paid :=
        List.filter_eq_self.2 fun w hw =>
          (Bool.and_eq_true_iff.1 (replaces_kindAward kind w ▸ hreplaces w hw)).1
      have hothers : ∀ other ∈ kinds, (paid ++ rest).filter (s.paidByKind league.id other) =
          rest.filter (s.paidByKind league.id other) := by
        intro other hother
        have hnone : paid.filter (s.paidByKind league.id other) = [] :=
          List.filter_eq_nil_iff.2 fun w hw hpaid => by
            have hne : kind ≠ other := fun heq => hfirst (heq ▸ hother)
            rw [hs.replaces_otherKind hne (hreplaces w hw)] at hpaid
            exact Bool.false_ne_true hpaid
        rw [List.filter_append, hnone, List.nil_append]
      show paid ++ rest = (paid ++ rest).filter (s.paidByKind league.id kind) ++
        kinds.flatMap fun other => (paid ++ rest).filter (s.paidByKind league.id other)
      rw [List.flatMap_congr hothers, List.filter_append, hself,
        hs.filter_new_otherKinds hout now _, List.append_nil, ← ih hnodup]
    · rw [hs.filter_new_otherKinds hout now winnings, List.nil_append, ← ih hnodup]

/-- What is new after a settlement comes kind by kind, in the order of payment. -/
theorem Keyed.new_by_kind (hs : s.Keyed) (h : s.leagueAwards round league = .ok as)
    (now : DateTime) (winnings : List Winning) :
    (Prize.recordAwards now winnings as).2 = PrizeKind.all.flatMap fun kind =>
      (Prize.recordAwards now winnings as).2.filter (s.paidByKind league.id kind) := by
  rw [kinds_of_leagueAwards h]
  exact hs.new_of_kinds now _ (by decide) winnings

/-- What the award of a kind that is due pays is what is new of the kind, and after the settlement
nothing else is left of the winnings of its period. -/
theorem Keyed.kind_due (hs : s.Keyed) (h : s.leagueAwards round league = .ok as) {kind : PrizeKind}
    (hdue : Prize.due s round (s.season? round.seasonId) kind = true)
    (now : DateTime) (winnings : List Winning) :
    ∃ left, (Prize.recordAwards now winnings as).2.filter (s.paidByKind league.id kind) =
        (s.kindAward round league kind).paid now left ∧
      (Prize.recordAwards now winnings as).1.filter (s.kindAward round league kind).replaces =
        (s.kindAward round league kind).paid now left := by
  have hself (w : Winning) (hw : (s.kindAward round league kind).replaces w = true) :
      s.paidByKind league.id kind w = true := by
    rw [replaces_kindAward] at hw
    exact (Bool.and_eq_true_iff.1 hw).1
  rw [kinds_of_leagueAwards h]
  have hnodup := nodup_dueKinds s (Prize.settingsOf s league.id) round (s.season? round.seasonId)
  by_cases hmem : kind ∈ Prize.dueKinds s (Prize.settingsOf s league.id) round
      (s.season? round.seasonId)
  · obtain ⟨before, after, hkinds⟩ := List.append_of_mem hmem
    rw [hkinds] at hnodup ⊢
    have hout : kind ∉ before ++ after :=
      (List.nodup_cons.1 (List.nodup_middle.1 hnodup)).1
    rw [List.map_append, List.map_cons]
    refine Prize.recordAwards_one ?_ hself ?_ now winnings
    · rw [← List.map_cons, ← List.map_append]
      exact s.known_kindAwards round league (before ++ kind :: after)
    · rw [← List.map_append]
      exact hs.replaces_otherKinds hout
  · -- The league has no settings of the kind, so the kind has no winnings.
    have hnone : s.settingsOfKind league.id kind = [] := by
      by_contra hsome
      refine hmem (List.mem_filter.2 ⟨by cases kind <;> decide, ?_⟩)
      rw [hdue, Bool.and_true, Bool.not_eq_true', List.isEmpty_eq_false_iff]
      exact hsome
    have hunpaid (w : Winning) : s.paidByKind league.id kind w = false := by
      by_contra hpaid
      have hid := paidByKind_iff.1 (Bool.eq_true_of_not_eq_false hpaid)
      rw [hnone] at hid
      exact absurd hid (by simp)
    have hpaid (left : List Winning) : (s.kindAward round league kind).paid now left = [] := by
      rw [Prize.Award.paid, payments_kindAward_of_nil hnone]
      rfl
    refine ⟨[], ?_, ?_⟩
    · rw [hpaid]
      exact List.filter_eq_nil_iff.2 fun w _ hw => Bool.false_ne_true ((hunpaid w).symm.trans hw)
    · rw [hpaid]
      exact List.filter_eq_nil_iff.2 fun w _ hw =>
        Bool.false_ne_true ((hunpaid w).symm.trans (hself w hw))

end Kind

/-- A settlement of the prizes of a league that returns has recorded the awards of the league. -/
theorem awards_of_processPrizes {t : Store} {leagueId roundId : Int} {round : Round}
    {now : DateTime} {paid : List Winning} (hround : s.round? roundId = some round)
    (h : (Prize.processPrizes leagueId roundId now).Returns s paid t) :
    ∃ league awards, league.id = leagueId ∧ s.leagueAwards round league = .ok awards ∧
      paid = (Prize.recordAwards now s.winnings awards).2 ∧ t = s.withAwards now awards := by
  obtain ⟨round', ⟨-, hround'⟩, league, ⟨-, hleague⟩, awards, hawards, hpaid, hafter⟩ :=
    returns_processPrizes.1 h
  obtain rfl : round = round' := Option.some.inj (hround.symm.trans hround')
  obtain rfl : league.id = leagueId := Table.id_of_get? hleague
  exact ⟨league, awards, rfl, hawards, hpaid, hafter⟩

end Store

end PredictionLeague
