import PredictionLeague.Proofs.Prize.Season
import PredictionLeague.Proofs.Report.Lines

/-!
# What an open line promises

The report shows on the open lines of a kind the amount of the setting with the smallest id, and a
settlement pays the setting with the best rank. The promise of an open line is kept exactly when
the two have the same amount.

* `Store.ShownPrize`, `Store.SettledPrize`: the setting whose amount is shown and the one that is
  paid;
* `Keyed.shownPrize`, `Keyed.settledPrize`: the report and the settlement use these;
* `Keyed.sum_settled`: a settlement with a winner pays the amount of the setting in all;
* `openLine_eq_settlement_iff`: when an open line shows what a settlement pays.
-/

namespace PredictionLeague

open Engine

namespace Store

variable {s : Store} {leagueId : Int} {kind : PrizeKind} {setting : PrizeSetting}

/-- The setting of a kind of prize of a league with the smallest id. -/
def ShownPrize (s : Store) (leagueId : Int) (kind : PrizeKind) (setting : PrizeSetting) : Prop :=
  setting ∈ s.settingsOfKind leagueId kind ∧
    ∀ other ∈ s.settingsOfKind leagueId kind, setting.id ≤ other.id

/-- The setting of a kind of prize of a league with the best rank, and there with the smallest
id. -/
def SettledPrize (s : Store) (leagueId : Int) (kind : PrizeKind) (setting : PrizeSetting) : Prop :=
  setting ∈ s.settingsOfKind leagueId kind ∧
    ∀ other ∈ s.settingsOfKind leagueId kind,
      setting.rank < other.rank ∨ setting.rank = other.rank ∧ setting.id ≤ other.id

instance (s : Store) (leagueId : Int) (kind : PrizeKind) (setting : PrizeSetting) :
    Decidable (s.ShownPrize leagueId kind setting) :=
  inferInstanceAs (Decidable (_ ∧ _))

instance (s : Store) (leagueId : Int) (kind : PrizeKind) (setting : PrizeSetting) :
    Decidable (s.SettledPrize leagueId kind setting) :=
  inferInstanceAs (Decidable (_ ∧ _))

/-- The report finds the setting with the smallest id. -/
theorem Keyed.shownPrize (hs : s.Keyed) (h : s.firstPrize? leagueId kind = some setting) :
    s.ShownPrize leagueId kind setting := by
  obtain ⟨hkind, front, back, hsplit, hfront⟩ := List.find?_eq_some_iff_append.1 h
  have hordered : Table.Ordered (s.prizesOf leagueId) := hs.prizeSettings.filter _
  rw [hsplit] at hordered
  obtain ⟨hback, -⟩ := List.pairwise_cons.1 (List.pairwise_append.1 hordered).2.1
  have hmem {other : PrizeSetting} : other ∈ s.settingsOfKind leagueId kind ↔
      other ∈ front ++ setting :: back ∧ (other.kind == kind) = true := by
    rw [← hsplit, mem_settingsOfKind, prizesOf, List.mem_filter, beq_iff_eq, beq_iff_eq, and_assoc]
  refine ⟨hmem.2 ⟨by simp, hkind⟩, fun other hother => ?_⟩
  obtain ⟨hother, hsame⟩ := hmem.1 hother
  rcases List.mem_append.1 hother with hother | hother
  · have hnot := hfront other hother
    simp [hsame] at hnot
  · rcases List.mem_cons.1 hother with rfl | hother
    · exact Int.le_refl _
    · exact Int.le_of_lt (hback other hother)

theorem Keyed.shownPrize_unique (hs : s.Keyed) {other : PrizeSetting}
    (h : s.ShownPrize leagueId kind setting) (h' : s.ShownPrize leagueId kind other) :
    setting = other :=
  hs.prizeSettings.eq_of_id_eq (mem_settingsOfKind.1 h.1).1 (mem_settingsOfKind.1 h'.1).1
    (Int.le_antisymm (h.2 other h'.1) (h'.2 setting h.1))

/-- A settlement pays the setting with the best rank. -/
theorem Keyed.settledPrize (hs : s.Keyed) (h : s.SettledPrize leagueId kind setting) :
    (s.settingsOfKind leagueId kind).take 1 = [setting] := by
  have hpairwise := (hs.pairwise_settingsOf leagueId).filter (·.kind == kind)
  change (s.settingsOfKind leagueId kind).Pairwise _ at hpairwise
  obtain ⟨hmem, hbest⟩ := h
  cases hlist : s.settingsOfKind leagueId kind with
  | nil =>
    rw [hlist] at hmem
    exact absurd hmem (by simp)
  | cons first rest =>
    rw [hlist] at hpairwise hmem hbest
    rcases List.mem_cons.1 hmem with rfl | hmem
    · rfl
    · have hbefore := (List.pairwise_cons.1 hpairwise).1 setting hmem
      have hafter := hbest first List.mem_cons_self
      omega

/-- A settlement of a kind of prize for a round or month with a winner pays the amount of its
setting in all. -/
theorem Keyed.sum_settled (hs : s.Keyed) {roundId : Int} {now : DateTime} {paid : List Winning}
    {t : Store} (h : (Prize.processPrizes leagueId roundId now).Returns s paid t)
    (hkind : kind.perPeriod = true) (hsetting : s.SettledPrize leagueId kind setting)
    (hpayable : Prize.Payable setting) (hpaid : paid.filter (s.paidByKind leagueId kind) ≠ []) :
    ((paid.filter (s.paidByKind leagueId kind)).map (·.amount)).sum = setting.amount := by
  obtain ⟨round, -, league, ⟨-, hleague⟩, awards, hawards, rfl, -⟩ := returns_processPrizes.1 h
  obtain rfl : league.id = leagueId := Table.id_of_get? hleague
  have hawarded : s.leagueAwards round league = .ok awards := hawards
  cases hdue : Prize.due s round (s.season? round.seasonId) kind with
  | false => exact absurd (hs.kind_not_due hawarded hdue now s.winnings) hpaid
  | true =>
    obtain ⟨left, hnew, -⟩ := hs.kind_due hawarded hdue now s.winnings
    rw [hnew] at hpaid ⊢
    have hpayments : (s.kindAward round league kind).payments =
        Prize.paid setting (Prize.winners s (s.standings league.id) round setting kind) := by
      have hfirst : Prize.payable (s.settingsOfKind league.id kind) kind = [setting] := by
        rw [← hs.settledPrize hsetting]
        cases kind with
        | round => rfl
        | monthly => rfl
        | overall => exact absurd hkind (by decide)
        | mostExactScores => exact absurd hkind (by decide)
      show (Prize.payable (s.settingsOfKind league.id kind) kind).flatMap _ = _
      rw [hfirst, List.flatMap_cons, List.flatMap_nil, List.append_nil]
    have hamounts : ((s.kindAward round league kind).paid now left).map (·.amount) =
        (s.kindAward round league kind).payments.map (·.amount) :=
      (s.kindAward round league kind).amounts_paid now left
    have hwinners : Prize.winners s (s.standings league.id) round setting kind ≠ [] := by
      intro hnone
      rw [hpayments, hnone, Prize.paid_nil, List.map_nil, List.map_eq_nil_iff] at hamounts
      exact hpaid hamounts
    rw [hamounts, hpayments, Prize.sum_paid hpayable hwinners]

end Store

theorem Decimal.ofPennies_inj {a b : Int} : Decimal.ofPennies a = Decimal.ofPennies b ↔ a = b := by
  refine ⟨fun h => ?_, congrArg _⟩
  simp only [ofPennies, ofUnits, Decimal.mk.injEq, and_true, Bool.and_false, Bool.or_false,
    decide_eq_decide] at h
  omega

/-- The lines of a report for a kind of prize that is paid for each round or month. -/
def WinningsReport.linesFor (report : WinningsReport) : PrizeKind → List PrizeLine
  | .round => report.roundPrizes
  | .monthly => report.monthlyPrizes
  | .overall | .mostExactScores => report.endOfSeasonPrizes

/-- An open line of a round or month shows what a settlement with a winner pays in all exactly when
the settings with the smallest id and with the best rank have the same amount. -/
theorem openLine_eq_settlement_iff {s t u : Store} (hs : s.Keyed) (ht : t.Keyed) {leagueId : Int}
    {now : DateTime} {report : WinningsReport}
    (hreport : (getWinnings leagueId now).Returns s report s)
    (hcalculated : report.calculated = true) {kind : PrizeKind} (hkind : kind.perPeriod = true)
    {line : PrizeLine} (hline : line ∈ report.linesFor kind) (hopen : line.userId = none)
    (hsettings : t.prizeSettings = s.prizeSettings) {roundId : Int} {now' : DateTime}
    {paid : List Winning} (hpaid : (Prize.processPrizes leagueId roundId now').Returns t paid u)
    (hwinner : paid.filter (s.paidByKind leagueId kind) ≠ []) {shown settled : PrizeSetting}
    (hshown : s.ShownPrize leagueId kind shown) (hsettled : s.SettledPrize leagueId kind settled)
    (hpayable : Prize.Payable settled) :
    line.amount =
        .ofPennies ((paid.filter (s.paidByKind leagueId kind)).map (·.amount)).sum ↔
      shown.amount = settled.amount := by
  obtain ⟨league, ⟨-, hleague⟩, hstore, -⟩ := Report.returns_getWinnings.1 hreport
  obtain rfl : league.id = leagueId := Table.id_of_get? hleague
  obtain ⟨-, -, rounds, hrounds, months, hmonths, rfl⟩ :=
    (Report.ofStore_eq_ok hcalculated).1 hstore
  have hamount : line.amount = .ofPennies shown.amount := by
    obtain ⟨first, hfirst, hamount⟩ : ∃ first, s.firstPrize? league.id kind = some first ∧
        line.amount = .ofPennies first.amount := by
      cases kind with
      | round => exact Report.amount_roundPart hrounds hline hopen
      | monthly => exact Report.amount_monthlyPart hmonths hline hopen
      | overall => exact absurd hkind (by decide)
      | mostExactScores => exact absurd hkind (by decide)
    rw [hamount, hs.shownPrize_unique hshown (hs.shownPrize hfirst)]
  have hsame : t.paidByKind = s.paidByKind := Store.paidByKind_congr hsettings
  have hsettled' : t.SettledPrize league.id kind settled := by
    rwa [Store.SettledPrize, Store.settingsOfKind_congr hsettings]
  rw [hamount, Decimal.ofPennies_inj, ← hsame,
    ht.sum_settled hpaid hkind hsettled' hpayable (hsame ▸ hwinner)]

/-- A league with two prizes for each round: the one of the best rank was made first. -/
def rankedPrizes : Store :=
  { Store.empty with
    users := [⟨10, "ann", "Ann", ""⟩]
    seasons := [⟨1, "2025", .newYear2025, .june2025, 1⟩]
    rounds := [⟨1, 1, 1, .newYear2025, .newYear2025, .completed, some .newYear2025⟩]
    leagues := [⟨1, 1, .newYear2025, 5, 3, 0⟩]
    members := [⟨1, 1, 10, .approved⟩]
    prizeSettings := [⟨1, 1, .round, 1, 1000, none⟩, ⟨2, 1, .round, 2, 500, none⟩]
    leagueResults := [⟨1, 1, 1, 10, 5, 5, false, none, 1⟩] }

/-- The same league with the prize of the second rank made first. -/
def unrankedPrizes : Store :=
  { rankedPrizes with
    prizeSettings := [⟨1, 1, .round, 2, 500, none⟩, ⟨2, 1, .round, 1, 1000, none⟩] }

/-- The report of a league with one round that shows an amount on its open line. -/
def reportShowing (amount : Int) : WinningsReport :=
  ⟨true, 1, .ofPennies 0, .ofPennies 0, [⟨"1", .ofPennies amount, none, none⟩], [], [],
    [⟨10, "Ann", .ofInt 0, .ofInt 0, .ofInt 0, .ofInt 0⟩]⟩

/-- The winnings of the round once it is settled by the prize of the best rank, with a given id. -/
def roundPaid (settingId : Int) : List Winning :=
  [⟨1, 10, settingId, 1000, some 1, none, .june2025⟩]

theorem ranked_prizes_keep_promise :
    (getWinnings 1 .june2025).Returns rankedPrizes (reportShowing 1000) rankedPrizes ∧
      (Prize.processPrizes 1 1 .june2025).Returns rankedPrizes (roundPaid 1)
        ((Prize.processPrizes 1 1 .june2025).storeAfter rankedPrizes) ∧
      Decimal.ofPennies 1000 = .ofPennies
        (((roundPaid 1).filter (rankedPrizes.paidByKind 1 .round)).map (·.amount)).sum := by
  have hkeyed : rankedPrizes.Keyed := by decide
  have hreport : (getWinnings 1 .june2025).Returns rankedPrizes (reportShowing 1000)
      rankedPrizes := by decide +kernel
  have hpaid : (Prize.processPrizes 1 1 .june2025).Returns rankedPrizes (roundPaid 1)
      ((Prize.processPrizes 1 1 .june2025).storeAfter rankedPrizes) := by decide +kernel
  have hline : (⟨"1", .ofPennies 1000, none, none⟩ : PrizeLine) ∈
      (reportShowing 1000).linesFor .round := List.mem_cons_self
  have hwinner : (roundPaid 1).filter (rankedPrizes.paidByKind 1 .round) ≠ [] := by decide
  have hshown : rankedPrizes.ShownPrize 1 .round ⟨1, 1, .round, 1, 1000, none⟩ := by decide
  have hsettled : rankedPrizes.SettledPrize 1 .round ⟨1, 1, .round, 1, 1000, none⟩ := by decide
  have hkept := openLine_eq_settlement_iff hkeyed hkeyed hreport rfl rfl hline rfl rfl hpaid
    hwinner hshown hsettled ⟨by decide, by decide⟩
  exact ⟨hreport, hpaid, hkept.2 rfl⟩

/-- An open line does not always show what a settlement pays: when the prize of the second rank was
made first, its amount is shown and that of the best rank is paid. -/
theorem unranked_prizes_break_promise : ¬∀ (s t : Store) (leagueId roundId : Int) (now : DateTime)
    (report : WinningsReport) (round : Round) (line : PrizeLine) (paid : List Winning), s.Keyed →
    (∀ setting ∈ s.prizeSettings, Prize.Payable setting) →
    (getWinnings leagueId now).Returns s report s → report.calculated = true →
    s.round? roundId = some round → line ∈ report.roundPrizes → line.userId = none →
    line.name = toString round.number →
    (Prize.processPrizes leagueId roundId now).Returns s paid t →
    paid.filter (s.paidByKind leagueId .round) ≠ [] →
    line.amount = .ofPennies ((paid.filter (s.paidByKind leagueId .round)).map (·.amount)).sum := by
  intro h
  have hpayable : ∀ setting ∈ unrankedPrizes.prizeSettings, Prize.Payable setting := by
    simp [Prize.Payable, unrankedPrizes]
  have hkept := h unrankedPrizes ((Prize.processPrizes 1 1 .june2025).storeAfter unrankedPrizes) 1 1
    .june2025 (reportShowing 500)
    ⟨1, 1, 1, .newYear2025, .newYear2025, .completed, some .newYear2025⟩
    ⟨"1", .ofPennies 500, none, none⟩ (roundPaid 2) (by decide) hpayable (by decide +kernel) rfl rfl
    List.mem_cons_self rfl (by decide +kernel) (by decide +kernel) (by decide)
  exact absurd hkept (by decide)

end PredictionLeague
