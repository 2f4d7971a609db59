import PredictionLeague.Proofs.Report.Leaderboard

/-!
# The lines account for the winnings

Every winning of a league stands on exactly one line of its report, and every prize that nobody has
won yet on exactly one open line.

* `Report.lineOf`: the line of a winning, named by its round, its month or its setting;
* `Report.openRounds`, `Report.openMonths`, `Report.openSettings`: the open lines;
* `Report.Listed`: lines that are, in some order, given paid and open ones;
* `Report.Accounts`: the lists of a report account for the winnings of the league and are in order;
* `Report.accounts_full`: the lists of a report that is calculated do so;
* `getWinnings_accounts`: the report of a league past its entry deadline.
-/

namespace PredictionLeague

open Engine

namespace Report

/-! ### What should be listed -/

/-- The name on the line of a winning of a setting. -/
def lineName (setting : PrizeSetting) (w : Winning) : String :=
  match setting.kind with
  | .round => roundName w.roundNumber
  | .monthly => (w.month.bind monthName?).getD ""
  | .overall | .mostExactScores => setting.title

/-- The line of a winning. -/
def lineOf (s : Store) (w : Winning) : PrizeLine :=
  paidLine s (((Table.get? s.prizeSettings w.settingId).map (lineName · w)).getD "") w

/-- An open line for each round of the season without a winning, when there are round prizes. -/
def openRounds (s : Store) (leagueId : Int) (season : Season) : List PrizeLine :=
  (s.firstPrize? leagueId .round).toList.flatMap fun setting =>
    ((roundNumbers season).filter fun n =>
      !(s.winningsOfKind leagueId .round).any (·.roundNumber == some n)).map
        fun n => openLine (toString n) setting

/-- An open line for each month of the season without a winning, when there are monthly prizes. -/
def openMonths (s : Store) (leagueId : Int) (season : Season) : List PrizeLine :=
  (s.firstPrize? leagueId .monthly).toList.flatMap fun setting =>
    ((seasonMonths season.start season.finish).filter fun (n : Nat) =>
      !(s.winningsOfKind leagueId .monthly).any (·.month == some (n : Int))).map
        fun (n : Nat) => openLine ((monthName? n).getD "") setting

/-- The settings of a league that are paid at the end of the season. -/
def seasonPrizes (s : Store) (leagueId : Int) : List PrizeSetting :=
  (s.prizesOf leagueId).filter fun setting => !setting.kind.perPeriod

/-- The winnings of the settings of a league that are paid at the end of the season. -/
def seasonWinnings (s : Store) (leagueId : Int) : List Winning :=
  s.winnings.filter
    (s.paidBy fun setting => setting.leagueId == leagueId && !setting.kind.perPeriod)

/-- An open line for each setting of the end of the season without a winning. -/
def openSettings (s : Store) (leagueId : Int) : List PrizeLine :=
  ((seasonPrizes s leagueId).filter fun setting =>
    !s.winnings.any (·.settingId == setting.id)).map fun setting => openLine setting.title setting

/-- Lines that are, in some order, given paid and open ones. -/
structure Listed (lines paid unpaid : List PrizeLine) : Prop where
  paid : (lines.filter (·.userId.isSome)).Perm paid
  unpaid : (lines.filter (·.userId.isNone)).Perm unpaid

/-- The lines of a setting of the end of the season: its winnings, or an open line. -/
def settingLines (s : Store) (setting : PrizeSetting) : List PrizeLine :=
  match s.winnings.filter (·.settingId == setting.id) with
  | [] => [openLine setting.title setting]
  | paid => paid.map (paidLine s setting.title)

/-- Settings of the end of the season in the order of the report: by kind, the larger amount first.
Amounts of more than 28 digits are compared after rounding and say nothing here. -/
def Precedes (a b : PrizeSetting) : Prop :=
  a.kind.sortOrder < b.kind.sortOrder ∨ a.kind = b.kind ∧
    (a.amount.natAbs < Decimal.tens Decimal.digitLimit →
      b.amount.natAbs < Decimal.tens Decimal.digitLimit → b.amount ≤ a.amount)

/-- The lists of a report account for the winnings of a league and for its open prizes, and they are
in order. -/
structure Accounts (s : Store) (leagueId : Int) (season : Season) (report : WinningsReport) :
    Prop where
  paid : ((report.roundPrizes ++ report.monthlyPrizes ++ report.endOfSeasonPrizes).filter
    (·.userId.isSome)).Perm ((s.winningsOf leagueId).map (lineOf s))
  rounds : Listed report.roundPrizes ((s.winningsOfKind leagueId .round).map (lineOf s))
    (openRounds s leagueId season)
  months : Listed report.monthlyPrizes ((s.winningsOfKind leagueId .monthly).map (lineOf s))
    (openMonths s leagueId season)
  settings : Listed report.endOfSeasonPrizes ((seasonWinnings s leagueId).map (lineOf s))
    (openSettings s leagueId)
  roundOrder : ∃ numbers : List Int, numbers.Pairwise (· ≤ ·) ∧
    report.roundPrizes.map (·.name) = numbers.map toString
  monthOrder : ∃ months : List Int,
    months.Pairwise (fun a b => monthBefore season.start a b = true) ∧
      report.monthlyPrizes.map (·.name) = months.map fun month => (monthName? month).getD ""
  settingOrder : ∃ settings : List PrizeSetting, settings.Perm (seasonPrizes s leagueId) ∧
    settings.Pairwise Precedes ∧ report.endOfSeasonPrizes = settings.flatMap (settingLines s)

variable {s : Store} {league : League} {leagueId : Int} {season : Season}

/-! ### Lists -/

theorem listed_of_perm {lines paid unpaid : List PrizeLine} (h : lines.Perm (paid ++ unpaid))
    (hpaid : ∀ line ∈ paid, line.userId.isSome = true)
    (hunpaid : ∀ line ∈ unpaid, line.userId = none) : Listed lines paid unpaid := by
  have hnone : paid.filter (·.userId.isNone) = [] :=
    List.filter_eq_nil_iff.2 fun line hline hopen => by
      have hsome := hpaid line hline
      rw [Option.isNone_iff_eq_none.1 hopen] at hsome
      exact Bool.false_ne_true hsome
  have hsome : unpaid.filter (·.userId.isSome) = [] :=
    List.filter_eq_nil_iff.2 fun line hline hwon => by
      rw [hunpaid line hline] at hwon
      exact Bool.false_ne_true hwon
  have hall : paid.filter (·.userId.isSome) = paid := List.filter_eq_self.2 hpaid
  have hopen : unpaid.filter (·.userId.isNone) = unpaid :=
    List.filter_eq_self.2 fun line hline => by rw [hunpaid line hline]; rfl
  constructor
  · refine (h.filter _).trans (.of_eq ?_)
    rw [List.filter_append, hall, hsome, List.append_nil]
  · refine (h.filter _).trans (.of_eq ?_)
    rw [List.filter_append, hnone, hopen, List.nil_append]

theorem listed_nil : Listed [] [] [] := ⟨.nil, .nil⟩

/-- The line of a winning of a kind of prize. -/
theorem lineOf_of_kind (hs : s.Keyed) {kind : PrizeKind} {w : Winning}
    (hw : s.paidByKind leagueId kind w = true) :
    ∃ setting ∈ s.settingsOfKind leagueId kind, setting.id = w.settingId ∧
      lineOf s w = paidLine s (lineName setting w) w := by
  obtain ⟨setting, hsetting, hid⟩ := List.mem_map.1 (Store.paidByKind_iff.1 hw)
  have hfound : Table.get? s.prizeSettings w.settingId = some setting :=
    (Table.get?_eq_some hs.prizeSettings).2 ⟨(Store.mem_settingsOfKind.1 hsetting).1, hid⟩
  refine ⟨setting, hsetting, hid, ?_⟩
  rw [lineOf, hfound]
  rfl

theorem lineOf_round (hs : s.Keyed) {w : Winning} (hw : s.paidByKind leagueId .round w = true) :
    lineOf s w = paidLine s (roundName w.roundNumber) w := by
  obtain ⟨setting, hsetting, -, hline⟩ := lineOf_of_kind hs hw
  rw [hline, lineName, (Store.mem_settingsOfKind.1 hsetting).2.2]

theorem lineOf_monthly (hs : s.Keyed) {w : Winning} (hw : s.paidByKind leagueId .monthly w = true) :
    lineOf s w = paidLine s ((w.month.bind monthName?).getD "") w := by
  obtain ⟨setting, hsetting, -, hline⟩ := lineOf_of_kind hs hw
  rw [hline, lineName, (Store.mem_settingsOfKind.1 hsetting).2.2]

/-! ### Rounds -/

/-- Rows of lines in the order of their keys list the paid and the open ones among them, with names
in the order of the keys. -/
theorem listed_sorted {κ : Type} {le : κ → κ → Bool} (total : ∀ a b, le a b ∨ le b a)
    (trans : ∀ a b c, le a b → le b c → le a c) (name : κ → String)
    {paid unpaid : List (κ × PrizeLine)} (hpaid : ∀ row ∈ paid, row.2.userId.isSome = true)
    (hunpaid : ∀ row ∈ unpaid, row.2.userId = none)
    (hname : ∀ row ∈ paid ++ unpaid, row.2.name = name row.1) {lines : List PrizeLine}
    (hlines : lines = (sorted (fun a b => le a.1 b.1) (paid ++ unpaid)).map (·.2)) :
    Listed lines (paid.map (·.2)) (unpaid.map (·.2)) ∧
      ∃ keys : List κ, keys.Pairwise (fun a b => le a b = true) ∧
        lines.map (·.name) = keys.map name := by
  subst hlines
  constructor
  · refine listed_of_perm ?_ ?_ ?_
    · rw [← List.map_append]
      exact (sorted_perm _).map _
    · intro line hline
      obtain ⟨row, hrow, rfl⟩ := List.mem_map.1 hline
      exact hpaid row hrow
    · intro line hline
      obtain ⟨row, hrow, rfl⟩ := List.mem_map.1 hline
      exact hunpaid row hrow
  · refine ⟨(sorted (fun a b => le a.1 b.1) (paid ++ unpaid)).map (·.1), ?_, ?_⟩
    · exact List.pairwise_map.2 (pairwise_sorted (fun a b => total a.1 b.1)
        (fun a b c => trans a.1 b.1 c.1) _)
    · rw [List.map_map, List.map_map]
      exact List.map_congr_left fun row hrow => hname row (mem_sorted.1 hrow)

/-- Without a setting of a kind there are no winnings of it. -/
theorem winningsOfKind_eq_nil {kind : PrizeKind} (h : s.firstPrize? leagueId kind = none) :
    s.winningsOfKind leagueId kind = [] := by
  refine List.filter_eq_nil_iff.2 fun w _ hpaid => ?_
  obtain ⟨setting, hsetting, -⟩ := List.mem_map.1 (Store.paidByKind_iff.1 hpaid)
  obtain ⟨hstored, hleague, hkind⟩ := Store.mem_settingsOfKind.1 hsetting
  have hmem : setting ∈ s.prizesOf leagueId :=
    List.mem_filter.2 ⟨hstored, beq_iff_eq.2 hleague⟩
  exact List.find?_eq_none.1 h setting hmem (beq_iff_eq.2 hkind)

/-- The order of lines by their numbers. -/
def numberBefore (a b : Option Int) : Bool := decide (a.getD 0 ≤ b.getD 0)

theorem numberBefore_total (a b : Option Int) : numberBefore a b ∨ numberBefore b a := by
  simpa [numberBefore] using Int.le_total (a.getD 0) (b.getD 0)

theorem numberBefore_trans (a b c : Option Int) (hab : numberBefore a b)
    (hbc : numberBefore b c) : numberBefore a c :=
  decide_eq_true (Int.le_trans (of_decide_eq_true hab) (of_decide_eq_true hbc))

/-- When all round winnings have a number, the lines of the round prizes list them and an open line
for each other round, by number. -/
theorem exists_roundPart (hs : s.Keyed) (hseason : s.season? league.seasonId = some season)
    (hnumbers : ∀ w ∈ s.winningsOfKind league.id .round, w.roundNumber ≠ none) :
    ∃ lines, roundPart s league = .ok lines ∧
      Listed lines ((s.winningsOfKind league.id .round).map (lineOf s))
        (openRounds s league.id season) ∧
      ∃ numbers : List Int, numbers.Pairwise (· ≤ ·) ∧
        lines.map (·.name) = numbers.map toString := by
  cases hfirst : s.firstPrize? league.id .round with
  | none =>
    refine ⟨[], linesOf_eq_ok.2 ?_, ?_, [], .nil, rfl⟩
    · rw [hfirst]
    · rw [winningsOfKind_eq_nil hfirst, openRounds, hfirst]
      exact listed_nil
  | some setting =>
    let winnings := s.winningsOfKind league.id .round
    let paid := winnings.map fun w => (w.roundNumber, paidLine s (roundName w.roundNumber) w)
    let unpaid := ((roundNumbers season).filter fun n =>
      !winnings.any (·.roundNumber == some n)).map fun n => (some n, openLine (toString n) setting)
    let lines := (sorted (fun a b => numberBefore a.1 b.1) (paid ++ unpaid)).map (·.2)
    have hnumbered : ∀ row ∈ paid ++ unpaid, ∃ n : Int,
        row.1 = some n ∧ row.2.name = toString n := by
      intro row hrow
      rcases List.mem_append.1 hrow with hrow | hrow
      · obtain ⟨w, hw, rfl⟩ := List.mem_map.1 hrow
        obtain ⟨n, hn⟩ := Option.ne_none_iff_exists'.1 (hnumbers w hw)
        refine ⟨n, hn, ?_⟩
        simp only [paidLine, hn, roundName]
      · obtain ⟨n, -, rfl⟩ := List.mem_map.1 hrow
        exact ⟨n, rfl, rfl⟩
    have hmade : byNumber (paid ++ unpaid) = .ok lines := by
      have hnone : ¬(1 < (paid ++ unpaid).length ∧ (paid ++ unpaid).any (·.1.isNone) = true) := by
        rintro ⟨-, hnone⟩
        obtain ⟨row, hrow, hnone⟩ := List.any_eq_true.1 hnone
        obtain ⟨n, hn, -⟩ := hnumbered row hrow
        rw [hn] at hnone
        exact Bool.false_ne_true hnone
      rw [byNumber, if_neg hnone]
      rfl
    have hpaid : winnings.map (lineOf s) = paid.map (·.2) := by
      rw [List.map_map]
      exact List.map_congr_left fun w hw => lineOf_round hs (List.of_mem_filter hw)
    have hunpaid : openRounds s league.id season = unpaid.map (·.2) := by
      rw [openRounds, hfirst, Option.toList_some, List.flatMap_cons, List.flatMap_nil,
        List.append_nil, List.map_map]
      rfl
    have hlines : Listed lines (paid.map (·.2)) (unpaid.map (·.2)) ∧
        ∃ keys : List (Option Int), keys.Pairwise (fun a b => numberBefore a b = true) ∧
          lines.map (·.name) = keys.map fun key => toString (key.getD 0) := by
      refine listed_sorted numberBefore_total numberBefore_trans _ ?_ ?_ ?_ rfl
      · intro row hrow
        obtain ⟨w, -, rfl⟩ := List.mem_map.1 hrow
        rfl
      · intro row hrow
        obtain ⟨n, -, rfl⟩ := List.mem_map.1 hrow
        rfl
      · intro row hrow
        obtain ⟨n, hn, hname⟩ := hnumbered row hrow
        rw [hname, hn]
        rfl
    obtain ⟨hlisted, keys, hkeys, hnames⟩ := hlines
    refine ⟨lines, linesOf_eq_ok.2 ?_, ?_, keys.map (·.getD 0), ?_, ?_⟩
    · simp only [hfirst, hseason]
      exact hmade
    · rw [hpaid, hunpaid]
      exact hlisted
    · exact List.pairwise_map.2 (hkeys.imp of_decide_eq_true)
    · rw [hnames, List.map_map]
      rfl

/-- The order of months in a season is total and transitive. -/
theorem monthBefore_total (start : DateTime) (a b : Int) :
    monthBefore start a b ∨ monthBefore start b a := by
  simp only [monthBefore, Bool.or_eq_true, Bool.and_eq_true, decide_eq_true_eq, beq_iff_eq]
  omega

theorem monthBefore_trans (start : DateTime) (a b c : Int) (hab : monthBefore start a b)
    (hbc : monthBefore start b c) : monthBefore start a c := by
  simp only [monthBefore, Bool.or_eq_true, Bool.and_eq_true, decide_eq_true_eq, beq_iff_eq]
    at hab hbc ⊢
  omega

theorem exists_monthName {month : Int} (hfirst : 1 ≤ month) (hlast : month ≤ 12) :
    ∃ name, monthName? month = some name := by
  have hlength : month.toNat < monthNames.length := by
    rw [show monthNames.length = 13 from rfl]
    omega
  rw [monthName?, if_pos (by omega)]
  exact ⟨_, List.getElem?_eq_getElem hlength⟩

/-- The line of a winning of a month, with the month. -/
def monthRow (s : Store) (w : Winning) : Int × PrizeLine :=
  (w.month.getD 0, paidLine s ((w.month.bind monthName?).getD "") w)

/-- The open line of a month, with the month. -/
def openMonthRow (setting : PrizeSetting) (n : Nat) : Int × PrizeLine :=
  (n, openLine ((monthName? n).getD "") setting)

/-- When all winnings have a month, the lines of a season are theirs and an open one for each other
month, by their place in the season. -/
theorem monthlyLines_eq (setting : PrizeSetting) (season : Season) {winnings : List Winning}
    (hmonths : ∀ w ∈ winnings, ∃ month : Int, w.month = some month ∧ 1 ≤ month ∧ month ≤ 12) :
    monthlyLines s setting winnings (some season) =
      .ok ((sorted (fun a b => monthBefore season.start a.1 b.1)
        (winnings.map (monthRow s) ++
          ((seasonMonths season.start season.finish).filter fun (n : Nat) =>
            !winnings.any (·.month == some (n : Int))).map (openMonthRow setting))).map (·.2)) := by
  have hmade : winnings.mapM (monthLine s) = .ok (winnings.map (monthRow s)) := by
    refine (mapM_congr fun w hw => ?_).trans List.mapM_pure
    obtain ⟨month, hmonth, hfirst, hlast⟩ := hmonths w hw
    obtain ⟨name, hname⟩ := exists_monthName hfirst hlast
    exact monthLine_eq_ok.2 ⟨month, name, hmonth, hname, by simp [monthRow, hmonth, hname]⟩
  rw [monthlyLines, hmade]
  rfl

/-- When all monthly winnings have a month, the lines of the monthly prizes list them and an open
line for each other month, by their place in the season. -/
theorem exists_monthlyPart (hs : s.Keyed) (hseason : s.season? league.seasonId = some season)
    (hmonths : ∀ w ∈ s.winningsOfKind league.id .monthly, ∃ month : Int, w.month = some month ∧
      1 ≤ month ∧ month ≤ 12) :
    ∃ lines, monthlyPart s league = .ok lines ∧
      Listed lines ((s.winningsOfKind league.id .monthly).map (lineOf s))
        (openMonths s league.id season) ∧
      ∃ months : List Int, months.Pairwise (fun a b => monthBefore season.start a b = true) ∧
        lines.map (·.name) = months.map fun month => (monthName? month).getD "" := by
  cases hfirst : s.firstPrize? league.id .monthly with
  | none =>
    refine ⟨[], linesOf_eq_ok.2 ?_, ?_, [], .nil, rfl⟩
    · rw [hfirst]
    · rw [winningsOfKind_eq_nil hfirst, openMonths, hfirst]
      exact listed_nil
  | some setting =>
    let winnings := s.winningsOfKind league.id .monthly
    let paid := winnings.map (monthRow s)
    let unpaid := ((seasonMonths season.start season.finish).filter fun (n : Nat) =>
      !winnings.any (·.month == some (n : Int))).map (openMonthRow setting)
    let lines := (sorted (fun a b => monthBefore season.start a.1 b.1) (paid ++ unpaid)).map (·.2)
    have hpaid : winnings.map (lineOf s) = paid.map (·.2) := by
      rw [List.map_map]
      exact List.map_congr_left fun w hw => lineOf_monthly hs (List.of_mem_filter hw)
    have hunpaid : openMonths s league.id season = unpaid.map (·.2) := by
      rw [openMonths, hfirst, Option.toList_some, List.flatMap_cons, List.flatMap_nil,
        List.append_nil, List.map_map]
      rfl
    have hlines : Listed lines (paid.map (·.2)) (unpaid.map (·.2)) ∧
        ∃ keys : List Int, keys.Pairwise (fun a b => monthBefore season.start a b = true) ∧
          lines.map (·.name) = keys.map fun month => (monthName? month).getD "" := by
      refine listed_sorted (monthBefore_total season.start) (monthBefore_trans season.start) _
        ?_ ?_ ?_ rfl
      · intro row hrow
        obtain ⟨w, -, rfl⟩ := List.mem_map.1 hrow
        rfl
      · intro row hrow
        obtain ⟨n, -, rfl⟩ := List.mem_map.1 hrow
        rfl
      · intro row hrow
        rcases List.mem_append.1 hrow with hrow | hrow
        · obtain ⟨w, hw, rfl⟩ := List.mem_map.1 hrow
          obtain ⟨month, hmonth, -⟩ := hmonths w hw
          simp only [monthRow, paidLine, hmonth, Option.bind_some, Option.getD_some]
        · obtain ⟨n, -, rfl⟩ := List.mem_map.1 hrow
          rfl
    obtain ⟨hlisted, hnames⟩ := hlines
    refine ⟨lines, linesOf_eq_ok.2 ?_, ?_, hnames⟩
    · simp only [hfirst, hseason]
      exact monthlyLines_eq setting season hmonths
    · rw [hpaid, hunpaid]
      exact hlisted

/-! ### The end of the season -/

theorem sortOrder_inj {kind kind' : PrizeKind} (h : kind.sortOrder = kind'.sortOrder) :
    kind = kind' := by
  cases kind <;> cases kind' <;> first | rfl | exact absurd h (by decide)

theorem prizeBefore_iff {a b : PrizeSetting} : prizeBefore a b = true ↔
    a.kind.sortOrder < b.kind.sortOrder ∨ a.kind = b.kind ∧
      (comparable b.amount).atMost (comparable a.amount) = true := by
  simp only [prizeBefore, Bool.or_eq_true, Bool.and_eq_true, decide_eq_true_eq, beq_iff_eq]

theorem prizeBefore_total (a b : PrizeSetting) : prizeBefore a b ∨ prizeBefore b a := by
  rw [prizeBefore_iff, prizeBefore_iff]
  rcases Nat.lt_trichotomy a.kind.sortOrder b.kind.sortOrder with hlt | heq | hlt
  · exact .inl (.inl hlt)
  · have hkind := sortOrder_inj heq
    rcases Decimal.atMost_total (comparable b.amount) (comparable a.amount) with hle | hle
    · exact .inl (.inr ⟨hkind, hle⟩)
    · exact .inr (.inr ⟨hkind.symm, hle⟩)
  · exact .inr (.inl hlt)

theorem prizeBefore_trans (a b c : PrizeSetting) (hab : prizeBefore a b) (hbc : prizeBefore b c) :
    prizeBefore a c := by
  rw [prizeBefore_iff] at hab hbc ⊢
  rcases hab with hab | ⟨hab, hle⟩
  · rcases hbc with hbc | ⟨hbc, -⟩
    · exact .inl (Nat.lt_trans hab hbc)
    · exact .inl (hbc ▸ hab)
  · rcases hbc with hbc | ⟨hbc, hle'⟩
    · exact .inl (hab ▸ hbc)
    · exact .inr ⟨hab.trans hbc, Decimal.atMost_trans hle' hle⟩

/-- Settings in the order of the report have the larger amount first. -/
theorem precedes_of_prizeBefore {a b : PrizeSetting} (h : prizeBefore a b = true) :
    Precedes a b := by
  refine (prizeBefore_iff.1 h).imp_right fun ⟨hkind, hle⟩ => ⟨hkind, fun ha hb => ?_⟩
  have hexact {n : Int} (hn : n.natAbs < Decimal.tens Decimal.digitLimit) :
      comparable n = Decimal.shown true n := Decimal.kept_shown true hn
  rw [hexact ha, hexact hb] at hle
  exact (Decimal.atMost_shown (by simp) (by simp)).1 hle

theorem seasonLines_eq (s : Store) (leagueId : Int) :
    seasonLines s (s.prizesOf leagueId) (s.winningsOf leagueId) =
      (sorted prizeBefore (seasonPrizes s leagueId)).flatMap (settingLines s) := by
  refine List.flatMap_congr fun setting hsetting => ?_
  obtain ⟨hprize, -⟩ := List.mem_filter.1 (mem_sorted.1 hsetting)
  have hpaid : (s.winningsOf leagueId).filter (·.settingId == setting.id) =
      s.winnings.filter (·.settingId == setting.id) := by
    rw [Store.winningsOf, List.filter_filter]
    refine List.filter_congr fun w _ => ?_
    by_cases hid : w.settingId = setting.id
    · obtain ⟨hstored, hleague⟩ := List.mem_filter.1 hprize
      have hpays : s.paidBy (·.leagueId == leagueId) w = true :=
        List.any_eq_true.2 ⟨setting, hstored, by simp [hid, beq_iff_eq.1 hleague]⟩
      rw [hpays, Bool.and_true]
    · simp [hid]
  simp only [hpaid, settingLines]
  cases s.winnings.filter (·.settingId == setting.id) <;> rfl

theorem settingLines_paid (s : Store) (setting : PrizeSetting) :
    (settingLines s setting).filter (·.userId.isSome) =
      (s.winnings.filter (·.settingId == setting.id)).map (paidLine s setting.title) := by
  rw [settingLines]
  cases s.winnings.filter (·.settingId == setting.id) with
  | nil => rfl
  | cons w ws =>
    refine List.filter_eq_self.2 fun line hline => ?_
    obtain ⟨w, -, rfl⟩ := List.mem_map.1 hline
    rfl

theorem settingLines_unpaid (s : Store) (setting : PrizeSetting) :
    (settingLines s setting).filter (·.userId.isNone) =
      if s.winnings.any (·.settingId == setting.id) then []
      else [openLine setting.title setting] := by
  rw [settingLines]
  cases hpaid : s.winnings.filter (·.settingId == setting.id) with
  | nil =>
    have hnone : s.winnings.any (·.settingId == setting.id) = false :=
      List.any_eq_false.2 (List.filter_eq_nil_iff.1 hpaid)
    rw [hnone]
    rfl
  | cons w ws =>
    have hsome : s.winnings.any (·.settingId == setting.id) = true := by
      have hw : w ∈ s.winnings.filter (·.settingId == setting.id) := by simp [hpaid]
      exact List.any_eq_true.2 ⟨w, List.mem_filter.1 hw⟩
    rw [hsome]
    refine List.filter_eq_nil_iff.2 fun line hline hopen => ?_
    obtain ⟨w, -, rfl⟩ := List.mem_map.1 hline
    exact Bool.false_ne_true hopen

theorem mem_seasonPrizes {setting : PrizeSetting} : setting ∈ seasonPrizes s leagueId ↔
    setting ∈ s.prizeSettings ∧ setting.leagueId = leagueId ∧ setting.kind.perPeriod = false := by
  rw [seasonPrizes, List.mem_filter, Store.prizesOf, List.mem_filter, beq_iff_eq, and_assoc,
    Bool.not_eq_true']

theorem lineOf_setting (hs : s.Keyed) {setting : PrizeSetting}
    (hsetting : setting ∈ seasonPrizes s leagueId) {w : Winning} (hw : w.settingId = setting.id) :
    lineOf s w = paidLine s setting.title w := by
  obtain ⟨hstored, -, hkind⟩ := mem_seasonPrizes.1 hsetting
  have hfound : Table.get? s.prizeSettings w.settingId = some setting :=
    (Table.get?_eq_some hs.prizeSettings).2 ⟨hstored, hw.symm⟩
  have hname : lineName setting w = setting.title := by
    unfold lineName
    cases hcase : setting.kind with
    | round | monthly =>
      rw [hcase] at hkind
      exact absurd hkind (by decide)
    | overall | mostExactScores => rfl
  rw [lineOf, hfound, Option.map_some, Option.getD_some, hname]

theorem seasonWinnings_eq (s : Store) (leagueId : Int) : seasonWinnings s leagueId =
    s.winnings.filter fun w => (seasonPrizes s leagueId).any (w.settingId == ·.id) := by
  refine List.filter_congr fun w _ => ?_
  rw [Bool.eq_iff_iff]
  simp only [Store.paidBy, List.any_eq_true, Bool.and_eq_true, beq_iff_eq, Bool.not_eq_true',
    mem_seasonPrizes]
  constructor
  · rintro ⟨setting, hstored, hid, hleague, hkind⟩
    exact ⟨setting, ⟨hstored, hleague, hkind⟩, hid.symm⟩
  · rintro ⟨setting, ⟨hstored, hleague, hkind⟩, hid⟩
    exact ⟨setting, hstored, hid.symm, hleague, hkind⟩

/-- The lines of the end of the season list its winnings and an open line for each setting
without. -/
theorem listed_seasonLines (hs : s.Keyed) (leagueId : Int) :
    Listed (seasonLines s (s.prizesOf leagueId) (s.winningsOf leagueId))
      ((seasonWinnings s leagueId).map (lineOf s)) (openSettings s leagueId) := by
  have hperm : (sorted prizeBefore (seasonPrizes s leagueId)).Perm (seasonPrizes s leagueId) :=
    sorted_perm _
  rw [seasonLines_eq]
  constructor
  · rw [List.filter_flatMap]
    refine (hperm.flatMap_right _).trans ?_
    -- Every winning is of one setting.
    have hnodup : (seasonPrizes s leagueId).Nodup :=
      .of_map _ ((hs.prizeSettings.filter _).filter _).nodup_ids
    have hone : ∀ a ∈ seasonPrizes s leagueId, ∀ b ∈ seasonPrizes s leagueId, ∀ w : Winning,
        (w.settingId == a.id) = true → (w.settingId == b.id) = true → a = b := by
      intro a ha b hb w hwa hwb
      exact hs.prizeSettings.eq_of_id_eq (mem_seasonPrizes.1 ha).1 (mem_seasonPrizes.1 hb).1
        ((beq_iff_eq.1 hwa).symm.trans (beq_iff_eq.1 hwb))
    rw [seasonWinnings_eq]
    refine .trans (.of_eq ?_) ((flatMap_picks_perm hnodup hone s.winnings).map (lineOf s))
    rw [List.map_flatMap]
    refine List.flatMap_congr fun setting hsetting => ?_
    rw [settingLines_paid]
    exact (List.map_congr_left fun w hw =>
      lineOf_setting hs hsetting (beq_iff_eq.1 (List.mem_filter.1 hw).2)).symm
  · rw [List.filter_flatMap]
    refine (hperm.flatMap_right _).trans (.of_eq ?_)
    rw [openSettings]
    induction seasonPrizes s leagueId with
    | nil => rfl
    | cons setting settings ih =>
      rw [List.flatMap_cons, ih, settingLines_unpaid, List.filter_cons]
      cases s.winnings.any (·.settingId == setting.id) <;> rfl

/-! ### The whole report -/

/-- The winnings of a league are those of its rounds, of its months and of the end of the season. -/
theorem winnings_perm (hs : s.Keyed) (leagueId : Int) :
    (s.winningsOfKind leagueId .round ++ s.winningsOfKind leagueId .monthly ++
      seasonWinnings s leagueId).Perm (s.winningsOf leagueId) := by
  have hkinds : [PrizeKind.overall, .mostExactScores].Nodup := by decide
  have hseason : (s.winningsOfKind leagueId .overall ++
      s.winningsOfKind leagueId .mostExactScores).Perm (seasonWinnings s leagueId) := by
    have hperm := hs.winningsOfKinds_perm leagueId hkinds
    rw [List.flatMap_cons, List.flatMap_cons, List.flatMap_nil, List.append_nil] at hperm
    refine hperm.trans (.of_eq (List.filter_congr fun w _ => ?_))
    rw [Store.any_paidByKind]
    refine congrArg (fun p => s.paidBy p w) (funext fun setting => ?_)
    cases setting.kind <;> rfl
  refine (hseason.symm.append_left _).trans (.trans (.of_eq ?_) (hs.winningsOf_perm leagueId))
  simp only [PrizeKind.all, List.flatMap_cons, List.flatMap_nil, List.append_nil,
    List.append_assoc]

/-- The lists of a report account for all winnings of the league. -/
theorem accounts_full (hs : s.Keyed) {rounds months : List PrizeLine}
    (hrounds : Listed rounds ((s.winningsOfKind league.id .round).map (lineOf s))
      (openRounds s league.id season))
    (hnumbers : ∃ numbers : List Int, numbers.Pairwise (· ≤ ·) ∧
      rounds.map (·.name) = numbers.map toString)
    (hmonths : Listed months ((s.winningsOfKind league.id .monthly).map (lineOf s))
      (openMonths s league.id season))
    (horder : ∃ numbers : List Int,
      numbers.Pairwise (fun a b => monthBefore season.start a b = true) ∧
        months.map (·.name) = numbers.map fun month => (monthName? month).getD "") :
    Accounts s league.id season (full s league rounds months) where
  paid := by
    have hsettings := listed_seasonLines hs league.id
    show ((rounds ++ months ++ seasonLines s _ _).filter _).Perm _
    rw [List.filter_append, List.filter_append]
    refine ((hrounds.paid.append hmonths.paid).append hsettings.paid).trans ?_
    rw [← List.map_append, ← List.map_append]
    exact (winnings_perm hs league.id).map _
  rounds := hrounds
  months := hmonths
  settings := listed_seasonLines hs league.id
  roundOrder := hnumbers
  monthOrder := horder
  settingOrder := by
    refine ⟨sorted prizeBefore (seasonPrizes s league.id), sorted_perm _, ?_,
      seasonLines_eq s league.id⟩
    exact (pairwise_sorted prizeBefore_total prizeBefore_trans _).imp precedes_of_prizeBefore

end Report

/-- The report of a league with prizes past its entry deadline, in a season that is there, is
calculated when all round winnings have a number and all monthly winnings a month. Its lists account
for all winnings of the league and its table lists the members. -/
theorem getWinnings_accounts {s : Store} (hs : s.Keyed) {leagueId : Int} {now : DateTime}
    {league : League} {season : Season}
    (hleague : fits leagueId = true ∧ s.league? leagueId = some league)
    (hdeadline : league.entryDeadline.stamp ≤ now.stamp) (hprizes : s.prizesOf leagueId ≠ [])
    (hseason : s.season? league.seasonId = some season)
    (hnumbers : ∀ w ∈ s.winningsOfKind leagueId .round, w.roundNumber ≠ none)
    (hmonths : ∀ w ∈ s.winningsOfKind leagueId .monthly,
      ∃ month : Int, w.month = some month ∧ 1 ≤ month ∧ month ≤ 12) :
    ∃ report, (getWinnings leagueId now).Returns s report s ∧ report.calculated = true ∧
      Report.Accounts s leagueId season report ∧
      Report.Tabled s leagueId report.leaderboard := by
  obtain rfl : league.id = leagueId := Table.id_of_get? hleague.2
  obtain ⟨rounds, hrounds, hroundsListed, hroundOrder⟩ :=
    Report.exists_roundPart hs hseason hnumbers
  obtain ⟨months, hmonthlies, hmonthsListed, hmonthOrder⟩ :=
    Report.exists_monthlyPart hs hseason hmonths
  refine ⟨Report.full s league rounds months,
    Report.returns_getWinnings.2 ⟨league, hleague, ?_, rfl⟩, rfl, ?_,
    Report.tabled_leaderboard hs league.id⟩
  · exact (Report.ofStore_eq_ok rfl).2
      ⟨hdeadline, hprizes, rounds, hrounds, months, hmonthlies, rfl⟩
  · exact Report.accounts_full hs hroundsListed hroundOrder hmonthsListed hmonthOrder

/-- A league with prizes for rounds, months and ranks. A round and a rank are paid, the rank to a
player who is not a member, and a tie has split the prize of the month. -/
def paidLeague : Store :=
  { Store.empty with
    users := [⟨10, "ann", "Ann", "Lee"⟩, ⟨11, "bob", "Bob", ""⟩, ⟨12, "cid", "Cid", ""⟩]
    seasons := [⟨1, "2025", .newYear2025, .june2025, 2⟩]
    leagues := [⟨1, 1, .newYear2025, 5, 3, 500⟩]
    members := [⟨1, 1, 10, .approved⟩, ⟨2, 1, 11, .approved⟩]
    prizeSettings := [⟨1, 1, .round, 1, 500, none⟩, ⟨2, 1, .monthly, 1, 1001, none⟩,
      ⟨3, 1, .overall, 1, 5000, some "Champion"⟩, ⟨4, 1, .overall, 2, 2000, none⟩]
    winnings := [⟨1, 10, 1, 500, some 2, none, .newYear2025⟩,
      ⟨2, 10, 2, 501, none, some 1, .newYear2025⟩, ⟨3, 11, 2, 500, none, some 1, .newYear2025⟩,
      ⟨4, 12, 3, 5000, none, none, .newYear2025⟩] }

theorem paid_league_accounts :
    paidLeague.Keyed ∧ ∃ report, (getWinnings 1 .june2025).Returns paidLeague report paidLeague ∧
      report.calculated = true ∧
      Report.Accounts paidLeague 1 ⟨1, "2025", .newYear2025, .june2025, 2⟩ report ∧
      Report.Tabled paidLeague 1 report.leaderboard := by
  have hkeyed : paidLeague.Keyed := by decide
  have hleague : fits 1 = true ∧ paidLeague.league? 1 = some ⟨1, 1, .newYear2025, 5, 3, 500⟩ := by
    decide
  have hmonths : ∀ w ∈ paidLeague.winningsOfKind 1 .monthly,
      ∃ month : Int, w.month = some month ∧ 1 ≤ month ∧ month ≤ 12 := by
    have hjanuary : ∀ w ∈ paidLeague.winningsOfKind 1 .monthly, w.month = some 1 := by decide
    exact fun w hw => ⟨1, hjanuary w hw, by decide, by decide⟩
  exact ⟨hkeyed, getWinnings_accounts hkeyed hleague (by decide) (by decide) rfl (by decide)
    hmonths⟩

/-- One player has won a round prize of a penny and a monthly prize of 27 digits before the
point. -/
def dearMonth : Store :=
  { Store.empty with
    users := [⟨10, "ann", "Ann", ""⟩]
    seasons := [⟨1, "2025", .newYear2025, .newYear2025, 1⟩]
    leagues := [⟨1, 1, .newYear2025, 5, 3, 0⟩]
    members := [⟨1, 1, 10, .approved⟩]
    prizeSettings := [⟨1, 1, .round, 1, 1, none⟩,
      ⟨2, 1, .monthly, 1, 10000000000000000476472934400, none⟩]
    winnings := [⟨1, 10, 1, 1, some 1, none, .newYear2025⟩,
      ⟨2, 10, 2, 10000000000000000476472934400, none, some 1, .newYear2025⟩] }

/-- The table of a report does not always add up: with amounts of more than 28 digits the penny is
rounded away from the total. -/
theorem dear_month_does_not_add_up : ¬∀ (s : Store) (leagueId : Int) (now : DateTime)
    (league : League) (season : Season) (report : WinningsReport), s.Keyed →
    s.league? leagueId = some league → league.entryDeadline.stamp ≤ now.stamp →
    s.prizesOf leagueId ≠ [] → s.season? league.seasonId = some season →
    (∀ w ∈ s.winningsOfKind leagueId .round, w.roundNumber ≠ none) →
    (∀ w ∈ s.winningsOfKind leagueId .monthly,
      ∃ month : Int, w.month = some month ∧ 1 ≤ month ∧ month ≤ 12) →
    (getWinnings leagueId now).Returns s report s → ∀ e ∈ report.leaderboard,
      e.total.units (-2) =
        e.round.units (-2) + e.monthly.units (-2) + e.endOfSeason.units (-2) := by
  intro h
  have hmonths : ∀ w ∈ dearMonth.winningsOfKind 1 .monthly,
      ∃ month : Int, w.month = some month ∧ 1 ≤ month ∧ month ≤ 12 := by
    have hjanuary : ∀ w ∈ dearMonth.winningsOfKind 1 .monthly, w.month = some 1 := by decide
    exact fun w hw => ⟨1, hjanuary w hw, by decide, by decide⟩
  have hsum := h dearMonth 1 .june2025 ⟨1, 1, .newYear2025, 5, 3, 0⟩
    ⟨1, "2025", .newYear2025, .newYear2025, 1⟩
    ⟨true, 1, .ofPennies 0, .ofPennies 0, [⟨"1", .ofPennies 1, some "Ann", some 10⟩],
      [⟨"January", .ofPennies 10000000000000000476472934400, some "Ann", some 10⟩], [],
      [⟨10, "Ann", .ofPennies 1, ⟨false, 1000000000000000047647293440, -1⟩, ⟨false, 0, -1⟩,
        ⟨false, 1000000000000000047647293440, -1⟩⟩]⟩
    (by decide) rfl (by decide) (by decide) rfl (by decide) hmonths (by decide +kernel) _
    List.mem_cons_self
  exact absurd hsum (by decide)

end PredictionLeague
