import PredictionLeague.Proofs.Prize.Kind
import PredictionLeague.Report

/-!
# The parts of a report

A report that is calculated has the lines of each kind of prize and the table of the members. The
winnings of a league are those of its kinds of prizes, each of them of one kind.

* `Store.prizesOf`, `Store.firstPrize?`, `Store.winningsOfKind`: what the parts are made of;
* `Keyed.winningsOf_perm`: the winnings of a league are those of all kinds together;
* `Report.ofStore_eq_ok`, `Report.returns_getWinnings`: when a report is calculated, and its parts;
* `Report.linesOf_eq_ok`: the lines of round and monthly prizes are made for the first setting;
* `Report.amount_roundPart`, `Report.amount_monthlyPart`: what the open ones among them show.
-/

namespace PredictionLeague

open Engine

namespace Store

/-- The settings of a league in the order of their ids. -/
def prizesOf (s : Store) (leagueId : Int) : List PrizeSetting :=
  s.prizeSettings.filter (·.leagueId == leagueId)

/-- The setting of a kind of prize of a league with the smallest id. -/
def firstPrize? (s : Store) (leagueId : Int) (kind : PrizeKind) : Option PrizeSetting :=
  (s.prizesOf leagueId).find? (·.kind == kind)

/-- The winnings that settings of a kind of prize in a league pay. -/
def winningsOfKind (s : Store) (leagueId : Int) (kind : PrizeKind) : List Winning :=
  s.winnings.filter (s.paidByKind leagueId kind)

theorem any_prizesOf (s : Store) (leagueId : Int) (p : PrizeSetting → Bool) (w : Winning) :
    ((s.prizesOf leagueId).any fun setting => setting.id == w.settingId && p setting) =
      s.paidBy (fun setting => setting.leagueId == leagueId && p setting) w := by
  rw [prizesOf, List.any_filter, paidBy]
  refine congrArg s.prizeSettings.any (funext fun setting => ?_)
  rw [Bool.and_left_comm]

/-- The winnings of a kind are among those of the league. -/
theorem filter_winningsOf (s : Store) (leagueId : Int) (p : PrizeSetting → Bool) :
    ((s.winningsOf leagueId).filter fun w =>
        (s.prizesOf leagueId).any fun setting => setting.id == w.settingId && p setting) =
      s.winnings.filter (s.paidBy fun setting => setting.leagueId == leagueId && p setting) := by
  rw [winningsOf, List.filter_filter]
  refine List.filter_congr fun w _ => ?_
  rw [any_prizesOf]
  by_cases hpaid : s.paidBy (fun setting => setting.leagueId == leagueId && p setting) w = true
  · obtain ⟨setting, hstored, hmatch⟩ := List.any_eq_true.1 hpaid
    simp only [Bool.and_eq_true] at hmatch
    have hleague : s.paidBy (·.leagueId == leagueId) w = true :=
      List.any_eq_true.2 ⟨setting, hstored, by simp [hmatch]⟩
    rw [hleague, Bool.and_true]
  · rw [Bool.eq_false_of_not_eq_true hpaid, Bool.false_and]

/-- The winnings of several kinds of prizes of a league together. -/
theorem Keyed.winningsOfKinds_perm {s : Store} (hs : s.Keyed) (leagueId : Int)
    {kinds : List PrizeKind} (hkinds : kinds.Nodup) :
    (kinds.flatMap (s.winningsOfKind leagueId)).Perm
      (s.winnings.filter fun w => kinds.any fun kind => s.paidByKind leagueId kind w) :=
  flatMap_picks_perm (p := s.paidByKind leagueId) hkinds
    (fun _ _ _ _ _ hi hj => hs.paidByKind_unique hi hj) s.winnings

/-- A setting of a league has some kind. -/
theorem any_paidByKind (s : Store) (leagueId : Int) (kinds : List PrizeKind) (w : Winning) :
    (kinds.any fun kind => s.paidByKind leagueId kind w) =
      s.paidBy (fun setting => setting.leagueId == leagueId && kinds.contains setting.kind) w := by
  rw [Bool.eq_iff_iff]
  simp only [paidByKind, paidBy, List.any_eq_true, Bool.and_eq_true, beq_iff_eq,
    List.contains_iff_mem]
  constructor
  · rintro ⟨kind, hkind, setting, hstored, hid, hleague, rfl⟩
    exact ⟨setting, hstored, hid, hleague, hkind⟩
  · rintro ⟨setting, hstored, hid, hleague, hkind⟩
    exact ⟨setting.kind, hkind, setting, hstored, hid, hleague, rfl⟩

/-- The winnings of a league are those of all kinds of prizes together. -/
theorem Keyed.winningsOf_perm {s : Store} (hs : s.Keyed) (leagueId : Int) :
    (PrizeKind.all.flatMap (s.winningsOfKind leagueId)).Perm (s.winningsOf leagueId) := by
  refine (hs.winningsOfKinds_perm leagueId (by decide)).trans (.of_eq ?_)
  refine List.filter_congr fun w _ => ?_
  rw [any_paidByKind]
  refine congrArg (fun p => s.paidBy p w) (funext fun setting => ?_)
  have hall : PrizeKind.all.contains setting.kind = true := by cases setting.kind <;> rfl
  rw [hall, Bool.and_true]

end Store

namespace Report

variable {s : Store} {league : League} {now : DateTime} {report : WinningsReport}

/-- The lines of the round prizes of a league. -/
def roundPart (s : Store) (league : League) : Except Fault (List PrizeLine) :=
  linesOf .round (s.prizesOf league.id) (s.winningsOf league.id) fun setting winnings =>
    match s.season? league.seasonId with
    | none => .error (.absentRow "number_of_rounds")
    | some season => roundLines s setting winnings season

/-- The lines of the monthly prizes of a league. -/
def monthlyPart (s : Store) (league : League) : Except Fault (List PrizeLine) :=
  linesOf .monthly (s.prizesOf league.id) (s.winningsOf league.id) fun setting winnings =>
    monthlyLines s setting winnings (s.season? league.seasonId)

/-- The report of a league with the given lines of round and monthly prizes. -/
def full (s : Store) (league : League) (roundPrizes monthlyPrizes : List PrizeLine) :
    WinningsReport :=
  ⟨true, (players s league.id).length, .ofPennies league.price,
    (Decimal.ofPennies league.price * .ofInt (players s league.id).length).kept,
    roundPrizes, monthlyPrizes, seasonLines s (s.prizesOf league.id) (s.winningsOf league.id),
    leaderboard s league.id (s.prizesOf league.id) (s.winningsOf league.id)⟩

/-- A report is calculated from the entry deadline on, when the league has prizes. -/
theorem ofStore_eq_ok (hcalculated : report.calculated = true) :
    ofStore s league now = .ok report ↔
      league.entryDeadline.stamp ≤ now.stamp ∧ s.prizesOf league.id ≠ [] ∧
        ∃ roundPrizes, roundPart s league = .ok roundPrizes ∧
          ∃ monthlyPrizes, monthlyPart s league = .ok monthlyPrizes ∧
            full s league roundPrizes monthlyPrizes = report := by
  have hwinnings : (s.winnings.filter fun w =>
      (s.prizesOf league.id).any (·.id == w.settingId)) = s.winningsOf league.id := by
    refine List.filter_congr fun w _ => ?_
    rw [Store.prizesOf, List.any_filter, Store.paidBy]
    exact congrArg s.prizeSettings.any (funext fun setting => Bool.and_comm ..)
  rw [ofStore, ← Store.prizesOf, hwinnings]
  split
  · rename_i hearly
    rw [List.isEmpty_iff] at hearly
    constructor
    · intro h
      rw [← Except.ok.inj h] at hcalculated
      exact absurd hcalculated Bool.false_ne_true
    · rintro ⟨hdeadline, hprizes, -⟩
      exact absurd hearly (not_or.2 ⟨Nat.not_lt.2 hdeadline, hprizes⟩)
  · rename_i hlate
    rw [List.isEmpty_iff, not_or] at hlate
    rw [and_iff_right (Nat.not_lt.1 hlate.1), and_iff_right hlate.2]
    simp only [bind_eq_ok, pure, Except.pure, Except.ok.injEq]
    rfl

theorem returns_getWinnings {leagueId : Int} {s' : Store} :
    (getWinnings leagueId now).Returns s report s' ↔
      ∃ league, (fits leagueId ∧ s.league? leagueId = some league) ∧
        ofStore s league now = .ok report ∧ s' = s := by
  unfold getWinnings
  rw [returns_getLeague_bind]
  refine exists_congr fun league => and_congr_right fun _ => ?_
  rw [returns_current_bind]
  cases ofStore s league now with
  | error fault => simp [lift, not_returns_throw]
  | ok value => simp [lift, returns_pure, eq_comm]

/-! ### Lines of a kind of prize -/

/-- Without a setting of a kind there are no lines; otherwise they are made for its first setting
and its winnings. -/
theorem linesOf_eq_ok {leagueId : Int} {kind : PrizeKind} {lines : List PrizeLine}
    {make : PrizeSetting → List Winning → Except Fault (List PrizeLine)} :
    linesOf kind (s.prizesOf leagueId) (s.winningsOf leagueId) make = .ok lines ↔
      match s.firstPrize? leagueId kind with
      | none => lines = []
      | some setting => make setting (s.winningsOfKind leagueId kind) = .ok lines := by
  unfold linesOf
  rw [← Store.firstPrize?, s.filter_winningsOf leagueId (·.kind == kind)]
  cases s.firstPrize? leagueId kind with
  | none => simp [eq_comm]
  | some setting => exact Iff.rfl

theorem byNumber_eq_ok {rows : List (Option Int × PrizeLine)} {lines : List PrizeLine}
    (h : byNumber rows = .ok lines) :
    lines = (sorted (fun a b => decide (a.1.getD 0 ≤ b.1.getD 0)) rows).map (·.2) := by
  unfold byNumber at h
  split at h
  · exact absurd h (by simp)
  · exact (Except.ok.inj h).symm

/-- Only open lines have no winner. -/
theorem amount_of_open {κ : Type} {setting : PrizeSetting} {paid unpaid : List (κ × PrizeLine)}
    {before : κ × PrizeLine → κ × PrizeLine → Bool}
    (hpaid : ∀ row ∈ paid, row.2.userId ≠ none)
    (hunpaid : ∀ row ∈ unpaid, row.2.amount = .ofPennies setting.amount) {line : PrizeLine}
    (hline : line ∈ (sorted before (paid ++ unpaid)).map (·.2)) (hopen : line.userId = none) :
    line.amount = .ofPennies setting.amount := by
  obtain ⟨row, hrow, rfl⟩ := List.mem_map.1 hline
  rcases List.mem_append.1 (mem_sorted.1 hrow) with hrow | hrow
  · exact absurd hopen (hpaid row hrow)
  · exact hunpaid row hrow

/-- An open line of a round has the amount of the first round prize. -/
theorem amount_roundPart {lines : List PrizeLine} (h : roundPart s league = .ok lines)
    {line : PrizeLine} (hline : line ∈ lines) (hopen : line.userId = none) :
    ∃ setting, s.firstPrize? league.id .round = some setting ∧
      line.amount = .ofPennies setting.amount := by
  have hlines := linesOf_eq_ok.1 h
  cases hfirst : s.firstPrize? league.id .round with
  | none =>
    rw [hfirst] at hlines
    subst hlines
    exact absurd hline (by simp)
  | some setting =>
    rw [hfirst] at hlines
    refine ⟨setting, rfl, ?_⟩
    cases hseason : s.season? league.seasonId with
    | none =>
      rw [hseason] at hlines
      exact absurd hlines (by simp)
    | some season =>
      rw [hseason] at hlines
      rw [byNumber_eq_ok hlines] at hline
      refine amount_of_open ?_ ?_ hline hopen
      · intro row hrow
        obtain ⟨w, -, rfl⟩ := List.mem_map.1 hrow
        simp [paidLine]
      · intro row hrow
        obtain ⟨n, -, rfl⟩ := List.mem_map.1 hrow
        rfl

theorem monthLine_eq_ok {w : Winning} {row : Int × PrizeLine} :
    monthLine s w = .ok row ↔ ∃ month name, w.month = some month ∧ monthName? month = some name ∧
      row = (month, paidLine s name w) := by
  unfold monthLine
  split
  · rename_i hmonth
    simp [hmonth]
  · rename_i month hmonth
    split
    · rename_i hname
      simp [hmonth, hname]
    · rename_i name hname
      simp [hmonth, hname, eq_comm]

/-- An open line of a month has the amount of the first monthly prize. -/
theorem amount_monthlyPart {lines : List PrizeLine} (h : monthlyPart s league = .ok lines)
    {line : PrizeLine} (hline : line ∈ lines) (hopen : line.userId = none) :
    ∃ setting, s.firstPrize? league.id .monthly = some setting ∧
      line.amount = .ofPennies setting.amount := by
  have hlines := linesOf_eq_ok.1 h
  cases hfirst : s.firstPrize? league.id .monthly with
  | none =>
    rw [hfirst] at hlines
    subst hlines
    exact absurd hline (by simp)
  | some setting =>
    rw [hfirst] at hlines
    refine ⟨setting, rfl, ?_⟩
    obtain ⟨paid, hpaid, hlines⟩ := bind_eq_ok.1 hlines
    cases hseason : s.season? league.seasonId with
    | none =>
      rw [hseason] at hlines
      exact absurd hlines (by simp)
    | some season =>
      rw [hseason] at hlines
      rw [← Except.ok.inj hlines] at hline
      refine amount_of_open ?_ ?_ hline hopen
      · intro row hrow
        obtain ⟨w, -, hrow⟩ := (mem_of_mapM_ok hpaid).1 row hrow
        obtain ⟨month, name, -, -, rfl⟩ := monthLine_eq_ok.1 hrow
        simp [paidLine]
      · intro row hrow
        obtain ⟨n, -, rfl⟩ := List.mem_map.1 hrow
        rfl

end Report

end PredictionLeague
