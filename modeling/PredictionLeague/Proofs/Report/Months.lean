import PredictionLeague.Proofs.Calendar
import PredictionLeague.Proofs.Report.Account

/-!
# The monthly lines follow the season

In a season of up to twelve months the report lists the monthly prizes month by month, from the
first month of the season to the last, also across a new year.

* `Report.linesIn`: the lines of a month;
* `Report.monthRows_filter`, `Report.openMonthRows_filter`: the rows of a month, won and open;
* `Report.monthlyLines_follow`: the monthly lines are the lines of the months in turn;
* `seasonMonths_in_order`: the months of a season, their places and their lines.
-/

namespace PredictionLeague

namespace Report

variable {s : Store} {setting : PrizeSetting} {winnings : List Winning} {season : Season} {n : Nat}

/-! ### The lines of a month -/

/-- The lines of a month: those of its winnings, or an open one. -/
def linesIn (s : Store) (setting : PrizeSetting) (winnings : List Winning) (n : Nat) :
    List PrizeLine :=
  match winnings.filter (·.month == some (n : Int)) with
  | [] => [openLine ((monthName? n).getD "") setting]
  | paid => paid.map (paidLine s ((monthName? n).getD ""))

/-- Every month has a line, with its name. -/
theorem exists_mem_linesIn (s : Store) (setting : PrizeSetting) (winnings : List Winning)
    (hfirst : 1 ≤ n) (hlast : n ≤ 12) :
    ∃ line ∈ linesIn s setting winnings n, some line.name = monthName? n := by
  obtain ⟨name, hname⟩ : ∃ name, monthName? (n : Int) = some name :=
    exists_monthName (by omega) (by omega)
  rw [linesIn, hname]
  cases winnings.filter (·.month == some (n : Int)) with
  | nil => exact ⟨_, List.mem_singleton_self _, rfl⟩
  | cons w ws => exact ⟨_, List.mem_cons_self, rfl⟩

/-! ### The lines of a season -/

/-- The rows that were won in a month are those of its winnings. -/
theorem monthRows_filter (hmonths : ∀ w ∈ winnings, w.month ≠ none) (n : Nat) :
    ((winnings.map (monthRow s)).filter (·.1 == (n : Int))).map (·.2) =
      (winnings.filter (·.month == some (n : Int))).map (paidLine s ((monthName? n).getD "")) := by
  have hown : ∀ w ∈ winnings, ((monthRow s w).1 == (n : Int)) = (w.month == some (n : Int)) := by
    intro w hw
    obtain ⟨month, hmonth⟩ := Option.ne_none_iff_exists'.1 (hmonths w hw)
    simp [monthRow, hmonth]
  rw [List.filter_map, List.map_map]
  show (winnings.filter fun w => (monthRow s w).1 == (n : Int)).map _ = _
  rw [List.filter_congr hown]
  refine List.map_congr_left fun w hw => ?_
  have hmonth : w.month = some (n : Int) := eq_of_beq (List.mem_filter.1 hw).2
  simp [monthRow, hmonth]

/-- Among different months a month has one open row, or none. -/
theorem openMonthRows_filter {months : List Nat} (hnodup : months.Nodup) (hn : n ∈ months)
    (p : Nat → Bool) :
    (((months.filter p).map (openMonthRow setting)).filter (·.1 == (n : Int))).map (·.2) =
      if p n then [openLine ((monthName? n).getD "") setting] else [] := by
  have hkey : (fun row : Int × PrizeLine => row.1 == (n : Int)) ∘ openMonthRow setting =
      (· == n) := by
    funext m
    simp [openMonthRow]
  rw [List.filter_map, hkey, List.filter_beq, List.map_map]
  split
  · rename_i hp
    rw [List.count_eq_one_of_mem (hnodup.filter p) (List.mem_filter.2 ⟨hn, hp⟩)]
    rfl
  · rename_i hp
    rw [List.count_eq_zero_of_not_mem fun hmem => hp (List.of_mem_filter hmem)]
    rfl

/-- The lines of a month are its winnings and, when there are none, an open line. -/
theorem linesIn_eq (s : Store) (setting : PrizeSetting) (winnings : List Winning) (n : Nat) :
    linesIn s setting winnings n =
      (winnings.filter (·.month == some (n : Int))).map (paidLine s ((monthName? n).getD "")) ++
        if !winnings.any (·.month == some (n : Int)) then
          [openLine ((monthName? n).getD "") setting]
        else [] := by
  rw [linesIn]
  cases hpaid : winnings.filter (·.month == some (n : Int)) with
  | nil =>
    have hnone : winnings.any (·.month == some (n : Int)) = false :=
      List.any_eq_false.2 fun w hw => List.filter_eq_nil_iff.1 hpaid w hw
    rw [hnone]
    rfl
  | cons w ws =>
    have hw : w ∈ winnings.filter (·.month == some (n : Int)) := hpaid ▸ List.mem_cons_self
    have hsome : winnings.any (·.month == some (n : Int)) = true :=
      List.any_eq_true.2 ⟨w, List.mem_filter.1 hw⟩
    rw [hsome]
    exact (List.append_nil _).symm

/-- In a season of up to twelve months the monthly lines are those of its months in turn, when all
winnings lie in them. -/
theorem monthlyLines_follow (hlength : (seasonMonths season.start season.finish).length ≤ 12)
    (hmonths : ∀ w ∈ winnings, ∃ n ∈ seasonMonths season.start season.finish,
      w.month = some (n : Int)) (s : Store) (setting : PrizeSetting) :
    monthlyLines s setting winnings (some season) =
      .ok ((seasonMonths season.start season.finish).flatMap (linesIn s setting winnings)) := by
  let months := seasonMonths season.start season.finish
  let unpaid := (months.filter fun (n : Nat) => !winnings.any (·.month == some (n : Int))).map
    (openMonthRow setting)
  let rows := winnings.map (monthRow s) ++ unpaid
  have hranges : ∀ w ∈ winnings, ∃ month : Int, w.month = some month ∧ 1 ≤ month ∧ month ≤ 12 := by
    intro w hw
    obtain ⟨n, hn, hmonth⟩ := hmonths w hw
    have hrange := range_of_mem_seasonMonths hn
    exact ⟨n, hmonth, by omega, by omega⟩
  have hkeys : ∀ row ∈ rows, row.1 ∈ months.map ((↑) : Nat → Int) := by
    intro row hrow
    rcases List.mem_append.1 hrow with hrow | hrow
    · obtain ⟨w, hw, rfl⟩ := List.mem_map.1 hrow
      obtain ⟨n, hn, hmonth⟩ := hmonths w hw
      exact List.mem_map.2 ⟨n, hn, by simp [monthRow, hmonth]⟩
    · obtain ⟨n, hn, rfl⟩ := List.mem_map.1 hrow
      exact List.mem_map.2 ⟨n, List.mem_of_mem_filter hn, rfl⟩
  have hsorted : sorted (fun a b => monthBefore season.start a.1 b.1) rows =
      (months.map ((↑) : Nat → Int)).flatMap fun k => rows.filter (·.1 == k) :=
    sorted_eq_flatMap (fun k => by simpa using monthBefore_total season.start k k) Prod.fst
      (List.pairwise_map.2 (pairwise_monthBefore hlength)) hkeys
  rw [monthlyLines_eq setting season hranges]
  show Except.ok ((sorted _ rows).map (·.2)) = _
  rw [hsorted, List.flatMap_map, List.map_flatMap]
  refine congrArg _ (List.flatMap_congr fun n hn => ?_)
  rw [List.filter_append, List.map_append, monthRows_filter, openMonthRows_filter, linesIn_eq]
  · exact nodup_seasonMonths hlength
  · exact hn
  · intro w hw
    obtain ⟨n, -, hmonth⟩ := hmonths w hw
    simp [hmonth]

end Report

open CalendarMonth

/-- The walk from the start of a season to its end stops, with as many months as lie between the two
dates, both included, and with the numbers going round after December. When there are no more than
twelve of them the key of a month is its year and number, so the keys ascend, and the monthly lines
are those of the months in turn, at least one for each, wherever in the season its winnings lie. -/
theorem seasonMonths_in_order (season : Season) :
    let months := seasonMonths season.start season.finish
    let first := season.start.calendarMonth
    (∀ numbers, Walks season.finish.calendarMonth first numbers ↔ numbers = months) ∧
    (months.length : Int) = max 0 (12 * ((season.finish.year : Int) - season.start.year) +
      season.finish.month - season.start.month + 1) ∧
    (∀ k (hk : k < months.length), months[k] = (season.start.month - 1 + k) % 12 + 1) ∧
    (months.length ≤ 12 →
      (∀ k (hk : k < months.length), monthSortKey months[k] season.start =
        ((first.later k).year, ((first.later k).month : Int))) ∧
      (months.map fun (n : Nat) => monthSortKey n season.start).Pairwise
        (Prod.Lex (· < ·) (· < ·)) ∧
      ∀ s setting winnings, (∀ w ∈ winnings, ∃ n ∈ months, w.month = some (n : Int)) →
        ∃ lines, Report.monthlyLines s setting winnings (some season) = .ok lines ∧
          lines = months.flatMap (Report.linesIn s setting winnings) ∧
          ∀ n ∈ months, ∃ line ∈ lines, some line.name = monthName? n) := by
  intro months first
  refine ⟨fun numbers => walks_iff_seasonMonths, length_seasonMonths _ _, fun k hk => ?_,
    fun hlength => ⟨fun k hk => ?_, pairwise_monthSortKey hlength, ?_⟩⟩
  · exact (getElem_seasonMonths hk).trans (month_later _ k)
  · rw [getElem_seasonMonths hk]
    exact monthSortKey_later season.start (Nat.lt_of_lt_of_le hk hlength)
  · intro s setting winnings hmonths
    refine ⟨_, Report.monthlyLines_follow hlength hmonths s setting, rfl, fun n hn => ?_⟩
    obtain ⟨hfirst, hlast⟩ := range_of_mem_seasonMonths hn
    obtain ⟨line, hline, hname⟩ :=
      Report.exists_mem_linesIn s setting winnings hfirst hlast
    exact ⟨line, List.mem_flatMap.2 ⟨n, hn, hline⟩, hname⟩

/-- A season from November to January. -/
def winterSeason : Season :=
  ⟨1, "Winter", { DateTime.newYear2025 with
      year := 2024
      month := 11
      month_pos := by decide
      month_le := by decide
      day_le := by decide }, .newYear2025, 12⟩

/-- A tie in January comes after the open lines of November and December. -/
theorem winter_season_in_order :
    let months := seasonMonths winterSeason.start winterSeason.finish
    let january := paidLeague.winningsOfKind 1 .monthly
    months.length ≤ 12 ∧ (∀ w ∈ january, ∃ n ∈ months, w.month = some (n : Int)) ∧
      Walks winterSeason.finish.calendarMonth winterSeason.start.calendarMonth [11, 12, 1] ∧
      (months.map fun (n : Nat) => monthSortKey n winterSeason.start).Pairwise
        (Prod.Lex (· < ·) (· < ·)) ∧
      ∃ lines, Report.monthlyLines paidLeague ⟨2, 1, .monthly, 1, 1001, none⟩ january
          (some winterSeason) = .ok lines ∧
        lines.map (fun line => (line.name, line.userId)) = [("November", none), ("December", none),
          ("January", some 10), ("January", some 11)] := by
  intro months january
  have hlength : months.length ≤ 12 := by decide
  have hmonths : ∀ w ∈ january, ∃ n ∈ months, w.month = some (n : Int) := by decide
  obtain ⟨hwalk, -, -, hseason⟩ := seasonMonths_in_order winterSeason
  obtain ⟨-, hkeys, hlines⟩ := hseason hlength
  obtain ⟨lines, hmade, rfl, -⟩ := hlines paidLeague ⟨2, 1, .monthly, 1, 1001, none⟩ january hmonths
  exact ⟨hlength, hmonths, (hwalk _).2 (by decide), hkeys, _, hmade, by decide⟩

end PredictionLeague
