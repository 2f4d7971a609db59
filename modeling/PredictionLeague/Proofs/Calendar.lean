import Mathlib.Logic.Function.Iterate
import PredictionLeague.Report

/-!
# The months of a season

The months of a season are those that are passed on the way from the month of its start to the
month of its end. In a season of up to twelve months the number of a month tells the year in which
it lies.

* `CalendarMonth.later`: the month that comes a number of months after;
* `CalendarMonth.Walks`: the walk from month to month, and the month numbers that it passes;
* `walks_iff_seasonMonths`: the walk ends, and it passes the months of the season;
* `seasonMonths_eq`: these are the months after the start, up to the one of the end;
* `monthSortKey_later`: the place of a month number is the month with that number;
* `pairwise_monthSortKey`, `pairwise_monthBefore`: so the months of the season are listed in order.
-/

namespace PredictionLeague

namespace CalendarMonth

variable {a b first last m : CalendarMonth}

/-! ### Counting months -/

/-- A month comes before another in the calendar. -/
def Before (a b : CalendarMonth) : Prop := a.year < b.year ∨ a.year = b.year ∧ a.month < b.month

/-- The month that comes a number of months after. -/
def later (m : CalendarMonth) (k : Nat) : CalendarMonth := next^[k] m

theorem before_iff_index_lt : a.Before b ↔ a.index < b.index := by
  have ha := a.month_pos
  have ha' := a.month_le
  have hb := b.month_pos
  have hb' := b.month_le
  unfold Before index
  omega

theorem year_eq (m : CalendarMonth) : m.year = m.index / 12 := by
  have hpos := m.month_pos
  have hle := m.month_le
  unfold index
  omega

theorem month_eq (m : CalendarMonth) : m.month = m.index % 12 + 1 := by
  have hpos := m.month_pos
  have hle := m.month_le
  unfold index
  omega

theorem later_succ (m : CalendarMonth) (k : Nat) : m.later (k + 1) = m.next.later k :=
  Function.iterate_succ_apply next k m

@[simp] theorem index_later (m : CalendarMonth) (k : Nat) : (m.later k).index = m.index + k := by
  induction k generalizing m with
  | zero => rfl
  | succ k ih =>
    rw [later_succ, ih, index_next]
    omega

/-- The number of a later month: after December the numbers start again. -/
theorem month_later (m : CalendarMonth) (k : Nat) :
    (m.later k).month = (m.month - 1 + k) % 12 + 1 := by
  rw [month_eq, index_later, index]
  omega

/-- A walk of some months goes through the later ones in turn. -/
theorem walk_eq (count : Nat) (m : CalendarMonth) :
    walk count m = (List.range count).map m.later := by
  induction count generalizing m with
  | zero => rfl
  | succ count ih =>
    rw [walk_succ, ih, List.range_succ_eq_map, List.map_cons, List.map_map]
    exact congrArg _ (List.map_congr_left fun k _ => (later_succ m k).symm)

/-! ### The walk -/

/-- The walk up to a last month: as long as it is not after the last, the month is passed and the
walk goes on with the next. The list has the numbers of the months that are passed. -/
inductive Walks (last : CalendarMonth) : CalendarMonth → List Nat → Prop
  | stop {m : CalendarMonth} (h : last.Before m) : Walks last m []
  | pass {m : CalendarMonth} {numbers : List Nat} (h : ¬last.Before m)
    (rest : Walks last m.next numbers) : Walks last m (m.month :: numbers)

/-- After the last month there are none. -/
theorem upTo_of_before (h : last.Before first) : upTo first last = [] := by
  have hcount : last.index + 1 - first.index = 0 := by
    have hlt := before_iff_index_lt.1 h
    omega
  rw [upTo, hcount, walk_zero]

/-- Up to the last month a month is followed by those after it. -/
theorem upTo_of_not_before (h : ¬last.Before first) :
    upTo first last = first :: upTo first.next last := by
  have hcount : last.index + 1 - first.index = last.index + 1 - first.next.index + 1 := by
    have hle := mt before_iff_index_lt.2 h
    rw [index_next]
    omega
  rw [upTo, hcount, walk_succ, upTo]

/-- The walk passes the months up to the last. -/
theorem walks_upTo (first last : CalendarMonth) :
    Walks last first ((upTo first last).map (·.month)) := by
  -- Every step leaves one month less to pass.
  generalize hleft : last.index + 1 - first.index = left
  induction left generalizing first with
  | zero =>
    have hbefore : last.Before first := before_iff_index_lt.2 (by omega)
    rw [upTo_of_before hbefore]
    exact .stop hbefore
  | succ left ih =>
    have hnot : ¬last.Before first := fun hbefore => by
      have hlt := before_iff_index_lt.1 hbefore
      omega
    rw [upTo_of_not_before hnot]
    refine .pass hnot (ih first.next ?_)
    rw [index_next]
    omega

theorem Walks.eq_upTo {numbers : List Nat} (h : Walks last first numbers) :
    numbers = (upTo first last).map (·.month) := by
  induction h with
  | stop hbefore => rw [upTo_of_before hbefore, List.map_nil]
  | pass hnot _ ih => rw [upTo_of_not_before hnot, List.map_cons, ih]

end CalendarMonth

open CalendarMonth

variable {start finish : DateTime}

/-- The walk from the start to the end of a season ends, and it passes the months of the season. -/
theorem walks_iff_seasonMonths {numbers : List Nat} :
    Walks finish.calendarMonth start.calendarMonth numbers ↔
      numbers = seasonMonths start finish := by
  constructor
  · exact fun h => h.eq_upTo
  · rintro rfl
    exact walks_upTo _ _

/-! ### The months -/

/-- From the start to the end there are so many months, none when the end comes first. -/
theorem length_seasonMonths (start finish : DateTime) :
    ((seasonMonths start finish).length : Int) =
      max 0 (12 * ((finish.year : Int) - start.year) + finish.month - start.month + 1) := by
  have hstart := start.month_pos
  have hfinish := finish.month_pos
  rw [seasonMonths, upTo, walk_eq, List.length_map, List.length_map, List.length_range]
  unfold index DateTime.calendarMonth
  dsimp only
  omega

/-- The months of a season are those that come after its start one by one. -/
theorem seasonMonths_eq (start finish : DateTime) : seasonMonths start finish =
    (List.range (seasonMonths start finish).length).map fun k =>
      (start.calendarMonth.later k).month := by
  rw [seasonMonths, upTo, walk_eq, List.map_map, List.length_map, List.length_range]
  rfl

theorem getElem_seasonMonths {k : Nat} (hk : k < (seasonMonths start finish).length) :
    (seasonMonths start finish)[k] = (start.calendarMonth.later k).month := by
  rw [List.getElem_of_eq (seasonMonths_eq start finish), List.getElem_map, List.getElem_range]

/-! ### Their places -/

/-- Within twelve months a month number is listed at the month that has it. -/
theorem monthSortKey_later (start : DateTime) {k : Nat} (hk : k < 12) :
    monthSortKey (start.calendarMonth.later k).month start =
      ((start.calendarMonth.later k).year, ((start.calendarMonth.later k).month : Int)) := by
  have hpos := start.month_pos
  have hle := start.month_le
  have hindex : (start.calendarMonth.later k).index = start.year * 12 + (start.month - 1) + k :=
    index_later _ k
  rw [monthSortKey, month_later, year_eq, hindex, Prod.mk.injEq]
  refine ⟨?_, rfl⟩
  -- The number is below that of the start exactly when the walk has passed the end of the year.
  show (if (((start.month - 1 + k) % 12 + 1 : Nat) : Int) < start.month then _ else _) = _
  split <;> omega

theorem monthBefore_iff {a b : Int} : Report.monthBefore start a b = true ↔
    (monthSortKey a start).1 < (monthSortKey b start).1 ∨
      (monthSortKey a start).1 = (monthSortKey b start).1 ∧
        (monthSortKey a start).2 ≤ (monthSortKey b start).2 := by
  simp [Report.monthBefore]

/-- The places of the months of a season of up to twelve months ascend. -/
theorem pairwise_monthSortKey (h : (seasonMonths start finish).length ≤ 12) :
    ((seasonMonths start finish).map fun (n : Nat) => monthSortKey n start).Pairwise
      (Prod.Lex (· < ·) (· < ·)) := by
  refine List.pairwise_iff_getElem.2 fun i j hi hj hij => ?_
  rw [List.length_map] at hi hj
  have hbefore : (start.calendarMonth.later i).Before (start.calendarMonth.later j) := by
    rw [before_iff_index_lt, index_later, index_later]
    omega
  rw [List.getElem_map, List.getElem_map, getElem_seasonMonths hi, getElem_seasonMonths hj,
    monthSortKey_later start (by omega), monthSortKey_later start (by omega)]
  rcases hbefore with hyear | ⟨hyear, hmonth⟩
  · exact .left _ _ hyear
  · rw [hyear]
    exact .right _ (Int.ofNat_lt.2 hmonth)

/-- So in such a season a month is listed before those that come after it, and never behind them. -/
theorem pairwise_monthBefore (h : (seasonMonths start finish).length ≤ 12) :
    (seasonMonths start finish).Pairwise fun (a b : Nat) =>
      Report.monthBefore start a b = true ∧ Report.monthBefore start b a = false := by
  refine (List.pairwise_map.1 (pairwise_monthSortKey h)).imp fun {a b} hlt => ?_
  rw [Prod.lex_def] at hlt
  rw [← Bool.not_eq_true, monthBefore_iff, monthBefore_iff]
  omega

theorem nodup_seasonMonths (h : (seasonMonths start finish).length ≤ 12) :
    (seasonMonths start finish).Nodup := by
  refine (pairwise_monthBefore h).imp ?_
  rintro a _ ⟨hbefore, hnot⟩ rfl
  exact Bool.false_ne_true (hnot.symm.trans hbefore)

theorem range_of_mem_seasonMonths {n : Nat} (h : n ∈ seasonMonths start finish) :
    1 ≤ n ∧ n ≤ 12 := by
  obtain ⟨m, -, rfl⟩ := List.mem_map.1 h
  exact ⟨m.month_pos, m.month_le⟩

end PredictionLeague
