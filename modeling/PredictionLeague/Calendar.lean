/-!
# Dates, months and the months of a season

`DateTime` is a date with a time of day and no time zone, ordered by its `stamp`.
`CalendarMonth` is a month of a year; the months of a season are walked from the month of
its start to the month of its end, both included.

* `DateTime.text`, `DateTime.ofText`: the written form `2025-03-08T14:00:00`, followed by six
  digits of microseconds when they are not zero;
* `seasonMonths`: the month numbers from start to end;
* `monthSortKey`: the year and month at which a month number of a season is listed;
* `monthName?`: the English names, counted from one, and from the end for negative numbers.
-/

namespace PredictionLeague

/-- A month of a year. -/
structure CalendarMonth where
  year : Nat
  month : Nat
  month_pos : 1 ≤ month
  month_le : month ≤ 12
  deriving DecidableEq

namespace CalendarMonth

/-- The number of months before this one, counted from January of the year zero. -/
def index (m : CalendarMonth) : Nat := m.year * 12 + (m.month - 1)

/-- The month after; December is followed by January of the next year. -/
def next (m : CalendarMonth) : CalendarMonth :=
  if h : m.month < 12 then ⟨m.year, m.month + 1, by omega, by omega⟩
  else ⟨m.year + 1, 1, by omega, by omega⟩

/-- The next month has the next index. -/
theorem index_next (m : CalendarMonth) : m.next.index = m.index + 1 := by
  have h₁ := m.month_pos
  have h₂ := m.month_le
  unfold next index
  split <;> simp only <;> omega

/-- `count` months in a row, beginning with `m`. -/
def walk : Nat → CalendarMonth → List CalendarMonth
  | 0, _ => []
  | count + 1, m => m :: walk count m.next

@[simp] theorem walk_zero (m : CalendarMonth) : walk 0 m = [] := rfl

@[simp] theorem walk_succ (count : Nat) (m : CalendarMonth) :
    walk (count + 1) m = m :: walk count m.next := rfl

/-- The months from `first` to `last`, both included; none when `last` comes before `first`. -/
def upTo (first last : CalendarMonth) : List CalendarMonth :=
  walk (last.index + 1 - first.index) first

end CalendarMonth

/-- Whether a year has a 29th of February. -/
def isLeapYear (year : Nat) : Bool := year % 4 == 0 && (year % 100 != 0 || year % 400 == 0)

/-- The number of days of a month. -/
def daysIn (year month : Nat) : Nat :=
  if month = 2 then if isLeapYear year then 29 else 28
  else if month = 4 ∨ month = 6 ∨ month = 9 ∨ month = 11 then 30
  else 31

/-- A date and a time of day; `clock` counts the microseconds since midnight. -/
structure DateTime where
  year : Nat
  month : Nat
  day : Nat
  clock : Nat
  month_pos : 1 ≤ month
  month_le : month ≤ 12
  day_le : day ≤ daysIn year month
  clock_lt : clock < 86400000000
  deriving DecidableEq

/-- What is wrong with a text that should be a date. -/
inductive DateFault
  | malformed
  | year (number : Nat)
  | month
  | day
  | hour
  | minute
  | second
  deriving DecidableEq

namespace DateTime

/-- The month in which a date lies. -/
def calendarMonth (d : DateTime) : CalendarMonth := ⟨d.year, d.month, d.month_pos, d.month_le⟩

/-- A number that orders dates with their times. -/
def stamp (d : DateTime) : Nat := (d.calendarMonth.index * 32 + d.day) * 86400000000 + d.clock

/-- The date made of the given parts. The parts are checked from the largest to the smallest, and
the first that is out of range is refused. -/
def ofParts (year month day hour minute second microsecond : Nat) : Except DateFault DateTime :=
  if year = 0 then .error (.year year)
  else if hmonth : ¬(1 ≤ month ∧ month ≤ 12) then .error .month
  else if hday : ¬(1 ≤ day ∧ day ≤ daysIn year month) then .error .day
  else if hhour : ¬hour < 24 then .error .hour
  else if hminute : ¬minute < 60 then .error .minute
  else if hsecond : ¬second < 60 then .error .second
  else if hmicrosecond : ¬microsecond < 1000000 then .error .malformed
  else
    .ok
      { year, month, day
        clock := ((hour * 60 + minute) * 60 + second) * 1000000 + microsecond
        month_pos := by omega
        month_le := by omega
        day_le := by omega
        clock_lt := by omega }

/-- The first moment of the year 2025, at which stored rows are stamped by default. -/
def newYear2025 : DateTime := ⟨2025, 1, 1, 0, by decide, by decide, by decide, by decide⟩

/-- The first moment of June 2025, the time of a clock that nobody has set. -/
def june2025 : DateTime := ⟨2025, 6, 1, 0, by decide, by decide, by decide, by decide⟩

instance : Inhabited DateTime := ⟨newYear2025⟩

/-- `n` in decimal with at least `width` digits. -/
def padded (width n : Nat) : String :=
  let digits := toString n
  String.ofList (List.replicate (width - digits.length) '0') ++ digits

/-- The written form of a date with its time. -/
def text (d : DateTime) : String :=
  let second := d.clock / 1000000
  let microsecond := d.clock % 1000000
  let date := padded 4 d.year ++ "-" ++ padded 2 d.month ++ "-" ++ padded 2 d.day
  let time := padded 2 (second / 3600) ++ ":" ++ padded 2 (second / 60 % 60) ++ ":" ++
    padded 2 (second % 60)
  date ++ "T" ++ time ++ (if microsecond = 0 then "" else "." ++ padded 6 microsecond)

/-- The number written by decimal digits. -/
def digits? (cs : List Char) : Option Nat :=
  if cs ≠ [] ∧ cs.all Char.isDigit then
    some (cs.foldl (fun n c => n * 10 + (c.toNat - '0'.toNat)) 0)
  else none

/-- The microseconds written after the seconds: nothing, or a point and a fraction of any number
of digits, of which those after the sixth are dropped. -/
def microseconds? : List Char → Option Nat
  | [] => some 0
  | '.' :: cs =>
    if cs ≠ [] ∧ cs.all Char.isDigit then digits? ((cs ++ List.replicate 6 '0').take 6) else none
  | _ => none

/-- The hour, minute, second and microsecond that a text writes; the end may be left out. -/
def timeOfDay? : List Char → Option (Nat × Nat × Nat × Nat)
  | [h₁, h₂] => do return (← digits? [h₁, h₂], 0, 0, 0)
  | [h₁, h₂, ':', i₁, i₂] => do return (← digits? [h₁, h₂], ← digits? [i₁, i₂], 0, 0)
  | h₁ :: h₂ :: ':' :: i₁ :: i₂ :: ':' :: s₁ :: s₂ :: fraction => do
    return (← digits? [h₁, h₂], ← digits? [i₁, i₂], ← digits? [s₁, s₂], ← microseconds? fraction)
  | _ => none

/-- The parts that a text writes: year, month, day, and those of the time of day, which stands
after one more character and may be left out. -/
def parts? : List Char → Option ((Nat × Nat × Nat) × (Nat × Nat × Nat × Nat))
  | y₁ :: y₂ :: y₃ :: y₄ :: '-' :: m₁ :: m₂ :: '-' :: d₁ :: d₂ :: rest => do
    let date := (← digits? [y₁, y₂, y₃, y₄], ← digits? [m₁, m₂], ← digits? [d₁, d₂])
    match rest with
    | [] => return (date, 0, 0, 0, 0)
    | _ :: time => return (date, ← timeOfDay? time)
  | _ => none

/-- Read a written form. -/
def ofText (s : String) : Except DateFault DateTime :=
  match parts? s.toList with
  | none => .error .malformed
  | some ((year, month, day), (hour, minute, second, microsecond)) =>
    ofParts year month day hour minute second microsecond

/-- Read a written form, when it is one. -/
def ofText? (s : String) : Option DateTime := (ofText s).toOption

end DateTime

/-- The month numbers of a season, from the month of its start to the month of its end. -/
def seasonMonths (start finish : DateTime) : List Nat :=
  (CalendarMonth.upTo start.calendarMonth finish.calendarMonth).map (·.month)

/-- Where a month number is listed in a season: a month before the start month belongs to the
following year. -/
def monthSortKey (month : Int) (seasonStart : DateTime) : Nat × Int :=
  (if month < seasonStart.month then seasonStart.year + 1 else seasonStart.year, month)

/-- The names of the months; the name with number zero is empty. -/
def monthNames : List String :=
  ["", "January", "February", "March", "April", "May", "June", "July", "August", "September",
    "October", "November", "December"]

/-- The name of a month number; a negative number counts from the end of the list. -/
def monthName? (month : Int) : Option String :=
  if 0 ≤ month then monthNames[month.toNat]?
  else if -13 ≤ month then monthNames[(month + 13).toNat]?
  else none

end PredictionLeague
