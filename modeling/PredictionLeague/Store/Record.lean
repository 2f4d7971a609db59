import PredictionLeague.Data
import PredictionLeague.Engine
import PredictionLeague.Money

/-!
# Records

A record gives the fields of a row by name, as they come from outside. The columns of a table say
which fields there are, what each may hold and what stands in for a missing one. A record is taken
in three steps:

* `Column.read` refuses values that cannot be read at all: words outside their set of names, texts
  that are no dates or no decimals;
* `Column.complete` fills the record in;
* `Column.check` refuses a record that has no place in the table: first amounts that must not be
  used, then integers that do not fit, then required fields without a value.
-/

namespace PredictionLeague

/-- The value of a field; a value that no column holds is kept as it is shown. -/
inductive Cell
  | null
  | integer (n : Int)
  | truth (b : Bool)
  | text (s : String)
  | foreign (shown : String)
  deriving DecidableEq

/-- A value as a field. -/
def Cell.ofData : Data → Cell
  | .null => .null
  | .integer n => .integer n
  | .truth b => .truth b
  | .text s => .text s
  | d => .foreign d.quoted

/-- A value of a field as it is shown in a message. -/
def Cell.quoted : Cell → String
  | .null => Data.quoted .null
  | .integer n => Data.quoted (.integer n)
  | .truth b => Data.quoted (.truth b)
  | .text s => Text.quoted s
  | .foreign shown => shown

/-- Fields by name. -/
abbrev Record := List (String × Cell)

/-- What a column holds. -/
inductive ColumnKind
  | integer
  | truth
  | text
  | money
  | date
  | word (vocabulary : Vocabulary)
  deriving DecidableEq

/-- Whether a word belongs to a set of names. -/
def Vocabulary.has (v : Vocabulary) (word : String) : Bool :=
  match v with
  | matchStatus => (MatchStatus.ofName? word).isSome
  | roundStatus => (RoundStatus.ofName? word).isSome
  | prizeKind => (PrizeKind.ofName? word).isSome
  | membershipStatus => (MembershipStatus.ofName? word).isSome
  | outcome => (Outcome.ofName? word).isSome

/-- A column of a table. What stands in for a missing field may depend on the other fields; for a
field that is given as empty something may stand in as well, which may depend on the time. -/
structure Column where
  name : String
  kind : ColumnKind
  nullable : Bool
  missing : Record → Cell
  empty : DateTime → Cell

namespace Record

/-- The value of a field; a missing field is empty. -/
def cell (r : Record) (name : String) : Cell := (r.lookup name).getD .null

/-- The fields of a record with some of them given anew. -/
def override (r : Record) (fields : Record) : Record :=
  r.map fun (name, value) => (name, (fields.lookup name).getD value)

end Record

/-- A date as a field. -/
def Cell.ofDate (d : DateTime) : Cell := .text d.text

namespace Column

/-- A column that every row has to give. -/
def required (name : String) (kind : ColumnKind) : Column :=
  ⟨name, kind, false, fun _ => .null, fun _ => .null⟩

/-- A column that a row may leave empty. -/
def optional (name : String) (kind : ColumnKind) : Column :=
  ⟨name, kind, true, fun _ => .null, fun _ => .null⟩

/-- A column with a value for rows that do not give it or leave it empty. -/
def defaulting (name : String) (kind : ColumnKind) (default : Cell) : Column :=
  ⟨name, kind, false, fun _ => default, fun _ => default⟩

/-- A column with a value for rows that do not give it, but not for those that leave it empty. -/
def supplied (name : String) (kind : ColumnKind) (default : Record → Cell) : Column :=
  ⟨name, kind, false, default, fun _ => .null⟩

/-- A column for a time: that of old rows when it is not given, the present one when it is left
empty. -/
def stamped (name : String) : Column :=
  ⟨name, .date, false, fun _ => .ofDate .newYear2025, .ofDate⟩

/-- The id of a row. -/
def id : Column := optional "id" .integer

/-- Refuse a value that cannot be read as what the column holds. Empty fields are left alone. -/
def readCell (c : Column) : Cell → Except Fault Unit
  | .null => .ok ()
  | cell =>
    match c.kind, cell with
    | .word v, .text s => if v.has s then .ok () else .error (v.fault s)
    | .word v, cell => .error (.unknownName v cell.quoted)
    | .date, .text s => (fun _ => ()) <$> Fault.date s
    | .date, _ => .error .wrongKind
    | .money, .text s =>
      match Money.ofText s with
      | .error .invalidDecimal => .error .invalidDecimal
      | _ => .ok ()
    | _, _ => .ok ()

/-- Refuse fields that cannot be read, in the order in which they are given. -/
def read (columns : List Column) (fields : Record) : Except Fault Unit :=
  fields.forM fun (name, cell) =>
    match columns.find? (·.name == name) with
    | some c => c.readCell cell
    | none => .ok ()

/-- The record of a row with all its columns. -/
def complete (now : DateTime) (columns : List Column) (r : Record) : Record :=
  columns.map fun c =>
    (c.name, match r.lookup c.name with
      | none => c.missing r
      | some .null => c.empty now
      | some cell => cell)

/-- An amount that must not be used. -/
def unusable (c : Column) (r : Record) : Bool :=
  match c.kind, r.cell c.name with
  | .money, .text s => match Money.ofText s with
    | .error .unusableAmount => true
    | _ => false
  | _, _ => false

/-- An integer that does not fit. -/
def tooLarge (c : Column) (r : Record) : Bool :=
  match r.cell c.name with
  | .integer n => c.kind != .money && !fits n
  | _ => false

/-- A required field without a value; money that is no number is none. -/
def lacks (c : Column) (r : Record) : Bool :=
  !c.nullable && match c.kind, r.cell c.name with
    | _, .null => true
    | .money, .text s => match Money.ofText s with
      | .ok none => true
      | _ => false
    | _, _ => false

/-- Refuse numbers of a record that the store cannot take. -/
def checkNumbers (columns : List Column) (r : Record) : Except Fault Unit := do
  if columns.any (·.unusable r) then .error .unusableAmount
  if columns.any (·.tooLarge r) then .error .integerTooLarge

/-- Refuse a completed record that has no place in a table. -/
def check (table : String) (columns : List Column) (r : Record) : Except Fault Unit := do
  checkNumbers columns r
  if let some c := columns.find? (·.lacks r) then .error (.missingValue table c.name)

end Column

/-! ### Reading fields -/

namespace Record

/-- The field of a record, read by `read`. -/
def required {α : Type} (read : Cell → Option α) (table : String) (r : Record) (name : String) :
    Except Fault α :=
  match read (r.cell name) with
  | some a => .ok a
  | none => .error (.missingValue table name)

/-- An integer; a truth value counts as one or zero. -/
def integer? : Cell → Option Int
  | .integer n => some n
  | .truth b => some (if b then 1 else 0)
  | _ => none

/-- A truth value; an integer other than zero is true. -/
def truth? : Cell → Option Bool
  | .truth b => some b
  | .integer n => some (n != 0)
  | _ => none

/-- A text; a number is kept as it is written. -/
def text? : Cell → Option String
  | .text s => some s
  | .integer n => some (toString n)
  | .truth b => some (if b then "1" else "0")
  | _ => none

/-- A word of a set of names. -/
def word? {α : Type} (ofName? : String → Option α) (c : Cell) : Option α := (text? c).bind ofName?

/-- A date. -/
def date? (c : Cell) : Option DateTime := (text? c).bind DateTime.ofText?

/-- An amount of money, in pennies. -/
def pennies? : Cell → Option Int
  | .text s => (Money.ofText s).toOption.join
  | .integer n => some (Money.kept (n * 100))
  | .truth b => some (if b then 100 else 0)
  | _ => none

end Record

/-! ### Writing fields -/

namespace Cell

/-- An amount of money. -/
def ofPennies (n : Int) : Cell := .text (Decimal.ofPennies n).text

/-- A value that may be missing. -/
def ofOption {α : Type} (write : α → Cell) : Option α → Cell
  | none => .null
  | some a => write a

end Cell

end PredictionLeague
