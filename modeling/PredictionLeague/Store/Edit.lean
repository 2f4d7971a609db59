import PredictionLeague.Store.Schema

/-!
# Editing tables by name

Rows are put in, changed and taken out by table name, id and record. An edit that the table
refuses leaves the store as it was.

* `Stored.insertAll`: rows put in one after the other. Rows in a run without ids are put in
  together, so their numbers are checked before the first of them has a place;
* `Store.ofRecords`: a store made of records, table by table, after all of them were read.
-/

namespace PredictionLeague

namespace Stored

variable {α : Type} [Stored α]

/-- Put a row into a table, unless it shares a unique key with a row that is there. -/
def addRow (s : Store) (others : List α) (row : α) : Except Fault Store :=
  let clash := ((keysOf row).zip (uniqueKeys α)).find? fun (key, _) =>
    others.any fun r => (keysOf r).contains key
  match clash with
  | some (_, columns) => .error (.duplicateKey (table α) columns)
  | none => .ok (withRows s (Table.insert others row))

/-- Put in a row given by a completed record; a row without an id gets a fresh one. -/
def place (α : Type) [Stored α] (s : Store) (record : Record) : Except Fault Store := do
  Column.check (table α) (columns α) record
  let record := match record.cell "id" with
    | .null => record.override [("id", .integer (Table.nextId (rows (α := α) s)))]
    | _ => record
  addRow s (rows s) (← ofRecord (α := α) record)

/-- Whether two records that follow each other are put in together: neither has an id, and
the columns whose default is the table's own are given by both or by neither. -/
def together (a b : Record) : Bool :=
  a.cell "id" == .null && b.cell "id" == .null &&
    (columns α).all fun c =>
      let left (r : Record) : Bool := r.lookup c.name == some .null
      c.empty .newYear2025 == .null || left a == left b

/-- Put in rows given by records. -/
def insertAll (α : Type) [Stored α] (now : DateTime) (s : Store) (rows : List Record) :
    Except Fault Store :=
  (rows.splitBy (together (α := α))).foldlM
    (fun s run => do
      let run := run.map (Column.complete now (columns α))
      run.forM (Column.checkNumbers (columns α))
      run.foldlM (place α) s)
    s

/-- Put in a row given by a record. -/
def insert (α : Type) [Stored α] (now : DateTime) (s : Store) (fields : Record) :
    Except Fault Store := do
  Column.read (columns α) fields
  insertAll α now s [fields]

/-- Change fields of the row with an id. -/
def update (α : Type) [Stored α] (s : Store) (id : Int) (fields : Record) : Except Fault Store := do
  if !fits id then .error .integerTooLarge
  match Table.get? (rows (α := α) s) id, fields with
  | none, [] => .ok s
  | none, (name, _) :: _ => .error (.absentRow name)
  | some row, _ =>
    Column.read (columns α) fields
    let record := (toRecord row).override fields
    Column.check (table α) (columns α) record
    addRow s (Table.erase (rows s) id) (← ofRecord (α := α) record)

/-- Take out the row with an id. -/
def delete (α : Type) [Stored α] (s : Store) (id : Int) : Except Fault Store :=
  if !fits id then .error .integerTooLarge
  else match Table.get? (rows (α := α) s) id with
    | none => .error (.absentRow "id")
    | some _ => .ok (withRows s (Table.erase (rows (α := α) s) id))

end Stored

/-- What can be done to a table, whatever its rows are. -/
structure TableAccess where
  name : String
  read : Record → Except Fault Unit
  insertAll : DateTime → Store → List Record → Except Fault Store
  insert : DateTime → Store → Record → Except Fault Store
  update : Store → Int → Record → Except Fault Store
  delete : Store → Int → Except Fault Store
  clear : Store → Store
  records : Store → List Record

namespace TableAccess

/-- The access to the table of a kind of rows. -/
def of (α : Type) [Stored α] : TableAccess :=
  { name := Stored.table α
    read := Column.read (Stored.columns α)
    insertAll := Stored.insertAll α
    insert := Stored.insert α
    update := Stored.update α
    delete := Stored.delete α
    clear := fun s => Stored.withRows s ([] : List α)
    records := fun s => (Stored.rows s).map (Stored.toRecord (α := α)) }

/-- All tables, in the order in which their records are read. -/
def all : List TableAccess :=
  [of User, of Season, of Round, of Match, of Prediction, of League, of Membership,
    of PrizeSetting, of RoundResult, of LeagueResult, of BoostRule, of BoostWindow,
    of BoostUsage, of MemberStats, of Winning]

/-- All tables, in the order in which rows are put into an empty store. -/
def filling : List TableAccess :=
  [of BoostRule, of BoostWindow, of BoostUsage, of League, of Membership, of PrizeSetting,
    of Prediction, of LeagueResult, of RoundResult, of Match, of Round, of Season,
    of MemberStats, of User, of Winning]

/-- The table of a name. -/
def ofName? (name : String) : Option TableAccess := all.find? (·.name == name)

end TableAccess

/-- The store made of records by tables. All of them are read before the first has a place. -/
def Store.ofRecords (now : DateTime) (rowsOf : String → List Record) : Except Fault Store := do
  TableAccess.all.forM fun table => (rowsOf table.name).forM table.read
  TableAccess.filling.foldlM (fun s table => table.insertAll now s (rowsOf table.name)) Store.empty

end PredictionLeague
