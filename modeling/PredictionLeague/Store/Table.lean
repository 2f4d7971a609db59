/-!
# Tables

A table is a list of rows in the order of their ids. A new row gets an id above all others, so it
stands at the end.

* `Table.get?` finds a row by its id;
* `Table.insert` keeps the order of ids;
* `Table.addAll` appends rows with fresh ids;
* `Table.rebuild` replaces the rows of one owner by new ones: a row that keeps its key keeps its
  id, a row whose key is gone is dropped, and a new key gets a fresh id;
* `Table.ensure` adds the rows of one owner that are missing among given keys.
-/

namespace PredictionLeague

/-- Rows that are known by an id. -/
class Row (α : Type) where
  id : α → Int

namespace Table

variable {α : Type}

/-- Rows with ids in a row, the first one given. -/
def numbered (id : Int) : List (Int → α) → List α
  | [] => []
  | row :: rows => row id :: numbered (id + 1) rows

variable [Row α]

/-- The row with an id. -/
def get? (table : List α) (id : Int) : Option α := table.find? (Row.id · == id)

/-- An id above all ids of the table; one when it is empty. -/
def nextId (table : List α) : Int :=
  match (table.map Row.id).max? with
  | none => 1
  | some id => id + 1

/-- Put a row in its place by id. -/
def insert (table : List α) (row : α) : List α :=
  table.takeWhile (Row.id · < Row.id row) ++ row :: table.dropWhile (Row.id · < Row.id row)

/-- Put a row in the place of the one with its id. -/
def replace (table : List α) (row : α) : List α :=
  table.map fun r => if Row.id r == Row.id row then row else r

/-- Drop the row with an id. -/
def erase (table : List α) (id : Int) : List α := table.filter (Row.id · != id)

/-- Append one row with a fresh id. -/
def add (table : List α) (row : Int → α) : List α := table ++ [row (nextId table)]

/-- The rows that `addAll` appends. -/
def fresh (table : List α) (rows : List (Int → α)) : List α := numbered (nextId table) rows

/-- Append rows with fresh ids, in the given order. -/
def addAll (table : List α) (rows : List (Int → α)) : List α := table ++ fresh table rows

/-- Replace the rows of one owner by the rows of the given keys. -/
def rebuild (table : List α) (owned : α → Bool) (key : α → Int) (targets : List (Int × (Int → α))) :
    List α :=
  let missing := targets.filter fun t => !table.any fun row => owned row && key row == t.1
  let added := addAll table (missing.map (·.2))
  added.filterMap fun row =>
    if owned row then (targets.lookup (key row)).map fun make => make (Row.id row)
    else some row

/-- Add a fresh row for each key of one owner that has none. -/
def ensure (table : List α) (owned : α → Bool) (key : α → Int) (fresh : Int → Int → α)
    (keys : List Int) : List α :=
  addAll table
    ((keys.filter fun k => !table.any fun row => owned row && key row == k).map fresh)

end Table

end PredictionLeague
