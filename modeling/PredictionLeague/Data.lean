import PredictionLeague.Decimal.Binary
import PredictionLeague.Text.Quoted

/-!
# Values

The values that come from outside and go out again: nothing, truth values, numbers, texts, lists
and objects. A number that is written with a point or an exponent is kept as it is written and
counts as the nearest binary number.

* `Data.shown`: a value as it stands inside a message;
* `Data.quoted`: the same, with texts between quotes.
-/

namespace PredictionLeague

/-- A value; of several fields of an object with one name the last one counts. -/
inductive Data
  | null
  | truth (b : Bool)
  | integer (n : Int)
  | fraction (d : Decimal)
  | text (s : String)
  | list (items : List Data)
  | object (fields : List (String × Data))
  deriving Inhabited

namespace Data

/-- A value that may be missing. -/
def ofOption {α : Type} (write : α → Data) : Option α → Data
  | none => null
  | some a => write a

/-- The last field of a name. -/
def lookup? (name : String) (fields : List (String × Data)) : Option Data :=
  fields.foldl (fun found field => if field.1 = name then some field.2 else found) none

/-- A field of an object. -/
def field? (name : String) : Data → Option Data
  | object fields => lookup? name fields
  | _ => none

/-! ### Values in messages -/

/-- A number with a point in a message. -/
def fractionText (d : Decimal) : String :=
  match Binary.ofDecimal? d with
  | some b => b.text
  | none => if d.negative then "-inf" else "inf"

mutual

/-- A value in a message, with texts between quotes. -/
def quoted : Data → String
  | null => "None"
  | truth b => if b then "True" else "False"
  | integer n => toString n
  | fraction d => fractionText d
  | text s => Text.quoted s
  | list items => "[" ++ ", ".intercalate (quotedItems items) ++ "]"
  | object fields => "\x7b" ++ ", ".intercalate (quotedFields fields) ++ "\x7d"

/-- The items of a list in a message. -/
def quotedItems : List Data → List String
  | [] => []
  | item :: items => quoted item :: quotedItems items

/-- The fields of an object in a message. -/
def quotedFields : List (String × Data) → List String
  | [] => []
  | (name, value) :: fields => (Text.quoted name ++ ": " ++ quoted value) :: quotedFields fields

end

/-- A value in a message. -/
def shown : Data → String
  | text s => s
  | d => d.quoted

end Data

end PredictionLeague
