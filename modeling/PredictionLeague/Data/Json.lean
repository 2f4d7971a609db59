import PredictionLeague.Data
import PredictionLeague.Text.Digit

/-!
# Values as JSON

* `Json.read?`: the value that a JSON text writes;
* `Json.write`: the JSON text of a value, on one line.

Texts may be written with the escapes of JSON. An escape gives a unit of sixteen bits, and two
units may make one character; half of such a pair alone is read as the replacement character.
-/

namespace PredictionLeague.Json

open Text (hexValue?)

/-! ### Reading -/

/-- Whether a character may stand between the parts of a JSON text. -/
def isSpace (c : Char) : Bool := c = ' ' || c = '\n' || c = '\t' || c = '\r'

/-- A text without the spaces at its front. -/
def skip (cs : List Char) : List Char := cs.dropWhile isSpace

/-- The character that a letter after a backslash stands for. -/
def escaped? : Char → Option Char
  | '"' => some '"'
  | '\\' => some '\\'
  | '/' => some '/'
  | 'b' => some '\x08'
  | 'f' => some '\x0c'
  | 'n' => some '\n'
  | 'r' => some '\r'
  | 't' => some '\t'
  | _ => none

/-- The code points of a text up to its closing quote, and the rest; `done` are those before, the
last one first. -/
def codes? (done : List Nat) : List Char → Option (List Nat × List Char)
  | '"' :: cs => some (done.reverse, cs)
  | '\\' :: 'u' :: a :: b :: c :: d :: cs =>
    match hexValue? a, hexValue? b, hexValue? c, hexValue? d with
    | some a, some b, some c, some d =>
      codes? ((((a * 16 + b) * 16 + c) * 16 + d) :: done) cs
    | _, _, _, _ => none
  | '\\' :: c :: cs =>
    match escaped? c with
    | some c => codes? (c.toNat :: done) cs
    | none => none
  | c :: cs => codes? (c.toNat :: done) cs
  | [] => none

/-- Characters from code points in which a pair of surrogates is one character; `done` are the
characters before, the last one first. -/
def characters (done : List Char) : List Nat → List Char
  | [] => done.reverse
  | [n] => characters (character n :: done) []
  | n :: m :: ns =>
    if 0xd800 ≤ n ∧ n < 0xdc00 ∧ 0xdc00 ≤ m ∧ m < 0xe000 then
      characters (Char.ofNat (0x10000 + (n - 0xd800) * 0x400 + (m - 0xdc00)) :: done) ns
    else characters (character n :: done) (m :: ns)
where
  /-- The character of a code point, when it has one. -/
  character (n : Nat) : Char := if n.isValidChar then Char.ofNat n else '\ufffd'

/-- A text after its opening quote. -/
def text? (cs : List Char) : Option (String × List Char) :=
  (codes? [] cs).map fun (codes, rest) => (String.ofList (characters [] codes), rest)

/-- Split off the digits at the front. -/
def spanDigits (cs : List Char) : List Nat × List Char :=
  ((cs.takeWhile Char.isDigit).map (·.toNat - '0'.toNat), cs.dropWhile Char.isDigit)

/-- The exponent that follows the digits of a number, if one does, and the rest. -/
def exponent? : List Char → Option (Option Int × List Char)
  | c :: cs =>
    if c = 'e' ∨ c = 'E' then
      let (negative, cs) := match cs with
        | '-' :: cs => (true, cs)
        | '+' :: cs => (false, cs)
        | cs => (false, cs)
      match spanDigits cs with
      | ([], _) => none
      | (digits, rest) =>
        let n : Int := Text.ofDigits digits
        some (some (if negative then -n else n), rest)
    else some (none, c :: cs)
  | [] => some (none, [])

/-- A number without its sign. -/
def number? (negative : Bool) (cs : List Char) : Option (Data × List Char) := do
  let (whole, rest) := spanDigits cs
  if whole.isEmpty then none
  let (fraction, rest) := match rest with
    | '.' :: rest => spanDigits rest
    | rest => ([], rest)
  let (exponent, rest) ← exponent? rest
  if fraction.isEmpty && exponent.isNone then
    let n : Int := Text.ofDigits whole
    return (.integer (if negative then -n else n), rest)
  else
    return (.fraction ⟨negative, Text.ofDigits (whole ++ fraction),
      exponent.getD 0 - fraction.length⟩, rest)

/-- Take a word off the front. -/
def word? (word : String) (value : Data) (cs : List Char) : Option (Data × List Char) :=
  if word.toList.isPrefixOf cs then some (value, cs.drop word.length) else none

mutual

/-- A value at the front, and the rest. -/
def value? : Nat → List Char → Option (Data × List Char)
  | 0, _ => none
  | fuel + 1, cs =>
    match skip cs with
    | '"' :: cs => (text? cs).map fun (s, rest) => (.text s, rest)
    | '[' :: cs =>
      match skip cs with
      | ']' :: rest => some (.list [], rest)
      | cs => items? fuel [] cs
    | '{' :: cs =>
      match skip cs with
      | '}' :: rest => some (.object [], rest)
      | cs => fields? fuel [] cs
    | '-' :: cs => number? true cs
    | 'n' :: cs => word? "null" .null ('n' :: cs)
    | 't' :: cs => word? "true" (.truth true) ('t' :: cs)
    | 'f' :: cs => word? "false" (.truth false) ('f' :: cs)
    | cs => number? false cs

/-- The items of a list up to its closing bracket; `done` are those before, the last one first. -/
def items? : Nat → List Data → List Char → Option (Data × List Char)
  | 0, _, _ => none
  | fuel + 1, done, cs =>
    match value? fuel cs with
    | none => none
    | some (item, rest) =>
      match skip rest with
      | ',' :: rest => items? fuel (item :: done) rest
      | ']' :: rest => some (.list (item :: done).reverse, rest)
      | _ => none

/-- The fields of an object up to its closing brace; `done` are those before, the last one
first. -/
def fields? : Nat → List (String × Data) → List Char → Option (Data × List Char)
  | 0, _, _ => none
  | fuel + 1, done, cs =>
    match skip cs with
    | '"' :: cs =>
      match text? cs with
      | none => none
      | some (name, rest) =>
        match skip rest with
        | ':' :: rest =>
          match value? fuel rest with
          | none => none
          | some (value, rest) =>
            match skip rest with
            | ',' :: rest => fields? fuel ((name, value) :: done) rest
            | '}' :: rest => some (.object ((name, value) :: done).reverse, rest)
            | _ => none
        | _ => none
    | _ => none

end

/-- The value that a JSON text writes. Of two steps down one at least takes a character, so there
are enough steps. -/
def read? (s : String) : Option Data :=
  let cs := s.toList
  match value? (2 * cs.length + 2) cs with
  | some (value, rest) => if (skip rest).isEmpty then some value else none
  | none => none

/-! ### Writing -/

/-- A character between the quotes of a text. -/
def writeChar (c : Char) : String :=
  if c = '"' then "\\\""
  else if c = '\\' then "\\\\"
  else if c.toNat < 0x20 then "\\u" ++ Text.hexadecimal 4 c.toNat
  else String.singleton c

/-- A text between quotes. -/
def writeText (s : String) : String := "\"" ++ String.join (s.toList.map writeChar) ++ "\""

mutual

/-- The JSON text of a value. -/
def write : Data → String
  | .null => "null"
  | .truth b => if b then "true" else "false"
  | .integer n => toString n
  | .fraction d => Data.fractionText d
  | .text s => writeText s
  | .list items => "[" ++ ",".intercalate (writeItems items) ++ "]"
  | .object fields => "\x7b" ++ ",".intercalate (writeFields fields) ++ "\x7d"

/-- The JSON texts of the items of a list. -/
def writeItems : List Data → List String
  | [] => []
  | item :: items => write item :: writeItems items

/-- The JSON texts of the fields of an object. -/
def writeFields : List (String × Data) → List String
  | [] => []
  | (name, value) :: fields => (writeText name ++ ":" ++ write value) :: writeFields fields

end

end PredictionLeague.Json
