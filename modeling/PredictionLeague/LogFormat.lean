import PredictionLeague.Fault
import PredictionLeague.Text.Digit

/-!
# Log formats

A format is a text with placeholders `%(name)s` for parts of an entry. Between the name and the
letter there may be flags, a width and a precision: a minus sign sets a part to the left, the
width is the least number of its characters, and the precision the largest. The letter says how
the part is written: `s` as it is, `r` between quotes, `a` between quotes in ASCII alone, `c` when
it is one character. A doubled percent sign stands for one.

* `isFormat`: whether a text has a placeholder at all;
* `fill?`: a format filled in, or what is wrong with it.
-/

namespace PredictionLeague.LogFormat

/-! ### Whether there is a placeholder -/

/-- Whether a character may stand in the name of a placeholder. -/
def isNameChar (c : Char) : Bool :=
  c.isAlphanum || c = '_' || (0x80 ≤ c.toNat && Text.isPrintable c)

/-- The flags of a placeholder. -/
def flags : List Char := ['#', '0', '+', ' ', '-']

/-- Whether a letter, or a character that counts as the same letter, may end a placeholder. -/
def isLetter (c : Char) : Bool :=
  ("diouxefgcrsa%".toList.contains c.toLower) || ['İ', 'ı', 'ſ'].contains c

/-- What follows a number or an asterisk; nothing when there is neither. -/
def afterNumber? : List Char → Option (List Char)
  | '*' :: cs => some cs
  | c :: cs =>
    if (Text.digitValue? c).isSome then some (cs.dropWhile fun c => (Text.digitValue? c).isSome)
    else none
  | [] => none

/-- Whether flags, a width, a precision and a letter stand at the front. -/
def hasConversion (cs : List Char) : Bool :=
  let cs := cs.dropWhile flags.contains
  let cs := (afterNumber? cs).getD cs
  let cs := match cs with
    | '.' :: rest => (afterNumber? rest).getD cs
    | _ => cs
  cs.head?.any isLetter

/-- Whether a placeholder stands at the front. -/
def hasPlaceholder : List Char → Bool
  | '%' :: '(' :: cs =>
    match cs.takeWhile isNameChar, cs.dropWhile isNameChar with
    | _ :: _, ')' :: rest => hasConversion rest
    | _, _ => false
  | _ => false

/-- Whether a text has a placeholder. -/
def isFormat : List Char → Bool
  | [] => false
  | c :: cs => hasPlaceholder (c :: cs) || isFormat cs

/-! ### Filling in -/

/-- How a part is written: set to the left or to the right, its width and its precision, and the
letter. -/
structure Conversion where
  toLeft : Bool
  width : Nat
  precision : Option Nat
  letter : Char
  deriving DecidableEq

/-- The largest number of characters that a part is filled up to. -/
def widthLimit : Nat := 1000000

/-- Split off the number at the front; there is none when no digit is. -/
def spanNumber (cs : List Char) : Nat × List Char :=
  (Text.ofDigits ((cs.takeWhile Char.isDigit).map (·.toNat - '0'.toNat)),
    cs.dropWhile Char.isDigit)

/-- The conversion at the front, and the rest. A width or a precision cannot be left to the
entry. -/
def conversion? (cs : List Char) : Except Fault (Conversion × List Char) := do
  let toLeft := (cs.takeWhile flags.contains).contains '-'
  let cs := cs.dropWhile flags.contains
  if cs.head? = some '*' then .error .wrongKind
  let (width, cs) := spanNumber cs
  let (precision, cs) ← match cs with
    | '.' :: '*' :: _ => .error .wrongKind
    | '.' :: cs =>
      let (precision, cs) := spanNumber cs
      .ok (some precision, cs)
    | cs => .ok (none, cs)
  let cs := match cs with
    | c :: rest => if c = 'h' ∨ c = 'l' ∨ c = 'L' then rest else cs
    | [] => []
  match cs with
  | [] => .error .incompleteFormat
  | letter :: rest => .ok (⟨toLeft, width, precision, letter⟩, rest)

/-- A text filled up with spaces to the width of a conversion. -/
def Conversion.pad (c : Conversion) (part : List Char) : Except Fault (List Char) :=
  if widthLimit < c.width then .error .tooWide
  else
    let spaces := List.replicate (c.width - part.length) ' '
    .ok (if c.toLeft then part ++ spaces else spaces ++ part)

/-- The letters that ask for a number. -/
def numberLetters : List Char :=
  ['d', 'i', 'u', 'o', 'x', 'X', 'e', 'E', 'f', 'F', 'g', 'G']

/-- A part written by a conversion whose letter stands at `place`. -/
def Conversion.apply (c : Conversion) (place : Nat) (part : String) : Except Fault (List Char) :=
  let cut (s : String) : List Char :=
    match c.precision with
    | some n => s.toList.take n
    | none => s.toList
  if c.letter = 's' then c.pad (cut part)
  else if c.letter = 'r' then c.pad (cut (Text.quoted part))
  else if c.letter = 'a' then c.pad (cut (Text.quotedAscii part))
  else if c.letter = 'c' then
    if part.length = 1 then c.pad part.toList else .error .wrongKind
  else if numberLetters.contains c.letter then .error .wrongKind
  else .error (.unknownConversion c.letter place)

/-- The name of a placeholder up to its closing bracket, and the rest; brackets inside it come in
pairs, and `depth` of them are open. -/
def name? (depth : Nat) (done : List Char) : List Char → Option (String × List Char)
  | [] => none
  | ')' :: cs =>
    if depth = 0 then some (String.ofList done.reverse, cs) else name? (depth - 1) (')' :: done) cs
  | '(' :: cs => name? (depth + 1) ('(' :: done) cs
  | c :: cs => name? depth (c :: done) cs

/-- What follows the first percent sign, and the text before it. -/
def spanText (cs : List Char) : List Char × List Char :=
  (cs.takeWhile (· != '%'), (cs.dropWhile (· != '%')).drop 1)

/-- A format filled in from a place on. The format has `size` characters in all. The first
placeholder without a name asks for the whole entry, unless one with a name stands before it,
which `whole` tells. A whole entry has no text, so it is refused when all else is in order. -/
def fillFrom (value : String → Option String) (size : Nat) :
    Nat → Bool → List Char → Except Fault (List Char)
  | 0, _, cs => .ok cs
  | fuel + 1, whole, cs =>
    if !cs.contains '%' then .ok cs
    else do
      let (before, cs) := spanText cs
      match cs with
      | '%' :: rest => return before ++ '%' :: (← fillFrom value size fuel whole rest)
      | '(' :: rest =>
        match name? 0 [] rest with
        | none => .error .incompleteName
        | some (name, rest) =>
          match value name with
          | none => .error (.unknownPlaceholder (Text.quoted name))
          | some part =>
            let (conversion, rest) ← conversion? rest
            let part ← conversion.apply (size - rest.length - 1) part
            return before ++ part ++ (← fillFrom value size fuel false rest)
      | cs =>
        let (conversion, rest) ← conversion? cs
        if whole && ['s', 'r', 'a'].contains conversion.letter then
          let _ ← fillFrom value size fuel false rest
          .error .wrongKind
        else if !whole || ('c' :: numberLetters).contains conversion.letter then .error .wrongKind
        else .error (.unknownConversion conversion.letter (size - rest.length - 1))

/-- A format filled in with the parts of an entry. -/
def fill? (value : String → Option String) (format : String) : Except Fault String :=
  let cs := format.toList
  String.ofList <$> fillFrom value cs.length cs.length true cs

end PredictionLeague.LogFormat
