import PredictionLeague.Text.Printable

/-!
# Quoted text

The form in which a foreign word is shown inside a message: between single quotes, or between
double quotes when it holds a single quote and no double one. The closing quote, the backslash
and characters that do not print are escaped.
-/

namespace PredictionLeague.Text

/-- `n` in hexadecimal with `width` digits. -/
def hexadecimal (width n : Nat) : String :=
  let digits := Nat.toDigits 16 n
  String.ofList (List.replicate (width - digits.length) '0' ++ digits)

/-- A character inside quotes of the given kind; `plain` tells which characters may be shown as they
are. -/
def escape (plain : Char → Bool) (quote c : Char) : String :=
  if c = quote || c = '\\' then "\\" ++ String.singleton c
  else if c = '\t' then "\\t"
  else if c = '\n' then "\\n"
  else if c = '\r' then "\\r"
  else if plain c then String.singleton c
  else if c.toNat < 0x100 then "\\x" ++ hexadecimal 2 c.toNat
  else if c.toNat < 0x10000 then "\\u" ++ hexadecimal 4 c.toNat
  else "\\U" ++ hexadecimal 8 c.toNat

/-- A text between quotes, of whose characters those in `plain` may be shown as they are. -/
def quotedBy (plain : Char → Bool) (s : String) : String :=
  let quote := if s.toList.any (· = '\'') && !s.toList.any (· = '"') then '"' else '\''
  String.singleton quote ++ String.join (s.toList.map (escape plain quote)) ++
    String.singleton quote

/-- A text between quotes. -/
def quoted (s : String) : String := quotedBy isPrintable s

/-- A text between quotes in ASCII characters alone. -/
def quotedAscii (s : String) : String := quotedBy (fun c => isPrintable c && c.toNat < 128) s

end PredictionLeague.Text
