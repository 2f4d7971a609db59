import PredictionLeague.Text.Digit
import PredictionLeague.Text.Utf8

/-!
# Percent signs

In an address a percent sign with two hexadecimal digits stands for a byte, and the bytes in a row
are read as UTF-8. All else stands for itself.
-/

namespace PredictionLeague.Text

/-- Read an address from where `done` are the characters before, the last one first, and `p` is
the character of which some bytes are read. -/
def percentFrom (done : List Char) (p : Option Utf8.Pending) : List Char → List Char
  | '%' :: a :: b :: cs =>
    match hexValue? a, hexValue? b with
    | some high, some low =>
      let (done, p) := Utf8.step done (high * 16 + low) p
      percentFrom done p cs
    | _, _ => percentFrom ('%' :: Utf8.flush done p) none (a :: b :: cs)
  | c :: cs => percentFrom (c :: Utf8.flush done p) none cs
  | [] => (Utf8.flush done p).reverse

/-- The characters of an address. -/
def percentDecoded (cs : List Char) : List Char := percentFrom [] none cs

end PredictionLeague.Text
