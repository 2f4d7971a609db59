/-!
# Reading UTF-8

The characters that bytes stand for in UTF-8. The first byte of a character says how many follow
and bounds the second one; where the bytes so far cannot be continued they are read as one
replacement character, and reading starts anew with the byte that did not fit.
-/

namespace PredictionLeague.Text.Utf8

/-- The character that stands for bytes that are no text. -/
def replacement : Char := '\ufffd'

/-- A character of which the first bytes are read: how many bytes are still owed, the range of the
next one, and the bits so far. -/
structure Pending where
  owed : Nat
  low : Nat
  high : Nat
  bits : Nat
  deriving DecidableEq

/-- What the first byte of a character tells; a character of one byte owes nothing. -/
def first? (b : Nat) : Option Pending :=
  if b < 0x80 then some ⟨0, 0x80, 0xbf, b⟩
  else if b < 0xc2 then none
  else if b < 0xe0 then some ⟨1, 0x80, 0xbf, b - 0xc0⟩
  else if b < 0xf0 then
    some ⟨2, if b = 0xe0 then 0xa0 else 0x80, if b = 0xed then 0x9f else 0xbf, b - 0xe0⟩
  else if b < 0xf5 then
    some ⟨3, if b = 0xf0 then 0x90 else 0x80, if b = 0xf4 then 0x8f else 0xbf, b - 0xf0⟩
  else none

/-- A character with one more byte. -/
def Pending.next (p : Pending) (b : Nat) : Pending :=
  ⟨p.owed - 1, 0x80, 0xbf, p.bits * 0x40 + b % 0x40⟩

/-- The characters that are finished, and the one that is not. -/
def settle (done : List Char) (p : Pending) : List Char × Option Pending :=
  if p.owed = 0 then (Char.ofNat p.bits :: done, none) else (done, some p)

/-- Read a byte where a character begins. -/
def start (done : List Char) (b : Nat) : List Char × Option Pending :=
  match first? b with
  | none => (replacement :: done, none)
  | some p => settle done p

/-- Read a byte. Characters that are finished are put in front of those before. -/
def step (done : List Char) (b : Nat) : Option Pending → List Char × Option Pending
  | none => start done b
  | some p =>
    if p.low ≤ b ∧ b ≤ p.high then settle done (p.next b) else start (replacement :: done) b

/-- The characters when no more bytes follow. -/
def flush (done : List Char) : Option Pending → List Char
  | none => done
  | some _ => replacement :: done

end PredictionLeague.Text.Utf8
