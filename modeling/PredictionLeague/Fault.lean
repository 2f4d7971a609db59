import PredictionLeague.Calendar
import PredictionLeague.Status
import PredictionLeague.Text.Quoted

/-!
# Faults

Everything that can go wrong, by cause, and the wording of each cause in one function
`Fault.message`. Where a wording speaks of a round or a date by its parts, the parts can be given
as they are shown: `Fault.settlementText`, `Fault.roundNotCompletedText`, `DateFault.message`.
-/

namespace PredictionLeague

/-- The sets of names that rows and requests may use. -/
inductive Vocabulary
  | matchStatus
  | roundStatus
  | prizeKind
  | membershipStatus
  | outcome
  deriving DecidableEq

/-- How a set of names is called in messages. -/
def Vocabulary.title : Vocabulary → String
  | matchStatus => "MatchStatus"
  | roundStatus => "RoundStatus"
  | prizeKind => "PrizeType"
  | membershipStatus => "LeagueMemberStatus"
  | outcome => "PredictionOutcome"

/-- Why an operation could not be carried out. -/
inductive Fault
  /-- A round, league or season that does not exist. -/
  | notFound (entity key : String)
  /-- Prizes asked for a round that is still being played. -/
  | roundNotCompleted (roundId number : Int) (status : RoundStatus)
  /-- A season walk that stopped at a round. -/
  | settlement (roundId number : Int) (cause : String)
  /-- A score below zero. -/
  | negativeScore
  /-- A word outside its set of names, as it is shown. -/
  | unknownName (vocabulary : Vocabulary) (shown : String)
  /-- A text that is no date, as it is shown. -/
  | invalidDate (cause : DateFault) (shown : String)
  /-- A value of a kind that an operation does not take. -/
  | wrongKind
  /-- Pennies counted of something that is not a number. -/
  | notANumber
  /-- A log level that is a text and not a level. -/
  | unknownLevel (shown : String)
  /-- A log level that is neither a number nor a text. -/
  | unusableLevel (shown : String)
  /-- A log format without any placeholder. -/
  | invalidFormat (format : String)
  /-- A log format that ends inside a placeholder. -/
  | incompleteFormat
  /-- A log format that ends inside the name of a placeholder. -/
  | incompleteName
  /-- A placeholder of something that entries do not have, as its name is shown. -/
  | unknownPlaceholder (shown : String)
  /-- A placeholder with a letter that has no meaning, and the place of the letter. -/
  | unknownConversion (letter : Char) (place : Nat)
  /-- A placeholder wider than any text may be. -/
  | tooWide
  /-- A text that is no decimal, or a decimal with too many digits. -/
  | invalidDecimal
  /-- An amount of money that is marked as no number and must not be used. -/
  | unusableAmount
  /-- An integer beyond the 64 bits of the store. -/
  | integerTooLarge
  /-- A required field without a value. -/
  | missingValue (table column : String)
  /-- A key that is already taken. -/
  | duplicateKey (table : String) (columns : List String)
  /-- A field read of a row that does not exist. -/
  | absentRow (field : String)
  /-- Numbers sorted together with a number that is missing. -/
  | missingNumber
  /-- The name of a month outside the year. -/
  | noSuchMonth
  /-- An address that no request can have. -/
  | invalidAddress
  deriving DecidableEq

/-- The wording of what is wrong with a date. -/
def DateFault.message (shown : String) : DateFault → String
  | malformed => "Invalid isoformat string: " ++ shown
  | year number => "year " ++ toString number ++ " is out of range"
  | month => "month must be in 1..12"
  | day => "day is out of range for month"
  | hour => "hour must be in 0..23"
  | minute => "minute must be in 0..59"
  | second => "second must be in 0..59"

namespace Fault

/-- The wording of prizes asked for a round that is still being played. -/
def roundNotCompletedText (roundId number status : String) : String :=
  "Round " ++ number ++ " (id=" ++ roundId ++ ") is " ++ status ++ ", not Completed."

/-- The wording of a season walk that stopped at a round. -/
def settlementText (roundId number cause : String) : String :=
  "Settlement of round " ++ number ++ " (id=" ++ roundId ++ ") failed: " ++ cause

/-- A character as it stands in a message of plain ASCII. -/
def plainChar (c : Char) : Char := if 31 ≤ c.toNat ∧ c.toNat < 127 then c else '?'

/-- The wording of a fault. -/
def message : Fault → String
  | notFound entity key => entity ++ " with key \"" ++ key ++ "\" was not found."
  | roundNotCompleted roundId number status =>
    roundNotCompletedText (toString roundId) (toString number) status.name
  | settlement roundId number cause =>
    settlementText (toString roundId) (toString number) cause
  | negativeScore => "Scores cannot be negative."
  | unknownName vocabulary shown => shown ++ " is not a valid " ++ vocabulary.title
  | invalidDate cause shown => cause.message shown
  | wrongKind => "unsupported operand type"
  | notANumber => "cannot convert NaN to integer"
  | unknownLevel shown => "Unknown level: " ++ shown
  | unusableLevel shown => "Level not an integer or a valid string: " ++ shown
  | invalidFormat format => "Invalid format '" ++ format ++ "' for '%' style"
  | incompleteFormat => "incomplete format"
  | incompleteName => "incomplete format key"
  | unknownPlaceholder shown => "Formatting field not found in record: " ++ shown
  | unknownConversion letter place =>
    "unsupported format character '" ++ String.singleton (plainChar letter) ++ "' (0x" ++
      Text.hexadecimal 1 letter.toNat ++ ") at index " ++ toString place
  | tooWide => "width too big"
  | invalidDecimal => "[<class 'decimal.InvalidOperation'>]"
  | unusableAmount => "cannot convert signaling NaN to float"
  | integerTooLarge => "Python int too large to convert to SQLite INTEGER"
  | missingValue table column => "NOT NULL constraint failed: " ++ table ++ "." ++ column
  | duplicateKey table columns =>
    "UNIQUE constraint failed: " ++ ", ".intercalate (columns.map fun c => table ++ "." ++ c)
  | absentRow field => "'NoneType' object has no attribute '" ++ field ++ "'"
  | missingNumber => "'<' not supported between instances of 'int' and 'NoneType'"
  | noSuchMonth => "list index out of range"
  | invalidAddress => "Invalid URL"

end Fault

/-- The date that a text writes. -/
def Fault.date (text : String) : Except Fault DateTime :=
  match DateTime.ofText text with
  | .ok d => .ok d
  | .error cause => .error (.invalidDate cause (Text.quoted text))

/-- A word that is not in its set of names. -/
def Vocabulary.fault (v : Vocabulary) (word : String) : Fault :=
  .unknownName v (Text.quoted word)

end PredictionLeague
