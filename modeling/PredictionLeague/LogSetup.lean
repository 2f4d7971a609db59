import PredictionLeague.Fault
import PredictionLeague.Log
import PredictionLeague.LogFormat

/-!
# Setting up the log

Where log entries go: always to the console, and on request to two rotating files, one for all
entries and one for errors. Level names are read in any case, an unknown name means `INFO`, and
a name that stands for something else than a level is refused. The console may colour the level
of each entry.
-/

namespace PredictionLeague.LogSetup

/-- The level names and their numbers; two levels have a second name, which comes after. -/
def levels : List (String × Nat) :=
  [("CRITICAL", 50), ("ERROR", 40), ("WARNING", 30), ("INFO", 20), ("DEBUG", 10), ("NOTSET", 0),
    ("FATAL", 50), ("WARN", 30)]

/-- The number of a level that is not named otherwise. -/
def infoLevel : Nat := 20

/-- The number from which entries reach the file of errors. -/
def errorLevel : Nat := 40

/-- The level when none is asked for. -/
def defaultLevel : String := "INFO"

/-- The characters beyond ASCII whose capital is made of ASCII letters. -/
def capitals : List (Char × List Char) :=
  [('ß', ['S', 'S']), ('ı', ['I']), ('ſ', ['S']), ('ﬀ', ['F', 'F']), ('ﬁ', ['F', 'I']),
    ('ﬂ', ['F', 'L']), ('ﬃ', ['F', 'F', 'I']), ('ﬄ', ['F', 'F', 'L']), ('ﬅ', ['S', 'T']),
    ('ﬆ', ['S', 'T'])]

/-- A name in capitals, as far as capitals can be ASCII letters. -/
def upperCased (s : String) : String :=
  String.ofList (s.toList.flatMap fun c => (capitals.lookup c).getD [c.toUpper])

/-- The number of a level name. -/
def level? (name : String) : Except Fault Nat :=
  let name := upperCased name
  if name = "BASIC_FORMAT" then
    .error (.unknownLevel (Text.quoted "%(levelname)s:%(name)s:%(message)s"))
  else if name = "_STYLES" then .error (.unusableLevel name)
  else .ok ((levels.lookup name).getD infoLevel)

/-- The name of a level number. -/
def levelName (level : Nat) : String :=
  ((levels.find? (·.2 == level)).map (·.1)).getD ("Level " ++ toString level)

/-- A file that is renamed when it is full. -/
structure RotatingFile where
  name : String
  maxBytes : Nat
  backups : Nat
  deriving DecidableEq

/-- Where entries from a level on are written, in which form, coloured or not; the console when
there is no file. -/
structure Handler where
  level : Nat
  format : String
  dateFormat : String
  colored : Bool
  file : Option RotatingFile
  deriving DecidableEq

/-- The log as it is set up, with the entry that reports it. -/
structure Setup where
  rootLevel : Nat
  handlers : List Handler
  logged : List LogEntry
  deriving DecidableEq

/-- The form of an entry. -/
def entryFormat : String := "%(asctime)s [%(levelname)s] %(name)s: %(message)s"

/-- The form of an entry in the file of errors, which tells the place as well. -/
def errorFormat : String := entryFormat ++ " [%(pathname)s:%(lineno)d]"

/-- The form of a time. -/
def dateFormat : String := "%Y-%m-%d %H:%M:%S"

/-- The file of all entries. -/
def entryFile : RotatingFile := ⟨"league_engine.log", 10 * 1024 * 1024, 5⟩

/-- The file of errors. -/
def errorFile : RotatingFile := ⟨"errors.log", 5 * 1024 * 1024, 3⟩

/-- Set up the log; no level and the empty one mean the default. -/
def setup (level : Option String) (toFile colored : Bool) : Except Fault Setup := do
  let asked := level.getD ""
  let number ← level? (if asked.isEmpty then defaultLevel else asked)
  let console : Handler := ⟨number, entryFormat, dateFormat, colored, none⟩
  let files : List Handler :=
    [⟨number, entryFormat, dateFormat, false, some entryFile⟩,
      ⟨errorLevel, errorFormat, dateFormat, false, some errorFile⟩]
  .ok
    { rootLevel := number
      handlers := console :: if toFile then files else []
      logged := [⟨.info, .logging, "Logging configured - Level: " ++ levelName number⟩] }

/-! ### Coloured entries -/

/-- The code that starts a terminal sequence. -/
def escape : String := "\x1b["

/-- The colour of a level name. -/
def color (levelName : String) : String :=
  escape ++ match levelName with
    | "DEBUG" => "36m"
    | "INFO" => "32m"
    | "WARNING" => "33m"
    | "ERROR" => "31m"
    | "CRITICAL" => "35m"
    | _ => "0m"

/-- A level name in its colour. -/
def coloredName (levelName : String) : String := color levelName ++ levelName ++ escape ++ "0m"

/-- An entry written in a format, with the level name in its colour. The empty format shows the
message alone, and a format without placeholders is refused. -/
def coloredText (format levelName name message : String) : Except Fault String :=
  let format := if format.isEmpty then "%(message)s" else format
  let value (part : String) : Option String :=
    if part = "levelname" then some (coloredName levelName)
    else if part = "name" then some name
    else if part = "message" then some message
    else none
  if LogFormat.isFormat format.toList then LogFormat.fill? value format
  else .error (.invalidFormat format)

end PredictionLeague.LogSetup
