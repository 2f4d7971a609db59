/-!
# The key

Guarded requests have to carry the configured key. Keys are compared as ASCII texts, and a text
with another character cannot be compared at all.
-/

namespace PredictionLeague.Api

/-- What becomes of a request that has to carry the key. -/
inductive Access
  | granted
  | denied
  | incomparable
  deriving DecidableEq

/-- Whether a text has ASCII characters alone. -/
def isAscii (s : String) : Bool := s.toList.all (·.toNat < 128)

/-- Compare the configured key with the key of a request. Without either of them nothing is
compared. -/
def access (configured : String) (given : Option String) : Access :=
  match given with
  | none => .denied
  | some key =>
    if configured = "" ∨ key = "" then .denied
    else if !isAscii configured || !isAscii key then .incomparable
    else if key = configured then .granted
    else .denied

end PredictionLeague.Api
