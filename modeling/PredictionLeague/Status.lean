/-!
# Names of states

The states of a match, of a round and of a membership, each with the name under which it is
stored and read. Reading is exact: `ofName?` accepts what `name` writes and nothing else.
-/

namespace PredictionLeague

/-- Whether a match has kicked off or is over. -/
inductive MatchStatus
  | scheduled
  | inProgress
  | completed
  deriving DecidableEq

namespace MatchStatus

/-- The stored name. -/
def name : MatchStatus → String
  | scheduled => "Scheduled"
  | inProgress => "InProgress"
  | completed => "Completed"

/-- All states. -/
def all : List MatchStatus := [scheduled, inProgress, completed]

/-- The state of a stored name. -/
def ofName? (s : String) : Option MatchStatus := all.find? (·.name = s)

/-- A match that has kicked off, whether or not it is over. -/
def started (s : MatchStatus) : Bool := s != scheduled

end MatchStatus

/-- Where a round is in its life. -/
inductive RoundStatus
  | draft
  | published
  | inProgress
  | completed
  deriving DecidableEq

namespace RoundStatus

/-- The stored name. -/
def name : RoundStatus → String
  | draft => "Draft"
  | published => "Published"
  | inProgress => "InProgress"
  | completed => "Completed"

/-- All states. -/
def all : List RoundStatus := [draft, published, inProgress, completed]

/-- The state of a stored name. -/
def ofName? (s : String) : Option RoundStatus := all.find? (·.name = s)

end RoundStatus

/-- Whether a player has been let into a league. -/
inductive MembershipStatus
  | pending
  | approved
  | rejected
  deriving DecidableEq

namespace MembershipStatus

/-- The stored name. -/
def name : MembershipStatus → String
  | pending => "Pending"
  | approved => "Approved"
  | rejected => "Rejected"

/-- All states. -/
def all : List MembershipStatus := [pending, approved, rejected]

/-- The state of a stored name. -/
def ofName? (s : String) : Option MembershipStatus := all.find? (·.name = s)

end MembershipStatus

@[simp] theorem MatchStatus.ofName?_name (s : MatchStatus) : ofName? s.name = some s := by
  cases s <;> rfl

@[simp] theorem RoundStatus.ofName?_name (s : RoundStatus) : ofName? s.name = some s := by
  cases s <;> rfl

@[simp] theorem MembershipStatus.ofName?_name (s : MembershipStatus) :
    ofName? s.name = some s := by
  cases s <;> rfl

end PredictionLeague
