import PredictionLeague.Text.Percent
import PredictionLeague.Api.Address

/-!
# Routes

Which requests there are. A path names at most one route, and each route has its methods. Parts of
a path that stand for a value are kept as they are written.

* `Route.ofPath?`: the route of a path;
* `Route.find?`: the same, also when slashes follow the path.
-/

namespace PredictionLeague.Api

/-- A request by its path; a page tells about the interface itself. -/
inductive Route
  | page
  | health
  | results (roundId : String)
  | settle (roundId : String)
  | recalculate (seasonId : String)
  | winnings (leagueId : String)
  | eligibility (leagueId roundId boostCode : String)
  | useBoost (leagueId roundId boostCode : String)
  | deleteBoost (leagueId roundId : String)
  deriving DecidableEq

namespace Route

/-- The methods of a route. -/
def methods : Route → List String
  | page => ["GET", "HEAD"]
  | health | winnings _ | eligibility .. => ["GET"]
  | results _ | settle _ | recalculate _ | useBoost .. => ["POST"]
  | deleteBoost .. => ["DELETE"]

/-- Whether a route is open to the holder of the key alone. -/
def guarded : Route → Bool
  | page | health | winnings _ | eligibility .. => false
  | results _ | settle _ | recalculate _ | useBoost .. | deleteBoost .. => true

/-- A part of a path without the line break at its end, if there is one. -/
def withoutBreak (part : String) : String :=
  match part.toList.reverse with
  | '\n' :: cs => String.ofList cs.reverse
  | _ => part

/-- The route of the parts of a path, of which `last` is the last one. Parts that stand for a value
are not empty, and a line break may follow a last part that does not stand for one. -/
def ofParts? (front : List String) (last : String) : Option Route :=
  if (last :: front).contains "" then none
  else match front, withoutBreak last with
    | [], "docs" | [], "redoc" | [], "openapi.json" | ["docs"], "oauth2-redirect" => some .page
    | [], "health" => some .health
    | ["tasks", "rounds", roundId], "results" => some (.results roundId)
    | ["tasks", "rounds", roundId], "settle" => some (.settle roundId)
    | ["tasks", "seasons", seasonId], "recalculate" => some (.recalculate seasonId)
    | ["leagues", leagueId], "winnings" => some (.winnings leagueId)
    | ["leagues", leagueId, "rounds", roundId, "boosts", code], "eligibility" =>
      some (.eligibility leagueId roundId code)
    | ["leagues", leagueId, "rounds", roundId, "boosts"], _ =>
      some (.useBoost leagueId roundId last)
    | ["leagues", leagueId, "rounds", roundId], "boosts" => some (.deleteBoost leagueId roundId)
    | _, _ => none

/-- The route of a path, which begins with a slash. -/
def ofPath? (path : List Char) : Option Route :=
  match (Address.parts '/' path).map String.ofList with
  | "" :: parts =>
    match parts.getLast? with
    | some last => ofParts? parts.dropLast last
    | none => none
  | _ => none

/-- The route of a path, or of the address that it is without the slashes at its end. That address
is followed a limited number of times. -/
def follow : Nat → List Char → Option Route
  | 0, path => ofPath? path
  | hops + 1, path =>
    match ofPath? path with
    | some route => some route
    | none =>
      let shorter := (path.reverse.dropWhile (· == '/')).reverse
      if shorter.length < path.length ∧ (ofPath? shorter).isSome then
        follow hops (Text.percentDecoded (Address.normalized shorter))
      else none

/-- The largest number of addresses that are followed. -/
def hopLimit : Nat := 20

/-- The route of a path, also when slashes follow it. -/
def find? (path : List Char) : Option Route := follow hopLimit path

end Route

end PredictionLeague.Api
