import PredictionLeague.Api.Access
import PredictionLeague.Api.Route
import PredictionLeague.Api.WholeNumber
import PredictionLeague.Boost.Use
import PredictionLeague.Report
import PredictionLeague.Settlement

/-!
# Requests and responses

A request is answered in a fixed order of checks: the path, the method, the key, the values of
path, query and body, and at last the work itself.

* `respond`: the response to a request, with its effect on the store.
-/

namespace PredictionLeague.Api

/-- A request. A query that is given apart takes the place of the one in the address. Of several
query values of a name the last one counts. -/
structure Request where
  method : String
  address : String
  query : Option (List (String × String))
  body : Option Data
  key : Option String

/-- A response; some carry no body. -/
structure Response where
  status : Nat
  body : Option Data

namespace Response

/-- A success. -/
def ok (body : Data) : Response := ⟨200, some body⟩

/-- A page, whose text is no concern of the library. -/
def page : Response := ⟨200, none⟩

/-- A refusal with its reason. -/
def refused (status : Nat) (reason : String) : Response :=
  ⟨status, some (.object [("detail", .text reason)])⟩

/-- A request whose values cannot be read. -/
def unreadable : Response := ⟨422, none⟩

/-- A request whose work stopped for a reason that is not told. -/
def failed : Response := ⟨500, none⟩

/-- The response to a request whose work stopped with a fault. -/
def ofFault : Fault → Response
  | fault@(.notFound ..) => refused 404 fault.message
  | fault@(.roundNotCompleted ..) => refused 409 fault.message
  | fault@(.settlement ..) => refused 500 fault.message
  | _ => failed

end Response

/-! ### Bodies -/

/-- The answer to a request that settles something. -/
def settlementBody (status : String) (roundId seasonId : Option Int) (rounds leagues : Nat) :
    Data :=
  .object
    [("status", .text status), ("round_id", .ofOption .integer roundId),
      ("season_id", .ofOption .integer seasonId), ("rounds_processed", .integer rounds),
      ("leagues_processed", .integer leagues)]

/-- The answer about a boost. -/
def eligibilityBody (e : Boost.Eligibility) (leagueId roundId : Int) (code : String) : Data :=
  .object
    [("boost_code", .text code), ("league_id", .integer leagueId), ("round_id", .integer roundId),
      ("can_use", .truth e.canUse), ("reason", .ofOption .text e.reason),
      ("rejection", .ofOption (fun r => .text r.name) e.rejection),
      ("remaining_season_uses", .integer e.remainingSeasonUses),
      ("remaining_window_uses", .integer e.remainingWindowUses),
      ("already_used_this_round", .truth e.alreadyUsedThisRound),
      ("is_round_in_active_window", .truth e.inActiveWindow),
      ("next_window_start_round", .ofOption .integer e.nextWindowStart)]

/-- The answer to the use of a boost. -/
def useBody (e : Boost.Eligibility) : Data :=
  .object
    [("success", .truth e.canUse), ("error", .ofOption .text e.reason),
      ("already_used_this_round", .truth e.alreadyUsedThisRound)]

/-- A line of the report. -/
def lineBody (line : PrizeLine) : Data :=
  .object
    [("name", .text line.name), ("amount", .text line.amount.text),
      ("winner", .ofOption .text line.winner), ("user_id", .ofOption .integer line.userId)]

/-- An entry of the table of the report. -/
def entryBody (entry : LeaderboardEntry) : Data :=
  .object
    [("user_id", .integer entry.userId), ("player_name", .text entry.playerName),
      ("round_winnings", .text entry.round.text), ("monthly_winnings", .text entry.monthly.text),
      ("end_of_season_winnings", .text entry.endOfSeason.text),
      ("total_winnings", .text entry.total.text)]

/-- The winnings report. -/
def reportBody (report : WinningsReport) : Data :=
  .object
    [("winnings_calculated", .truth report.calculated),
      ("entry_count", .integer report.entryCount), ("entry_cost", .text report.entryCost.text),
      ("total_prize_pot", .text report.pot.text),
      ("round_prizes", .list (report.roundPrizes.map lineBody)),
      ("monthly_prizes", .list (report.monthlyPrizes.map lineBody)),
      ("end_of_season_prizes", .list (report.endOfSeasonPrizes.map lineBody)),
      ("leaderboard", .list (report.leaderboard.map entryBody))]

/-! ### Values -/

/-- A score in the body of a request. -/
def score? (d : Data) : Option MatchScore := do
  let matchId ← (← d.field? "match_id").whole?
  let home ← (← d.field? "home_score").natural?
  let away ← (← d.field? "away_score").natural?
  match ← d.field? "status" with
  | .text name => return ⟨matchId, home, away, ← MatchStatus.ofName? name⟩
  | _ => none

/-- The scores in the body of a request. -/
def scores? : Option Data → Option (List MatchScore)
  | some (.list items) => items.mapM score?
  | _ => none

/-- The player that a query names. -/
def userId? (query : List (String × String)) : Option Int :=
  (query.reverse.lookup "user_id").bind wholeNumber?

/-! ### Work -/

/-- The work of a request with the given values, or nothing when they cannot be read. -/
def work? (query : List (String × String)) (body : Option Data) (now : DateTime) :
    Route → Option (Engine Response)
  | .page => some (pure .page)
  | .health => some (pure (.ok (.object [("status", .text "healthy")])))
  | .results roundId => do
    let roundId ← wholeNumber? roundId
    let scores ← scores? body
    return do
      let count ← updateMatchResults roundId scores now
      Engine.say .info .tasks ("Recorded " ++ toString count ++ " match results for round " ++
        toString roundId)
      return .ok (settlementBody (if count = 0 then "unchanged" else "updated") (some roundId)
        none 0 0)
  | .settle roundId => do
    let roundId ← wholeNumber? roundId
    return do
      return .ok (settlementBody "settled" (some roundId) none 0 (← settleRound roundId now))
  | .recalculate seasonId => do
    let seasonId ← wholeNumber? seasonId
    return do
      let count ← recalculateSeason seasonId now
      return .ok (settlementBody "recalculated" none (some seasonId) count 0)
  | .winnings leagueId => do
    let leagueId ← wholeNumber? leagueId
    return do return .ok (reportBody (← getWinnings leagueId now))
  | .eligibility leagueId roundId code => do
    let leagueId ← wholeNumber? leagueId
    let roundId ← wholeNumber? roundId
    let userId ← userId? query
    return do
      let eligibility ← Boost.boostEligibility userId leagueId roundId code now
      return .ok (eligibilityBody eligibility leagueId roundId code)
  | .useBoost leagueId roundId code => do
    let leagueId ← wholeNumber? leagueId
    let roundId ← wholeNumber? roundId
    let userId ← userId? query
    return do return .ok (useBody (← Boost.applyBoost userId leagueId roundId code now))
  | .deleteBoost leagueId roundId => do
    let leagueId ← wholeNumber? leagueId
    let roundId ← wholeNumber? roundId
    let userId ← userId? query
    return do
      if ← Boost.removeBoost userId leagueId roundId now then
        return .ok (.object [("removed", .truth true)])
      else
        return .refused 409 "No boost to remove, or the round deadline has passed"

/-- Do the work of a request. -/
def perform (query : List (String × String)) (body : Option Data) (now : DateTime)
    (route : Route) : Engine Response :=
  match work? query body now route with
  | none => pure .unreadable
  | some work => tryCatch work fun fault => pure (.ofFault fault)

/-- The response to a request by its route, when the given key is configured. -/
def answer (configured : String) (now : DateTime) (method : String)
    (query : List (String × String)) (body : Option Data) (key : Option String) :
    Option Route → Engine Response
  | none => pure (.refused 404 "Not Found")
  | some route =>
    if !route.methods.contains method then pure (.refused 405 "Method Not Allowed")
    else if route.guarded then
      match access configured key with
      | .granted => perform query body now route
      | .denied => pure (.refused 401 "Invalid API key")
      | .incomparable => pure .failed
    else perform query body now route

/-- The response to a request when the given key is configured. A malformed address is refused
before anything else, and the method `HEAD` asks for a response without its body. -/
def respond (configured : String) (now : DateTime) (request : Request) : Engine Response := do
  let some address := Address.ofText? request.address | throw .invalidAddress
  let method := request.method.toUpper
  let query := request.query.getD address.query
  let response ← answer configured now method query request.body request.key
    (Route.find? address.path)
  return if method = "HEAD" then { response with body := none } else response

end PredictionLeague.Api
