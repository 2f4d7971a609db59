import PredictionLeague.Engine
import PredictionLeague.Money
import PredictionLeague.Prize.Split

/-!
# Paying prizes

Each kind of prize decides whether a round settles it, which winnings it replaces, and who is
paid what. Settling a round again replaces the winnings of the same period, so nothing is paid
twice.

* `award?`: what one kind of prize pays after a round, or nothing when the round does not settle
  it;
* `recordAwards`: the winnings after awards were recorded, old ones of their periods replaced;
* `processPrizes`: all kinds of prizes of a league, as one unit.
-/

namespace PredictionLeague.Prize

/-- What a winning is for: a round number, a month number, or the whole season. -/
inductive Period
  | round (number : Int)
  | month (number : Int)
  | season
  deriving DecidableEq

namespace Period

/-- Whether a winning was paid for a period. -/
def covers : Period → Winning → Bool
  | round number, w => w.roundNumber == some number
  | month number, w => w.month == some number
  | season, _ => true

/-- The round number to record. -/
def roundNumber : Period → Option Int
  | round number => some number
  | _ => none

/-- The month number to record. -/
def monthNumber : Period → Option Int
  | month number => some number
  | _ => none

end Period

/-- An amount for a player out of a prize. -/
structure Payment where
  userId : Int
  settingId : Int
  amount : Int
  deriving DecidableEq

/-- What a kind of prize pays: the settings and the period whose winnings are replaced, and the
payments. -/
structure Award where
  settingIds : List Int
  period : Period
  payments : List Payment
  deriving DecidableEq

/-- A prize split among its winners, who are paid in ascending order what the store keeps of their
shares. -/
def pay (setting : PrizeSetting) (winners : List Int) : Except Fault (List Payment) := do
  let winners := ascending winners
  let shares ← split (Decimal.ofPennies setting.amount) winners.length
  return winners.zipWith (fun userId share => ⟨userId, setting.id, Money.kept share.pennies⟩)
    shares

/-- Whether a round is the last of its season. -/
def isLastRound (season : Season) (round : Round) : Bool := round.number == season.roundCount

/-- Whether the season prizes are settled after a round; the season has to be there. -/
def settlesSeason (season : Option Season) (round : Round) : Except Fault Bool :=
  match season with
  | none => .error (.absentRow "number_of_rounds")
  | some season => .ok (isLastRound season round)

/-- The payments of the rank prizes: each setting pays the group of its rank, and a rank that is
absorbed by a tie above it pays nobody. -/
def payRanks (groups : List RankGroup) (settings : List PrizeSetting) :
    Except Fault (List Payment) := do
  let payments ← settings.mapM fun setting =>
    match groups.find? fun g => (g.rank : Int) == setting.rank with
    | none => .ok []
    | some group => pay setting group.userIds
  return payments.flatten

/-- What a kind of prize pays after a round. The settings are those of the kind, the best rank
first; only the first one is paid, except for rank prizes. -/
def award? (s : Store) (kind : PrizeKind) (settings : List PrizeSetting) (standings : Standings)
    (round : Round) (season : Option Season) : Except Fault (Option Award) := do
  let settingIds := settings.map (·.id)
  let some setting := settings.head? | return none
  match kind with
  | .round =>
    let payments ← pay setting (standings.roundWinners round.id)
    return some ⟨settingIds, .round round.number, payments⟩
  | .monthly =>
    let rounds := (s.monthOf round).map (·.id)
    if rounds.getLast? != some round.id then return none
    let payments ← pay setting (standings.periodWinners rounds)
    return some ⟨settingIds, .month round.start.month, payments⟩
  | .overall =>
    if !(← settlesSeason season round) then return none
    return some ⟨settingIds, .season, ← payRanks standings.overall settings⟩
  | .mostExactScores =>
    if !(← settlesSeason season round) then return none
    return some ⟨settingIds, .season, ← pay setting standings.mostExact⟩

/-- The winning that records a payment. -/
def Payment.winning (payment : Payment) (period : Period) (now : DateTime) (id : Int) : Winning :=
  ⟨id, payment.userId, payment.settingId, payment.amount, period.roundNumber, period.monthNumber,
    now⟩

/-- Whether an award replaces a winning. -/
def Award.replaces (award : Award) (w : Winning) : Bool :=
  award.settingIds.contains w.settingId && award.period.covers w

/-- The winnings that an award leaves in place. -/
def Award.kept (award : Award) (winnings : List Winning) : List Winning :=
  winnings.filter fun w => !award.replaces w

/-- The new winnings of an award. -/
def Award.paid (award : Award) (now : DateTime) (winnings : List Winning) : List Winning :=
  Table.fresh (award.kept winnings)
    (award.payments.map fun payment => payment.winning award.period now)

/-- All winnings after awards were recorded one after the other, and the new ones among them. -/
def recordAwards (now : DateTime) (winnings : List Winning) :
    List Award → List Winning × List Winning
  | [] => (winnings, [])
  | award :: awards =>
    let paid := award.paid now winnings
    let (winnings, rest) := recordAwards now (award.kept winnings ++ paid) awards
    (winnings, paid ++ rest)

/-- The settings of a league, the best rank first. -/
def settingsOf (s : Store) (leagueId : Int) : List PrizeSetting :=
  sorted (fun a b => decide (a.rank ≤ b.rank)) (s.prizeSettings.filter (·.leagueId == leagueId))

/-- The awards of all kinds of prizes after a round, in the order of payment. -/
def awards (s : Store) (settings : List PrizeSetting) (standings : Standings) (round : Round)
    (season : Option Season) : Except Fault (List Award) := do
  let awards ← PrizeKind.all.mapM fun kind =>
    award? s kind (settings.filter (·.kind == kind)) standings round season
  return awards.filterMap id

/-- Settle all prizes of a league after a round, and return the new winnings. A fault leaves the
winnings as they were. -/
def processPrizes (leagueId roundId : Int) (now : DateTime) : Engine (List Winning) := do
  let round ← Engine.getRound roundId
  let _ ← Engine.getLeague leagueId
  let s ← Engine.current
  let settings := settingsOf s leagueId
  if settings.isEmpty then
    Engine.say .warning .prizes
      ("League " ++ toString leagueId ++ " has no prize settings, nothing to settle")
    return []
  match awards s settings (s.standings leagueId) round (s.season? round.seasonId) with
  | .error fault =>
    Engine.say .error .prizes ("Prize settlement failed for league " ++ toString leagueId ++
      ", round " ++ toString roundId)
    throw fault
  | .ok awards =>
    let (winnings, paid) := recordAwards now s.winnings awards
    Engine.put { s with winnings }
    Engine.say .info .prizes ("League " ++ toString leagueId ++ ", round " ++
      toString round.number ++ ": awarded " ++ toString paid.length ++ " winnings")
    return paid

end PredictionLeague.Prize
