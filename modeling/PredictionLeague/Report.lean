import PredictionLeague.Decimal
import PredictionLeague.Engine

/-!
# The winnings report

What a league pays and who has won what: a line for every prize, won or still open, a table of
the members' winnings, and the pot. Reading the report changes nothing.

* `Report.roundLines`, `Report.monthlyLines`, `Report.seasonLines`: the lines of each kind;
* `Report.leaderboard`: the members by their winnings;
* `Report.ofStore`, `getWinnings`: the whole report.
-/

namespace PredictionLeague

/-- A prize that was paid, or one that is open and has no winner. -/
structure PrizeLine where
  name : String
  amount : Decimal
  winner : Option String
  userId : Option Int
  deriving DecidableEq

/-- What a member has won. -/
structure LeaderboardEntry where
  userId : Int
  playerName : String
  round : Decimal
  monthly : Decimal
  endOfSeason : Decimal
  total : Decimal
  deriving DecidableEq

/-- The report of a league; before its entry deadline it has only the entries and the pot. -/
structure WinningsReport where
  calculated : Bool
  entryCount : Nat
  entryCost : Decimal
  pot : Decimal
  roundPrizes : List PrizeLine
  monthlyPrizes : List PrizeLine
  endOfSeasonPrizes : List PrizeLine
  leaderboard : List LeaderboardEntry
  deriving DecidableEq

namespace Report

/-- The name of a player, if the player is known. -/
def playerName? (s : Store) (userId : Int) : Option String :=
  (Table.get? s.users userId).map User.displayName

/-- The line of a prize that was paid. -/
def paidLine (s : Store) (name : String) (w : Winning) : PrizeLine :=
  ⟨name, .ofPennies w.amount, playerName? s w.userId, some w.userId⟩

/-- The line of a prize that is open. -/
def openLine (name : String) (setting : PrizeSetting) : PrizeLine :=
  ⟨name, .ofPennies setting.amount, none, none⟩

/-! ### Rounds -/

/-- A round number in a line. -/
def roundName : Option Int → String
  | none => "None"
  | some number => toString number

/-- Lines in the order of their numbers; several lines need a number each. -/
def byNumber (lines : List (Option Int × PrizeLine)) : Except Fault (List PrizeLine) :=
  if 1 < lines.length ∧ lines.any (·.1.isNone) then .error .missingNumber
  else .ok ((sorted (fun a b => decide (a.1.getD 0 ≤ b.1.getD 0)) lines).map (·.2))

/-- The round numbers of a season. -/
def roundNumbers (season : Season) : List Int :=
  (List.range season.roundCount.toNat).map fun (n : Nat) => (n : Int) + 1

/-- The lines of the round prizes: those that were paid, and an open one for each other round. -/
def roundLines (s : Store) (setting : PrizeSetting) (winnings : List Winning) (season : Season) :
    Except Fault (List PrizeLine) :=
  let paid := winnings.map fun w => (w.roundNumber, paidLine s (roundName w.roundNumber) w)
  let openNumbers := (roundNumbers season).filter fun n =>
    !winnings.any fun w => w.roundNumber == some n
  byNumber (paid ++ openNumbers.map fun n => (some n, openLine (toString n) setting))

/-! ### Months -/

/-- The line of a month's prize that was paid, with the month. -/
def monthLine (s : Store) (w : Winning) : Except Fault (Int × PrizeLine) :=
  match w.month with
  | none => .error .missingNumber
  | some month =>
    match monthName? month with
    | none => .error .noSuchMonth
    | some name => .ok (month, paidLine s name w)

/-- The order of months in a season. -/
def monthBefore (start : DateTime) (a b : Int) : Bool :=
  let a := monthSortKey a start
  let b := monthSortKey b start
  a.1 < b.1 || (a.1 == b.1 && a.2 ≤ b.2)

/-- The lines of the monthly prizes: those that were paid, and an open one for each other month of
the season. -/
def monthlyLines (s : Store) (setting : PrizeSetting) (winnings : List Winning)
    (season : Option Season) : Except Fault (List PrizeLine) := do
  let paid ← winnings.mapM (monthLine s)
  let some season := season | .error (.absentRow "start_date_utc")
  let openMonths := (seasonMonths season.start season.finish).filter fun (n : Nat) =>
    !winnings.any fun w => w.month == some (n : Int)
  let unpaid := openMonths.map fun (n : Nat) =>
    ((n : Int), openLine ((monthName? n).getD "") setting)
  .ok ((sorted (fun a b => monthBefore season.start a.1 b.1) (paid ++ unpaid)).map (·.2))

/-! ### The end of the season -/

/-- An amount as it is compared with others: to as many digits as a calculation keeps. -/
def comparable (amount : Int) : Decimal := (Decimal.ofPennies amount).kept

/-- The order of prizes at the end of the season: by kind, the larger amount first. -/
def prizeBefore (a b : PrizeSetting) : Bool :=
  a.kind.sortOrder < b.kind.sortOrder ||
    (a.kind == b.kind && (comparable b.amount).atMost (comparable a.amount))

/-- The lines of the prizes at the end of the season: for each prize those that were paid, or an
open one. -/
def seasonLines (s : Store) (settings : List PrizeSetting) (winnings : List Winning) :
    List PrizeLine :=
  (sorted prizeBefore (settings.filter fun setting => !setting.kind.perPeriod)).flatMap
    fun setting =>
      let paid := winnings.filter (·.settingId == setting.id)
      if paid.isEmpty then [openLine setting.title setting]
      else paid.map (paidLine s setting.title)

/-! ### The members -/

/-- The approved members of a league who are known players. -/
def players (s : Store) (leagueId : Int) : List User :=
  (s.members.filter fun m => m.leagueId == leagueId && m.status == .approved).filterMap fun m =>
    Table.get? s.users m.userId

/-- A sum of amounts; without any it has no places. -/
def sum (amounts : List Int) : Decimal :=
  amounts.foldl (fun total amount => (total + .ofPennies amount).kept) (.ofInt 0)

/-- What a member has won, by kind of prize. -/
def entry (settings : List PrizeSetting) (winnings : List Winning) (user : User) :
    LeaderboardEntry :=
  let total (kind : PrizeKind) :=
    sum ((winnings.filter fun w => w.userId == user.id && settings.any fun setting =>
      setting.id == w.settingId && setting.kind == kind).map (·.amount))
  let all := PrizeKind.all.foldl (fun sum kind => (sum + total kind).kept) (.ofInt 0)
  ⟨user.id, user.displayName, total .round, total .monthly,
    ((all - total .round).kept - total .monthly).kept, all⟩

/-- The order of the table: the larger total first, and names in order. -/
def entryBefore (a b : LeaderboardEntry) : Bool :=
  !a.total.atMost b.total || (b.total.atMost a.total && a.playerName ≤ b.playerName)

/-- The members by their winnings. -/
def leaderboard (s : Store) (leagueId : Int) (settings : List PrizeSetting)
    (winnings : List Winning) : List LeaderboardEntry :=
  sorted entryBefore ((players s leagueId).map (entry settings winnings))

/-! ### The report -/

/-- The lines of one kind of prize that is paid for each round or month: none when the league has
no such prize, and the first setting gives the amount of open ones. -/
def linesOf (kind : PrizeKind) (settings : List PrizeSetting) (winnings : List Winning)
    (lines : PrizeSetting → List Winning → Except Fault (List PrizeLine)) :
    Except Fault (List PrizeLine) :=
  match settings.find? (·.kind == kind) with
  | none => .ok []
  | some setting =>
    lines setting (winnings.filter fun w => settings.any fun setting =>
      setting.id == w.settingId && setting.kind == kind)

/-- The report of a league. -/
def ofStore (s : Store) (league : League) (now : DateTime) : Except Fault WinningsReport := do
  let settings := s.prizeSettings.filter (·.leagueId == league.id)
  let entryCount := (players s league.id).length
  let entryCost := Decimal.ofPennies league.price
  let pot := (entryCost * .ofInt entryCount).kept
  if now.stamp < league.entryDeadline.stamp ∨ settings.isEmpty then
    return ⟨false, entryCount, entryCost, pot, [], [], [], []⟩
  let season := s.season? league.seasonId
  let winnings := s.winnings.filter fun w => settings.any (·.id == w.settingId)
  let roundPrizes ← linesOf .round settings winnings fun setting winnings =>
    match season with
    | none => .error (.absentRow "number_of_rounds")
    | some season => roundLines s setting winnings season
  let monthlyPrizes ← linesOf .monthly settings winnings fun setting winnings =>
    monthlyLines s setting winnings season
  return ⟨true, entryCount, entryCost, pot, roundPrizes, monthlyPrizes,
    seasonLines s settings winnings, leaderboard s league.id settings winnings⟩

end Report

/-- The winnings report of a league. -/
def getWinnings (leagueId : Int) (now : DateTime) : Engine WinningsReport := do
  let league ← Engine.getLeague leagueId
  Engine.lift (Report.ofStore (← Engine.current) league now)

end PredictionLeague
