import PredictionLeague.Sorted
import PredictionLeague.Standings
import PredictionLeague.Store.Rows
import PredictionLeague.Store.Table

/-!
# The store

All tables of the league, and the questions that the engine asks of them. Every list of rows is
in the order of ids.
-/

namespace PredictionLeague

instance : Row User := ⟨User.id⟩
instance : Row Season := ⟨Season.id⟩
instance : Row Round := ⟨Round.id⟩
instance : Row Match := ⟨Match.id⟩
instance : Row Prediction := ⟨Prediction.id⟩
instance : Row League := ⟨League.id⟩
instance : Row Membership := ⟨Membership.id⟩
instance : Row PrizeSetting := ⟨PrizeSetting.id⟩
instance : Row RoundResult := ⟨RoundResult.id⟩
instance : Row LeagueResult := ⟨LeagueResult.id⟩
instance : Row BoostRule := ⟨BoostRule.id⟩
instance : Row BoostWindow := ⟨BoostWindow.id⟩
instance : Row BoostUsage := ⟨BoostUsage.id⟩
instance : Row MemberStats := ⟨MemberStats.id⟩
instance : Row Winning := ⟨Winning.id⟩

/-- All tables. -/
structure Store where
  users : List User
  seasons : List Season
  rounds : List Round
  fixtures : List Match
  predictions : List Prediction
  leagues : List League
  members : List Membership
  prizeSettings : List PrizeSetting
  roundResults : List RoundResult
  leagueResults : List LeagueResult
  boostRules : List BoostRule
  boostWindows : List BoostWindow
  boostUsages : List BoostUsage
  stats : List MemberStats
  winnings : List Winning
  deriving DecidableEq

namespace Store

/-- The store without rows. -/
def empty : Store := ⟨[], [], [], [], [], [], [], [], [], [], [], [], [], [], []⟩

instance : Inhabited Store := ⟨empty⟩

/-! ### Questions -/

/-- The round with an id. -/
def round? (s : Store) (id : Int) : Option Round := Table.get? s.rounds id

/-- The league with an id. -/
def league? (s : Store) (id : Int) : Option League := Table.get? s.leagues id

/-- The season with an id. -/
def season? (s : Store) (id : Int) : Option Season := Table.get? s.seasons id

/-- The match with an id. -/
def match? (s : Store) (id : Int) : Option Match := Table.get? s.fixtures id

/-- The matches of a round. -/
def fixturesOf (s : Store) (roundId : Int) : List Match := s.fixtures.filter (·.roundId == roundId)

/-- The predictions of a match. -/
def predictionsOf (s : Store) (matchId : Int) : List Prediction :=
  s.predictions.filter (·.matchId == matchId)

/-- The rounds of a season. -/
def roundsOf (s : Store) (seasonId : Int) : List Round :=
  s.rounds.filter (·.seasonId == seasonId)

/-- The leagues of a season. -/
def leaguesOf (s : Store) (seasonId : Int) : List League :=
  s.leagues.filter (·.seasonId == seasonId)

/-- Whether a player is an approved member of a league. -/
def isMember (s : Store) (leagueId userId : Int) : Bool :=
  s.members.any fun m => m.leagueId == leagueId && m.userId == userId && m.status == .approved

/-- The approved members of a league, ascending. -/
def approvedMembers (s : Store) (leagueId : Int) : List Int :=
  ascending
    ((s.members.filter fun m => m.leagueId == leagueId && m.status == .approved).map (·.userId))

/-- The league results of a league. -/
def resultsOf (s : Store) (leagueId : Int) : List LeagueResult :=
  s.leagueResults.filter (·.leagueId == leagueId)

/-- The standings of a league: its approved members and all its results. -/
def standings (s : Store) (leagueId : Int) : Standings :=
  .of (s.approvedMembers leagueId)
    ((s.resultsOf leagueId).map fun r => ⟨r.userId, r.roundId, r.boostedPoints, r.exactScores⟩)

/-- The rounds of a season in the order in which they are played. -/
def scheduleOf (s : Store) (seasonId : Int) : List Round :=
  sorted (fun a b => a.start.stamp ≤ b.start.stamp) (s.roundsOf seasonId)

/-- The rounds of a round's season that start in the same month of the same year, in the order in
which they are played. -/
def monthOf (s : Store) (round : Round) : List Round :=
  (s.scheduleOf round.seasonId).filter
    (·.start.calendarMonth == round.start.calendarMonth)

end Store

end PredictionLeague
