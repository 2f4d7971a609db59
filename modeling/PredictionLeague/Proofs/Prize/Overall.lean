import PredictionLeague.Proofs.LiveRanks
import PredictionLeague.Proofs.Prize.Season
import PredictionLeague.Proofs.Resettle

/-!
# Rank prizes go to the ranks that are shown

The stats of a league rank its members by their results in the rounds of the season, and the prizes
of the season are paid by all results of the league. The two agree where every result of a league
is of a round of its season, whatever the ties are.

* `Store.ResultsInSeason`: every result of a league is of a round of its season;
* `Store.membersOnRank`: the approved members with an overall rank in their stats;
* `memberRank_season`: over the rounds of the season members rank as by all results;
* `Refreshed.resultsInSeason`: recording scores keeps results in their seasons;
* `PaidUp.paysSeason`: a last round that is paid up has paid the prizes of its season;
* `updateMatchResults_paysRanks`: the call that ends a season pays its rank prizes to the members
  whose stats have the rank.
-/

namespace PredictionLeague

open Engine

namespace Store

/-- Every result of a league is of a round of the season of the league. -/
def ResultsInSeason (s : Store) : Prop :=
  ∀ league ∈ s.leagues, ∀ r ∈ s.resultsOf league.id,
    r.roundId ∈ (s.roundsOf league.seasonId).map (·.id)

instance (s : Store) : Decidable s.ResultsInSeason :=
  inferInstanceAs (Decidable (∀ league ∈ s.leagues, ∀ r ∈ s.resultsOf league.id,
    r.roundId ∈ (s.roundsOf league.seasonId).map (·.id)))

/-- The approved members of a league whose stats have an overall rank. -/
def membersOnRank (s : Store) (leagueId rank : Int) : List Int :=
  (s.stats.filter fun r =>
    r.leagueId == leagueId && s.isMember leagueId r.userId && r.overallRank == rank).map (·.userId)

variable {s t : Store} {league : League} {leagueId rank userId : Int} {round : Round}

/-! ### The rounds of a season and all results -/

/-- Over the rounds of the season the points of a player are those of all its results. -/
theorem pointsOver_season (h : s.ResultsInSeason) (hleague : league ∈ s.leagues) (userId : Int) :
    s.pointsOver league.id ((s.roundsOf league.seasonId).map (·.id)) userId =
      totalOver s.leagueResults (·.boostedPoints) league.id userId := by
  have hrounds : ∀ r ∈ s.resultsOf league.id,
      ((s.roundsOf league.seasonId).map (·.id)).contains r.roundId = true :=
    fun r hr => List.contains_iff_mem.2 (h league hleague r hr)
  rw [pointsOver, totalOver, Standings.sumOf_eq_sum]
  congr 2
  calc (s.resultsOf league.id).filter (fun r => r.userId == userId &&
        ((s.roundsOf league.seasonId).map (·.id)).contains r.roundId)
      = (s.resultsOf league.id).filter (·.userId == userId) :=
        List.filter_congr fun r hr => by rw [hrounds r hr, Bool.and_true]
    _ = s.leagueResults.filter fun r => r.leagueId == league.id && r.userId == userId := by
        rw [resultsOf, List.filter_filter]
        exact List.filter_congr fun r _ => Bool.and_comm ..

/-- Over the rounds of the season the members of a league rank as by all its results. -/
theorem memberRank_season (h : s.ResultsInSeason) (hleague : league ∈ s.leagues) (userId : Int) :
    s.memberRank league.id
        (s.pointsOver league.id ((s.roundsOf league.seasonId).map (·.id))) userId =
      s.rankOver s.leagueResults league.id userId := by
  simp only [memberRank, rankOver, pointsOver_season h hleague]

/-- The overall rank among the live figures is the rank by all results. -/
theorem Keyed.overallRank_liveFigures (hs : s.Keyed) (h : s.ResultsInSeason)
    (hleague : league ∈ s.leaguesOf round.seasonId) (hmember : s.isMember league.id userId = true) :
    (s.liveFigures round league.id userId).overallRank =
      s.rankOver s.leagueResults league.id userId := by
  obtain ⟨hleague, hseason⟩ := List.mem_filter.1 hleague
  rw [hs.liveFigures_eq round hmember, ← memberRank_season h hleague, beq_iff_eq.1 hseason]

/-! ### Members on a rank -/

theorem mem_membersOnRank : userId ∈ s.membersOnRank leagueId rank ↔
    s.isMember leagueId userId = true ∧
      ∃ figures ∈ s.figuresOf leagueId userId, figures.overallRank = rank := by
  simp only [membersOnRank, figuresOf, Table.rowsOf, List.mem_map, List.mem_filter,
    Bool.and_eq_true, beq_iff_eq]
  constructor
  · rintro ⟨r, ⟨hr, ⟨hleague, hmember⟩, hrank⟩, rfl⟩
    exact ⟨hmember, r.live, ⟨r, ⟨hr, hleague, rfl⟩, rfl⟩, hrank⟩
  · rintro ⟨hmember, _, ⟨r, ⟨hr, hleague, rfl⟩, rfl⟩, hrank⟩
    exact ⟨r, ⟨hr, ⟨hleague, hmember⟩, hrank⟩, rfl⟩

theorem Keyed.nodup_membersOnRank (hs : s.Keyed) (leagueId rank : Int) :
    (s.membersOnRank leagueId rank).Nodup := by
  have hkeys := List.Nodup.of_map _ hs.stats
  refine List.Nodup.map_on ?_ (hkeys.filter _)
  intro r hr r' hr' huser
  simp only [List.mem_filter, Bool.and_eq_true, beq_iff_eq] at hr hr'
  exact List.inj_on_of_nodup_map hs.stats hr.1 hr'.1
    (Prod.ext (hr.2.1.1.trans hr'.2.1.1.symm) huser)

/-! ### Results stay in their seasons -/

/-- Recording scores of a round keeps the results of the leagues in their seasons. -/
theorem Refreshed.resultsInSeason {scores : List MatchScore} {now : DateTime}
    (h : s.Refreshed t round scores now) (hround : round ∈ s.rounds) (hs : s.ResultsInSeason) :
    t.ResultsInSeason := by
  intro league hleague r hr
  obtain ⟨hr, hid⟩ := List.mem_filter.1 hr
  have hleagues : t.leagues = s.leagues := by
    obtain ⟨_, _, _, _, _, _, _, hrest⟩ := h.rest
    rw [hrest]
  rw [hleagues] at hleague
  rw [ids_roundsOf_of_slots h.slots]
  -- A result that was there before is of a round of the season.
  have hbefore (old : LeagueResult) (hold : old ∈ s.leagueResults)
      (hleagueId : old.leagueId = r.leagueId) :
      old.roundId ∈ (s.roundsOf league.seasonId).map (·.id) := by
    have hown : old.leagueId = league.id := hleagueId.trans (beq_iff_eq.1 hid)
    exact hs league hleague old (List.mem_filter.2 ⟨hold, beq_iff_eq.2 hown⟩)
  by_cases hother : r.roundId = round.id
  · by_cases hseason : league.seasonId = round.seasonId
    · -- Results of the round itself are made for the leagues of its season.
      rw [hother]
      exact List.mem_map_of_mem (List.mem_filter.2 ⟨hround, beq_iff_eq.2 hseason.symm⟩)
    · -- Of other leagues the results of the round are those from before, but for their boosts.
      have hothers : ∀ other ∈ s.leaguesOf round.seasonId, other.id ≠ league.id := by
        intro other hmem hsame
        obtain ⟨hmem, hseason'⟩ := List.mem_filter.1 hmem
        rw [← hleagues] at hmem hleague
        obtain rfl : other = league := h.keyed.leagues.eq_of_id_eq hmem hleague hsame
        exact hseason (beq_iff_eq.1 hseason')
      have hrows : r ∈ t.leagueResults.filter fun r =>
          r.leagueId == league.id && r.roundId == round.id :=
        List.mem_filter.2 ⟨hr, by rw [hid, Bool.true_and, beq_iff_eq]; exact hother⟩
      rw [h.others.otherLeagues league.id hothers] at hrows
      obtain ⟨old, hold, rfl⟩ := List.mem_map.1 hrows
      exact hbefore old (List.mem_of_mem_filter hold) rfl
  · have hrows : r ∈ t.leagueResults.filter (·.roundId != round.id) :=
      List.mem_filter.2 ⟨hr, by simpa using hother⟩
    rw [h.others.points] at hrows
    exact hbefore r (List.mem_of_mem_filter hrows) rfl

/-! ### What a last round pays -/

variable {roundId : Int} {now : DateTime} {awards : List Prize.Award}

/-- A last round that is paid up has paid the prizes of its season, by the results as they are. -/
theorem PaidUp.paysSeason (h : s.PaidUp roundId now round awards)
    (hlast : (s.season? round.seasonId).any (Prize.isLastRound · round) = true) :
    s.PaysSeason round.seasonId s.leagueResults := by
  intro setting hprize
  obtain ⟨winnings, hrecorded⟩ := h.recorded
  have hpaid : s.paidPlayers setting =
      ascending (Prize.winners s (s.standings setting.leagueId) round setting setting.kind) := by
    have hnone : ∀ award ∈ ([] : List Prize.Award), setting.id ∉ award.settingIds := by simp
    have hknown : ∀ award ∈ ([] : List Prize.Award), award.Known := by simp
    have hpays := h.keyed.paid_seasonPrize h.awarded hlast hprize hnone hknown [] now winnings
    rwa [List.nil_append, List.append_nil, ← hrecorded] at hpays
  rw [hpaid]
  refine ⟨nodup_ascending.2 (Prize.nodup_winners ..), fun userId => ?_⟩
  rw [mem_ascending]
  exact h.keyed.mem_winners rfl (hprize.kind.imp_right And.left) userId

end Store

open Store in
/-- The call that ends a season pays its rank prizes to the ranks it shows: when it has taken a
score and leaves all matches of the last round over, the players with a winning of a rank prize are
exactly the approved members whose stats have its rank as their overall rank, each with one. When no
member has the rank, there is no winning of the prize. -/
theorem updateMatchResults_paysRanks {s t : Store} {round : Round} {roundId : Int}
    {scores : List MatchScore} {now : DateTime} {n : Nat} (hs : s.Keyed)
    (hresults : s.ResultsInSeason) (hround : s.round? roundId = some round)
    (hlast : (s.season? round.seasonId).any (Prize.isLastRound · round) = true)
    (h : (updateMatchResults roundId scores now).Returns s n t) (hn : n ≠ 0)
    (hover : ∀ m ∈ t.fixturesOf roundId, m.status = .completed) :
    ∀ league ∈ s.leaguesOf round.seasonId, ∀ setting ∈ s.prizeSettings,
      setting.leagueId = league.id → setting.kind = .overall →
        (t.paidPlayers setting).Perm (t.membersOnRank league.id setting.rank) ∧
          (t.membersOnRank league.id setting.rank = [] →
            ∀ w ∈ t.winnings, w.settingId ≠ setting.id) := by
  intro league hleague setting hsetting hleagueId hkind
  have hrefreshed := hs.refreshed_of_taken hround h hn
  obtain ⟨_, _, _, _, _, _, _, hrest⟩ := hrefreshed.rest
  obtain ⟨round', awards, hpaid⟩ := paidUp_updateMatchResults hs h hn hover
  -- The round that is paid up is the given one in its place.
  obtain ⟨found, hfound, hslot⟩ := exists_round_of_slots hrefreshed.slots hround
  obtain rfl : found = round' := Option.some.inj (hfound.symm.trans hpaid.found.2)
  have hseason : found.seasonId = round.seasonId := congrArg RoundSlot.seasonId hslot
  have hnumber : found.number = round.number := congrArg RoundSlot.number hslot
  have hlast' : (t.season? found.seasonId).any (Prize.isLastRound · found) = true := by
    simp only [Prize.isLastRound, hseason, hnumber]
    rw [hrest]
    exact hlast
  have hprize : t.SeasonPrize found.seasonId setting := by
    rw [hseason, hrest]
    exact ⟨hsetting, ⟨league, hleague, hleagueId.symm⟩, .inl hkind⟩
  obtain ⟨hnodup, hpays⟩ := hpaid.paysSeason hlast' setting hprize
  have hseasons := hrefreshed.resultsInSeason ((Table.get?_eq_some hs.rounds).1 hround).1 hresults
  have hshown (userId : Int) : userId ∈ t.paidPlayers setting ↔
      userId ∈ t.membersOnRank league.id setting.rank := by
    rw [hpays, Deserves, if_pos hkind, hleagueId, mem_membersOnRank]
    refine and_congr_right fun hmember => ?_
    rw [hrefreshed.isMember] at hmember
    rw [hrefreshed.figures league hleague userId hmember]
    rw [← hrefreshed.leaguesOf] at hleague
    rw [← hrefreshed.isMember] at hmember
    simp only [List.mem_singleton, exists_eq_left,
      hrefreshed.keyed.overallRank_liveFigures hseasons hleague hmember]
  have hperm : (t.paidPlayers setting).Perm (t.membersOnRank league.id setting.rank) :=
    (List.perm_ext_iff_of_nodup hnodup (hrefreshed.keyed.nodup_membersOnRank _ _)).2 hshown
  refine ⟨hperm, fun hnobody w hw hsame => ?_⟩
  have hpaidOne : w.userId ∈ t.paidPlayers setting :=
    List.mem_map_of_mem (List.mem_filter.2 ⟨hw, beq_iff_eq.2 hsame⟩)
  rw [hnobody] at hperm
  exact List.not_mem_nil (hperm.subset hpaidOne)

/-- The last round of a season before its only result. Player 10 leads by the first round and player
11 has predicted the result to come, so the two tie and the second rank is absorbed; it was paid to
player 11 before. -/
def tiedSeason : Store :=
  { Store.empty with
    seasons := [⟨1, "2025", .newYear2025, .june2025, 2⟩]
    rounds := [⟨1, 1, 1, .newYear2025, .newYear2025, .completed, none⟩,
      ⟨2, 1, 2, .newYear2025, .newYear2025, .inProgress, none⟩]
    fixtures := [⟨1, 2, none, none, .scheduled⟩]
    predictions := [⟨1, 11, 1, 1, 1, .pending, .newYear2025⟩]
    leagues := [⟨1, 1, .newYear2025, 5, 3, 0⟩]
    members := [⟨1, 1, 10, .approved⟩, ⟨2, 1, 11, .approved⟩, ⟨3, 1, 12, .approved⟩]
    leagueResults := [⟨1, 1, 1, 10, 5, 5, false, none, 1⟩]
    prizeSettings := [⟨1, 1, .overall, 1, 5000, none⟩, ⟨2, 1, .overall, 2, 3000, none⟩,
      ⟨3, 1, .overall, 3, 1000, none⟩]
    winnings := [⟨1, 11, 2, 3000, none, none, .newYear2025⟩] }

/-- The season once the result has come. -/
def tiedSeasonOver : Store :=
  (updateMatchResults 2 [⟨1, 1, 1, .completed⟩] .newYear2025).storeAfter tiedSeason

theorem tied_season_paysRanks :
    tiedSeason.Keyed ∧ tiedSeason.ResultsInSeason ∧
      (updateMatchResults 2 [⟨1, 1, 1, .completed⟩] .newYear2025).Returns tiedSeason 1
        tiedSeasonOver ∧
      (∀ m ∈ tiedSeasonOver.fixturesOf 2, m.status = .completed) ∧
      (tiedSeasonOver.paidPlayers ⟨1, 1, .overall, 1, 5000, none⟩).Perm [10, 11] ∧
      (∀ w ∈ tiedSeasonOver.winnings, w.settingId ≠ 2) ∧
      (tiedSeasonOver.paidPlayers ⟨3, 1, .overall, 3, 1000, none⟩).Perm [12] := by
  have hkeyed : tiedSeason.Keyed := by decide
  have hresults : tiedSeason.ResultsInSeason := by decide
  have hreturns : (updateMatchResults 2 [⟨1, 1, 1, .completed⟩] .newYear2025).Returns tiedSeason 1
      tiedSeasonOver := by decide +kernel
  have hover : ∀ m ∈ tiedSeasonOver.fixturesOf 2, m.status = .completed := by decide +kernel
  have hpays := updateMatchResults_paysRanks hkeyed hresults rfl (by decide) hreturns (by decide)
    hover ⟨1, 1, .newYear2025, 5, 3, 0⟩ List.mem_cons_self
  obtain ⟨hfirst, -⟩ := hpays ⟨1, 1, .overall, 1, 5000, none⟩ (by decide) rfl rfl
  obtain ⟨-, hsecond⟩ := hpays ⟨2, 1, .overall, 2, 3000, none⟩ (by decide) rfl rfl
  obtain ⟨hthird, -⟩ := hpays ⟨3, 1, .overall, 3, 1000, none⟩ (by decide) rfl rfl
  have hshown : tiedSeasonOver.membersOnRank 1 1 = [10, 11] := by decide +kernel
  have habsorbed : tiedSeasonOver.membersOnRank 1 2 = [] := by decide +kernel
  have hlast : tiedSeasonOver.membersOnRank 1 3 = [12] := by decide +kernel
  exact ⟨hkeyed, hresults, hreturns, hover, hshown ▸ hfirst, hsecond habsorbed, hlast ▸ hthird⟩

end PredictionLeague
