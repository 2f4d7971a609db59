import PredictionLeague.Proofs.FailFast
import PredictionLeague.Proofs.Recording
import PredictionLeague.Proofs.Resettle
import PredictionLeague.Proofs.Snapshots

/-!
# Calls that stop half-way

A call that records results may stop after part of its work is done, and that part stays. Each part
is whole: the scores with the verdicts on all predictions, the points with their boosts, the stable
figures of all leagues, and the winnings of each league are as they were or as they should be, and
never between the two.

* `Store.Stops`: where a call stops once its scores are recorded;
* `Stops.points`, `Stops.stableOf`, `Stops.winningsOf`: what it leaves of the points, the stable
  figures and the winnings;
* `Store.LeavesWhole`: every part of the store is whole;
* `updateMatchResults_stops_whole`: a call that is refused changes nothing, and a call that stops
  for any other reason leaves every part whole.
-/

namespace PredictionLeague

open Engine

namespace Store

/-- Where a call stops once its scores are recorded and the predictions judged: at points that do
not fit, at stable figures that do not fit, or at the prizes of a league once the leagues before it
were paid. -/
inductive Stops (s : Store) (round : Round) (newly : Bool) (now : DateTime) : Store → Prop
  | unpointed (hfit : s.pointsFit round = false) : Stops s round newly now s
  | unranked (hfit : s.pointsFit round = true) (hnewly : newly = true)
    (hstable : (s.recomputed round).stableFits round = false) :
    Stops s round newly now (s.recomputed round)
  | unpaid {before after : List League} {league : League} {lists : List (List Prize.Award)}
    (hfit : s.pointsFit round = true)
    (hstable : newly = true → (s.recomputed round).stableFits round = true)
    (leagues : s.leaguesOf round.seasonId = before ++ league :: after)
    (awards : before.mapM (((s.figured round newly).closed round now).leagueAwards round) =
      .ok lists) :
    Stops s round newly now
      (((s.figured round newly).closed round now).withAwards now lists.flatten)

/-- The winnings of a league are those of its awards after a round, recorded over earlier ones. -/
def PaidOver (t : Store) (round : Round) (now : DateTime) (earlier : List Winning)
    (league : League) : Prop :=
  ∃ awards, t.leagueAwards round league = .ok awards ∧
    (t.winningsOf league.id).map Winning.bare =
      (({ t with winnings := earlier }.withAwards now awards).winningsOf league.id).map Winning.bare

/-- The stable figures of all stats that are there are as they were. -/
def KeepsStable (s t : Store) : Prop :=
  ∀ row ∈ s.stats, t.stableOf row.leagueId row.userId = [row.stable]

/-- The stable figures of all stats in the leagues of a round are reset, and the others as they
were. -/
def ResetsStable (s t : Store) (round : Round) : Prop :=
  ∀ row ∈ s.stats, t.stableOf row.leagueId row.userId =
    [if row.leagueId ∈ (s.leaguesOf round.seasonId).map (·.id) then ⟨0, 1⟩ else row.stable]

/-- The stable figures of all members of the leagues of a round are those of the verdicts. -/
def ShowsStable (t : Store) (round : Round) : Prop :=
  ∀ league ∈ t.leaguesOf round.seasonId, ∀ userId, t.isMember league.id userId = true →
    t.stableOf league.id userId = [t.stableFigures round.id league userId]

/-- A call for a round left every part of the store whole: the matches and the predictions have the
new scores; the points are all as they were, or all made anew and the rest of them left alone; the
stable figures are all as they were, but for the start of the round, or all made anew; and the
winnings of each league are as they were, or those of its awards. -/
structure LeavesWhole (s t : Store) (round : Round) (scores : List MatchScore) (now : DateTime) :
    Prop where
  fixtures : t.fixtures = s.fixtures.map (matchAfter round.id scores)
  predictions : t.predictions = s.predictions.map (s.predictionAfter round.id scores now)
  points : (t.roundResults = s.roundResults ∧ t.leagueResults = s.leagueResults) ∨
    (t.Settled round ∧ s.OtherPointsKept t round)
  stable : ((¬s.Opens round.id scores → s.KeepsStable t) ∧
      (s.Opens round.id scores → s.ResetsStable t round)) ∨
    t.ShowsStable round
  winnings : ∀ leagueId, t.winningsOf leagueId = s.winningsOf leagueId ∨
    ∃ league ∈ t.leaguesOf round.seasonId, league.id = leagueId ∧
      t.PaidOver round now s.winnings league

variable {s t : Store} {round : Round} {now : DateTime} {newly : Bool}

/-! ### Where a call stops -/

theorem stops_settleScores {recording : Recording} {fault : Fault}
    (hround : fits round.id = true ∧ s.round? round.id = some round)
    (h : (settleScores round.id recording now).effect s = (.error fault, t)) :
    s.Stops round recording.newlyCompleted now t := by
  rw [effect_settleScores hround] at h
  cases hfit : s.pointsFit round with
  | false =>
    rw [hfit, if_neg Bool.false_ne_true] at h
    obtain ⟨-, rfl⟩ := Prod.mk.inj h
    exact .unpointed hfit
  | true =>
    rw [if_pos hfit] at h
    by_cases hstable : recording.newlyCompleted = true ∧
        (s.recomputed round).stableFits round = false
    · rw [if_pos hstable] at h
      obtain ⟨-, rfl⟩ := Prod.mk.inj h
      exact .unranked hfit hstable.1 hstable.2
    · rw [if_neg hstable] at h
      obtain ⟨counts, points, stats, hfigured⟩ := s.figured_frame round recording.newlyCompleted
      have hfound : (s.figured round recording.newlyCompleted).round? round.id = some round := by
        rw [hfigured]
        exact hround.2
      -- Only the prizes are left to stop at.
      have hcomplete := stops_bind_pure h
      rw [effect_completeRound ⟨hround.1, hfound⟩] at hcomplete
      split at hcomplete
      · obtain ⟨before, league, after, hleagues, hpaid, -⟩ :=
          stops_settlePrizes (stops_bind_pure hcomplete)
        obtain ⟨round', hfound', hslot, hsame⟩ := exists_round?_closed hfound now
        have hid : round'.id = round.id := congrArg RoundSlot.id hslot
        have hstored : ∀ other ∈ before,
            other ∈ ((s.figured round recording.newlyCompleted).closed round now).leagues := by
          intro other hother
          have hmem := List.mem_append_left (league :: after) hother
          rw [← hleagues] at hmem
          exact List.mem_of_mem_filter hmem
        rw [← hid] at hpaid hfound'
        obtain ⟨-, lists, hlists, rfl⟩ :=
          (returns_payLeagues ⟨hid ▸ hround.1, hfound'⟩ hstored).1 hpaid
        rw [hsame] at hlists
        rw [leaguesOf_closed, leaguesOf_figured] at hleagues
        refine .unpaid hfit (fun hnewly => ?_) hleagues hlists
        by_contra hunfit
        exact hstable ⟨hnewly, Bool.eq_false_of_not_eq_true hunfit⟩
      · simp at hcomplete

/-! ### Points -/

/-- Where a call stops, the points are as they were, or they are made anew. -/
theorem Stops.points (h : s.Stops round newly now t) (hs : s.Keyed) (hround : round ∈ s.rounds) :
    t.Keyed ∧ ((t.roundResults = s.roundResults ∧ t.leagueResults = s.leagueResults) ∨
      (t.Settled round ∧ (s.recomputed round).Progressed t)) := by
  cases h with
  | unpointed => exact ⟨hs, .inl ⟨rfl, rfl⟩⟩
  | unranked hfit =>
    exact ⟨hs.recomputed round, .inr ⟨hs.settled_recomputed hfit, .refl _⟩⟩
  | @unpaid before after league lists hfit =>
    have hfigured := hs.figured round newly
    have hmem := mem_rounds_figured hround newly
    have hpaid : ((s.figured round newly).closed round now).Progressed
        (((s.figured round newly).closed round now).withAwards now lists.flatten) :=
      ⟨⟨_, _, _, rfl⟩, rfl⟩
    have hkeyed : (((s.figured round newly).closed round now).withAwards now lists.flatten).Keyed :=
      { hfigured.closed hmem now with }
    have hprogress :=
      ((s.progressed_figured round newly).trans (hfigured.progressed_closed hmem now)).trans hpaid
    exact ⟨hkeyed, .inr ⟨hprogress.settled (hs.recomputed round) hkeyed (hs.settled_recomputed hfit),
      hprogress⟩⟩

/-! ### Stable figures -/

/-- Where a call stops, the stable figures are as they were, or they are those of the verdicts. -/
theorem Stops.stableOf (h : s.Stops round newly now t) (hs : s.Keyed) :
    (∀ leagueId userId figures, s.stableOf leagueId userId = [figures] →
      t.stableOf leagueId userId = [figures]) ∨ t.ShowsStable round := by
  cases h with
  | unpointed => exact .inl fun _ _ _ hfigures => hfigures
  | unranked =>
    obtain ⟨counts, points, hpoints⟩ := s.recomputed_frame round
    rw [hpoints]
    exact .inl fun _ _ _ hfigures => hfigures
  | @unpaid before after league lists =>
    have hstays (leagueId userId : Int) :
        (((s.figured round newly).closed round now).withAwards now lists.flatten).stableOf
          leagueId userId = (s.figured round newly).stableOf leagueId userId :=
      stableOf_closed _ round now _ leagueId userId
    cases newly with
    | false =>
      refine .inl fun leagueId userId figures hfigures => ?_
      rw [hstays]
      exact hs.stableOf_figured hfigures
    | true =>
      refine .inr ?_
      intro league hleague userId hmember
      have hfigured : league ∈ s.leaguesOf round.seasonId → s.isMember league.id userId = true →
          (s.figured round true).stableOf league.id userId =
            [s.stableFigures round.id league userId] :=
        fun hleague hmember => hs.stableOf_figured_newly hleague hmember
      rw [hstays]
      obtain ⟨counts, points, stats, hframe⟩ := s.figured_frame round true
      obtain ⟨rounds, hclosed⟩ := (s.figured round true).closed_frame round now
      rw [hclosed, hframe] at hleague hmember ⊢
      rw [hframe] at hfigured
      exact hfigured hleague hmember

/-! ### Winnings -/

theorem bare_winningsOf (s : Store) (leagueId : Int) :
    (s.winningsOf leagueId).map Winning.bare =
      (s.winnings.map Winning.bare).filter (s.paidBy (·.leagueId == leagueId)) := by
  rw [List.filter_map]
  rfl

/-- What awards leave of the winnings of a league depends on the winnings of the league. -/
theorem bare_winningsOf_withAwards {winnings : List Winning} {awards : List Prize.Award}
    {leagueId : Int}
    (h : { s with winnings }.winningsOf leagueId = s.winningsOf leagueId) :
    (({ s with winnings }.withAwards now awards).winningsOf leagueId).map Winning.bare =
      ((s.withAwards now awards).winningsOf leagueId).map Winning.bare := by
  have hleft (ws : List Winning) :
      (({ s with winnings := ws }.withAwards now awards).winningsOf leagueId).map Winning.bare =
        (({ s with winnings := ws }.winningsOf leagueId).filter
          fun w => !awards.any (·.replaces w)).map Winning.bare ++
          (Prize.newRows now awards).filter (s.paidBy (·.leagueId == leagueId)) := by
    rw [bare_winningsOf]
    have hrows := Prize.bare_recordAwards now ws awards
    show ((Prize.recordAwards now ws awards).1.map Winning.bare).filter
      (s.paidBy (·.leagueId == leagueId)) = _
    rw [hrows, List.filter_append, List.filter_map, winningsOf, List.filter_filter,
      List.filter_filter]
    congr 2
    exact List.filter_congr fun w _ => Bool.and_comm _ _
  have hright := hleft s.winnings
  rw [hleft winnings, h]
  exact hright.symm

/-- Leagues that are paid one after the other: each has the winnings of its own awards. -/
theorem Keyed.paidOver_withAwards (hs : s.Keyed) (now : DateTime) {leagues : List League}
    {lists : List (List Prize.Award)} (h : leagues.mapM (s.leagueAwards round) = .ok lists)
    (hnodup : (leagues.map (·.id)).Nodup) {league : League} (hleague : league ∈ leagues) :
    (s.withAwards now lists.flatten).PaidOver round now s.winnings league := by
  obtain ⟨before, after, rfl⟩ := List.append_of_mem hleague
  obtain ⟨as, rest, has, hmore, rfl⟩ := mapM_append_eq_ok.1 h
  obtain ⟨awards, bs, hawards, hbs, rfl⟩ := mapM_cons_eq_ok.1 hmore
  rw [List.map_append, List.map_cons] at hnodup
  obtain ⟨-, hafter, hcross⟩ := List.nodup_append.1 hnodup
  obtain ⟨hlater, -⟩ := List.nodup_cons.1 hafter
  have hbefore : ∀ other ∈ before, other.id ≠ league.id := by
    intro other hother
    exact hcross other.id (List.mem_map_of_mem hother) league.id List.mem_cons_self
  have hothers : ∀ other ∈ after, other.id ≠ league.id := by
    intro other hother heq
    exact hlater (heq ▸ List.mem_map_of_mem hother)
  refine ⟨awards, hawards, ?_⟩
  rw [List.flatten_append, List.flatten_cons, withAwards_append, withAwards_append]
  -- The awards of the leagues before and after leave the winnings of this one alone.
  have hlast : ((s.withAwards now as.flatten).withAwards now awards).Keyed := { hs with }
  have hrest : after.mapM (((s.withAwards now as.flatten).withAwards now awards).leagueAwards
      round) = .ok bs := hbs
  rw [hlast.winningsOf_withAwards hrest now hothers]
  exact bare_winningsOf_withAwards (s := s) (hs.winningsOf_withAwards has now hbefore)

/-- Where a call stops, the winnings of each league are as they were, or those of its awards. -/
theorem Stops.winningsOf (h : s.Stops round newly now t) (hs : s.Keyed) (hround : round ∈ s.rounds)
    (leagueId : Int) : t.winningsOf leagueId = s.winningsOf leagueId ∨
      ∃ league ∈ t.leaguesOf round.seasonId, league.id = leagueId ∧
        t.PaidOver round now s.winnings league := by
  cases h with
  | unpointed => exact .inl rfl
  | unranked => exact .inl (winningsOf_recomputed s round leagueId)
  | @unpaid before after league lists _ _ leagues awards =>
    have hkeyed := (hs.figured round newly).closed (mem_rounds_figured hround newly) now
    have hnodup : ((s.leaguesOf round.seasonId).map (·.id)).Nodup :=
      (hs.leagues.filter _).nodup_ids
    obtain ⟨counts, points, stats, hfigured⟩ := s.figured_frame round newly
    obtain ⟨rounds, hclosed⟩ := (s.figured round newly).closed_frame round now
    rw [hfigured] at hclosed
    rw [leagues, List.map_append] at hnodup
    by_cases hpaid : ∃ paid ∈ before, paid.id = leagueId
    · obtain ⟨paid, hmem, rfl⟩ := hpaid
      have hover := hkeyed.paidOver_withAwards now awards (List.nodup_append.1 hnodup).1 hmem
      rw [hfigured, hclosed] at hover ⊢
      refine .inr ⟨paid, ?_, rfl, hover⟩
      show paid ∈ s.leaguesOf round.seasonId
      rw [leagues]
      exact List.mem_append_left _ hmem
    · have hothers : ∀ other ∈ before, other.id ≠ leagueId :=
        fun other hother hid => hpaid ⟨other, hother, hid⟩
      refine .inl ?_
      rw [hkeyed.winningsOf_withAwards awards now hothers, hfigured, hclosed]
      rfl

/-! ### What a call leaves -/

variable {scores : List MatchScore} {recording : Recording}

theorem Stops.ends (h : s.Stops round newly now t) (fault : Fault) :
    s.Ends round newly now (.error fault) t := by
  cases h with
  | unpointed hfit => exact .unpointed fault hfit
  | unranked hfit hnewly hstable => exact .unranked fault hfit hnewly hstable
  | unpaid hfit hstable => exact .figured _ hfit hstable _

section Carried

variable (hs : s.Keyed) (hround : s.round? round.id = some round)
  (h : s.Accepts round.id scores recording)

include hs hround h

/-- Recording scores leaves the stable figures alone, unless it opens the round. -/
theorem Keyed.stableOf_recorded (now : DateTime) (hnot : ¬s.Opens round.id scores)
    {row : MemberStats} (hrow : row ∈ s.stats) :
    (s.carried round recording now).stableOf row.leagueId row.userId = [row.stable] := by
  have hstart : ¬(round.status = .published ∧ recording.anyStarted) :=
    fun hstart => hnot ((hs.opens_iff hround h).2 hstart)
  have hrows : (s.carried round recording now).statsOf row.leagueId row.userId = [row] := by
    rw [← hs.statsOf_of_mem hrow]
    exact statsOf_congr (by rw [stats_carried hstart]) row.userId
  rw [Store.stableOf, hrows, List.map_singleton]

/-- Scores that open a round reset the stable figures in its leagues. -/
theorem Keyed.stableOf_opened (now : DateTime) (hopens : s.Opens round.id scores)
    {row : MemberStats} (hrow : row ∈ s.stats) :
    (s.carried round recording now).stableOf row.leagueId row.userId =
      [if row.leagueId ∈ (s.leaguesOf round.seasonId).map (·.id) then ⟨0, 1⟩ else row.stable] := by
  have hstart := (hs.opens_iff hround h).1 hopens
  by_cases hown : row.leagueId ∈ (s.leaguesOf round.seasonId).map (·.id)
  · obtain ⟨league, hleague, hid⟩ := List.mem_map.1 hown
    rw [if_pos hown, Store.stableOf,
      hs.statsOf_carried hround h hstart now hleague hrow hid.symm, List.map_singleton]
    rfl
  · have hothers : ∀ league ∈ s.leaguesOf round.seasonId, league.id ≠ row.leagueId :=
      fun league hleague hid => hown (List.mem_map.2 ⟨league, hleague, hid⟩)
    have hrows : (s.carried round recording now).statsOf row.leagueId row.userId = [row] := by
      rw [← hs.statsOf_of_mem hrow]
      exact statsOf_congr (hs.others_carried hround h now hothers) row.userId
    rw [if_neg hown, Store.stableOf, hrows, List.map_singleton]

/-- Where a call stops once its scores are recorded, every part of the store is whole. -/
theorem Stops.leavesWhole (hstops : (s.carried round recording now).Stops
      (round.opened recording now) recording.newlyCompleted now t) :
    s.LeavesWhole t round scores now := by
  have hcarried := hs.carried h hround now
  have hfound := s.round?_carried recording now hround
  have hmem := ((Table.get?_eq_some hcarried.rounds).1 hfound).1
  have hslot : round.slot = (round.opened recording now).slot := by
    unfold Round.opened
    split <;> rfl
  have hawards (u : Store) :
      u.leagueAwards (round.opened recording now) = u.leagueAwards round := by
    unfold Round.opened
    split <;> rfl
  obtain ⟨fixtures, predictions, rounds, stats, hframe⟩ := s.carried_frame round recording now
  obtain ⟨counts, points, stats', rounds', winnings, hend⟩ := (hstops.ends .integerTooLarge).frame
  refine ⟨?_, ?_, ?_, ?_, fun leagueId => ?_⟩
  · rw [hend]
    exact hs.fixtures_carried h now
  · rw [hend]
    exact hs.predictions_carried h now
  · obtain ⟨hkeyed, hsame | ⟨hsettled, hprogress⟩⟩ := hstops.points hcarried hmem
    · rw [hframe] at hsame
      exact .inl hsame
    · refine .inr ⟨hkeyed.settled_of_slot hsettled hslot, ?_⟩
      have hothers := (hcarried.otherRowsKept (round.opened recording now)).toOtherPointsKept
      obtain ⟨_, _, _, hrest⟩ := hprogress.rest
      have hcounts := hothers.counts
      have hpoints := hothers.points
      have hleagues := hothers.otherLeagues
      rw [Round.id_opened] at hcounts hpoints hleagues
      rw [Round.seasonId_opened, leaguesOf_carried] at hleagues
      rw [hrest]
      refine ⟨hcounts.trans ?_, hpoints.trans ?_, fun leagueId hother => ?_⟩
      · rw [hframe]
      · rw [hframe]
      · refine (hleagues leagueId hother).trans ?_
        rw [hframe]
        rfl
  · rcases hstops.stableOf hcarried with hkept | hshown
    · refine .inl ⟨fun hnot row hrow => ?_, fun hopens row hrow => ?_⟩
      · exact hkept _ _ _ (hs.stableOf_recorded hround h now hnot hrow)
      · exact hkept _ _ _ (hs.stableOf_opened hround h now hopens hrow)
    · refine .inr fun league hleague userId hmember => ?_
      have hfigures := hshown league (by simpa using hleague) userId hmember
      rwa [Round.id_opened] at hfigures
  · rcases hstops.winningsOf hcarried hmem leagueId with hsame | ⟨league, hleague, hid, hpaid⟩
    · rw [hframe] at hsame
      exact .inl hsame
    · rw [Round.seasonId_opened] at hleague
      refine .inr ⟨league, hleague, hid, ?_⟩
      obtain ⟨awards, hok, hbare⟩ := hpaid
      rw [hawards] at hok
      rw [hframe] at hbare
      exact ⟨awards, hok, hbare⟩

end Carried

end Store

open Store

/-- A call that is refused changes nothing, and a call that stops for any other reason leaves every
part of the store whole. A call is refused when there is no such round, when a score of one of its
matches is below zero, or when a number does not fit, wherever in the list; scores of other matches
do not count. -/
theorem updateMatchResults_stops_whole {s : Store} (hs : s.Keyed) (roundId : Int)
    (scores : List MatchScore) (now : DateTime) :
    (s.Refuses roundId scores →
      ∃ fault, (updateMatchResults roundId scores now).effect s = (.error fault, s)) ∧
    (updateMatchResults roundId (scoresOf (s.fixturesOf roundId) scores) now).effect s =
      (updateMatchResults roundId scores now).effect s ∧
    ∀ fault t, (updateMatchResults roundId scores now).effect s = (.error fault, t) →
      ¬s.Refuses roundId scores →
        ∃ round, s.round? roundId = some round ∧ s.LeavesWhole t round scores now := by
  refine ⟨stops_of_refuses hs, effect_updateMatchResults_scoresOf roundId scores now s, ?_⟩
  intro fault t h hnot
  obtain ⟨round, recording, hround, haccepts⟩ := accepts_of_stops hs hnot h
  obtain rfl : round.id = roundId := Table.id_of_get? hround
  refine ⟨round, hround, ?_⟩
  rw [effect_updateMatchResults hround haccepts] at h
  have hfound := s.round?_carried recording now hround
  have hkey := haccepts.key
  rw [← round.id_opened recording now] at h hfound hkey
  exact (stops_settleScores ⟨hkey, hfound⟩ h).leavesWhole hs hround haccepts

/-- The last match of a season of which the second league pays more for the season than can be
split. -/
def dearMatch : Store :=
  { lastMatchStore with
    prizeSettings :=
      [⟨1, 1, .round, 1, 1000, none⟩, ⟨2, 1, .overall, 1, 5000, none⟩,
        ⟨3, 2, .overall, 1, 1000000000000000000000000000000, none⟩] }

/-- The season once its last result has come: the first league is paid, the second is not. -/
def dearMatchOver : Store :=
  (updateMatchResults 1 [⟨2, 1, 1, .completed⟩] .newYear2025).storeAfter dearMatch

theorem dear_match_stops_whole :
    dearMatch.Keyed ∧
      dearMatch.Refuses 1 [⟨2, 1, 1, .completed⟩, ⟨1, 0, -1, .completed⟩] ∧
      (∃ fault, (updateMatchResults 1 [⟨2, 1, 1, .completed⟩, ⟨1, 0, -1, .completed⟩]
        .newYear2025).effect dearMatch = (.error fault, dearMatch)) ∧
      (updateMatchResults 1 [⟨2, 1, 1, .completed⟩] .newYear2025).effect dearMatch =
        (.error .invalidDecimal, dearMatchOver) ∧
      ¬dearMatch.Refuses 1 [⟨2, 1, 1, .completed⟩] ∧
      ∃ round, dearMatch.round? 1 = some round ∧
        dearMatch.LeavesWhole dearMatchOver round [⟨2, 1, 1, .completed⟩] .newYear2025 := by
  have hkeyed : dearMatch.Keyed := by decide
  have hrefuses : dearMatch.Refuses 1 [⟨2, 1, 1, .completed⟩, ⟨1, 0, -1, .completed⟩] := by decide
  have hstops : (updateMatchResults 1 [⟨2, 1, 1, .completed⟩] .newYear2025).effect dearMatch =
      (.error .invalidDecimal, dearMatchOver) := by decide +kernel
  have hnot : ¬dearMatch.Refuses 1 [⟨2, 1, 1, .completed⟩] := by decide
  exact ⟨hkeyed, hrefuses,
    (updateMatchResults_stops_whole hkeyed 1 _ .newYear2025).1 hrefuses, hstops, hnot,
    (updateMatchResults_stops_whole hkeyed 1 _ .newYear2025).2.2 _ _ hstops hnot⟩

end PredictionLeague
