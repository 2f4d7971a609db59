import PredictionLeague.Proofs.Stages

/-!
# Live ranks

A call that records results leaves one ranking of the whole league: every approved member has the
points of the round, and its rank by the points of the round, of the month and of the season counts
the approved members with more.

* `Store.boostedIn`: the points of a player in a round;
* `Keyed.liveFigures_eq`: the live figures are points, and ranks by counting;
* `Keyed.statsOf_figured_outsider`: the stats of players that are not approved are left alone;
* `updateMatchResults_ranks`: what a call leaves.
-/

namespace PredictionLeague

namespace Store

/-- The points of a player of a league in a round, with its boost; zero without a result. -/
def boostedIn (s : Store) (leagueId roundId userId : Int) : Int :=
  ((s.leagueResults.find? fun r =>
    r.leagueId == leagueId && r.roundId == roundId && r.userId == userId).map
      (·.boostedPoints)).getD 0

variable {s t : Store} {leagueId userId : Int}

/-! ### Points and ranks -/

/-- A player has at most one result in a round of a league. -/
theorem Keyed.pointsOver_singleton (hs : s.Keyed) (leagueId roundId userId : Int) :
    s.pointsOver leagueId [roundId] userId = s.boostedIn leagueId roundId userId := by
  have hrows : (s.resultsOf leagueId).filter
      (fun r => r.userId == userId && [roundId].contains r.roundId) =
      s.leagueResults.filter fun r =>
        r.leagueId == leagueId && r.roundId == roundId && r.userId == userId := by
    rw [resultsOf, List.filter_filter]
    refine List.filter_congr fun r _ => ?_
    cases r.leagueId == leagueId <;> cases r.userId == userId <;>
      simp [Bool.beq_eq_decide_eq]
  have hunique : Table.Unique s.leagueResults
      (fun r => r.leagueId == leagueId && r.roundId == roundId) LeagueResult.userId :=
    Table.unique_of_nodup LeagueResult.key (leagueId, roundId)
      (fun r => by simp [LeagueResult.key, Bool.decide_and, Bool.beq_eq_decide_eq])
      (fun _ => rfl) hs.leagueResults
  have hlength := hunique userId
  rw [pointsOver, boostedIn, hrows, ← List.head?_filter]
  rw [Table.rowsOf] at hlength
  generalize s.leagueResults.filter (fun r =>
    r.leagueId == leagueId && r.roundId == roundId && r.userId == userId) = rows at hlength ⊢
  rcases rows with _ | ⟨r, _ | ⟨r', rows⟩⟩
  · rfl
  · simp [Standings.sumOf]
  · simp at hlength

/-- The live figures of a member are its points in the round and its ranks by counting. -/
theorem Keyed.liveFigures_eq (hs : s.Keyed) (round : Round)
    (hmember : s.isMember leagueId userId = true) :
    s.liveFigures round leagueId userId =
      { livePoints := s.boostedIn leagueId round.id userId
        liveRank := s.memberRank leagueId (s.pointsOver leagueId [round.id]) userId
        overallRank := s.memberRank leagueId
          (s.pointsOver leagueId ((s.roundsOf round.seasonId).map (·.id))) userId
        monthRank := s.memberRank leagueId
          (s.pointsOver leagueId ((s.monthOf round).map (·.id))) userId } := by
  simp only [liveFigures, scoresOver]
  rw [hs.lookup_members hmember, Option.getD_some, hs.pointsOver_singleton,
    hs.rankOf_members hmember, hs.rankOf_members hmember, hs.rankOf_members hmember]

/-! ### Stats that are left alone -/

theorem not_mem_approvedMembers (h : s.isMember leagueId userId = false) :
    (s.approvedMembers leagueId).contains userId = false := by
  rw [← Bool.not_eq_true, List.contains_iff_mem, mem_approvedMembers, h]
  exact Bool.false_ne_true

theorem liveRow_outsider (round : Round) {league : League} {r : MemberStats}
    (h : s.isMember league.id r.userId = false) : s.liveRow round league r = r := by
  rw [liveRow, not_mem_approvedMembers h, Bool.and_false]
  rfl

theorem stableRow_outsider (roundId : Int) {league : League} {r : MemberStats}
    (h : s.isMember league.id r.userId = false) : s.stableRow roundId league r = r := by
  rw [stableRow, not_mem_approvedMembers h, Bool.and_false]
  rfl

/-- An update that leaves the rows of a player alone leaves its stats alone, when it is not
approved. -/
theorem Keyed.statsOf_changeStats_outsider (hs : s.Keyed) {g : MemberStats → MemberStats}
    (hg : ∀ r, (g r).key = r.key) (hnot : s.isMember leagueId userId = false)
    (hsame : ∀ r, r.userId = userId → g r = r) :
    (s.changeStats leagueId g).statsOf leagueId userId = s.statsOf leagueId userId := by
  rw [hs.statsOf_changeStats hg (.inl hnot)]
  refine (List.map_congr_left fun r hr => ?_).trans (List.map_id _)
  exact hsame r (mem_statsOf.1 hr).2.2

/-- The stats of players that are not approved are left alone when the leagues of a round are ranked
by their points. -/
theorem Keyed.statsOf_shown_outsider (hs : s.Keyed) (round : Round)
    (hnot : s.isMember leagueId userId = false) :
    (s.shown round).statsOf leagueId userId = s.statsOf leagueId userId := by
  refine (leagueUpdate_live round).statsOf_foldl
    (P := fun rows => rows = s.statsOf leagueId userId) hs _ ?_ rfl
  rintro stats ht league rfl hkept
  rw [liveLeague_eq, ht.statsOf_changeStats_outsider (key_liveRow _ round league) hnot, hkept]
  rintro r rfl
  exact liveRow_outsider round hnot

/-- And also when they are ranked by completed matches. -/
theorem Keyed.statsOf_ranked_outsider (hs : s.Keyed) (round : Round)
    (hnot : s.isMember leagueId userId = false) :
    (s.ranked round).statsOf leagueId userId = s.statsOf leagueId userId := by
  refine (leagueUpdate_stable round.id).statsOf_foldl
    (P := fun rows => rows = s.statsOf leagueId userId) hs _ ?_ rfl
  rintro stats ht league rfl hkept
  rw [stableLeague_eq, ht.statsOf_changeStats_outsider (key_stableRow _ round.id league) hnot,
    hkept]
  rintro r rfl
  exact stableRow_outsider round.id hnot

/-- The stats of leagues of other seasons are left alone when a round is ranked. -/
theorem Keyed.others_ranked (hs : s.Keyed) {round : Round} {other : Int}
    (hother : ∀ league ∈ s.leaguesOf round.seasonId, league.id ≠ other) :
    (s.ranked round).stats.filter (·.leagueId == other) =
      s.stats.filter (·.leagueId == other) :=
  (leagueUpdate_stable round.id).foldl_others hs hother

theorem Keyed.others_shown (hs : s.Keyed) {round : Round} {other : Int}
    (hother : ∀ league ∈ s.leaguesOf round.seasonId, league.id ≠ other) :
    (s.shown round).stats.filter (·.leagueId == other) =
      s.stats.filter (·.leagueId == other) :=
  (leagueUpdate_live round).foldl_others hs hother

/-! ### What a call leaves alone -/

section Stages

variable {round : Round} {recording : Recording} {scores : List MatchScore} {now : DateTime}
  {newly : Bool} {answer : Except Fault Nat}

/-- Without a start the stats are not touched when scores are recorded. -/
theorem stats_carried (hstart : ¬(round.status = .published ∧ recording.anyStarted)) :
    (s.carried round recording now).stats = s.stats := by
  rw [Store.carried, if_neg hstart]
  rfl

/-- Recording leaves the stats of leagues of other seasons alone. -/
theorem Keyed.others_carried (hs : s.Keyed) (hround : s.round? round.id = some round)
    (h : s.Accepts round.id scores recording) (now : DateTime) {other : Int}
    (hother : ∀ league ∈ s.leaguesOf round.seasonId, league.id ≠ other) :
    (s.carried round recording now).stats.filter (·.leagueId == other) =
      s.stats.filter (·.leagueId == other) := by
  by_cases hstart : round.status = .published ∧ recording.anyStarted
  · have hrecorded : (s.withRecording recording).Keyed := hs.withFixtures (hs.fixtures_accepted h)
    have hmem : round ∈ s.rounds := ((Table.get?_eq_some hs.rounds).1 hround).1
    rw [Store.carried, if_pos hstart]
    exact leagueUpdate_snapshot.foldl_others
      (hrecorded.withRoundStatus hmem .inProgress now).1 hother
  · rw [stats_carried hstart]

/-- When a call returns, the stats are those of the figures. -/
theorem Ends.stats_of_ok {n : Nat} (h : s.Ends round newly now (.ok n) t) :
    t.stats = (s.figured round newly).stats := by
  cases h with
  | figured _ hfit hstable winnings =>
    obtain ⟨rounds, hclosed⟩ := (s.figured round newly).closed_frame round now
    rw [hclosed]

/-- Making the points and showing the figures leaves the stats of leagues of other seasons alone. -/
theorem Keyed.others_figured (hs : s.Keyed) (newly : Bool) {other : Int}
    (hother : ∀ league ∈ s.leaguesOf round.seasonId, league.id ≠ other) :
    (s.figured round newly).stats.filter (·.leagueId == other) =
      s.stats.filter (·.leagueId == other) := by
  refine hs.stats_figured (P := fun stats => stats.filter (·.leagueId == other) =
    s.stats.filter (·.leagueId == other)) newly rfl ?_ ?_
  · intro counts points stats hkeyed h
    rw [hkeyed.others_ranked hother, h]
  · intro counts points stats hkeyed h
    rw [hkeyed.others_shown hother, h]

/-- And those of players that are not approved. -/
theorem Keyed.statsOf_figured_outsider (hs : s.Keyed) (newly : Bool)
    (hnot : s.isMember leagueId userId = false) :
    (s.figured round newly).statsOf leagueId userId = s.statsOf leagueId userId := by
  refine hs.stats_figured (P := fun stats => { s with stats }.statsOf leagueId userId =
    s.statsOf leagueId userId) newly rfl ?_ ?_
  · intro counts points stats hkeyed h
    exact (hkeyed.statsOf_ranked_outsider round hnot).trans h
  · intro counts points stats hkeyed h
    exact (hkeyed.statsOf_shown_outsider round hnot).trans h

end Stages

end Store

/-! ### One ranking of the whole league -/

open Store in
/-- A call that takes at least one score ranks every league of the season as a whole: each approved
member has one row of stats, with its points in the round and its ranks over the round, the season
and the month, each one more than the number of approved members with strictly more points. The
stats of leagues of other seasons are left alone, and unless the call starts the round, so are the
figures of players that are not approved. -/
theorem updateMatchResults_ranks {s t : Store} {round : Round} {roundId : Int}
    {scores : List MatchScore} {now : DateTime} {n : Nat} (hs : s.Keyed)
    (hround : s.round? roundId = some round)
    (h : (updateMatchResults roundId scores now).Returns s n t) (hn : n ≠ 0) :
    (∀ league ∈ s.leaguesOf round.seasonId, ∀ userId, s.isMember league.id userId = true →
      t.figuresOf league.id userId =
        [{ livePoints := t.boostedIn league.id round.id userId
           liveRank := t.memberRank league.id (t.pointsOver league.id [round.id]) userId
           overallRank := t.memberRank league.id
             (t.pointsOver league.id ((t.roundsOf round.seasonId).map (·.id))) userId
           monthRank := t.memberRank league.id
             (t.pointsOver league.id ((t.monthOf round).map (·.id))) userId }]) ∧
      (∀ leagueId, (∀ league ∈ s.leaguesOf round.seasonId, league.id ≠ leagueId) →
        t.stats.filter (·.leagueId == leagueId) = s.stats.filter (·.leagueId == leagueId)) ∧
      ((round.status = .published → (t.round? roundId).map (·.status) = some .published) →
        ∀ league ∈ s.leaguesOf round.seasonId, ∀ userId, s.isMember league.id userId = false →
          t.figuresOf league.id userId = s.figuresOf league.id userId) := by
  obtain rfl : round.id = roundId := Table.id_of_get? hround
  have hreported := reported_updateMatchResults hround scores now
  rw [h.storeAfter, h] at hreported
  cases hreported with
  | refused _ _ hzero => exact absurd (hzero n rfl) hn
  | carried recording haccepts hends =>
    obtain ⟨-, hrefreshed⟩ : s.Named round.id scores ∧ s.Refreshed t round scores now :=
      (refreshed_updateMatchResults hs hround h).resolve_left fun hnot =>
        hnot.1 (haccepts.named hs)
    have hcarried := hs.carried haccepts hround now
    refine ⟨?_, ?_, ?_⟩
    · intro league hleague userId hmember
      rw [hrefreshed.figures league hleague userId hmember,
        hrefreshed.keyed.liveFigures_eq round (by rwa [hrefreshed.isMember])]
    · intro leagueId hother
      rw [hends.stats_of_ok, hcarried.others_figured, hs.others_carried hround haccepts now hother]
      rwa [Round.seasonId_opened, leaguesOf_carried]
    · intro hkept league hleague userId hnot
      have hstart : ¬(round.status = .published ∧ recording.anyStarted) := by
        rintro ⟨hpublished, hstarted⟩
        have hopened : round.opened recording now = round.withStatus .inProgress now :=
          if_pos ⟨hpublished, hstarted⟩
        have hstands := hkept hpublished
        rcases hends.round?_of_carried hround with hsame | ⟨-, hcompleted⟩
        · rw [hsame, hopened] at hstands
          simp [Round.withStatus] at hstands
        · rw [hcompleted] at hstands
          simp [Round.withStatus] at hstands
      have hnot' : (s.carried round recording now).isMember league.id userId = false := by
        rw [isMember_carried]
        exact hnot
      have hstats : t.statsOf league.id userId = s.statsOf league.id userId := by
        calc t.statsOf league.id userId
            = ((s.carried round recording now).figured (round.opened recording now)
                recording.newlyCompleted).statsOf league.id userId :=
              statsOf_congr (by rw [hends.stats_of_ok]) userId
          _ = (s.carried round recording now).statsOf league.id userId :=
              hcarried.statsOf_figured_outsider _ hnot'
          _ = s.statsOf league.id userId := statsOf_congr (by rw [stats_carried hstart]) userId
      rw [figuresOf_eq, figuresOf_eq, hstats]

/-- The open round when the first match stands at 2:1, as player 10 predicted it. -/
def inPlayStore : Store := openStoreAfter [[⟨1, 2, 1, .inProgress⟩]]

theorem first_scores_ranks :
    openStore.Keyed ∧
      (updateMatchResults 1 [⟨1, 2, 1, .inProgress⟩] .newYear2025).Returns openStore 1
        inPlayStore ∧
      inPlayStore.figuresOf 1 10 = [⟨5, 1, 1, 1⟩] ∧
      inPlayStore.figuresOf 1 11 = [⟨0, 2, 2, 2⟩] := by
  have hkeyed : openStore.Keyed := by decide
  have hreturns : (updateMatchResults 1 [⟨1, 2, 1, .inProgress⟩] .newYear2025).Returns openStore 1
      inPlayStore := by decide +kernel
  have hranks := (updateMatchResults_ranks hkeyed rfl hreturns Nat.one_ne_zero).1
    ⟨1, 1, .newYear2025, 5, 3, 0⟩ List.mem_cons_self
  have hfirst := hranks 10 (by decide)
  have hsecond := hranks 11 (by decide)
  exact ⟨hkeyed, hreturns, hfirst.trans (by decide +kernel), hsecond.trans (by decide +kernel)⟩

end PredictionLeague
