import PredictionLeague.Proofs.Coherence
import PredictionLeague.Proofs.LiveRanks

/-!
# Snapshots

The first scores of a published round open it: the round starts, and the ranks that the members of
its leagues have by then are frozen before the scores count. Later scores, settlement, boosts and
prizes leave these ranks alone, and a round that was opened is not published any more, so it is
never opened again.

* `MemberStats.present`, `MemberStats.frozen`: the ranks of a member, and those from before a round;
* `Store.Opens`: scores that open a round;
* `Store.FreezesRanks`, `Store.KeepsFrozen`: what a call does to the ranks that are frozen;
* `Keyed.freezesRanks`, `Keyed.keepsFrozen`: calls that open a round, and the others that record
  results;
* `Call.not_published_after`: no call publishes a round again;
* `snapshots_once`: what every call does to the frozen ranks, and every run of calls.
-/

namespace PredictionLeague

/-- Ranks over the season and the month; none before the first snapshot. -/
structure Ranks where
  overall : Option Int
  month : Option Int
  deriving DecidableEq

/-- The present ranks of a member. -/
def MemberStats.present (r : MemberStats) : Ranks := ⟨some r.overallRank, some r.monthRank⟩

/-- The ranks of a member from before the round. -/
def MemberStats.frozen (r : MemberStats) : Ranks := ⟨r.snapshotOverallRank, r.snapshotMonthRank⟩

theorem MemberStats.frozen_snapshot (r : MemberStats) : r.snapshot.frozen = r.present := rfl

theorem MatchStatus.started_iff {status : MatchStatus} :
    status.started = true ↔ status = .inProgress ∨ status = .completed := by
  cases status with
  | scheduled => decide
  | inProgress => decide
  | completed => decide

namespace Store

/-- The frozen ranks in the stats of a player in a league. -/
def frozenOf (s : Store) (leagueId userId : Int) : List Ranks :=
  (s.statsOf leagueId userId).map MemberStats.frozen

/-- Scores open a round: it is published, the scores are accepted, and when all of them are recorded
a match of the round that they name is in progress or completed. -/
structure Opens (s : Store) (roundId : Int) (scores : List MatchScore) : Prop where
  published : s.Published roundId
  accepted : ∃ recording, s.Accepts roundId scores recording
  started : ∃ m ∈ s.fixturesOf roundId, (∃ score ∈ scores, score.matchId = m.id) ∧
    ((m.afterScores scores).status = .inProgress ∨ (m.afterScores scores).status = .completed)

/-- All stats in the leagues of the season of a round end with the ranks frozen that they had. -/
def FreezesRanks (s t : Store) (roundId : Int) : Prop :=
  ∀ round, s.round? roundId = some round → ∀ league ∈ s.leaguesOf round.seasonId,
    ∀ row ∈ s.stats, row.leagueId = league.id →
      t.frozenOf row.leagueId row.userId = [row.present]

/-- All stats end with the frozen ranks that they had. -/
def KeepsFrozen (s t : Store) : Prop :=
  ∀ row ∈ s.stats, t.frozenOf row.leagueId row.userId = [row.frozen]

variable {s t : Store} {round : Round} {roundId leagueId userId : Int} {scores : List MatchScore}
  {recording : Recording} {now : DateTime} {newly : Bool} {answer : Except Fault Nat}
  {ranks : Ranks}

/-! ### Stats that are there -/

/-- Where stats are the same, frozen ranks are. -/
theorem Keyed.keepsFrozen_of_stats (hs : s.Keyed) (h : t.stats = s.stats) : s.KeepsFrozen t := by
  intro row hrow
  have hrows : t.statsOf row.leagueId row.userId = [row] := by
    rw [← hs.statsOf_of_mem hrow]
    exact statsOf_congr (by rw [h]) row.userId
  rw [frozenOf, hrows, List.map_singleton]

/-! ### Rankings -/

theorem frozen_stableRow (s : Store) (roundId : Int) (league : League) (r : MemberStats) :
    (s.stableRow roundId league r).frozen = r.frozen := by
  unfold stableRow
  split <;> rfl

theorem frozen_liveRow (s : Store) (round : Round) (league : League) (r : MemberStats) :
    (s.liveRow round league r).frozen = r.frozen := by
  unfold liveRow
  split <;> rfl

/-- Ranking a round keeps frozen ranks. -/
theorem Keyed.frozenOf_ranked (hs : s.Keyed) (round : Round)
    (h : s.frozenOf leagueId userId = [ranks]) :
    (s.ranked round).frozenOf leagueId userId = [ranks] :=
  hs.map_statsOf_ranked round (fun u league r => frozen_stableRow u round.id league r) h

/-- Showing the points of a round keeps them. -/
theorem Keyed.frozenOf_shown (hs : s.Keyed) (round : Round)
    (h : s.frozenOf leagueId userId = [ranks]) :
    (s.shown round).frozenOf leagueId userId = [ranks] :=
  hs.map_statsOf_shown round (fun u league r => frozen_liveRow u round league r) h

/-! ### Once the scores are recorded -/

/-- However a call ends, it keeps the frozen ranks that are there once its scores are recorded. -/
theorem Ends.frozenOf (h : s.Ends round newly now answer t) (hs : s.Keyed)
    (hranks : s.frozenOf leagueId userId = [ranks]) : t.frozenOf leagueId userId = [ranks] := by
  cases h with
  | unpointed => exact hranks
  | unranked =>
    obtain ⟨counts, points, hpoints⟩ := s.recomputed_frame round
    rw [hpoints]
    exact hranks
  | figured _ _ _ winnings =>
    obtain ⟨rounds, hclosed⟩ := (s.figured round newly).closed_frame round now
    rw [hclosed]
    refine hs.stats_figured (P := fun stats => { s with stats }.frozenOf leagueId userId = [ranks])
      newly hranks ?_ ?_
    · intro counts points stats hkeyed hrow
      exact hkeyed.frozenOf_ranked round hrow
    · intro counts points stats hkeyed hrow
      exact hkeyed.frozenOf_shown round hrow

/-- Snapshots are taken of the stats that are there. -/
theorem Keyed.statsOf_snapshots (hs : s.Keyed) {league : League}
    (hleague : league ∈ s.leaguesOf round.seasonId) {row : MemberStats}
    (hid : row.leagueId = league.id) (hrow : s.statsOf league.id userId = [row]) :
    ((s.leaguesOf round.seasonId).foldl snapshotLeague s).statsOf league.id userId =
      [row.snapshot] := by
  obtain ⟨stats, hown⟩ := hs.exists_statsOf_old hleague leagueUpdate_snapshot snapshotLeague_eq
    (fun _ => key_snapshotRow) (by rw [hrow]; exact List.cons_ne_nil _ _)
  rw [hown, hrow, List.map_singleton, snapshotRow, if_pos (beq_iff_eq.2 hid)]

section Start

variable (hs : s.Keyed) (hround : s.round? round.id = some round)
  (h : s.Accepts round.id scores recording)
  (hstart : round.status = .published ∧ recording.anyStarted)

include hs hround h hstart

/-- A round that starts takes snapshots of the stats in its leagues. -/
theorem Keyed.statsOf_carried (now : DateTime) {league : League}
    (hleague : league ∈ s.leaguesOf round.seasonId) {row : MemberStats} (hrow : row ∈ s.stats)
    (hid : row.leagueId = league.id) :
    (s.carried round recording now).statsOf row.leagueId row.userId = [row.snapshot] := by
  have hrecorded : (s.withRecording recording).Keyed := hs.withFixtures (hs.fixtures_accepted h)
  have hmem : round ∈ s.rounds := ((Table.get?_eq_some hs.rounds).1 hround).1
  have hkeyed := (hrecorded.withRoundStatus hmem .inProgress now).1
  have hrows := hs.statsOf_of_mem hrow
  rw [hid] at hrows ⊢
  rw [Store.carried, if_pos hstart]
  exact hkeyed.statsOf_snapshots hleague hid hrows

/-- A round that starts freezes the ranks that its leagues have by then. -/
theorem Keyed.frozenOf_carried (now : DateTime) {league : League}
    (hleague : league ∈ s.leaguesOf round.seasonId) {row : MemberStats} (hrow : row ∈ s.stats)
    (hid : row.leagueId = league.id) :
    (s.carried round recording now).frozenOf row.leagueId row.userId = [row.present] := by
  rw [frozenOf, hs.statsOf_carried hround h hstart now hleague hrow hid, List.map_singleton,
    MemberStats.frozen_snapshot]

end Start

/-! ### Scores that open a round -/

/-- A match that was updated has kicked off when one that the scores name has, once all of them are
recorded. -/
theorem Keyed.anyStarted_iff (hs : s.Keyed) (h : s.Accepts roundId scores recording) :
    recording.anyStarted = true ↔ ∃ m ∈ s.fixturesOf roundId,
      (∃ score ∈ scores, score.matchId = m.id) ∧
        ((m.afterScores scores).status = .inProgress ∨
          (m.afterScores scores).status = .completed) := by
  rw [Recording.anyStarted, List.any_eq_true, h.fixtures hs]
  constructor
  · rintro ⟨m', hm', hstarted⟩
    obtain ⟨m, hm, rfl⟩ := List.mem_map.1 hm'
    rw [Bool.and_eq_true, List.contains_iff_mem, Match.id_afterScores] at hstarted
    obtain ⟨hupdated, hstarted⟩ := hstarted
    obtain ⟨-, hlast⟩ := (h.mem_updated hs m.id).1 hupdated
    exact ⟨m, hm, isSome_lastScore?.1 hlast, MatchStatus.started_iff.1 hstarted⟩
  · rintro ⟨m, hm, hnamed, hstarted⟩
    have hupdated : m.id ∈ recording.updated :=
      (h.mem_updated hs m.id).2 ⟨List.mem_map_of_mem hm, isSome_lastScore?.2 hnamed⟩
    refine ⟨m.afterScores scores, List.mem_map_of_mem hm, ?_⟩
    rw [Bool.and_eq_true, List.contains_iff_mem, Match.id_afterScores]
    exact ⟨hupdated, MatchStatus.started_iff.2 hstarted⟩

/-- Accepted scores open a round when it is published and a match that was updated has kicked
off. -/
theorem Keyed.opens_iff (hs : s.Keyed) (hround : s.round? round.id = some round)
    (h : s.Accepts round.id scores recording) :
    s.Opens round.id scores ↔ round.status = .published ∧ recording.anyStarted = true := by
  constructor
  · intro hopens
    exact ⟨(published_iff hround).1 hopens.published, (hs.anyStarted_iff h).2 hopens.started⟩
  · rintro ⟨hpublished, hstarted⟩
    exact ⟨(published_iff hround).2 hpublished, ⟨recording, h⟩, (hs.anyStarted_iff h).1 hstarted⟩

/-- Scores that open a round are recorded and start it, however the call ends. -/
theorem Keyed.carried_of_opens (hs : s.Keyed) (hround : s.round? round.id = some round)
    (hopens : s.Opens round.id scores) (now : DateTime) : ∃ recording answer,
      s.Accepts round.id scores recording ∧ (round.status = .published ∧ recording.anyStarted) ∧
        (s.carried round recording now).Ends (round.opened recording now) recording.newlyCompleted
          now answer ((updateMatchResults round.id scores now).storeAfter s) := by
  have hreported := reported_updateMatchResults hround scores now
  generalize (updateMatchResults round.id scores now).storeAfter s = t at hreported ⊢
  cases hreported with
  | refused _ hnone =>
    obtain ⟨recording, haccepts⟩ := hopens.accepted
    exact absurd haccepts (hnone recording)
  | carried recording haccepts hends =>
    exact ⟨recording, _, haccepts, (hs.opens_iff hround haccepts).1 hopens, hends⟩

/-- A call that opens a round freezes the ranks from before it, whether it returns or stops. -/
theorem Keyed.freezesRanks (hs : s.Keyed) (hopens : s.Opens roundId scores) (now : DateTime) :
    s.FreezesRanks ((updateMatchResults roundId scores now).storeAfter s) roundId := by
  intro round hround league hleague row hrow hid
  obtain rfl : round.id = roundId := Table.id_of_get? hround
  obtain ⟨recording, answer, haccepts, hstart, hends⟩ := hs.carried_of_opens hround hopens now
  apply hends.frozenOf (hs.carried haccepts hround now)
  exact hs.frozenOf_carried hround haccepts hstart now hleague hrow hid

/-- Any other call that records results keeps the ranks that are frozen. -/
theorem Keyed.keepsFrozen (hs : s.Keyed) (hnot : ¬s.Opens roundId scores) (now : DateTime) :
    s.KeepsFrozen ((updateMatchResults roundId scores now).storeAfter s) := by
  apply kept_updateMatchResults (hs.keepsFrozen_of_stats rfl)
  rintro round answer t rfl hround hreported
  cases hreported with
  | refused => exact hs.keepsFrozen_of_stats rfl
  | carried recording haccepts hends =>
    have hstart : ¬(round.status = .published ∧ recording.anyStarted) :=
      fun hstart => hnot ((hs.opens_iff hround haccepts).2 hstart)
    have hstats : (s.carried round recording now).stats = s.stats := stats_carried hstart
    have hcarried := hs.keepsFrozen_of_stats hstats
    intro row hrow
    exact hends.frozenOf (hs.carried haccepts hround now) (hcarried row hrow)

/-- A call that returns opens a round when it was published and, in the end, a match of the round
that the scores name is in progress or completed. -/
theorem Keyed.opens_iff_of_returns (hs : s.Keyed) {n : Nat}
    (h : (updateMatchResults roundId scores now).Returns s n t) :
    s.Opens roundId scores ↔ s.Published roundId ∧ ∃ m ∈ t.fixturesOf roundId,
      (∃ score ∈ scores, score.matchId = m.id) ∧
        (m.status = .inProgress ∨ m.status = .completed) := by
  by_cases hpublished : s.Published roundId
  · obtain ⟨round, hround, -⟩ := id hpublished
    obtain rfl : round.id = roundId := Table.id_of_get? hround
    have hreported := reported_updateMatchResults hround scores now
    rw [h.storeAfter, h] at hreported
    cases hreported with
    | refused _ hnone =>
      -- A call that returns refuses only scores that name no match of the round.
      refine iff_of_false ?_ ?_
      · rintro ⟨-, ⟨recording, haccepts⟩, -⟩
        exact hnone recording haccepts
      · rintro ⟨-, m, hm, hnamed, -⟩
        obtain ⟨recording, haccepts⟩ := exists_accepts hs h ⟨m, hm, isSome_lastScore?.2 hnamed⟩
        exact hnone recording haccepts
    | carried recording haccepts hends =>
      rw [fixturesOf_after (hends.fixtures_of_accepts hs haccepts)]
      simp only [List.mem_map, exists_exists_and_eq_and, Match.id_afterScores]
      constructor
      · rintro ⟨-, -, hstarted⟩
        exact ⟨hpublished, hstarted⟩
      · rintro ⟨-, hstarted⟩
        exact ⟨hpublished, ⟨recording, haccepts⟩, hstarted⟩
  · exact iff_of_false (fun hopens => hpublished hopens.published) fun hboth => hpublished hboth.1

/-! ### Rounds that are not published -/

/-- Once its scores are recorded a round that has started is not published, however the call
ends. -/
theorem Ends.not_published (hround : s.round? round.id = some round)
    (hends : (s.carried round recording now).Ends (round.opened recording now) newly now answer t)
    (hstarted : (round.opened recording now).status ≠ .published) : ¬t.Published round.id := by
  rcases hends.round?_of_carried hround with hsame | ⟨-, hcompleted⟩
  · rw [published_iff hsame]
    exact hstarted
  · rw [published_iff hcompleted]
    exact RoundStatus.noConfusion

/-- A call that opens a round leaves it started. -/
theorem Keyed.not_published_of_opens (hs : s.Keyed) (hopens : s.Opens roundId scores)
    (now : DateTime) :
    ¬((updateMatchResults roundId scores now).storeAfter s).Published roundId := by
  obtain ⟨round, hround, -⟩ := hopens.published
  obtain rfl : round.id = roundId := Table.id_of_get? hround
  obtain ⟨recording, answer, -, hstart, hends⟩ := hs.carried_of_opens hround hopens now
  apply hends.not_published hround
  rw [Round.opened, if_pos hstart]
  exact RoundStatus.noConfusion

/-- A call that records results publishes no round. -/
theorem Reported.not_published (h : s.Reported round scores now answer t)
    (hround : s.round? round.id = some round) (hnot : ¬s.Published roundId) :
    ¬t.Published roundId := by
  by_cases hid : roundId = round.id
  · subst hid
    cases h with
    | refused => exact hnot
    | carried recording haccepts hends =>
      have hstarted : round.status ≠ .published := fun h => hnot ((published_iff hround).2 h)
      refine hends.not_published hround ?_
      rw [Round.opened, if_neg (fun hstart => hstarted hstart.1)]
      exact hstarted
  · rw [Published, h.round?_of_ne hid]
    exact hnot

end Store

/-! ### Calls and runs -/

namespace Call

/-- A call opens a round. -/
def Opens (call : Call) (s : Store) (roundId : Int) : Prop :=
  ∃ scores now, call = .updateResults roundId scores now ∧ s.Opens roundId scores

variable {s : Store} {roundId : Int}

/-- No call publishes a round. -/
theorem not_published_after (call : Call) (hnot : ¬s.Published roundId) :
    ¬(call.after s).Published roundId := by
  by_cases hrecords : call.Records
  · cases call with
    | updateResults id scores now =>
      rw [after_updateResults]
      apply kept_updateMatchResults (P := fun t => ¬t.Published roundId) hnot
      intro round answer t _ hround hreported
      exact hreported.not_published hround hnot
    | _ => exact absurd hrecords id
  · obtain ⟨counts, points, uses, stats, winnings, hsame⟩ := samePlay_after s hrecords
    rw [hsame]
    exact hnot

/-- In a run every round is opened at most once. -/
theorem opens_once (hs : s.Keyed) {before between : List Call} {first second : Call}
    (hfirst : first.Opens (afterAll before s) roundId) :
    ¬second.Opens (afterAll (before ++ first :: between) s) roundId := by
  obtain ⟨scores, now, rfl, hopens⟩ := hfirst
  have hkeyed : (afterAll before s).Keyed :=
    afterAll_keeps (P := Store.Keyed) (fun _ call ht => keyed_after ht call) before hs
  rintro ⟨scores', now', rfl, hagain⟩
  refine absurd hagain.published ?_
  rw [afterAll, List.foldl_append, List.foldl_cons]
  refine afterAll_keeps (P := fun t => ¬t.Published roundId)
    (fun _ call hnot => not_published_after call hnot) between ?_
  rw [after_updateResults]
  exact hkeyed.not_published_of_opens hopens now

end Call

/-- Snapshots are taken once, from before a round scored. A call that returns opens a round when the
round was published and a match that the scores name has kicked off in the end. A call that opens a
round freezes the ranks of all members from before it, even when it stops later on. No other call
that records results changes ranks that are frozen, and no settlement, prize or boost does. And in
every run of calls each round is opened at most once. -/
theorem snapshots_once {s : Store} (hs : s.Keyed) :
    (∀ roundId scores now n t, (updateMatchResults roundId scores now).Returns s n t →
      (s.Opens roundId scores ↔ s.Published roundId ∧ ∃ m ∈ t.fixturesOf roundId,
        (∃ score ∈ scores, score.matchId = m.id) ∧
          (m.status = .inProgress ∨ m.status = .completed))) ∧
      (∀ roundId scores now, s.Opens roundId scores →
        s.FreezesRanks ((updateMatchResults roundId scores now).storeAfter s) roundId) ∧
      (∀ roundId scores now, ¬s.Opens roundId scores →
        s.KeepsFrozen ((updateMatchResults roundId scores now).storeAfter s)) ∧
      (∀ call : Call, ¬call.Records → ¬call.Ranks → s.KeepsFrozen (call.after s)) ∧
      ∀ roundId before between (first second : Call),
        first.Opens (Call.afterAll before s) roundId →
          ¬second.Opens (Call.afterAll (before ++ first :: between) s) roundId := by
  refine ⟨?_, ?_, ?_, ?_, ?_⟩
  · intro roundId scores now n t hreturns
    exact hs.opens_iff_of_returns hreturns
  · intro roundId scores now hopens
    exact hs.freezesRanks hopens now
  · intro roundId scores now hnot
    exact hs.keepsFrozen hnot now
  · intro call hrecords hranks
    exact hs.keepsFrozen_of_stats (call.stats_after s hrecords hranks)
  · intro roundId before between first second hfirst
    exact Call.opens_once hs hfirst

/-- Stats of players 10 and 11 from earlier rounds. -/
def earlierStats : List MemberStats :=
  [⟨1, 1, 10, 2, 3, 1, 0, 1, 0, none, none⟩, ⟨2, 1, 11, 1, 1, 1, 0, 1, 0, none, none⟩]

/-- The open round in a league with stats from earlier rounds. -/
def rankedStore : Store := { openStore with stats := earlierStats }

/-- The same when the first match stands at 2:1, as player 10 predicted it. -/
def rankedInPlay : Store :=
  (updateMatchResults 1 [⟨1, 2, 1, .inProgress⟩] .newYear2025).storeAfter rankedStore

theorem first_scores_freeze_ranks :
    rankedStore.Keyed ∧ rankedStore.Opens 1 [⟨1, 2, 1, .inProgress⟩] ∧
      rankedInPlay.frozenOf 1 10 = [⟨some 2, some 3⟩] ∧
      rankedInPlay.frozenOf 1 11 = [⟨some 1, some 1⟩] ∧
      rankedInPlay.figuresOf 1 10 = [⟨5, 1, 1, 1⟩] ∧
      rankedInPlay.figuresOf 1 11 = [⟨0, 2, 2, 2⟩] := by
  have hkeyed : rankedStore.Keyed := by decide
  have hreturns : (updateMatchResults 1 [⟨1, 2, 1, .inProgress⟩] .newYear2025).Returns rankedStore 1
      rankedInPlay := by decide +kernel
  obtain ⟨hopens_iff, hfreezes, -⟩ := snapshots_once hkeyed
  have hmatch : (⟨1, 1, some 2, some 1, .inProgress⟩ : Match) ∈ rankedInPlay.fixturesOf 1 := by
    decide +kernel
  have hopens : rankedStore.Opens 1 [⟨1, 2, 1, .inProgress⟩] :=
    (hopens_iff 1 _ _ _ _ hreturns).2
      ⟨⟨_, rfl, rfl⟩, _, hmatch, ⟨_, List.mem_cons_self, rfl⟩, .inl rfl⟩
  have hfrozen := hfreezes 1 _ .newYear2025 hopens _ rfl ⟨1, 1, .newYear2025, 5, 3, 0⟩
    List.mem_cons_self
  have hfirst := hfrozen ⟨1, 1, 10, 2, 3, 1, 0, 1, 0, none, none⟩ List.mem_cons_self rfl
  have hsecond := hfrozen ⟨2, 1, 11, 1, 1, 1, 0, 1, 0, none, none⟩ (by decide) rfl
  exact ⟨hkeyed, hopens, hfirst, hsecond, by decide +kernel, by decide +kernel⟩

/-- A call that opens a round and then stops at points that do not fit has taken the snapshots: it
does not return, and yet ranks that are there are frozen anew. -/
theorem stopped_call_takes_snapshots : ¬∀ (s : Store) (roundId : Int) (scores : List MatchScore)
    (now : DateTime), s.Keyed →
    (¬∃ n t, (updateMatchResults roundId scores now).Returns s n t ∧ s.Published roundId ∧
      ∃ m ∈ t.fixturesOf roundId, (∃ score ∈ scores, score.matchId = m.id) ∧
        (m.status = .inProgress ∨ m.status = .completed)) →
    s.KeepsFrozen ((updateMatchResults roundId scores now).storeAfter s) := by
  intro h
  have hstops : ((updateMatchResults 1 [⟨1, 2, 1, .completed⟩, ⟨2, 1, 1, .completed⟩]
      .newYear2025).effect { heavyStore with stats := earlierStats }).1 =
        .error .integerTooLarge := by decide +kernel
  have hkept := h { heavyStore with stats := earlierStats } 1
    [⟨1, 2, 1, .completed⟩, ⟨2, 1, 1, .completed⟩] .newYear2025 (by decide) (by
      rintro ⟨n, t, hreturns, -⟩
      rw [hreturns] at hstops
      exact absurd hstops (by simp))
    ⟨1, 1, 10, 2, 3, 1, 0, 1, 0, none, none⟩ List.mem_cons_self
  exact absurd hkept (by decide +kernel)

end PredictionLeague
