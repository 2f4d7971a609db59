import PredictionLeague.Proofs.Progress
import PredictionLeague.Proofs.Scores

/-!
# Results however they arrive

Scores of a round may arrive in any batches and any order, with corrections on the way: what is left
depends on the last score of each match alone.

* `Store.Refreshed`: the scores of a round are recorded, and everything that follows from them is
  brought up to date;
* `Store.SameLast`: two lists of scores that end the same;
* `Refreshed.congr`, `Refreshed.append`: the last scores decide, also when they come in two batches;
* `Store.SettledAlike`: two stores in which the points of a round are settled alike;
* `Store.SameResults`: two stores with the same results;
* `Refreshed.sameResults`: two stores that are refreshed by the same scores.
-/

namespace PredictionLeague

/-- A round result without its id. -/
def RoundResult.bare (r : RoundResult) : RoundResult := { r with id := 0 }

/-- A league result without its id. -/
def LeagueResult.bare (r : LeagueResult) : LeagueResult := { r with id := 0 }

namespace Store

/-- Two lists of scores end with the same score for each match of a round. -/
def SameLast (s : Store) (roundId : Int) (xs ys : List MatchScore) : Prop :=
  ∀ m ∈ s.fixturesOf roundId, lastScore? xs m.id = lastScore? ys m.id

/-- One of the scores names a match of a round. -/
def Named (s : Store) (roundId : Int) (scores : List MatchScore) : Prop :=
  ∃ m ∈ s.fixturesOf roundId, (lastScore? scores m.id).isSome = true

/-- The scores of a round are recorded, and the verdicts, points and live figures that follow from
them are brought up to date. -/
structure Refreshed (s s' : Store) (round : Round) (scores : List MatchScore) (now : DateTime) :
    Prop where
  rest : ∃ fixtures predictions rounds counts points stats winnings,
    s' = { s with
      fixtures, predictions, rounds, stats, winnings
      roundResults := counts, leagueResults := points }
  keyed : s'.Keyed
  slots : s'.rounds.map Round.slot = s.rounds.map Round.slot
  fixtures : s'.fixtures = s.fixtures.map (matchAfter round.id scores)
  predictions : s'.predictions = s.predictions.map (s.predictionAfter round.id scores now)
  settled : s'.PointsSettled round
  others : s.OtherPointsKept s' round
  figures : ∀ league ∈ s.leaguesOf round.seasonId, ∀ userId,
    s.isMember league.id userId = true →
      s'.figuresOf league.id userId = [s'.liveFigures round league.id userId]

/-- Two stores hold the same results: matches, predictions, points but for the ids of their rows,
and live figures of the approved members of the leagues of a round. -/
structure SameResults (s s' : Store) (round : Round) : Prop where
  fixtures : s'.fixtures = s.fixtures
  predictions : s'.predictions = s.predictions
  counts : (s'.roundResults.map RoundResult.bare).Perm (s.roundResults.map RoundResult.bare)
  points : (s'.leagueResults.map LeagueResult.bare).Perm (s.leagueResults.map LeagueResult.bare)
  figures : ∀ league ∈ s.leaguesOf round.seasonId, ∀ userId,
    s.isMember league.id userId = true →
      s'.figuresOf league.id userId = s.figuresOf league.id userId

variable {s t u : Store} {round : Round} {roundId : Int} {scores xs ys : List MatchScore}
  {now : DateTime}

/-! ### The last scores decide -/

theorem SameLast.predictionAfter (h : s.SameLast round.id xs ys) (p : Prediction) :
    s.predictionAfter round.id xs now p = s.predictionAfter round.id ys now p := by
  rw [Store.predictionAfter, Store.predictionAfter]
  cases hm : Table.get? (s.fixturesOf round.id) p.matchId with
  | none => rfl
  | some m =>
    have hlast := h m (List.mem_of_find?_eq_some hm)
    rw [show m.id = p.matchId from Table.id_of_get? hm] at hlast
    rw [hlast]

theorem SameLast.matchAfter (h : s.SameLast round.id xs ys) {m : Match} (hm : m ∈ s.fixtures) :
    matchAfter round.id xs m = matchAfter round.id ys m := by
  refine ite_congr rfl (fun hround => ?_) fun _ => rfl
  rw [Match.afterScores, Match.afterScores, h m (List.mem_filter.2 ⟨hm, hround⟩)]

theorem SameLast.named (h : s.SameLast roundId xs ys) :
    s.Named roundId xs ↔ s.Named roundId ys :=
  exists_congr fun m => and_congr_right fun hm => by rw [h m hm]

/-- A score that completes a match names it. -/
theorem named_of_completes {scores : List MatchScore}
    (h : Completes (s.fixturesOf roundId) scores) : s.Named roundId scores := by
  obtain ⟨xs, score, ys, rfl, -, m, hm, hid, -⟩ := h
  exact ⟨m, hm, isSome_lastScore?.2 ⟨score, by simp, hid.symm⟩⟩

/-- Scores that name no match of the round do not count. -/
theorem sameLast_append_left (h : ¬s.Named roundId ys) : s.SameLast roundId xs (xs ++ ys) := by
  intro m hm
  have hnone : lastScore? ys m.id = none :=
    Option.not_isSome_iff_eq_none.1 fun hsome => h ⟨m, hm, hsome⟩
  rw [lastScore?_append, hnone, Option.none_or]

theorem sameLast_append_right (h : ¬s.Named roundId xs) : s.SameLast roundId ys (xs ++ ys) := by
  intro m hm
  have hnone : lastScore? xs m.id = none :=
    Option.not_isSome_iff_eq_none.1 fun hsome => h ⟨m, hm, hsome⟩
  rw [lastScore?_append, hnone, Option.or_none]

theorem named_append :
    s.Named roundId (xs ++ ys) ↔ s.Named roundId xs ∨ s.Named roundId ys := by
  simp only [Named, lastScore?_append, Option.isSome_or, Bool.or_eq_true, ← exists_or, and_or_left]
  exact exists_congr fun m => or_comm

section Unchanged

variable (h : s.Refreshed t round scores now)

include h

theorem Refreshed.members : t.members = s.members := by
  obtain ⟨_, _, _, _, _, _, _, hrest⟩ := h.rest
  rw [hrest]

theorem Refreshed.isMember : t.isMember = s.isMember := by
  funext leagueId userId
  rw [Store.isMember, Store.isMember, h.members]

theorem Refreshed.leaguesOf (seasonId : Int) : t.leaguesOf seasonId = s.leaguesOf seasonId := by
  obtain ⟨_, _, _, _, _, _, _, hrest⟩ := h.rest
  rw [hrest]
  rfl

theorem Refreshed.boostUsages : t.boostUsages = s.boostUsages := by
  obtain ⟨_, _, _, _, _, _, _, hrest⟩ := h.rest
  rw [hrest]

theorem Refreshed.withBoost (r : LeagueResult) : t.withBoost r = s.withBoost r := by
  rw [Store.withBoost, Store.withBoost, boostIn, boostIn, h.boostUsages]

end Unchanged

theorem Refreshed.congr (h : s.Refreshed t round xs now) (hlast : s.SameLast round.id xs ys) :
    s.Refreshed t round ys now :=
  { h with
    fixtures := h.fixtures.trans (List.map_congr_left fun _ hm => hlast.matchAfter hm)
    predictions := h.predictions.trans (List.map_congr_left fun p _ => hlast.predictionAfter p) }

theorem Refreshed.of_slot {round' : Round} (h : s.Refreshed t round' scores now)
    (hslot : round'.slot = round.slot) : s.Refreshed t round scores now := by
  have hid : round'.id = round.id := congrArg RoundSlot.id hslot
  have hseason : round'.seasonId = round.seasonId := congrArg RoundSlot.seasonId hslot
  have hothers := h.others
  refine { h with
    fixtures := hid ▸ h.fixtures
    predictions := hid ▸ h.predictions
    settled := h.settled.of_slot hslot.symm
    others := ⟨hid ▸ hothers.counts, hid ▸ hothers.points, ?_⟩
    figures := ?_ }
  · rw [← hid, ← hseason]
    exact hothers.otherLeagues
  · rw [← hseason]
    intro league hleague userId hmember
    rw [h.figures league hleague userId hmember, liveFigures_of_slot hslot]

theorem Refreshed.named (h : s.Refreshed t round xs now) :
    t.Named round.id ys ↔ s.Named round.id ys := by
  simp only [Named, fixturesOf_after h.fixtures, List.mem_map, exists_exists_and_eq_and,
    Match.id_afterScores]

/-- Scores are recorded, and what follows from them is brought up to date. -/
theorem Refreshed.of_recorded
    (hrest : ∃ fixtures predictions rounds stats winnings,
      t = { s with fixtures, predictions, rounds, stats, winnings })
    (hslots : t.rounds.map Round.slot = s.rounds.map Round.slot)
    (hfixtures : t.fixtures = s.fixtures.map (matchAfter round.id scores))
    (hpredictions : t.predictions = s.predictions.map (s.predictionAfter round.id scores now))
    (h : t.Refreshed u round [] now) : s.Refreshed u round scores now := by
  obtain ⟨fixtures, predictions, rounds, stats, winnings, rfl⟩ := hrest
  refine ⟨?_, h.keyed, h.slots.trans hslots, ?_, ?_, h.settled, ?_, h.figures⟩
  · obtain ⟨_, _, _, _, _, _, _, hrest⟩ := h.rest
    exact ⟨_, _, _, _, _, _, _, hrest⟩
  · rw [h.fixtures, matchAfter_nil, List.map_id, hfixtures]
  · rw [h.predictions, predictionAfter_nil, List.map_id, hpredictions]
  · exact ⟨h.others.counts, h.others.points, h.others.otherLeagues⟩

/-- Scores that arrive in two batches. -/
theorem Refreshed.append (h : s.Refreshed t round xs now) (h' : t.Refreshed u round ys now) :
    s.Refreshed u round (xs ++ ys) now where
  rest := by
    obtain ⟨_, _, _, _, _, _, _, rfl⟩ := h.rest
    obtain ⟨_, _, _, _, _, _, _, rfl⟩ := h'.rest
    exact ⟨_, _, _, _, _, _, _, rfl⟩
  keyed := h'.keyed
  slots := h'.slots.trans h.slots
  fixtures := by
    rw [h'.fixtures, h.fixtures, List.map_map]
    exact List.map_congr_left fun m _ => (matchAfter_append round.id xs ys m).symm
  predictions := by
    rw [h'.predictions, h.predictions, List.map_map]
    exact List.map_congr_left fun p _ => predictionAfter_append h.fixtures ys now p
  settled := h'.settled
  others := by
    refine ⟨h'.others.counts.trans h.others.counts, h'.others.points.trans h.others.points, ?_⟩
    intro leagueId hleague
    rw [h'.others.otherLeagues leagueId (h.leaguesOf round.seasonId ▸ hleague),
      h.others.otherLeagues leagueId hleague, List.map_map]
    -- A boost is set once more on a row that has it already.
    refine List.map_congr_left fun r _ => ?_
    rw [Function.comp_apply, h.withBoost]
    rfl
  figures := by
    intro league hleague userId hmember
    rw [← h.leaguesOf] at hleague
    rw [← h.isMember] at hmember
    exact h'.figures league hleague userId hmember

/-! ### The same results -/

theorem SameResults.refl (s : Store) (round : Round) : s.SameResults s round :=
  ⟨rfl, rfl, .refl _, .refl _, fun _ _ _ _ => rfl⟩

/-- Points are summed over rows whatever their ids. -/
theorem scoresOver_of_perm (hmembers : u.members = t.members)
    (hperm : (u.leagueResults.map LeagueResult.bare).Perm (t.leagueResults.map LeagueResult.bare))
    (leagueId : Int) (ids : List Int) : u.scoresOver leagueId ids = t.scoresOver leagueId ids := by
  have hbare (s : Store) (userId : Int) : s.pointsOver leagueId ids userId =
      Standings.sumOf ((((s.leagueResults.map LeagueResult.bare).filter
        (·.leagueId == leagueId)).filter fun r =>
          r.userId == userId && ids.contains r.roundId).map (·.boostedPoints)) := by
    rw [pointsOver, resultsOf, List.filter_map, List.filter_map, List.map_map]
    rfl
  have hmembers' : u.approvedMembers leagueId = t.approvedMembers leagueId := by
    rw [approvedMembers, approvedMembers, hmembers]
  rw [scoresOver, scoresOver, hmembers']
  refine List.map_congr_left fun userId _ => ?_
  -- The order of the rows does not matter to a sum.
  rw [hbare, hbare, Standings.sumOf_of_perm (((hperm.filter _).filter _).map _)]

/-- The rows that should be there are told but for their ids. -/
theorem bare_wantedCounts (roundId userId : Int) (make : Int → RoundResult)
    (h : s.wantedCounts roundId userId = some make) (id id' : Int) :
    (make id).bare = (make id').bare := by
  unfold wantedCounts at h
  split at h
  · obtain rfl := Option.some.inj h
    rfl
  · exact absurd h (by simp)

theorem bare_wantedPoints (league : League) (roundId userId : Int) (make : Int → LeagueResult)
    (h : s.wantedPoints league roundId userId = some make) (id id' : Int) :
    (make id).bare = (make id').bare := by
  unfold wantedPoints at h
  split at h
  · obtain rfl := Option.some.inj h
    rfl
  · exact absurd h (by simp)

/-- Rows that are different even without their ids. -/
theorem Keyed.nodup_bareCounts (hs : s.Keyed) : (s.roundResults.map RoundResult.bare).Nodup := by
  have hkeys := hs.roundResults
  have hbare : RoundResult.key = RoundResult.key ∘ RoundResult.bare := rfl
  rw [hbare, ← List.map_map] at hkeys
  exact hkeys.of_map _

theorem Keyed.nodup_barePoints (hs : s.Keyed) : (s.leagueResults.map LeagueResult.bare).Nodup := by
  have hkeys := hs.leagueResults
  have hbare : LeagueResult.key = LeagueResult.key ∘ LeagueResult.bare := rfl
  rw [hbare, ← List.map_map] at hkeys
  exact hkeys.of_map _

theorem perm_of_subset {α : Type} {l l' : List α} (hl : l.Nodup) (hl' : l'.Nodup) (h : l ⊆ l')
    (h' : l' ⊆ l) : l.Perm l' :=
  (List.perm_ext_iff_of_nodup hl hl').2 fun _ => ⟨fun ha => h ha, fun ha => h' ha⟩

/-- The points of a round are settled in two stores that want the same, and the league results of
other seasons are the same. -/
structure SettledAlike (s s' : Store) (round : Round) : Prop where
  before : s.PointsSettled round
  after : s'.PointsSettled round
  wanted : s.SameWanted s' round
  otherLeagues : ∀ leagueId, (∀ league ∈ s.leaguesOf round.seasonId, league.id ≠ leagueId) →
    s'.leagueResults.filter (fun r => r.leagueId == leagueId && r.roundId == round.id) =
      s.leagueResults.filter fun r => r.leagueId == leagueId && r.roundId == round.id

section Alike

variable {rounds : List Round}

theorem SettledAlike.symm (h : t.SettledAlike u round) : u.SettledAlike t round where
  before := h.after
  after := h.before
  wanted := h.wanted.symm
  otherLeagues leagueId hleague := by
    rw [h.wanted.leagues] at hleague
    exact (h.otherLeagues leagueId hleague).symm

/-- The round results of one store are found in the other. -/
theorem SettledAlike.mem_counts (h : t.SettledAlike u round) {r : RoundResult}
    (hr : r ∈ t.roundResults) (hround : r.roundId = round.id) :
    r.bare ∈ u.roundResults.map RoundResult.bare := by
  have hcounts := h.after.counts
  rw [h.wanted.counts] at hcounts
  obtain ⟨r', hr', hsame⟩ :=
    h.before.counts.exists_same hcounts (bare_wantedCounts round.id) hr (beq_iff_eq.2 hround)
  exact List.mem_map.2 ⟨r', hr', hsame⟩

/-- And so are the league results, of leagues of any season. -/
theorem SettledAlike.mem_points (h : t.SettledAlike u round) {r : LeagueResult}
    (hr : r ∈ t.leagueResults) (hround : r.roundId = round.id) :
    r.bare ∈ u.leagueResults.map LeagueResult.bare := by
  by_cases hleague : ∃ league ∈ t.leaguesOf round.seasonId, league.id = r.leagueId
  · obtain ⟨league, hleague, hid⟩ := hleague
    have hpoints := h.after.points league (h.wanted.leagues ▸ hleague)
    rw [h.wanted.points] at hpoints
    obtain ⟨r', hr', hsame⟩ := (h.before.points league hleague).exists_same hpoints
      (bare_wantedPoints league round.id) hr (by simp [resultOf, hid, hround])
    exact List.mem_map.2 ⟨r', hr', hsame⟩
  · have hnot : ∀ league ∈ t.leaguesOf round.seasonId, league.id ≠ r.leagueId :=
      fun league hmem hid => hleague ⟨league, hmem, hid⟩
    have hmem : r ∈ t.leagueResults.filter fun r' =>
        r'.leagueId == r.leagueId && r'.roundId == round.id :=
      List.mem_filter.2 ⟨hr, by simp [hround]⟩
    rw [← h.otherLeagues r.leagueId hnot] at hmem
    exact List.mem_map_of_mem (List.mem_of_mem_filter hmem)

theorem counts_subset (halike : ∀ round ∈ rounds, t.SettledAlike u round)
    (hothers : ∀ r : RoundResult, (∀ round ∈ rounds, r.roundId ≠ round.id) →
      r ∈ t.roundResults → r ∈ u.roundResults) :
    t.roundResults.map RoundResult.bare ⊆ u.roundResults.map RoundResult.bare := by
  intro b hb
  obtain ⟨r, hr, rfl⟩ := List.mem_map.1 hb
  by_cases hround : ∃ round ∈ rounds, r.roundId = round.id
  · obtain ⟨round, hmem, hround⟩ := hround
    exact (halike round hmem).mem_counts hr hround
  · exact List.mem_map_of_mem (hothers r (fun round hmem hid => hround ⟨round, hmem, hid⟩) hr)

theorem points_subset (halike : ∀ round ∈ rounds, t.SettledAlike u round)
    (hothers : ∀ r : LeagueResult, (∀ round ∈ rounds, r.roundId ≠ round.id) →
      r ∈ t.leagueResults → r ∈ u.leagueResults) :
    t.leagueResults.map LeagueResult.bare ⊆ u.leagueResults.map LeagueResult.bare := by
  intro b hb
  obtain ⟨r, hr, rfl⟩ := List.mem_map.1 hb
  by_cases hround : ∃ round ∈ rounds, r.roundId = round.id
  · obtain ⟨round, hmem, hround⟩ := hround
    exact (halike round hmem).mem_points hr hround
  · exact List.mem_map_of_mem (hothers r (fun round hmem hid => hround ⟨round, hmem, hid⟩) hr)

/-- Two stores whose points differ in some rounds at most, and these are settled alike, hold the
same points but for the ids of the rows. -/
theorem Keyed.counts_perm (ht : t.Keyed) (hu : u.Keyed)
    (halike : ∀ round ∈ rounds, t.SettledAlike u round)
    (hothers : ∀ r : RoundResult, (∀ round ∈ rounds, r.roundId ≠ round.id) →
      (r ∈ u.roundResults ↔ r ∈ t.roundResults)) :
    (u.roundResults.map RoundResult.bare).Perm (t.roundResults.map RoundResult.bare) :=
  perm_of_subset hu.nodup_bareCounts ht.nodup_bareCounts
    (counts_subset (fun round hmem => (halike round hmem).symm) fun r hr => (hothers r hr).1)
    (counts_subset halike fun r hr => (hothers r hr).2)

theorem Keyed.points_perm (ht : t.Keyed) (hu : u.Keyed)
    (halike : ∀ round ∈ rounds, t.SettledAlike u round)
    (hothers : ∀ r : LeagueResult, (∀ round ∈ rounds, r.roundId ≠ round.id) →
      (r ∈ u.leagueResults ↔ r ∈ t.leagueResults)) :
    (u.leagueResults.map LeagueResult.bare).Perm (t.leagueResults.map LeagueResult.bare) :=
  perm_of_subset hu.nodup_barePoints ht.nodup_barePoints
    (points_subset (fun round hmem => (halike round hmem).symm) fun r hr => (hothers r hr).1)
    (points_subset halike fun r hr => (hothers r hr).2)

end Alike

/-- The rows of other rounds are those that were there. -/
theorem OtherPointsKept.mem_counts (h : s.OtherPointsKept t round) {r : RoundResult}
    (hne : r.roundId ≠ round.id) : r ∈ t.roundResults ↔ r ∈ s.roundResults := by
  have hmem (u : Store) : r ∈ u.roundResults.filter (·.roundId != round.id) ↔
      r ∈ u.roundResults := by
    rw [List.mem_filter, bne_iff_ne, and_iff_left hne]
  rw [← hmem, h.counts, hmem]

theorem OtherPointsKept.mem_points (h : s.OtherPointsKept t round) {r : LeagueResult}
    (hne : r.roundId ≠ round.id) : r ∈ t.leagueResults ↔ r ∈ s.leagueResults := by
  have hmem (u : Store) : r ∈ u.leagueResults.filter (·.roundId != round.id) ↔
      r ∈ u.leagueResults := by
    rw [List.mem_filter, bne_iff_ne, and_iff_left hne]
  rw [← hmem, h.points, hmem]

section Same

variable (ht : s.Refreshed t round scores now) (hu : s.Refreshed u round scores now)

include ht hu

theorem Refreshed.settledAlike : t.SettledAlike u round where
  before := ht.settled
  after := hu.settled
  wanted := sameWanted_of_verdicts ((hu.leaguesOf _).trans (ht.leaguesOf _).symm)
    (hu.members.trans ht.members.symm) (hu.boostUsages.trans ht.boostUsages.symm)
    (hasVerdict_congr (hu.fixtures.trans ht.fixtures.symm)
      (hu.predictions.trans ht.predictions.symm) round.id)
    (verdictCount_congr (hu.fixtures.trans ht.fixtures.symm)
      (hu.predictions.trans ht.predictions.symm) round.id)
  otherLeagues leagueId hleague := by
    rw [ht.leaguesOf] at hleague
    rw [hu.others.otherLeagues leagueId hleague, ht.others.otherLeagues leagueId hleague]

theorem Refreshed.points_perm :
    (u.leagueResults.map LeagueResult.bare).Perm (t.leagueResults.map LeagueResult.bare) := by
  have halike : ∀ r ∈ [round], t.SettledAlike u r := by simpa using ht.settledAlike hu
  refine ht.keyed.points_perm hu.keyed halike fun r hne => ?_
  have hround := hne round (List.mem_singleton_self round)
  exact (hu.others.mem_points hround).trans (ht.others.mem_points hround).symm

/-- Two stores that are refreshed by the same scores hold the same results. -/
theorem Refreshed.sameResults : t.SameResults u round where
  fixtures := hu.fixtures.trans ht.fixtures.symm
  predictions := hu.predictions.trans ht.predictions.symm
  counts := by
    have halike : ∀ r ∈ [round], t.SettledAlike u r := by simpa using ht.settledAlike hu
    refine ht.keyed.counts_perm hu.keyed halike fun r hne => ?_
    have hround := hne round (List.mem_singleton_self round)
    exact (hu.others.mem_counts hround).trans (ht.others.mem_counts hround).symm
  points := ht.points_perm hu
  figures := by
    intro league hleague userId hmember
    rw [ht.leaguesOf] at hleague
    rw [ht.isMember] at hmember
    rw [hu.figures league hleague userId hmember, ht.figures league hleague userId hmember,
      liveFigures_congr (hu.slots.trans ht.slots.symm)
        (scoresOver_of_perm (hu.members.trans ht.members.symm) (ht.points_perm hu) league.id)]

end Same

end Store

end PredictionLeague
