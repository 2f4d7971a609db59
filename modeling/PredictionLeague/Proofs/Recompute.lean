import PredictionLeague.Proofs.Engine
import PredictionLeague.Proofs.Points

/-!
# Making points anew

What `recomputePoints` does: it leaves `Store.recomputed` when all points fit, and otherwise the
store as it was.

* `effect_recomputePoints`: the answer and the store;
* `Store.OtherPointsKept`, `Store.OtherRowsKept`: the rows that are left alone;
* `recomputePoints_settles`: the points of the round are settled, and the rest is left alone.
-/

namespace PredictionLeague

namespace Store

/-- The league results of a round before boosts. -/
def pointed (s : Store) (round : Round) : Store :=
  (s.leaguesOf round.seasonId).foldl (fun s league => s.scored round.id league)
    (s.counted round.id)

/-- Whether the points of the members of a league fit. -/
def baseFits (s : Store) (roundId : Int) (league : League) : Bool :=
  ((s.memberCounts league roundId).map league.basePoints).all fits

/-- The boosted results of a round. -/
def boostedResults (s : Store) (roundId : Int) : List LeagueResult :=
  (s.leagueResults.filter (·.roundId == roundId)).map s.withBoost

/-- Whether all points of a round fit, before and after boosts. -/
def pointsFit (s : Store) (round : Round) : Bool :=
  (s.leaguesOf round.seasonId).all ((s.counted round.id).baseFits round.id) &&
    (((s.pointed round).boostedResults round.id).map (·.boostedPoints)).all fits

end Store

/-! ### The action -/

section Effect

open Engine

instance (roundId : Int) : Quiet (updateRoundResults roundId) := by
  unfold updateRoundResults
  infer_instance

instance (roundId : Int) (league : League) : Quiet (scoreLeague roundId league) := by
  unfold scoreLeague
  infer_instance

instance (roundId : Int) : Quiet (updateLeagueResults roundId) := by
  unfold updateLeagueResults
  infer_instance

instance (roundId : Int) : Quiet (applyRoundBoosts roundId) := by
  unfold applyRoundBoosts
  infer_instance

instance (roundId : Int) : Quiet (recomputePoints roundId) := by
  unfold recomputePoints
  infer_instance

theorem effect_updateRoundResults (roundId : Int) (s : Store) :
    effect (updateRoundResults roundId) s =
      match found "Round" (s.round? roundId) roundId with
      | .ok _ => (.ok (s.tallies roundId).length, s.counted roundId)
      | .error fault => (.error fault, s) := by
  unfold updateRoundResults
  rw [effect_bind, effect_getRound]
  cases found "Round" (s.round? roundId) roundId with
  | error fault => rfl
  | ok round =>
    simp only [effect_bind, effect_current, effect_put, effect_ite, effect_say, effect_pure,
      ite_self]

theorem effect_scoreLeague (roundId : Int) (league : League) (s : Store) :
    effect (scoreLeague roundId league) s =
      match checked (s.baseFits roundId league) with
      | .ok _ => (.ok (), s.scored roundId league)
      | .error fault => (.error fault, s) := by
  unfold scoreLeague
  simp only [effect_bind, effect_current, effect_checkAll, effect_ite, Store.baseFits]
  split <;> simp <;> cases checked _ <;> rfl

/-- Scoring the leagues one after the other: the checks of a league are about the counts alone. -/
theorem effect_scoreLeagues (roundId : Int) (leagues : List League) (s : Store) :
    (leagues.all (s.baseFits roundId) = true →
      effect (leagues.forM (scoreLeague roundId)) s =
        (.ok (), leagues.foldl (fun s league => s.scored roundId league) s)) ∧
    (leagues.all (s.baseFits roundId) = false →
      ∃ s', effect (leagues.forM (scoreLeague roundId)) s = (.error .integerTooLarge, s')) := by
  -- Scoring a league leaves the counts alone, so the checks are those of the store at the start.
  induction leagues generalizing s with
  | nil => exact ⟨fun _ => rfl, fun h => by simp at h⟩
  | cons league leagues ih =>
    rw [effect_forM_cons, effect_scoreLeague, List.all_cons]
    have hfits : (s.scored roundId league).baseFits roundId = s.baseFits roundId := rfl
    cases hleague : s.baseFits roundId league with
    | false => exact ⟨fun h => by simp at h, fun _ => ⟨s, rfl⟩⟩
    | true =>
      have hrest := ih (s.scored roundId league)
      rw [hfits] at hrest
      exact hrest

theorem effect_updateLeagueResults {roundId : Int} {s : Store} {round : Round}
    (hfound : found "Round" (s.round? roundId) roundId = .ok round) :
    effect (updateLeagueResults roundId) s =
      if (s.leaguesOf round.seasonId).all (s.baseFits roundId) then
        (.ok (s.leaguesOf round.seasonId).length,
          (s.leaguesOf round.seasonId).foldl (fun s league => s.scored roundId league) s)
      else (.error .integerTooLarge, s) := by
  obtain ⟨hall, hsome⟩ := effect_scoreLeagues roundId (s.leaguesOf round.seasonId) s
  unfold updateLeagueResults
  rw [effect_bind, effect_getRound, hfound]
  simp only [effect_bind, effect_current, effect_atomically, effect_say, effect_pure]
  cases hfits : (s.leaguesOf round.seasonId).all (s.baseFits roundId) with
  | true => rw [hall hfits]; rfl
  | false =>
    obtain ⟨s', hs'⟩ := hsome hfits
    rw [hs']
    rfl

theorem boosted_of_isEmpty {s : Store} {roundId : Int}
    (h : (s.boostedResults roundId).isEmpty = true) : s.boosted roundId = s := by
  have hnone : ∀ r ∈ s.leagueResults, ¬(r.roundId == roundId) = true := by
    rw [List.isEmpty_iff, Store.boostedResults, List.map_eq_nil_iff] at h
    exact List.filter_eq_nil_iff.1 h
  have hsame : (s.leagueResults.map fun r =>
      if r.roundId == roundId then s.withBoost r else r) = s.leagueResults :=
    (List.map_congr_left fun r hr => if_neg (hnone r hr)).trans (List.map_id _)
  rw [Store.boosted, hsame]

theorem effect_applyRoundBoosts {roundId : Int} (hkey : fits roundId = true) (s : Store) :
    effect (applyRoundBoosts roundId) s =
      if ((s.boostedResults roundId).map (·.boostedPoints)).all fits then
        (.ok ((s.boostedResults roundId).countP (·.hasBoost)), s.boosted roundId)
      else (.error .integerTooLarge, s) := by
  have hunfold : effect (applyRoundBoosts roundId) s =
      if (s.boostedResults roundId).isEmpty then (.ok 0, s)
      else match checked (((s.boostedResults roundId).map (·.boostedPoints)).all fits) with
        | .ok _ => (.ok ((s.boostedResults roundId).countP (·.hasBoost)), s.boosted roundId)
        | .error fault => (.error fault, s) := by
    have hresults : (s.leagueResults.filter (·.roundId == roundId)).map s.withBoost =
        s.boostedResults roundId := rfl
    unfold applyRoundBoosts
    simp only [effect_bind, effect_checkKey, hkey, checked, if_true, effect_current, effect_ite,
      effect_checkAll, effect_put, effect_say, effect_pure, hresults]
    cases ((s.boostedResults roundId).map (·.boostedPoints)).all fits <;> rfl
  rw [hunfold]
  split
  · rename_i hempty
    rw [boosted_of_isEmpty hempty]
    rw [List.isEmpty_iff] at hempty
    simp [hempty]
  · cases ((s.boostedResults roundId).map (·.boostedPoints)).all fits <;> rfl

/-- All three steps as one unit: the points are made anew, or the store stays as it is. -/
theorem effect_recomputePoints (roundId : Int) (s : Store) :
    effect (recomputePoints roundId) s =
      match found "Round" (s.round? roundId) roundId with
      | .error fault => (.error fault, s)
      | .ok round =>
        if s.pointsFit round then (.ok (), s.recomputed round)
        else (.error .integerTooLarge, s) := by
  unfold recomputePoints
  rw [effect_atomically, effect_bind, effect_updateRoundResults]
  cases hfound : found "Round" (s.round? roundId) roundId with
  | error fault => rfl
  | ok round =>
    have hround := found_eq_ok.1 hfound
    obtain rfl : round.id = roundId := Table.id_of_get? hround.2
    have hstep : effect (updateLeagueResults round.id) (s.counted round.id) =
        if (s.leaguesOf round.seasonId).all ((s.counted round.id).baseFits round.id) then
          (.ok (s.leaguesOf round.seasonId).length, s.pointed round)
        else (.error .integerTooLarge, s.counted round.id) := effect_updateLeagueResults hfound
    simp only [effect_bind, hstep, Store.pointsFit]
    by_cases hbase : (s.leaguesOf round.seasonId).all ((s.counted round.id).baseFits round.id)
    · simp only [hbase, reduceIte, effect_applyRoundBoosts hround.1, Bool.true_and]
      by_cases hboost :
          (((s.pointed round).boostedResults round.id).map (·.boostedPoints)).all fits
      · simp only [hboost, reduceIte]
        rfl
      · simp only [hboost]
        rfl
    · simp only [hbase, Bool.false_and]
      rfl

theorem returns_recomputePoints {roundId : Int} {s s' : Store} {u : Unit} :
    (recomputePoints roundId).Returns s u s' ↔
      ∃ round, (fits roundId ∧ s.round? roundId = some round) ∧ s.pointsFit round ∧
        s' = s.recomputed round := by
  rw [Returns, effect_recomputePoints]
  have hfound (round : Round) : (fits roundId ∧ s.round? roundId = some round) ↔
      found "Round" (s.round? roundId) roundId = .ok round := found_eq_ok.symm
  simp only [hfound]
  cases found "Round" (s.round? roundId) roundId with
  | error fault => simp
  | ok round =>
    simp only [Except.ok.injEq, exists_eq_left']
    by_cases hfit : s.pointsFit round
    · simp only [hfit, reduceIte, Prod.mk.injEq, true_and]
      exact eq_comm
    · simp [hfit]

end Effect

/-! ### What is brought about, and what is left alone -/

/-- The points that are left alone when those of a round are made anew: the rows of other rounds,
and but for their boosts the results of leagues of other seasons. -/
structure Store.OtherPointsKept (s s' : Store) (round : Round) : Prop where
  counts : s'.roundResults.filter (·.roundId != round.id) =
    s.roundResults.filter (·.roundId != round.id)
  points : s'.leagueResults.filter (·.roundId != round.id) =
    s.leagueResults.filter (·.roundId != round.id)
  otherLeagues : ∀ leagueId, (∀ league ∈ s.leaguesOf round.seasonId, league.id ≠ leagueId) →
    s'.leagueResults.filter (fun r => r.leagueId == leagueId && r.roundId == round.id) =
      (s.leagueResults.filter fun r => r.leagueId == leagueId && r.roundId == round.id).map
        s.withBoost

/-- The rows that making the points of a round anew leaves alone: nothing but points changes in the
store, and of these the rows of other rounds do not, nor but for their boosts the results of leagues
of other seasons. -/
structure Store.OtherRowsKept (s s' : Store) (round : Round) : Prop
    extends s.OtherPointsKept s' round where
  rest : s' = { s with roundResults := s'.roundResults, leagueResults := s'.leagueResults }

theorem Store.Keyed.otherRowsKept {s : Store} (hs : s.Keyed) (round : Round) :
    s.OtherRowsKept (s.recomputed round) round where
  counts := hs.roundResults_recomputed round
  points := by
    rw [hs.leagueResults_recomputed round]
    · refine (List.map_congr_left fun r hr => ?_).trans (List.map_id _)
      have hother : r.roundId ≠ round.id := by simpa using List.of_mem_filter hr
      rw [Store.boostRow, if_neg (by simpa using hother)]
      rfl
    · intro league _ r hr
      have hother : r.roundId ≠ round.id := by simpa using hr
      rw [Store.resultOf, beq_false_of_ne hother, Bool.and_false]
    · intro r
      rw [Store.roundId_boostRow]
  otherLeagues leagueId hleague := by
    rw [hs.leagueResults_recomputed round]
    · refine List.map_congr_left fun r hr => ?_
      have hround : r.roundId = round.id := by
        have h := List.of_mem_filter hr
        simp only [Bool.and_eq_true, beq_iff_eq] at h
        exact h.2
      rw [Store.boostRow, if_pos (beq_iff_eq.2 hround)]
    · intro league hmem r hr
      simp only [Bool.and_eq_true, beq_iff_eq] at hr
      have hne : r.leagueId ≠ league.id := fun he => hleague league hmem (he.symm.trans hr.1)
      rw [Store.resultOf, beq_false_of_ne hne, Bool.false_and]
    · intro r
      rw [Store.leagueId_boostRow, Store.roundId_boostRow]
  rest := by
    rw [hs.recomputed_eq]

/-- Making the points of a round anew brings about its round results and league results, one row for
each player that should have one and none for the others, and leaves the rest alone. -/
theorem recomputePoints_settles {s s' : Store} {roundId : Int} {round : Round} {u : Unit}
    (hs : s.Keyed) (hround : s.round? roundId = some round)
    (h : (recomputePoints roundId).Returns s u s') :
    s'.PointsSettled round ∧ s.OtherRowsKept s' round := by
  obtain ⟨round', ⟨-, hround'⟩, -, rfl⟩ := returns_recomputePoints.1 h
  obtain rfl : round = round' := Option.some.inj (hround.symm.trans hround')
  exact ⟨hs.pointsSettled_recomputed round, hs.otherRowsKept round⟩

/-- A round in play. -/
def staleRound : Round :=
  ⟨1, 1, 1, .newYear2025, .newYear2025, .inProgress, none⟩

/-- The round with stale rows: player 12 has no judged prediction any more, 13 is no approved
member, and 10 doubles. -/
def staleStore : Store :=
  { Store.empty with
    rounds := [staleRound]
    fixtures := [⟨1, 1, some 2, some 1, .completed⟩, ⟨2, 1, none, none, .scheduled⟩]
    predictions :=
      [⟨1, 10, 1, 2, 1, .exactScore, .newYear2025⟩, ⟨2, 11, 1, 1, 0, .correctResult, .newYear2025⟩,
        ⟨3, 12, 2, 0, 0, .pending, .newYear2025⟩, ⟨4, 13, 1, 0, 0, .incorrect, .newYear2025⟩]
    leagues := [⟨1, 1, .newYear2025, 5, 3, 0⟩, ⟨2, 7, .newYear2025, 5, 3, 0⟩]
    members :=
      [⟨1, 1, 10, .approved⟩, ⟨2, 1, 11, .approved⟩, ⟨3, 1, 12, .approved⟩, ⟨4, 1, 13, .pending⟩]
    roundResults := [⟨4, 1, 12, 7, 0, 0⟩, ⟨6, 1, 11, 9, 9, 9⟩]
    leagueResults :=
      [⟨3, 1, 1, 12, 35, 35, false, none, 7⟩, ⟨5, 2, 1, 10, 4, 8, true, some "DoubleUp", 0⟩]
    boostUsages := [⟨1, 10, 1, 1, 1, "DoubleUp", .newYear2025⟩] }

/-- The store once the points of the round are made anew. -/
def freshStore : Store :=
  { staleStore with
    roundResults := [⟨6, 1, 11, 0, 1, 0⟩, ⟨7, 1, 10, 1, 0, 0⟩, ⟨8, 1, 13, 0, 0, 1⟩]
    leagueResults :=
      [⟨5, 2, 1, 10, 4, 4, false, none, 0⟩, ⟨6, 1, 1, 10, 5, 10, true, some "DoubleUp", 1⟩,
        ⟨7, 1, 1, 11, 3, 3, false, none, 0⟩] }

theorem stale_points_settle :
    staleStore.Keyed ∧ staleStore.round? 1 = some staleRound ∧
      (recomputePoints 1).Returns staleStore () freshStore ∧
      freshStore.PointsSettled staleRound ∧ staleStore.OtherRowsKept freshStore staleRound := by
  have hkeyed : staleStore.Keyed := by decide
  have hreturns : (recomputePoints 1).Returns staleStore () freshStore := rfl
  exact ⟨hkeyed, rfl, hreturns, recomputePoints_settles hkeyed rfl hreturns⟩

end PredictionLeague
