import PredictionLeague.Proofs.Settled
import PredictionLeague.Proofs.StableBase

/-!
# Points that do not fit

Points grow with the weights of a league and double with a boost, so a new value may have no place
in the store. Counts are never refused: what does not fit is points before a boost, or points after
it. When some value does not fit nothing is left of the values made before it.

* `Store.Overflows`: some new points of a round do not fit;
* `Store.Remakes`: what making points anew does when all of them fit;
* `Keyed.pointsFit_iff_not_overflows`: the checks of the two steps refuse these values and no other;
* `recomputePoints_allOrNothing`: points are made anew all together, or the store stays as it was.
-/

namespace PredictionLeague

open Engine

namespace Store

/-- Some new points of a round do not fit. -/
inductive Overflows (s : Store) (round : Round) : Prop
  /-- The points before a boost of a member of a league of the season. -/
  | base {league : League} {userId : Int} (hleague : league ∈ s.leaguesOf round.seasonId)
      (hmember : s.isMember league.id userId = true)
      (hfits : fits (s.wantedBase league round.id userId) = false)
  /-- The boosted points in the new result of a member. -/
  | boosted {league : League} {userId : Int} {make : Int → LeagueResult}
      (hleague : league ∈ s.leaguesOf round.seasonId)
      (hmake : s.wantedPoints league round.id userId = some make)
      (hfits : fits (make 0).boostedPoints = false)
  /-- The boosted points in a result that stays: one of the round in a league of another season. -/
  | kept {row : LeagueResult} (hrow : row ∈ s.leagueResults) (hround : row.roundId = round.id)
      (hother : ∀ league ∈ s.leaguesOf round.seasonId, league.id ≠ row.leagueId)
      (hfits : fits (s.withBoost row).boostedPoints = false)

/-- The points of a round are made anew: by all three steps, with the wanted rows and no other row
changed, and all of them fit. -/
structure Remakes (s t : Store) (round : Round) : Prop where
  steps : ∃ counted pointed players leagues boosts,
    (updateRoundResults round.id).Returns s players counted ∧
      (updateLeagueResults round.id).Returns counted leagues pointed ∧
      (applyRoundBoosts round.id).Returns pointed boosts t
  settled : t.PointsSettled round
  kept : s.OtherRowsKept t round
  fit : ∀ row ∈ t.leagueResults, row.roundId = round.id →
    fits row.basePoints = true ∧ fits row.boostedPoints = true

variable {s : Store} {round : Round} {league : League} {roundId userId : Int}

/-! ### Points after boosts -/

/-- The boosted points in a wanted result do not depend on its id. -/
theorem boostedPoints_wanted {make : Int → LeagueResult}
    (h : s.wantedPoints league roundId userId = some make) (id id' : Int) :
    (make id).boostedPoints = (make id').boostedPoints := by
  rw [wantedPoints] at h
  split at h
  · obtain rfl := Option.some.inj h
    rfl
  · exact absurd h (by simp)

theorem fits_of_boosted {code : Option String} {base : Int}
    (h : fits (Boost.boostedPoints code base) = true) : fits base = true := by
  cases code with
  | none => exact h
  | some code =>
    rw [boostedPoints_some] at h
    split at h
    · simp only [fits, Bool.and_eq_true, decide_eq_true_eq] at h ⊢
      omega
    · exact h

/-- A result of the round in a league of another season stays, with its boost. -/
theorem Keyed.mem_recomputed_other (hs : s.Keyed) (row : LeagueResult)
    (hround : row.roundId = round.id)
    (hother : ∀ league ∈ s.leaguesOf round.seasonId, league.id ≠ row.leagueId) :
    row ∈ (s.recomputed round).leagueResults ↔
      ∃ old ∈ s.leagueResults, s.withBoost old = row := by
  have hrows : row ∈ (s.recomputed round).leagueResults.filter (fun r =>
      r.leagueId == row.leagueId && r.roundId == round.id) ↔ row ∈ (s.leagueResults.filter fun r =>
        r.leagueId == row.leagueId && r.roundId == round.id).map s.withBoost := by
    rw [(hs.otherRowsKept round).otherLeagues row.leagueId hother]
  simp only [List.mem_filter, List.mem_map, hround, beq_self_eq_true, Bool.and_self,
    and_true] at hrows
  rw [hrows]
  constructor
  · rintro ⟨old, ⟨hold, -⟩, hrow⟩
    exact ⟨old, hold, hrow⟩
  · rintro ⟨old, hold, rfl⟩
    exact ⟨old, ⟨hold, by simpa [withBoost] using hround⟩, rfl⟩

/-- The boosted points of a round fit when those of the wanted results and of the results that stay
do. -/
theorem Keyed.boostedFit_iff (hs : s.Keyed) :
    (∀ row ∈ (s.recomputed round).leagueResults, row.roundId = round.id →
      fits row.boostedPoints = true) ↔
      (∀ league ∈ s.leaguesOf round.seasonId, ∀ userId make,
        s.wantedPoints league round.id userId = some make →
          fits (make 0).boostedPoints = true) ∧
      ∀ row ∈ s.leagueResults, row.roundId = round.id →
        (∀ league ∈ s.leaguesOf round.seasonId, league.id ≠ row.leagueId) →
        fits (s.withBoost row).boostedPoints = true := by
  constructor
  · refine fun h => ⟨fun league hleague userId make hmake => ?_, fun row hrow hround hother => ?_⟩
    · obtain ⟨id, hid⟩ := (hs.records_points hleague).present userId make hmake
      obtain ⟨hrow, hown, -⟩ := Table.mem_rowsOf.1 (hid ▸ List.mem_singleton_self (make id))
      simp only [resultOf, Bool.and_eq_true, beq_iff_eq] at hown
      rw [boostedPoints_wanted hmake 0 id]
      exact h (make id) hrow hown.2
    · have hstays : s.withBoost row ∈ (s.recomputed round).leagueResults :=
        (hs.mem_recomputed_other (s.withBoost row) hround hother).2 ⟨row, hrow, rfl⟩
      exact h (s.withBoost row) hstays hround
  · rintro ⟨hwanted, hkept⟩ row hrow hround
    -- A row of the round is one of a league of the season, or stays from before.
    by_cases hleague : ∃ league ∈ s.leaguesOf round.seasonId, league.id = row.leagueId
    · obtain ⟨league, hleague, hid⟩ := hleague
      have hrecords := hs.records_points hleague
      have hmem : row ∈ Table.rowsOf (s.recomputed round).leagueResults
          (resultOf league round.id) (·.userId) row.userId :=
        Table.mem_rowsOf.2 ⟨hrow, by simp [resultOf, hid, hround], rfl⟩
      cases hmake : s.wantedPoints league round.id row.userId with
      | none =>
        rw [hrecords.absent row.userId hmake] at hmem
        exact absurd hmem List.not_mem_nil
      | some make =>
        obtain ⟨id, hrows⟩ := hrecords.present row.userId make hmake
        rw [hrows, List.mem_singleton] at hmem
        rw [hmem, boostedPoints_wanted hmake id 0]
        exact hwanted league hleague row.userId make hmake
    · have hother : ∀ league ∈ s.leaguesOf round.seasonId, league.id ≠ row.leagueId :=
        fun league hmem hid => hleague ⟨league, hmem, hid⟩
      obtain ⟨old, hold, rfl⟩ := (hs.mem_recomputed_other row hround hother).1 hrow
      exact hkept old hold hround hother

/-! ### The checks -/

/-- The steps refuse exactly the points of a round that do not fit. -/
theorem Keyed.pointsFit_iff_not_overflows (hs : s.Keyed) :
    s.pointsFit round = true ↔ ¬s.Overflows round := by
  rw [hs.pointsFit_iff, hs.boostedFit_iff]
  simp only [all_pointTargets_iff]
  constructor
  · rintro ⟨hbase, hboosted, hkept⟩ (⟨hleague, hmember, hfits⟩ | ⟨hleague, hmake, hfits⟩ |
      ⟨hrow, hround, hother, hfits⟩)
    · exact Bool.false_ne_true (hfits.symm.trans (hbase _ hleague _ hmember))
    · exact Bool.false_ne_true (hfits.symm.trans (hboosted _ hleague _ _ hmake))
    · exact Bool.false_ne_true (hfits.symm.trans (hkept _ hrow hround hother))
  · intro h
    refine ⟨fun league hleague userId hmember => ?_, fun league hleague userId make hmake => ?_,
      fun row hrow hround hother => ?_⟩ <;> refine Bool.eq_true_of_not_eq_false fun hfits => h ?_
    · exact .base hleague hmember hfits
    · exact .boosted hleague hmake hfits
    · exact .kept hrow hround hother hfits

/-- Points that fit are made anew by one step after the other. -/
theorem Keyed.remakes_recomputed (hs : s.Keyed) (hround : s.round? round.id = some round)
    (hkey : fits round.id = true) (hfit : s.pointsFit round = true) :
    s.Remakes (s.recomputed round) round := by
  have hfound : found "Round" (s.round? round.id) round.id = .ok round :=
    found_eq_ok.2 ⟨hkey, hround⟩
  obtain ⟨hbase, hboost⟩ := Bool.and_eq_true_iff.1 hfit
  have hcounted : (updateRoundResults round.id).Returns s (s.tallies round.id).length
      (s.counted round.id) := by
    rw [Returns, effect_updateRoundResults, hfound]
  have hpointed : (updateLeagueResults round.id).Returns (s.counted round.id)
      (s.leaguesOf round.seasonId).length (s.pointed round) := by
    rw [Returns, effect_updateLeagueResults (s := s.counted round.id) hfound]
    exact if_pos hbase
  have hboosted : (applyRoundBoosts round.id).Returns (s.pointed round)
      (((s.pointed round).boostedResults round.id).countP (·.hasBoost)) (s.recomputed round) := by
    rw [Returns, effect_applyRoundBoosts hkey, if_pos hboost]
    rfl
  refine ⟨⟨_, _, _, _, _, hcounted, hpointed, hboosted⟩,
    hs.pointsSettled_recomputed round, hs.otherRowsKept round, fun row hrow hid => ?_⟩
  have hfits := ((hs.pointsFit_iff round).1 hfit).2 row hrow hid
  have hshown := ((hs.recomputed round).boosted_iff row).1
    ((hs.pointsSettled_recomputed round).boosts row hrow hid)
  obtain ⟨hpoints, -, -⟩ := (withBoost_eq_self row).1 hshown
  exact ⟨fits_of_boosted (hpoints ▸ hfits), hfits⟩

end Store

/-! ### All or nothing -/

/-- Making the points of a round anew is refused exactly when some of them do not fit, and then the
store is as it was; otherwise all of them are made. -/
theorem recomputePoints_allOrNothing {s : Store} {roundId : Int} {round : Round} (hs : s.Keyed)
    (hkey : fits roundId = true) (hround : s.round? roundId = some round) :
    (((recomputePoints roundId).effect s).1 = .error .integerTooLarge ↔ s.Overflows round) ∧
      (s.Overflows round → (recomputePoints roundId).storeAfter s = s) ∧
      (¬s.Overflows round → ∃ t, (recomputePoints roundId).Returns s () t ∧ s.Remakes t round) := by
  obtain rfl : round.id = roundId := Table.id_of_get? hround
  have hfound : found "Round" (s.round? round.id) round.id = .ok round :=
    found_eq_ok.2 ⟨hkey, hround⟩
  have heffect := effect_recomputePoints round.id s
  rw [hfound] at heffect
  by_cases hfit : s.pointsFit round = true
  · have hsafe := hs.pointsFit_iff_not_overflows.1 hfit
    simp only [hfit, reduceIte] at heffect
    refine ⟨?_, fun hover => absurd hover hsafe,
      fun _ => ⟨_, heffect, hs.remakes_recomputed hround hkey hfit⟩⟩
    simp [heffect, hsafe]
  · have hover : s.Overflows round := by
      by_contra hsafe
      exact hfit (hs.pointsFit_iff_not_overflows.2 hsafe)
    simp only [hfit] at heffect
    refine ⟨?_, fun _ => ?_, fun hsafe => absurd hover hsafe⟩
    · simp [heffect, hover]
    · rw [storeAfter_eq, heffect]
      rfl

/-- The stale store with such weights that the points of player 10 fit only before the boost. -/
def brimfulStore : Store :=
  { staleStore with
    leagues := [⟨1, 1, .newYear2025, 4611686018427387904, 3, 0⟩, ⟨2, 7, .newYear2025, 5, 3, 0⟩] }

theorem brimful_points_refused : brimfulStore.Keyed ∧ brimfulStore.round? 1 = some staleRound ∧
    ((recomputePoints 1).effect brimfulStore).1 = .error .integerTooLarge ∧
    (recomputePoints 1).storeAfter brimfulStore = brimfulStore ∧
    ∃ t, (recomputePoints 1).Returns staleStore () t ∧ staleStore.Remakes t staleRound := by
  have hbrimful : brimfulStore.Keyed := by decide
  have hstale : staleStore.Keyed := by decide
  let league : League := ⟨1, 1, .newYear2025, 4611686018427387904, 3, 0⟩
  have hleague : league ∈ brimfulStore.leaguesOf staleRound.seasonId := by decide
  have hdoubled : brimfulStore.wantedPoints league 1 10 = some fun id =>
      ⟨id, 1, 1, 10, 4611686018427387904, 9223372036854775808, true, some "DoubleUp", 1⟩ := rfl
  have hover : brimfulStore.Overflows staleRound := .boosted hleague hdoubled rfl
  obtain ⟨hrefused, hback, -⟩ :=
    recomputePoints_allOrNothing hbrimful (by decide : fits 1 = true) rfl
  obtain ⟨hstaleRefused, -, hmade⟩ :=
    recomputePoints_allOrNothing hstale (by decide : fits 1 = true) rfl
  refine ⟨hbrimful, rfl, hrefused.2 hover, hback hover, hmade fun hstaleOver => ?_⟩
  exact absurd (hstaleRefused.2 hstaleOver) (by decide)

end PredictionLeague
