import PredictionLeague.Proofs.Results

/-!
# Calls that record results

* `carryScores`, `settleScores`, `showScores`: what follows once scores are recorded, once
  predictions are judged and once points are made; `updateMatchResults_eq`: a call by these parts;
* `refreshed_updateMatchResults`: what one call leaves;
* `Updates`: calls for a round one after the other;
* `Updates.refreshed`: what they leave;
* `updates_sameResults`: two sequences of calls with the same last scores leave the same results.
-/

namespace PredictionLeague

section Update

open Engine Store

variable {s s' : Store} {round : Round} {roundId : Int} {scores : List MatchScore}
  {recording : Recording} {now : DateTime} {n : Nat}

/-- What follows once the points are made anew. -/
def showScores (roundId : Int) (recording : Recording) (now : DateTime) : Engine Nat := do
  if recording.newlyCompleted then
    let _ ← updateStableStats roundId
  let _ ← updateLiveStats roundId
  completeRound roundId now
  return recording.updated.length

instance (roundId : Int) (recording : Recording) (now : DateTime) :
    Quiet (showScores roundId recording now) := by
  have hlive : Quiet (do
      let _ ← updateLiveStats roundId
      completeRound roundId now
      return recording.updated.length) := inferInstance
  show Quiet (ite _ _ _)
  split
  · exact quiet_bind inferInstance fun _ => hlive
  · exact hlive

/-- The live figures are brought up to date, and points are left alone. -/
theorem progressed_showScores (hs : s.Keyed) (hround : s.round? roundId = some round)
    (h : (showScores roundId recording now).Returns s n s') :
    s'.Keyed ∧ s.Progressed s' ∧ ∀ league ∈ s.leaguesOf round.seasonId, ∀ userId,
      s.isMember league.id userId = true →
        s'.figuresOf league.id userId = [s'.liveFigures round league.id userId] := by
  unfold showScores at h
  -- The stable figures come first when a match was completed.
  obtain ⟨t, ht, hstable, h⟩ : ∃ t, t.Keyed ∧ s.Progressed t ∧ (do
      let _ ← updateLiveStats roundId
      completeRound roundId now
      return recording.updated.length : Engine Nat).Returns t n s' := by
    dsimp only at h
    split at h
    · obtain ⟨_, t, hstats, h⟩ := returns_bind.1 h
      obtain ⟨ht, hprogress⟩ := progressed_stableStats hs hstats
      exact ⟨t, ht, hprogress, h⟩
    · exact ⟨s, hs, .refl s, h⟩
  obtain ⟨_, u, hstats, h⟩ := returns_bind.1 h
  obtain ⟨_, v, hcomplete, h⟩ := returns_bind.1 h
  obtain ⟨-, rfl⟩ := returns_pure.1 h
  obtain ⟨round', hround', hslot⟩ := exists_round_of_slots hstable.slots hround
  obtain ⟨hu, hlive, hfigures⟩ := progressed_liveStats ht hround' hstats
  obtain ⟨hkeyed, hcompleted, hkept⟩ := progressed_completeRound hu hcomplete
  refine ⟨hkeyed, hstable.trans (hlive.trans hcompleted), fun league hleague userId hmember => ?_⟩
  have hmatch : t.leaguesOf round'.seasonId = s.leaguesOf round.seasonId ∧
      t.isMember = s.isMember := by
    obtain ⟨_, _, _, hrest⟩ := hstable.rest
    rw [hrest, show round'.seasonId = round.seasonId from congrArg RoundSlot.seasonId hslot]
    exact ⟨rfl, rfl⟩
  have hlive := hfigures league (hmatch.1 ▸ hleague) userId (hmatch.2 ▸ hmember)
  rw [figuresOf, hkept, ← figuresOf, hlive, liveFigures_of_slot hslot, hcompleted.liveFigures]

/-- What follows once the scores are recorded and the predictions judged. -/
def settleScores (roundId : Int) (recording : Recording) (now : DateTime) : Engine Nat := do
  recomputePoints roundId
  showScores roundId recording now

instance (roundId : Int) (recording : Recording) (now : DateTime) :
    Quiet (settleScores roundId recording now) := by
  unfold settleScores
  infer_instance

/-- The points and the live figures of the round are brought up to date. -/
theorem refreshed_settleScores (hs : s.Keyed) (hround : s.round? roundId = some round)
    (h : (settleScores roundId recording now).Returns s n s') : s.Refreshed s' round [] now := by
  obtain rfl : round.id = roundId := Table.id_of_get? hround
  unfold settleScores at h
  obtain ⟨_, t, hpoints, h⟩ := returns_bind.1 h
  obtain ⟨hsettled, hothers⟩ := recomputePoints_settles hs hround hpoints
  have htrest := hothers.rest
  have ht : t.Keyed := by
    obtain ⟨_, -, -, rfl⟩ := returns_recomputePoints.1 hpoints
    exact hs.recomputed _
  have htround : t.round? round.id = some round := by
    rw [htrest]
    exact hround
  obtain ⟨hkeyed, hprogress, hfigures⟩ := progressed_showScores ht htround h
  obtain ⟨_, _, _, hrest⟩ := hprogress.rest
  refine ⟨?_, hkeyed, ?_, ?_, ?_, hprogress.pointsSettled hsettled, ?_, ?_⟩
  · rw [htrest] at hrest
    exact ⟨_, _, _, _, _, _, _, hrest⟩
  · rw [hprogress.slots, htrest]
  · rw [hrest, htrest, matchAfter_nil]
    exact (List.map_id _).symm
  · rw [hrest, htrest, predictionAfter_nil]
    exact (List.map_id _).symm
  · rw [hrest]
    exact { hothers with }
  · rw [htrest] at hfigures
    exact hfigures

/-- What was recorded is taken into the store and carried through. -/
def carryScores (round : Round) (recording : Recording) (roundId : Int) (now : DateTime) :
    Engine Nat := do
  if round.status = .published ∧ recording.anyStarted then startRound round now
  rescoreMatches recording.updated now
  settleScores roundId recording now

instance (round : Round) (recording : Recording) (roundId : Int) (now : DateTime) :
    Quiet (carryScores round recording roundId now) := by
  have hscores : Quiet (do
      rescoreMatches recording.updated now
      settleScores roundId recording now) := inferInstance
  show Quiet (ite _ _ _)
  split
  · exact quiet_bind inferInstance fun _ => hscores
  · exact hscores

/-- A call records the scores and carries them through. -/
theorem updateMatchResults_eq (roundId : Int) (scores : List MatchScore) (now : DateTime) :
    updateMatchResults roundId scores now = (do
      let round ← getRound roundId
      let s ← current
      let recording ← recordScores roundId scores (.start (s.fixturesOf roundId))
      if recording.updated.isEmpty then return 0
      checkAll recording.numbers
      put (s.withRecording recording)
      carryScores round recording roundId now) := rfl

/-- A call that returns is one for a round that exists. -/
theorem exists_round_of_returns (h : (updateMatchResults roundId scores now).Returns s n s') :
    ∃ round, s.round? roundId = some round := by
  rw [updateMatchResults_eq] at h
  obtain ⟨round, ⟨-, hround⟩, -⟩ := returns_getRound_bind.1 h
  exact ⟨round, hround⟩

/-- What was recorded brings the store up to date. -/
theorem refreshed_carryScores (hs : s.Keyed) (hround : s.round? round.id = some round)
    (hrecorded : recording.fixtures = (s.fixturesOf round.id).map (Match.afterScores scores))
    (hids : ∀ id, id ∈ recording.updated ↔ id ∈ (s.fixturesOf round.id).map (·.id) ∧
      (lastScore? scores id).isSome = true)
    (h : (carryScores round recording round.id now).Returns (s.withRecording recording) n s') :
    s.Refreshed s' round scores now := by
  have hfixtures := hs.fixtures_withRecording hrecorded
  have hrecording : (s.withRecording recording).Keyed := hs.withFixtures hfixtures
  have hmem : round ∈ (s.withRecording recording).rounds :=
    ((Table.get?_eq_some hs.rounds).1 hround).1
  unfold carryScores at h
  -- The round starts when it was published and a match has kicked off.
  obtain ⟨t, ht, hstart, h⟩ : ∃ t, t.Keyed ∧ (s.withRecording recording).Progressed t ∧ (do
      rescoreMatches recording.updated now
      settleScores round.id recording now : Engine Nat).Returns t n s' := by
    dsimp only at h
    split at h
    · obtain ⟨_, t, hstart, h⟩ := returns_bind.1 h
      obtain ⟨ht, hprogress⟩ := progressed_startRound hrecording hmem hstart
      exact ⟨t, ht, hprogress, h⟩
    · exact ⟨_, hrecording, .refl _, h⟩
  obtain ⟨_, u, hrescore, hsettle⟩ := returns_bind.1 h
  obtain ⟨round', hround', hslot⟩ := exists_round_of_slots hstart.slots hround
  have hu := returns_rescoreMatches.1 hrescore
  have hkeyed : u.Keyed := hu ▸ { ht with }
  have hrefreshed := (refreshed_settleScores hkeyed (hu ▸ hround') hsettle).of_slot hslot
  obtain ⟨_, _, _, htrest⟩ := hstart.rest
  have htfixtures : t.fixtures = s.fixtures.map (matchAfter round.id scores) := by
    rw [htrest, ← hfixtures]
  refine hrefreshed.of_recorded ?_ ?_ ?_ ?_
  · rw [htrest] at hu
    exact ⟨_, _, _, _, _, hu⟩
  · rw [hu]
    exact hstart.slots
  · rw [hu]
    exact htfixtures
  · have htpredictions : t.predictions = s.predictions := by rw [htrest]; rfl
    rw [hu]
    dsimp only
    rw [htpredictions]
    exact List.map_congr_left fun p _ => hs.judgedAgain_eq htfixtures hids now p

/-- A call that names no match of the round leaves the store as it is; any other brings it up to
date. -/
theorem refreshed_updateMatchResults (hs : s.Keyed) (hround : s.round? roundId = some round)
    (h : (updateMatchResults roundId scores now).Returns s n s') :
    (¬s.Named roundId scores ∧ s' = s) ∨
      s.Named roundId scores ∧ s.Refreshed s' round scores now := by
  obtain rfl : round.id = roundId := Table.id_of_get? hround
  rw [updateMatchResults_eq] at h
  obtain ⟨round', ⟨-, hround'⟩, h⟩ := returns_getRound_bind.1 h
  obtain rfl : round = round' := Option.some.inj (hround.symm.trans hround')
  rw [returns_current_bind] at h
  obtain ⟨recording, t, hrecord, h⟩ := returns_bind.1 h
  have hnodup : ((s.fixturesOf round.id).map (·.id)).Nodup :=
    (hs.fixtures.filter fun m => m.roundId == round.id).nodup_ids
  obtain ⟨rfl, hrecorded, hupdated⟩ := recordScores_returns hnodup hrecord
  have hids (id : Int) : id ∈ recording.updated ↔
      id ∈ (t.fixturesOf round.id).map (·.id) ∧ (lastScore? scores id).isSome = true := by
    rw [hupdated]
    exact or_iff_right List.not_mem_nil
  have hnamed : t.Named round.id scores ↔ ∃ id, id ∈ recording.updated := by
    simp only [hids, List.mem_map]
    constructor
    · rintro ⟨m, hm, hlast⟩
      exact ⟨m.id, ⟨m, hm, rfl⟩, hlast⟩
    · rintro ⟨_, ⟨m, hm, rfl⟩, hlast⟩
      exact ⟨m, hm, hlast⟩
  split at h
  · -- Nothing was taken, so the call stops before it writes.
    rename_i hempty
    rw [List.isEmpty_iff] at hempty
    obtain ⟨-, rfl⟩ := returns_pure.1 h
    refine .inl ⟨fun hname => ?_, rfl⟩
    obtain ⟨id, hid⟩ := hnamed.1 hname
    exact List.not_mem_nil (hempty ▸ hid)
  rename_i hsome
  rw [returns_checkAll_bind, returns_put_bind] at h
  refine .inr ⟨hnamed.2 (List.exists_mem_of_ne_nil _ (by simpa using hsome)), ?_⟩
  exact refreshed_carryScores hs hround hrecorded hids h.2

/-- A call that names a match of the round brings the store up to date. -/
theorem refreshed_of_named (hs : s.Keyed) (hround : s.round? roundId = some round)
    (h : (updateMatchResults roundId scores now).Returns s n s') (hname : s.Named roundId scores) :
    s.Refreshed s' round scores now :=
  ((refreshed_updateMatchResults hs hround h).resolve_left fun hnot => hnot.1 hname).2

end Update

/-! ### Sequences of calls -/

/-- Calls that record scores of a round one after the other, all of which return. -/
inductive Updates (roundId : Int) (now : DateTime) : Store → List (List MatchScore) → Store → Prop
  | done (s : Store) : Updates roundId now s [] s
  | call {s t u : Store} {n : Nat} {scores : List MatchScore} {batches : List (List MatchScore)}
      (h : (updateMatchResults roundId scores now).Returns s n t)
      (hrest : Updates roundId now t batches u) : Updates roundId now s (scores :: batches) u

section Sequence

open Store

variable {s t u : Store} {round : Round} {roundId : Int} {now : DateTime}

/-- After calls one after the other the store is refreshed by all their scores, or none of them
named a match of the round. -/
theorem Updates.refreshed {batches : List (List MatchScore)}
    (h : Updates roundId now s batches t) (hs : s.Keyed) (hround : s.round? roundId = some round) :
    (¬s.Named roundId batches.flatten ∧ t = s) ∨
      s.Named roundId batches.flatten ∧ s.Refreshed t round batches.flatten now := by
  -- The invariant is what one call brings about; the round is found again in its place.
  induction h generalizing round with
  | done s => exact .inl ⟨fun ⟨m, _, hlast⟩ => by simp [lastScore?] at hlast, rfl⟩
  | @call s t u n scores batches h hrest ih =>
    obtain rfl : round.id = roundId := Table.id_of_get? hround
    rw [List.flatten_cons, named_append]
    rcases refreshed_updateMatchResults hs hround h with ⟨hnot, rfl⟩ | ⟨hname, ht⟩
    · rw [or_iff_right hnot]
      exact (ih hs hround).imp_right
        (And.imp_right fun hu => hu.congr (sameLast_append_right hnot))
    · refine .inr ⟨.inl hname, ?_⟩
      obtain ⟨round', hround', hslot⟩ := exists_round_of_slots ht.slots hround
      rcases ih ht.keyed hround' with ⟨hnot, rfl⟩ | ⟨-, hu⟩
      · exact ht.congr (sameLast_append_left fun hlater => hnot (ht.named.2 hlater))
      · exact ht.append (hu.of_slot hslot)

/-- Only the last score of each match matters: after calls one after the other, in whatever batches
and order and with whatever corrections, the matches, the predictions, the points and the live
figures are the same when the last scores are. -/
theorem updates_sameResults {batches batches' : List (List MatchScore)} (hs : s.Keyed)
    (hround : s.round? roundId = some round) (ht : Updates roundId now s batches t)
    (hu : Updates roundId now s batches' u)
    (hlast : s.SameLast roundId batches.flatten batches'.flatten) : t.SameResults u round := by
  obtain rfl : round.id = roundId := Table.id_of_get? hround
  rcases ht.refreshed hs hround with ⟨hnot, rfl⟩ | ⟨hname, ht⟩
  · rcases hu.refreshed hs hround with ⟨-, rfl⟩ | ⟨hname, -⟩
    · exact .refl _ round
    · exact absurd (hlast.named.2 hname) hnot
  · rcases hu.refreshed hs hround with ⟨hnot, -⟩ | ⟨-, hu⟩
    · exact absurd (hlast.named.1 hname) hnot
    · exact (ht.congr hlast).sameResults hu

end Sequence

/-- A published round of two matches, with a prize. -/
def openStore : Store :=
  { Store.empty with
    seasons := [⟨1, "2025", .newYear2025, .june2025, 2⟩]
    rounds := [⟨1, 1, 1, .newYear2025, .newYear2025, .published, none⟩]
    fixtures := [⟨1, 1, none, none, .scheduled⟩, ⟨2, 1, none, none, .scheduled⟩]
    predictions :=
      [⟨1, 10, 1, 2, 1, .pending, .newYear2025⟩, ⟨2, 11, 1, 0, 0, .pending, .newYear2025⟩,
        ⟨3, 11, 2, 1, 1, .pending, .newYear2025⟩]
    leagues := [⟨1, 1, .newYear2025, 5, 3, 0⟩]
    members := [⟨1, 1, 10, .approved⟩, ⟨2, 1, 11, .approved⟩]
    prizeSettings := [⟨1, 1, .round, 1, 1000, none⟩] }

/-- The open round when scores arrived one batch after the other. -/
def openStoreAfter (batches : List (List MatchScore)) : Store :=
  batches.foldl (fun s scores => (updateMatchResults 1 scores .newYear2025).storeAfter s) openStore

/-- All matches are over, and then the first one is corrected twice. -/
def correctedScores : List (List MatchScore) :=
  [[⟨1, 0, 0, .completed⟩, ⟨2, 1, 1, .completed⟩],
    [⟨1, 2, 0, .inProgress⟩, ⟨9, 3, 3, .completed⟩, ⟨1, 2, 1, .completed⟩]]

/-- The last scores at once. -/
def lastScores : List (List MatchScore) := [[⟨2, 1, 1, .completed⟩, ⟨1, 2, 1, .completed⟩]]

theorem corrected_scores_sameResults :
    openStore.Keyed ∧
      Updates 1 .newYear2025 openStore correctedScores (openStoreAfter correctedScores) ∧
      Updates 1 .newYear2025 openStore lastScores (openStoreAfter lastScores) ∧
      (openStoreAfter correctedScores).SameResults (openStoreAfter lastScores)
        ⟨1, 1, 1, .newYear2025, .newYear2025, .published, none⟩ := by
  have hkeyed : openStore.Keyed := by decide
  have hcorrected :
      Updates 1 .newYear2025 openStore correctedScores (openStoreAfter correctedScores) := by
    have hfirst : (updateMatchResults 1 [⟨1, 0, 0, .completed⟩, ⟨2, 1, 1, .completed⟩]
        .newYear2025).Returns openStore 2
          (openStoreAfter [[⟨1, 0, 0, .completed⟩, ⟨2, 1, 1, .completed⟩]]) := by decide +kernel
    exact .call hfirst (.call (n := 2) (by decide +kernel) (.done _))
  have hlast : Updates 1 .newYear2025 openStore lastScores (openStoreAfter lastScores) :=
    .call (n := 2) (by decide +kernel) (.done _)
  have hsame : openStore.SameLast 1 correctedScores.flatten lastScores.flatten := by
    intro m hm
    have heither : m = ⟨1, 1, none, none, .scheduled⟩ ∨ m = ⟨2, 1, none, none, .scheduled⟩ := by
      simpa [Store.fixturesOf, openStore] using hm
    rcases heither with rfl | rfl
    · rfl
    · rfl
  exact ⟨hkeyed, hcorrected, hlast, updates_sameResults hkeyed rfl hcorrected hlast hsame⟩

end PredictionLeague
