import PredictionLeague.Proofs.Calls
import PredictionLeague.Proofs.StableFigures

/-!
# Scores and verdicts cohere

A match has a score exactly when it was started, and a prediction has the verdict that its match
gives it. Recording results writes the two at different times and may stop on the way, but no call
leaves them apart.

* `Match.WellScored`: a match with a score that suits its state;
* `Store.Coherent`: well scored matches, and predictions judged by them;
* `wellScored_recordScores`: only good scores are recorded;
* `Store.Coherent.after`: one call keeps a store coherent, whether it returns or stops;
* `coherent_afterAll`: any sequence of calls does.
-/

namespace PredictionLeague

/-- The score of a match suits its state: a scheduled match has none, and a match that was started
has one that is not negative. -/
def Match.WellScored (m : Match) : Prop :=
  (m.status = .scheduled ∧ m.home = none ∧ m.away = none) ∨
    ((m.status = .inProgress ∨ m.status = .completed) ∧
      ∃ home away, m.home = some home ∧ m.away = some away ∧ 0 ≤ home ∧ 0 ≤ away)

/-- Matches are well scored, and predictions have the verdict that their match gives them. -/
structure Store.Coherent (s : Store) : Prop where
  scored : ∀ m ∈ s.fixtures, m.WellScored
  judged : ∀ m ∈ s.fixtures, ∀ p ∈ s.predictions, p.matchId = m.id →
    p.outcome = Outcome.classify p.home p.away m.status m.home m.away

/-! ### Recording -/

/-- A score that is recorded suits the state that comes with it. -/
theorem Match.wellScored_of_record {m m' : Match} {home away : Int} {status : MatchStatus}
    (h : m.record home away status = .ok m') : m'.WellScored := by
  unfold Match.record at h
  split at h
  · exact absurd h (by simp)
  rename_i hnegative
  rw [not_or, not_lt, not_lt] at hnegative
  split at h
  · rename_i hscheduled
    obtain rfl := Except.ok.inj h
    exact .inl ⟨hscheduled, rfl, rfl⟩
  · rename_i hstarted
    obtain rfl := Except.ok.inj h
    refine .inr ⟨?_, home, away, rfl, rfl, hnegative⟩
    cases status with
    | scheduled => exact absurd rfl hstarted
    | inProgress => exact .inl rfl
    | completed => exact .inr rfl

open Engine in
/-- Only good scores are recorded. -/
theorem wellScored_recordScores {s s' : Store} {roundId : Int} {scores : List MatchScore}
    {r r' : Recording} (hr : ∀ m ∈ r.fixtures, m.WellScored)
    (h : (recordScores roundId scores r).Returns s r' s') :
    ∀ m ∈ r'.fixtures, m.WellScored := by
  -- Each score that is taken replaces one match, and a bad one stops the recording.
  induction scores generalizing r with
  | nil =>
    obtain ⟨rfl, -⟩ := returns_pure.1 h
    exact hr
  | cons score scores ih =>
    unfold recordScores at h
    split at h
    · exact ih hr (returns_say_bind.1 h)
    · rename_i m hm
      obtain ⟨r₁, htake, h⟩ := returns_lift_bind.1 h
      refine ih ?_ h
      unfold Recording.take at htake
      obtain ⟨m', hrecord, htake⟩ := bind_eq_ok.1 htake
      obtain rfl := Except.ok.inj htake
      intro old hold
      obtain ⟨m₀, hm₀, rfl⟩ := List.mem_map.1 hold
      split
      · exact Match.wellScored_of_record hrecord
      · exact hr m₀ hm₀

namespace Store

variable {s t : Store} {round : Round} {scores : List MatchScore} {now : DateTime}
  {answer : Except Fault Nat} {recording : Recording}

/-- In a coherent store the predictions on every round are judged. -/
theorem Coherent.judged_round (h : s.Coherent) (roundId : Int) : s.Judged roundId :=
  fun m hm => h.judged m (List.mem_of_mem_filter hm)

/-- A prediction is on a match of one round at most. -/
theorem Keyed.inRound_unique (hs : s.Keyed) {a b : Int} {p : Prediction}
    (ha : s.inRound a p = true) (hb : s.inRound b p = true) : a = b := by
  obtain ⟨m, hm, hid⟩ := List.any_eq_true.1 ha
  obtain ⟨m', hm', hid'⟩ := List.any_eq_true.1 hb
  obtain ⟨hmem, hround⟩ := List.mem_filter.1 hm
  obtain ⟨hmem', hround'⟩ := List.mem_filter.1 hm'
  obtain rfl : m = m' := hs.fixtures.eq_of_id_eq hmem hmem'
    ((beq_iff_eq.1 hid).trans (beq_iff_eq.1 hid').symm)
  exact (beq_iff_eq.1 hround).symm.trans (beq_iff_eq.1 hround')

/-- Scores of a round leave a prediction on a match of another round as it is. -/
theorem predictionAfter_of_not_inRound {roundId : Int} {p : Prediction}
    (hp : ¬s.inRound roundId p = true) : s.predictionAfter roundId scores now p = p := by
  have hnone : Table.get? (s.fixturesOf roundId) p.matchId = none := by
    rw [Table.get?, ← Option.not_isSome_iff_eq_none, List.find?_isSome]
    rintro ⟨m, hm, hid⟩
    exact hp (List.any_eq_true.2 ⟨m, hm, hid⟩)
  rw [predictionAfter, hnone]

/-- Recording scores of a round leaves predictions on other matches as they are. -/
theorem Keyed.predictionAfter_of_ne (hs : s.Keyed) {roundId : Int} {m : Match}
    (hm : m ∈ s.fixtures) (hne : m.roundId ≠ roundId) {p : Prediction} (hid : p.matchId = m.id) :
    s.predictionAfter roundId scores now p = p := by
  have hown : s.inRound m.roundId p = true :=
    List.any_eq_true.2 ⟨m, List.mem_filter.2 ⟨hm, beq_self_eq_true _⟩, beq_iff_eq.2 hid.symm⟩
  exact predictionAfter_of_not_inRound fun hp => hne (hs.inRound_unique hown hp)

/-- Once the scores are recorded and the predictions judged, the store is coherent. -/
theorem Coherent.carried (h : s.Coherent) (hs : s.Keyed)
    (haccepts : s.Accepts round.id scores recording) (now : DateTime) :
    (s.carried round recording now).Coherent := by
  have hfixtures := hs.fixtures_carried haccepts now
  constructor
  · have hscored := wellScored_recordScores
      (fun m hm => h.scored m (List.mem_of_mem_filter hm)) haccepts.recorded
    rw [haccepts.fixtures hs] at hscored
    intro m' hm'
    rw [hfixtures] at hm'
    obtain ⟨m, hm, rfl⟩ := List.mem_map.1 hm'
    rw [matchAfter]
    split
    · rename_i hround
      exact hscored _ (List.mem_map_of_mem (List.mem_filter.2 ⟨hm, hround⟩))
    · exact h.scored m hm
  · intro m' hm' p' hp' hid
    by_cases hround : m'.roundId = round.id
    · have hmem : m' ∈ (s.carried round recording now).fixturesOf round.id :=
        List.mem_filter.2 ⟨hm', beq_iff_eq.2 hround⟩
      exact (h.judged_round round.id).carried hs haccepts now m' hmem p' hp' hid
    · -- Neither the match nor the prediction is touched.
      rw [hfixtures] at hm'
      rw [hs.predictions_carried haccepts now] at hp'
      obtain ⟨m, hm, rfl⟩ := List.mem_map.1 hm'
      obtain ⟨p, hp, rfl⟩ := List.mem_map.1 hp'
      rw [roundId_matchAfter] at hround
      have hsame : matchAfter round.id scores m = m := if_neg (by simpa using hround)
      rw [hsame, (s.samePrediction_predictionAfter round.id scores now p).matchId] at hid
      rw [hsame, hs.predictionAfter_of_ne hm hround hid]
      exact h.judged m hm p hp hid

/-- A call that records results keeps a store coherent. -/
theorem Coherent.reported (h : s.Coherent) (hs : s.Keyed)
    (hreported : s.Reported round scores now answer t) : t.Coherent := by
  cases hreported with
  | refused => exact h
  | carried recording haccepts hends =>
    have hcarried := h.carried hs haccepts now
    obtain ⟨counts, points, stats, rounds, winnings, hframe⟩ := hends.frame
    rw [hframe]
    exact ⟨hcarried.scored, hcarried.judged⟩

/-- A store with the same matches and predictions is as coherent. -/
theorem Coherent.of_samePlay (h : s.Coherent) (hsame : s.SamePlay t) : t.Coherent := by
  obtain ⟨counts, points, uses, stats, winnings, rfl⟩ := hsame
  exact ⟨h.scored, h.judged⟩

/-- A call keeps a store coherent, whether it returns or stops. -/
theorem Coherent.after (h : s.Coherent) (hs : s.Keyed) (call : Call) : (call.after s).Coherent := by
  by_cases hrecords : call.Records
  · cases call with
    | updateResults roundId scores now =>
      rw [Call.after_updateResults]
      exact kept_updateMatchResults h fun _ _ _ _ _ hreported => h.reported hs hreported
    | _ => exact absurd hrecords id
  · exact h.of_samePlay (Call.samePlay_after s hrecords)

end Store

/-! ### Any sequence of calls -/

/-- From a coherent store any sequence of calls, each of which may return or stop, leads to a
coherent one. -/
theorem coherent_afterAll {s : Store} (hs : s.Keyed) (h : s.Coherent) (calls : List Call) :
    (Call.afterAll calls s).Coherent :=
  (Call.afterAll_keeps (P := fun t => t.Keyed ∧ t.Coherent)
    (fun _ call ht => ⟨Call.keyed_after ht.1 call, ht.2.after ht.1 call⟩) calls ⟨hs, h⟩).2

/-- A published round in a league where two exact scores are worth more than fits. -/
def heavyStore : Store :=
  { openStore with
    leagues := [⟨1, 1, .newYear2025, 9223372036854775807, 3, 0⟩]
    predictions :=
      [⟨1, 10, 1, 2, 1, .pending, .newYear2025⟩, ⟨2, 10, 2, 1, 1, .pending, .newYear2025⟩,
        ⟨3, 11, 1, 0, 0, .pending, .newYear2025⟩] }

/-- Calls of which the first stops at the points, the second at a bad score, and the fourth because
the round is in play. -/
def troubledCalls : List Call :=
  [.updateResults 1 [⟨1, 2, 1, .completed⟩, ⟨2, 1, 1, .inProgress⟩] .newYear2025,
    .updateResults 1 [⟨2, 0, 1, .completed⟩, ⟨1, -1, 1, .completed⟩] .newYear2025,
    .updateResults 1 [⟨2, 3, 3, .completed⟩, ⟨2, 0, 0, .scheduled⟩] .newYear2025,
    .settle 1 .newYear2025, .recalculate 1 .newYear2025, .payPrizes 1 1 .newYear2025,
    .useBoost 10 1 1 "DoubleUp" .newYear2025, .dropBoost 10 1 1 .newYear2025, .takeSnapshots 1,
    .updateLive 1, .updateStable 1]

theorem troubled_calls_cohere :
    heavyStore.Keyed ∧ heavyStore.Coherent ∧ (Call.afterAll troubledCalls heavyStore).Coherent := by
  have hkeyed : heavyStore.Keyed := by decide
  have hcoherent : heavyStore.Coherent := by
    refine ⟨?_, by decide⟩
    intro m hm
    have heither : m = ⟨1, 1, none, none, .scheduled⟩ ∨ m = ⟨2, 1, none, none, .scheduled⟩ := by
      simpa [heavyStore, openStore] using hm
    rcases heither with rfl | rfl
    · exact .inl ⟨rfl, rfl, rfl⟩
    · exact .inl ⟨rfl, rfl, rfl⟩
  exact ⟨hkeyed, hcoherent, coherent_afterAll hkeyed hcoherent troubledCalls⟩

end PredictionLeague
