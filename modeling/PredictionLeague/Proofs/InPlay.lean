import PredictionLeague.Proofs.Faults
import PredictionLeague.Proofs.Stages

/-!
# Matches in play

Prizes are refused for a round that is still being played, and whether it is played is read off the
state of the round. That tells the truth as long as all matches of completed rounds are completed.
Recording completes a round only then; but a score may also reopen a match of a completed round, and
the round stays completed.

* `Store.Over`: all matches of completed rounds are completed;
* `Store.RefusesInPlay`: no round is settled while a match of it is in play;
* `Store.Reopens`: scores reopen a match of a completed round;
* `Reported.over`, `Reported.not_over_of_reopens`: what one call does to the matches of completed
  rounds;
* `refusesInPlay_iff_noneReopens`: what any number of calls does.
-/

namespace PredictionLeague

namespace Store

/-- All matches of completed rounds are completed. -/
def Over (s : Store) : Prop :=
  ∀ round ∈ s.rounds, round.status = .completed →
    ∀ m ∈ s.fixturesOf round.id, m.status = .completed

instance (s : Store) : Decidable s.Over :=
  inferInstanceAs (Decidable (∀ round ∈ s.rounds, round.status = .completed →
    ∀ m ∈ s.fixturesOf round.id, m.status = .completed))

/-- No round is settled while a match of it is in play: only a round all of whose matches are
completed is settled, and any other is refused and changes nothing. -/
structure RefusesInPlay (s : Store) : Prop where
  settled : ∀ roundId now n t, (settleRound roundId now).Returns s n t →
    ∀ m ∈ s.fixturesOf roundId, m.status = .completed
  refused : ∀ roundId now round, fits roundId = true → s.round? roundId = some round →
    (∃ m ∈ s.fixturesOf roundId, m.status ≠ .completed) →
      (settleRound roundId now).effect s =
        (.error (.roundNotCompleted roundId round.number round.status), s)

/-- Scores that are accepted reopen a match of a completed round. -/
def Reopens (s : Store) (roundId : Int) (scores : List MatchScore) : Prop :=
  (∃ round, s.round? roundId = some round ∧ round.status = .completed) ∧
    (∃ recording, s.Accepts roundId scores recording) ∧
      ∃ m ∈ s.fixturesOf roundId, m.status = .completed ∧ (m.afterScores scores).status ≠ .completed

variable {s t : Store} {roundId : Int}

/-! ### Settling a round in play -/

open Engine in
/-- A round that is not completed is not settled. -/
theorem effect_settleRound_of_ne {round : Round} (hfits : fits roundId = true)
    (hround : s.round? roundId = some round) (h : round.status ≠ .completed) (now : DateTime) :
    (settleRound roundId now).effect s =
      (.error (.roundNotCompleted roundId round.number round.status), s) := by
  unfold settleRound
  rw [Engine.effect_bind, effect_getRound, found_eq_ok.2 ⟨hfits, hround⟩]
  simp only
  rw [if_pos h, Engine.effect_bind, effect_throw]

theorem Keyed.over_iff (hs : s.Keyed) : s.Over ↔ ∀ id round, s.round? id = some round →
    round.status = .completed → ∀ m ∈ s.fixturesOf id, m.status = .completed := by
  constructor
  · intro h id round hround
    obtain ⟨hmem, rfl⟩ := (Table.get?_eq_some hs.rounds).1 hround
    exact h round hmem
  · intro h round hmem
    exact h round.id round ((Table.get?_eq_some hs.rounds).2 ⟨hmem, rfl⟩)

/-- When all matches of completed rounds are completed, no round in play is settled. -/
theorem Over.refusesInPlay (h : s.Over) (hs : s.Keyed) : s.RefusesInPlay where
  settled := by
    intro roundId now n t hsettle
    obtain ⟨round, ⟨-, hround⟩, hstatus, -⟩ := returns_settleRound.1 hsettle
    exact hs.over_iff.1 h roundId round hround hstatus
  refused := by
    intro roundId now round hfits hround hplay
    by_cases hstatus : round.status = .completed
    · obtain ⟨m, hm, hopen⟩ := hplay
      exact absurd (hs.over_iff.1 h roundId round hround hstatus m hm) hopen
    · exact effect_settleRound_of_ne hfits hround hstatus now

/-! ### One call -/

section Reported

variable {round : Round} {scores : List MatchScore} {now : DateTime} {answer : Except Fault Nat}
  {newly : Bool} {recording : Recording}

/-- A recording starts a published round, so a completed one stays as it is. -/
theorem opened_of_completed (h : round.status = .completed) (recording : Recording)
    (now : DateTime) : round.opened recording now = round := by
  rw [Round.opened, if_neg]
  rintro ⟨hpublished, -⟩
  rw [h] at hpublished
  simp at hpublished

/-- A round is completed by a call when all its matches are, or it was completed before. -/
theorem Ends.completed_of (hends : (s.carried round recording now).Ends
      (round.opened recording now) newly now answer t)
    (hround : s.round? round.id = some round) {round' : Round}
    (hfound : t.round? round.id = some round') (hstatus : round'.status = .completed) :
    round.status = .completed ∨ ∀ m ∈ t.fixturesOf round.id, m.status = .completed := by
  rcases hends.round?_of_carried hround with hsame | ⟨hall, -⟩
  · obtain rfl := Option.some.inj (hfound.symm.trans hsame)
    left
    rw [Round.opened] at hstatus
    split at hstatus
    · simp [Round.withStatus] at hstatus
    · exact hstatus
  · exact .inr hall

/-- A completed round stays completed. -/
theorem Ends.stays_completed (hends : (s.carried round recording now).Ends
      (round.opened recording now) newly now answer t)
    (hround : s.round? round.id = some round) (h : round.status = .completed) :
    ∃ round', t.round? round.id = some round' ∧ round'.status = .completed := by
  rcases hends.round?_of_carried hround with hsame | ⟨-, hcompleted⟩
  · rw [opened_of_completed h] at hsame
    exact ⟨round, hsame, h⟩
  · exact ⟨_, hcompleted, rfl⟩

/-- Once a call reopened a match of a completed round, the round is completed with a match in
play. -/
theorem Reported.not_over_of_reopens (h : s.Reported round scores now answer t) (hs : s.Keyed)
    (hround : s.round? round.id = some round) (hreopens : s.Reopens round.id scores) :
    ∃ round', t.round? round.id = some round' ∧ round'.status = .completed ∧
      ∃ m ∈ t.fixturesOf round.id, m.status ≠ .completed := by
  obtain ⟨⟨round', hround', hstatus⟩, ⟨recording, haccepts⟩, m, hm, -, hopen⟩ := hreopens
  obtain rfl : round = round' := Option.some.inj (hround.symm.trans hround')
  cases h with
  | refused _ hnone => exact absurd haccepts (hnone recording)
  | carried recording haccepts hends =>
    obtain ⟨round', hfound, hcompleted⟩ := hends.stays_completed hround hstatus
    refine ⟨round', hfound, hcompleted, m.afterScores scores, ?_, hopen⟩
    rw [fixturesOf_after (hends.fixtures_of_accepts hs haccepts)]
    exact List.mem_map_of_mem hm

/-- A call keeps the matches of completed rounds completed unless it reopens one. -/
theorem Reported.over (h : s.Reported round scores now answer t) (hs : s.Keyed)
    (hround : s.round? round.id = some round) (hover : s.Over)
    (hnot : ¬s.Reopens round.id scores) : t.Over := by
  rw [(h.keyed hs hround).over_iff]
  intro id round' hfound hstatus m hm
  by_cases hne : id = round.id
  · subst hne
    cases h with
    | refused => exact hs.over_iff.1 hover _ round' hfound hstatus m hm
    | carried recording haccepts hends =>
      rcases hends.completed_of hround hfound hstatus with hcompleted | hall
      · rw [fixturesOf_after (hends.fixtures_of_accepts hs haccepts)] at hm
        obtain ⟨old, hold, rfl⟩ := List.mem_map.1 hm
        by_contra hopen
        have hbefore := hs.over_iff.1 hover _ round hround hcompleted old hold
        exact hnot ⟨⟨round, hround, hcompleted⟩, ⟨recording, haccepts⟩, old, hold, hbefore, hopen⟩
      · exact hall m hm
  · rw [h.round?_of_ne hne] at hfound
    rw [h.fixturesOf_of_ne hs hne] at hm
    exact hs.over_iff.1 hover id round' hfound hstatus m hm

end Reported

end Store

/-! ### Any number of calls -/

/-- Scores that are reported for a round. -/
structure ScoreReport where
  roundId : Int
  scores : List MatchScore
  now : DateTime

/-- The store when a report was taken or refused. -/
def ScoreReport.after (r : ScoreReport) (s : Store) : Store :=
  (updateMatchResults r.roundId r.scores r.now).storeAfter s

/-- The stores that reports lead to one after the other, from the first on. -/
def storesAlong (s : Store) : List ScoreReport → List Store
  | [] => [s]
  | r :: reports => s :: storesAlong (r.after s) reports

/-- None of the reports reopens a match of a round that is completed by then. -/
def NoneReopens (s : Store) : List ScoreReport → Prop
  | [] => True
  | r :: reports => ¬s.Reopens r.roundId r.scores ∧ NoneReopens (r.after s) reports

section Reports

variable {s : Store} {r : ScoreReport}

theorem mem_storesAlong_self (s : Store) (reports : List ScoreReport) :
    s ∈ storesAlong s reports := by
  cases reports with
  | nil => exact List.mem_singleton_self s
  | cons r reports => exact List.mem_cons_self

theorem ScoreReport.reported_after {round : Round} (hround : s.round? r.roundId = some round) :
    ∃ answer, s.Reported round r.scores r.now answer (r.after s) :=
  ⟨_, reported_updateMatchResults hround r.scores r.now⟩

theorem ScoreReport.keyed_after (r : ScoreReport) (hs : s.Keyed) : (r.after s).Keyed :=
  kept_updateMatchResults hs fun _ _ _ _ hround hreported => hreported.keyed hs hround

/-- A report keeps the matches of completed rounds completed unless it reopens one. -/
theorem ScoreReport.over_after (hs : s.Keyed) (hover : s.Over)
    (hnot : ¬s.Reopens r.roundId r.scores) : (r.after s).Over := by
  apply kept_updateMatchResults hover
  intro round answer t hid hround hreported
  rw [← hid] at hnot
  exact hreported.over hs hround hover hnot

/-- When a report reopens a match of a completed round, that round is no longer refused. -/
theorem ScoreReport.not_reopens (hs : s.Keyed) (h : (r.after s).RefusesInPlay) :
    ¬s.Reopens r.roundId r.scores := by
  intro hreopens
  obtain ⟨⟨round, hround, -⟩, ⟨recording, haccepts⟩, -⟩ := id hreopens
  obtain ⟨answer, hreported⟩ := ScoreReport.reported_after hround
  obtain ⟨roundId, scores, now⟩ := r
  obtain rfl : round.id = roundId := Table.id_of_get? hround
  obtain ⟨round', hfound, hstatus, hplay⟩ := hreported.not_over_of_reopens hs hround hreopens
  have hrefused := h.refused round.id now round' haccepts.key hfound hplay
  -- A completed round stops for other reasons only.
  cases settlementFault_of_completed hfound hstatus hrefused

/-- In every store on the way no round is settled while a match of it is in play, exactly when none
of the reports reopens a match of a round that is completed by then. -/
theorem refusesInPlay_iff_noneReopens (hs : s.Keyed) (hover : s.Over)
    (reports : List ScoreReport) :
    (∀ t ∈ storesAlong s reports, t.RefusesInPlay) ↔ NoneReopens s reports := by
  induction reports generalizing s with
  | nil =>
    refine iff_of_true ?_ trivial
    intro t ht
    obtain rfl := List.mem_singleton.1 ht
    exact hover.refusesInPlay hs
  | cons r reports ih =>
    rw [storesAlong, NoneReopens, List.forall_mem_cons]
    constructor
    · rintro ⟨-, hrest⟩
      have hnot : ¬s.Reopens r.roundId r.scores :=
        ScoreReport.not_reopens hs (hrest _ (mem_storesAlong_self _ reports))
      exact ⟨hnot, (ih (r.keyed_after hs) (ScoreReport.over_after hs hover hnot)).1 hrest⟩
    · rintro ⟨hnot, hrest⟩
      exact ⟨hover.refusesInPlay hs,
        (ih (r.keyed_after hs) (ScoreReport.over_after hs hover hnot)).2 hrest⟩

end Reports

/-- Both matches of the open round are over. -/
def fullTime : ScoreReport := ⟨1, [⟨1, 0, 0, .completed⟩, ⟨2, 1, 1, .completed⟩], .newYear2025⟩

/-- The score of the first match is corrected. -/
def correction : ScoreReport := ⟨1, [⟨1, 2, 1, .completed⟩], .newYear2025⟩

/-- The first match goes on. -/
def reopening : ScoreReport := ⟨1, [⟨1, 2, 1, .inProgress⟩], .newYear2025⟩

theorem corrected_round_refusesInPlay :
    openStore.Keyed ∧ openStore.Over ∧ NoneReopens openStore [fullTime, correction] ∧
      ∀ t ∈ storesAlong openStore [fullTime, correction], t.RefusesInPlay := by
  have hkeyed : openStore.Keyed := by decide
  have hover : openStore.Over := by decide
  have hfirst : ¬openStore.Reopens 1 fullTime.scores := by
    rintro ⟨⟨round, hround, hstatus⟩, -⟩
    obtain rfl := Option.some.inj hround
    simp at hstatus
  have hsecond : ¬(fullTime.after openStore).Reopens 1 correction.scores := by
    rintro ⟨-, -, m, hm, -, hopen⟩
    have hcompleted : ∀ m ∈ (fullTime.after openStore).fixturesOf 1,
        (m.afterScores correction.scores).status = .completed := by decide +kernel
    exact hopen (hcompleted m hm)
  have hnone : NoneReopens openStore [fullTime, correction] := ⟨hfirst, hsecond, trivial⟩
  exact ⟨hkeyed, hover, hnone, (refusesInPlay_iff_noneReopens hkeyed hover _).2 hnone⟩

/-- The open round when its first match goes on after both were over. -/
def reopenedStore : Store := reopening.after (fullTime.after openStore)

/-- When the first match of the completed round goes on, the round is settled all the same. -/
theorem reopened_round_settles : ¬∀ (s : Store) (reports : List ScoreReport), s.Keyed → s.Over →
    ∀ t ∈ storesAlong s reports, t.RefusesInPlay := by
  intro h
  have hmem : reopenedStore ∈ storesAlong openStore [fullTime, reopening] :=
    List.mem_cons_of_mem _ (List.mem_cons_of_mem _ List.mem_cons_self)
  have hrefuses := h openStore [fullTime, reopening] (by decide) (by decide) _ hmem
  have hreturns : (settleRound 1 .newYear2025).Returns reopenedStore 1
      ((settleRound 1 .newYear2025).storeAfter reopenedStore) := by decide +kernel
  have hsettled := hrefuses.settled 1 .newYear2025 1 _ hreturns
  have hplay : ¬∀ m ∈ reopenedStore.fixturesOf 1, m.status = .completed := by decide +kernel
  exact hplay hsettled

end PredictionLeague
