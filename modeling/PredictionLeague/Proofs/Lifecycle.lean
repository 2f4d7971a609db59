import PredictionLeague.Proofs.Snapshots

/-!
# The life of a round

A published round starts when a match of it kicks off, and a round is completed by the scores after
which all its matches are over. Nothing else touches the state of a round, and no score takes a
completed round back: its time of completion is the time of the scores that completed it, for good.

* `Round.atStart`, `Round.atEnd`: a round in play, and a completed one;
* `Store.Stamped`: just the completed rounds have a time of completion;
* `Call.Leaves`: what a call may do to a round;
* `Call.leaves_after`, `Call.rel_leaves`: what every call does to the rounds that there are;
* `Call.stamped_after`, `Call.completed_afterAll`, `Call.completed_by`: what a run keeps, and which
  of its calls completes a round;
* `rounds_complete_once`: the rounds along every run of calls.
-/

namespace PredictionLeague

open Engine

/-- The round in play. -/
def Round.atStart (r : Round) : Round := { r with status := .inProgress }

/-- The round completed at a time. -/
def Round.atEnd (r : Round) (now : DateTime) : Round :=
  { r with status := .completed, completed := some now }

/-- The completed rounds, and no others, have a time of completion. -/
def Store.Stamped (s : Store) : Prop :=
  ∀ round ∈ s.rounds, round.completed.isSome = true ↔ round.status = .completed

instance (s : Store) : Decidable s.Stamped :=
  inferInstanceAs
    (Decidable (∀ round ∈ s.rounds, round.completed.isSome = true ↔ round.status = .completed))

/-- What a call may do to a round. It leaves it as it is, or it records scores of the round and
starts it when it was published, or it records scores after which all its matches are completed and
completes it when it was not. -/
inductive Call.Leaves (call : Call) (s : Store) (round : Round) : Round → Prop
  | same : Leaves call s round round
  | started (scores : List MatchScore) (now : DateTime)
    (hcall : call = .updateResults round.id scores now) (hstatus : round.status = .published) :
    Leaves call s round round.atStart
  | completed (scores : List MatchScore) (now : DateTime)
    (hcall : call = .updateResults round.id scores now) (hstatus : round.status ≠ .completed)
    (hall : ∀ m ∈ (call.after s).fixturesOf round.id, m.status = .completed) :
    Leaves call s round (round.atEnd now)

/-! ### States of a round -/

namespace Round

variable {round : Round}

theorem withStatus_inProgress (h : round.status ≠ .completed) (now : DateTime) :
    round.withStatus .inProgress now = round.atStart := by
  simp [withStatus, atStart, h]

theorem withStatus_completed (h : round.status ≠ .completed) (now : DateTime) :
    round.withStatus .completed now = round.atEnd now := by
  simp [withStatus, atEnd, h]

/-- A completed round that is completed again keeps its time. -/
theorem withStatus_of_completed (h : round.status = .completed) (now : DateTime) :
    round.withStatus .completed now = round := by
  cases round
  simp_all [withStatus]

/-- A round that a recording opens is published and starts, or it stays as it is. -/
theorem opened_eq (round : Round) (recording : Recording) (now : DateTime) :
    round.opened recording now = round ∨
      round.status = .published ∧ round.opened recording now = round.atStart := by
  unfold opened
  split
  · rename_i hstart
    right
    refine ⟨hstart.1, withStatus_inProgress ?_ now⟩
    rw [hstart.1]
    exact RoundStatus.noConfusion
  · exact .inl rfl

/-- A round that is completed after it was opened is completed from the state that it had. -/
theorem withStatus_opened (h : round.status ≠ .completed) (recording : Recording)
    (now : DateTime) :
    (round.opened recording now).withStatus .completed now = round.atEnd now := by
  rcases round.opened_eq recording now with hsame | ⟨-, hstarted⟩
  · rw [hsame, withStatus_completed h]
  · rw [hstarted, withStatus_completed (by exact RoundStatus.noConfusion)]
    rfl

end Round

namespace Call

variable {s : Store} {call : Call} {round round' : Round}

namespace Leaves

/-- A completed round stays as it is. -/
theorem eq_of_completed (h : call.Leaves s round round') (hstatus : round.status = .completed) :
    round' = round := by
  cases h with
  | same => rfl
  | started _ _ _ hpublished =>
    rw [hstatus] at hpublished
    exact absurd hpublished RoundStatus.noConfusion
  | completed _ _ _ hopen => exact absurd hstatus hopen

/-- A round that is completed in the end was so before, or the call completed it. -/
theorem of_completed (h : call.Leaves s round round') (hstatus : round'.status = .completed) :
    round' = round ∨ ∃ scores now, call = .updateResults round.id scores now ∧
      round.status ≠ .completed ∧
        (∀ m ∈ (call.after s).fixturesOf round.id, m.status = .completed) ∧
          round' = round.atEnd now := by
  cases h with
  | same => exact .inl rfl
  | started => exact absurd hstatus RoundStatus.noConfusion
  | completed scores now hcall hopen hall => exact .inr ⟨scores, now, hcall, hopen, hall, rfl⟩

/-- A time of completion stands just where the round is completed. -/
theorem stamped (h : call.Leaves s round round')
    (hstamp : round.completed.isSome = true ↔ round.status = .completed) :
    round'.completed.isSome = true ↔ round'.status = .completed := by
  cases h with
  | same => exact hstamp
  | started _ _ _ hpublished =>
    have hnone : ¬round.completed.isSome = true := by
      rw [hstamp, hpublished]
      exact RoundStatus.noConfusion
    exact iff_of_false hnone RoundStatus.noConfusion
  | completed => exact iff_of_true rfl rfl

end Leaves

/-! ### One call -/

theorem Records.exists_eq (h : call.Records) :
    ∃ roundId scores now, call = .updateResults roundId scores now := by
  cases call with
  | updateResults roundId scores now => exact ⟨roundId, scores, now, rfl⟩
  | _ => exact absurd h id

/-- A call that records results leaves its round in one of these ways, whether it returns or
stops. -/
theorem leaves_updateResults (hround : s.round? round.id = some round) (scores : List MatchScore)
    (now : DateTime) : ∃ round', ((updateResults round.id scores now).after s).round? round.id =
      some round' ∧ (updateResults round.id scores now).Leaves s round round' := by
  have hreported := reported_updateMatchResults hround scores now
  have hafter := after_updateResults s round.id scores now
  rw [← hafter] at hreported
  generalize ht : (updateResults round.id scores now).after s = t at hreported
  cases hreported with
  | refused => exact ⟨round, hround, .same⟩
  | carried recording haccepts hends =>
    rcases hends.round?_of_carried hround with hopened | ⟨hall, hclosed⟩
    · refine ⟨_, hopened, ?_⟩
      rcases round.opened_eq recording now with hsame | ⟨hpublished, hstarted⟩
      · rw [hsame]
        exact .same
      · rw [hstarted]
        exact .started scores now rfl hpublished
    · refine ⟨_, hclosed, ?_⟩
      by_cases hstatus : round.status = .completed
      · rw [Store.opened_of_completed hstatus, Round.withStatus_of_completed hstatus]
        exact .same
      · rw [Round.withStatus_opened hstatus]
        rw [← ht] at hall
        exact .completed scores now rfl hstatus hall

/-- Every call leaves every round in one of these ways. -/
theorem leaves_after (call : Call) {id : Int} (hround : s.round? id = some round) :
    ∃ round', (call.after s).round? id = some round' ∧ call.Leaves s round round' := by
  obtain rfl : round.id = id := Table.id_of_get? hround
  by_cases hrecords : call.Records
  · obtain ⟨roundId, scores, now, rfl⟩ := hrecords.exists_eq
    by_cases hid : roundId = round.id
    · rw [hid]
      exact leaves_updateResults hround scores now
    · refine ⟨round, ?_, .same⟩
      rw [after_updateResults]
      refine kept_updateMatchResults (P := fun t => t.round? round.id = some round) hround ?_
      intro other answer t hother _ hreported
      have hne : round.id ≠ other.id := by
        rw [hother]
        exact Ne.symm hid
      rw [hreported.round?_of_ne hne, hround]
  · obtain ⟨counts, points, uses, stats, winnings, hsame⟩ := samePlay_after s hrecords
    refine ⟨round, ?_, .same⟩
    rw [hsame]
    exact hround

/-- No call adds a round. -/
theorem round?_after_of_none (call : Call) {id : Int} (h : s.round? id = none) :
    (call.after s).round? id = none := by
  by_cases hrecords : call.Records
  · obtain ⟨roundId, scores, now, rfl⟩ := hrecords.exists_eq
    rw [after_updateResults]
    refine kept_updateMatchResults (P := fun t => t.round? id = none) h ?_
    intro round answer t _ hround hreported
    have hne : id ≠ round.id := by
      rintro rfl
      rw [h] at hround
      simp at hround
    rw [hreported.round?_of_ne hne, h]
  · obtain ⟨counts, points, uses, stats, winnings, hsame⟩ := samePlay_after s hrecords
    rw [hsame]
    exact h

/-- The rounds after a call are the rounds before it, each left in one of these ways. -/
theorem rel_leaves (s : Store) (call : Call) (id : Int) :
    Option.Rel (call.Leaves s) (s.round? id) ((call.after s).round? id) := by
  cases hround : s.round? id with
  | none =>
    rw [round?_after_of_none call hround]
    exact .none
  | some round =>
    obtain ⟨round', hfound, hleaves⟩ := leaves_after call hround
    rw [hfound]
    exact .some hleaves

/-- A round that is there after a call was there before it. -/
theorem exists_leaves (call : Call) {id : Int} (h : (call.after s).round? id = some round') :
    ∃ round, s.round? id = some round ∧ call.Leaves s round round' := by
  have hrel := rel_leaves s call id
  rw [h] at hrel
  generalize s.round? id = found at hrel
  cases hrel with
  | some hleaves => exact ⟨_, rfl, hleaves⟩

/-- After every call just the completed rounds have a time of completion. -/
theorem stamped_after (hs : s.Keyed) (hstamped : s.Stamped) (call : Call) :
    (call.after s).Stamped := by
  intro round' hmem
  have hkeyed : (call.after s).Keyed := keyed_after hs call
  have hfound : (call.after s).round? round'.id = some round' :=
    (Table.get?_eq_some hkeyed.rounds).2 ⟨hmem, rfl⟩
  obtain ⟨round, hround, hleaves⟩ := exists_leaves call hfound
  exact hleaves.stamped (hstamped round ((Table.get?_eq_some hs.rounds).1 hround).1)

/-! ### Runs -/

theorem keyed_stamped_afterAll (hs : s.Keyed) (hstamped : s.Stamped) (calls : List Call) :
    (afterAll calls s).Keyed ∧ (afterAll calls s).Stamped :=
  afterAll_keeps (P := fun t => t.Keyed ∧ t.Stamped)
    (fun _ call h => ⟨keyed_after h.1 call, stamped_after h.1 h.2 call⟩) calls ⟨hs, hstamped⟩

/-- A completed round stays as it is, whatever calls follow. -/
theorem completed_afterAll {id : Int} (hround : s.round? id = some round)
    (hstatus : round.status = .completed) (calls : List Call) :
    (afterAll calls s).round? id = some round := by
  refine afterAll_keeps (P := fun t => t.round? id = some round) (fun t call h => ?_) calls hround
  obtain ⟨round', hfound, hleaves⟩ := leaves_after call h
  rw [hfound, hleaves.eq_of_completed hstatus]

/-- The call of a run that completed a round: it recorded scores of the round, which was not
completed before it, and all matches of the round were completed after it. -/
def Completes (calls : List Call) (s : Store) (round : Round) : Prop :=
  ∃ before scores now after old, calls = before ++ .updateResults round.id scores now :: after ∧
    (afterAll before s).round? round.id = some old ∧ old.status ≠ .completed ∧
      (∀ m ∈ (afterAll (before ++ [.updateResults round.id scores now]) s).fixturesOf round.id,
        m.status = .completed) ∧
      round = old.atEnd now

theorem afterAll_append_singleton (calls : List Call) (call : Call) (s : Store) :
    afterAll (calls ++ [call]) s = call.after (afterAll calls s) := by
  rw [afterAll, List.foldl_append]
  rfl

/-- A call that completed a round did so in every longer run. -/
theorem Completes.append {calls : List Call} (h : Completes calls s round) (call : Call) :
    Completes (calls ++ [call]) s round := by
  obtain ⟨before, scores, now, after, old, rfl, hrest⟩ := h
  exact ⟨before, scores, now, after ++ [call], old, by simp, hrest⟩

/-- A round that is completed after a run was completed before it, or a call of the run completed
it. -/
theorem completed_by {id : Int} (calls : List Call)
    (hround : (afterAll calls s).round? id = some round) (hstatus : round.status = .completed) :
    s.round? id = some round ∨ Completes calls s round := by
  -- The last call left the round alone, or it is the one that completed it.
  induction calls using List.reverseRecOn with
  | nil => exact .inl hround
  | append_singleton calls call ih =>
    rw [afterAll_append_singleton] at hround
    obtain ⟨old, hold, hleaves⟩ := exists_leaves call hround
    rcases hleaves.of_completed hstatus with rfl | ⟨scores, now, rfl, hopen, hall, rfl⟩
    · rcases ih hold with hbefore | hcompletes
      · exact .inl hbefore
      · exact .inr (hcompletes.append call)
    · right
      rw [← Table.id_of_get? hold] at hold
      refine ⟨calls, scores, now, [], old, rfl, hold, hopen, ?_, rfl⟩
      rw [afterAll_append_singleton]
      exact hall

end Call

/-- The rounds along every run of calls, each of which may return or stop. Just the completed rounds
have a time of completion. A call starts a round only when it was published, and completes it only
when it was not completed, all its matches are after the call, and the call records scores of it. A
completed round stays as it is, and with it its time of completion. And a round that is completed in
the end was so from the beginning, or it has the time of the call that completed it. -/
theorem rounds_complete_once {s : Store} (hs : s.Keyed) (hstamped : s.Stamped) :
    (∀ calls, (Call.afterAll calls s).Stamped) ∧
      (∀ calls (call : Call) id, Option.Rel (call.Leaves (Call.afterAll calls s))
        ((Call.afterAll calls s).round? id) ((Call.afterAll (calls ++ [call]) s).round? id)) ∧
      (∀ before after id round, (Call.afterAll before s).round? id = some round →
        round.status = .completed → (Call.afterAll (before ++ after) s).round? id = some round) ∧
      ∀ calls id round, (Call.afterAll calls s).round? id = some round →
        round.status = .completed → s.round? id = some round ∨ Call.Completes calls s round := by
  refine ⟨?_, ?_, ?_, ?_⟩
  · intro calls
    exact (Call.keyed_stamped_afterAll hs hstamped calls).2
  · intro calls call id
    rw [Call.afterAll_append_singleton]
    exact Call.rel_leaves _ call id
  · intro before after id round hround hstatus
    rw [Call.afterAll, List.foldl_append]
    exact Call.completed_afterAll hround hstatus after
  · intro calls id round hround hstatus
    exact Call.completed_by calls hround hstatus

/-- The open round in a season that is not there, so that its overall prize cannot be paid. -/
def unpayableStore : Store :=
  { openStore with
    seasons := []
    prizeSettings := [⟨1, 1, .round, 1, 1000, none⟩, ⟨2, 1, .overall, 1, 5000, none⟩] }

/-- The round is completed, goes on and is settled half a year later. -/
def unpayableRun : List Call :=
  [.updateResults 1 fullTime.scores .newYear2025, .updateResults 1 reopening.scores .june2025,
    .settle 1 .june2025]

theorem unpaid_round_keeps_completion :
    unpayableStore.Keyed ∧ unpayableStore.Stamped ∧
      ((updateMatchResults 1 fullTime.scores .newYear2025).effect unpayableStore).1 =
        .error (.absentRow "number_of_rounds") ∧
      (Call.afterAll unpayableRun unpayableStore).round? 1 =
        some ⟨1, 1, 1, .newYear2025, .newYear2025, .completed, some .newYear2025⟩ := by
  have hkeyed : unpayableStore.Keyed := by decide
  have hstamped : unpayableStore.Stamped := by decide
  obtain ⟨-, -, hstays, -⟩ := rounds_complete_once hkeyed hstamped
  refine ⟨hkeyed, hstamped, by decide +kernel, ?_⟩
  exact hstays [.updateResults 1 fullTime.scores .newYear2025]
    [.updateResults 1 reopening.scores .june2025, .settle 1 .june2025] 1 _
    (by decide +kernel) rfl

end PredictionLeague
