import PredictionLeague.Proofs.Invariant
import PredictionLeague.Proofs.Updates

/-!
# Calls that may stop

A call that records results goes through stages and may stop between them, and what it did by then
stays done: the scores may be recorded without points, the points made without figures, or the
prizes of some leagues paid and those of others not.

* `Store.carried`, `Store.figured`, `Store.closed`: the store after each stage;
* `effect_updateMatchResults`, `effect_settleScores`, `effect_completeRound`: what a call does,
  stage by stage;
* `Store.Ends`: how a call ends once scores are recorded;
* `Store.Reported`: how a call ends;
* `reported_updateMatchResults`: every call ends in one of these ways.
-/

namespace PredictionLeague

namespace Store

/-! ### Stages -/

/-- A round in play, with the figures from before it frozen. -/
def started (s : Store) (round : Round) (now : DateTime) : Store :=
  (s.leaguesOf round.seasonId).foldl snapshotLeague (s.withRoundStatus round .inProgress now)

/-- The predictions of the given matches judged again. -/
def rejudged (s : Store) (ids : List Int) (now : DateTime) : Store :=
  { s with
    predictions := s.predictions.map fun p =>
      if ids.contains p.matchId then s.judgedAgain now p else p }

/-- The scores recorded, the round started with the first match that kicks off, and the predictions
judged again. -/
def carried (s : Store) (round : Round) (recording : Recording) (now : DateTime) : Store :=
  (if round.status = .published ∧ recording.anyStarted then
      (s.withRecording recording).started round now
    else s.withRecording recording).rejudged recording.updated now

/-- Whether the points of all members by completed matches alone fit. -/
def stableFits (s : Store) (round : Round) : Bool :=
  ((s.leaguesOf round.seasonId).flatMap fun league =>
    (s.stableScores league round.id).map (·.2)).all fits

/-- All leagues of a round ranked by completed matches alone. -/
def ranked (s : Store) (round : Round) : Store :=
  (s.leaguesOf round.seasonId).foldl (fun s league => s.stableLeague round.id league) s

/-- All leagues of a round ranked by their points. -/
def shown (s : Store) (round : Round) : Store :=
  (s.leaguesOf round.seasonId).foldl (fun s league => s.liveLeague round league) s

/-- The points made and the figures shown; the stable ones only when a match was completed. -/
def figured (s : Store) (round : Round) (newly : Bool) : Store :=
  (if newly then (s.recomputed round).ranked round else s.recomputed round).shown round

/-- A round completed, when all its matches are. -/
def closed (s : Store) (round : Round) (now : DateTime) : Store :=
  if (s.fixturesOf round.id).all (·.status == .completed) ∧ round.status ≠ .completed then
    s.withRoundStatus round .completed now
  else s

/-- How a call ends once the scores are recorded and the predictions judged: with points that do not
fit, with points by completed matches that do not fit, or with the figures shown and some prizes
paid. -/
inductive Ends (s : Store) (round : Round) (newly : Bool) (now : DateTime) :
    Except Fault Nat → Store → Prop
  | unpointed (fault : Fault) (hfit : s.pointsFit round = false) :
    Ends s round newly now (.error fault) s
  | unranked (fault : Fault) (hfit : s.pointsFit round = true) (hnewly : newly = true)
    (hstable : (s.recomputed round).stableFits round = false) :
    Ends s round newly now (.error fault) (s.recomputed round)
  | figured (answer : Except Fault Nat) (hfit : s.pointsFit round = true)
    (hstable : newly = true → (s.recomputed round).stableFits round = true)
    (winnings : List Winning) :
    Ends s round newly now answer { (s.figured round newly).closed round now with winnings }

/-- The scores of a call are recorded: all of them are good, and one names a match of the round. -/
structure Accepts (s : Store) (roundId : Int) (scores : List MatchScore) (recording : Recording) :
    Prop where
  key : fits roundId = true
  recorded :
    (recordScores roundId scores (.start (s.fixturesOf roundId))).Returns s recording s
  some : recording.updated ≠ []
  numbers : recording.numbers.all fits = true

theorem exists_started (s : Store) (round : Round) (now : DateTime) :
    ∃ stats, s.started round now = { s.withRoundStatus round .inProgress now with stats } :=
  leagueUpdate_snapshot.exists_foldl _ _

theorem exists_ranked (s : Store) (round : Round) : ∃ stats, s.ranked round = { s with stats } :=
  (leagueUpdate_stable round.id).exists_foldl _ _

theorem exists_shown (s : Store) (round : Round) : ∃ stats, s.shown round = { s with stats } :=
  (leagueUpdate_live round).exists_foldl _ _

/-- The figures touch points and stats. -/
theorem figured_frame (s : Store) (round : Round) (newly : Bool) : ∃ counts points stats,
    s.figured round newly = { s with roundResults := counts, leagueResults := points, stats } := by
  obtain ⟨counts, points, hpoints⟩ := s.recomputed_frame round
  unfold figured
  split
  · obtain ⟨stats, hranked⟩ := (s.recomputed round).exists_ranked round
    obtain ⟨stats', hshown⟩ := ((s.recomputed round).ranked round).exists_shown round
    rw [hshown, hranked, hpoints]
    exact ⟨_, _, _, rfl⟩
  · obtain ⟨stats, hshown⟩ := (s.recomputed round).exists_shown round
    rw [hshown, hpoints]
    exact ⟨_, _, _, rfl⟩

/-- A round that is given a state has it. -/
theorem round?_withRoundStatus (s : Store) {round old : Round} (status : RoundStatus)
    (now : DateTime) (h : s.round? round.id = some old) :
    (s.withRoundStatus round status now).round? round.id = some (round.withStatus status now) :=
  @Table.get?_replace _ _ _ (round.withStatus status now) _ h

/-- Other rounds keep their state. -/
theorem round?_withRoundStatus_of_ne (s : Store) {round : Round} (status : RoundStatus)
    (now : DateTime) {id : Int} (h : id ≠ round.id) :
    (s.withRoundStatus round status now).round? id = s.round? id :=
  @Table.get?_replace_of_ne _ _ _ (round.withStatus status now) _ h

end Store

/-- The present state of a round after a recording. -/
def Round.opened (round : Round) (recording : Recording) (now : DateTime) : Round :=
  if round.status = .published ∧ recording.anyStarted then round.withStatus .inProgress now
  else round

@[simp] theorem Round.id_opened (round : Round) (recording : Recording) (now : DateTime) :
    (round.opened recording now).id = round.id := by
  unfold opened
  split <;> rfl

@[simp] theorem Round.seasonId_opened (round : Round) (recording : Recording) (now : DateTime) :
    (round.opened recording now).seasonId = round.seasonId := by
  unfold opened
  split <;> rfl

/-- How a call ends: it is refused and changes nothing, or its scores are carried through. -/
inductive Store.Reported (s : Store) (round : Round) (scores : List MatchScore) (now : DateTime) :
    Except Fault Nat → Store → Prop
  | refused (answer : Except Fault Nat) (h : ∀ recording, ¬s.Accepts round.id scores recording)
    (hzero : ∀ n, answer = .ok n → n = 0) : Reported s round scores now answer s
  | carried (recording : Recording) (h : s.Accepts round.id scores recording)
    {answer : Except Fault Nat} {t : Store}
    (hends : (s.carried round recording now).Ends (round.opened recording now)
      recording.newlyCompleted now answer t) :
    Reported s round scores now answer t

/-- A round stands in its present state once the scores are recorded. -/
theorem Store.round?_carried (s : Store) {round : Round} (recording : Recording) (now : DateTime)
    (hround : s.round? round.id = some round) :
    (s.carried round recording now).round? round.id = some (round.opened recording now) := by
  rw [carried, Round.opened]
  by_cases hstart : round.status = .published ∧ recording.anyStarted
  · rw [if_pos hstart, if_pos hstart]
    obtain ⟨stats, hstats⟩ := (s.withRecording recording).exists_started round now
    rw [hstats]
    exact s.round?_withRoundStatus .inProgress now hround
  · rw [if_neg hstart, if_neg hstart]
    exact hround

/-! ### The actions -/

section Actions

open Engine Store

variable {s : Store} {round : Round} {now : DateTime}

/-- After an action that returns. -/
theorem Engine.Returns.effect_bind {α β : Type} {x : Engine α} {s t : Store} {a : α}
    (h : x.Returns s a t) (f : α → Engine β) [∀ a, Quiet (f a)] :
    (x >>= f).effect s = (f a).effect t := by
  rw [Engine.effect_bind, h]

/-- What is done with the answer of an action does not change the store. -/
theorem Engine.storeAfter_bind_pure {α β : Type} (x : Engine α) (f : α → β) (s : Store) :
    (do let a ← x; return f a : Engine β).storeAfter s = x.storeAfter s := by
  rw [storeAfter_eq, storeAfter_eq, Engine.effect_bind]
  rcases x.effect s with ⟨_ | _, _⟩
  · rfl
  · rfl

/-- Starting a round does not fail. -/
theorem returns_startRound (hround : fits round.id = true ∧ s.round? round.id = some round) :
    (startRound round now).Returns s () (s.started round now) := by
  have hfound : (s.withRoundStatus round .inProgress now).round? round.id =
      some (round.withStatus .inProgress now) := s.round?_withRoundStatus _ now hround.2
  unfold startRound
  rw [returns_current_bind, returns_put_bind, returns_bind]
  refine ⟨_, s.started round now, returns_takeSnapshots.2 ⟨_, ⟨hround.1, hfound⟩, rfl, rfl⟩, ?_⟩
  exact (returns_say_bind (f := fun _ => pure ())).2 (returns_pure.2 ⟨rfl, rfl⟩)

/-- The prizes may stop at some league; nothing but winnings is changed. -/
theorem storeAfter_settlePrizes (s : Store) (round : Round) (now : DateTime) :
    ∃ winnings, (settlePrizes round now).storeAfter s = { s with winnings } := by
  have hkeeps : Keeps (fun t => ∃ winnings, t = { s with winnings }) (settlePrizes round now) := by
    refine KeptByWrites.keeps_settlePrizes ?_ round now
    rintro _ _ _ _ _ ⟨winnings, rfl⟩ _
    exact ⟨_, rfl⟩
  exact hkeeps.storeAfter ⟨s.winnings, rfl⟩

/-- Completing a round whose matches are all over pays its prizes. -/
theorem effect_completeRound (hround : fits round.id = true ∧ s.round? round.id = some round) :
    (completeRound round.id now).effect s =
      if (s.fixturesOf round.id).all (·.status == .completed) then
        (do let _ ← settlePrizes round now : Engine Unit).effect (s.closed round now)
      else (.ok (), s) := by
  unfold completeRound
  rw [Engine.effect_bind, effect_getRound, found_eq_ok.2 hround]
  simp only
  rw [Engine.effect_bind, effect_current, closed]
  simp only [effect_ite]
  by_cases hall : (s.fixturesOf round.id).all (·.status == .completed) = true
  · by_cases hstatus : round.status = .completed
    · rw [if_pos hall, if_pos hall, if_neg (not_not.2 hstatus), if_neg (fun h => h.2 hstatus)]
    · rw [if_pos hall, if_pos hall, if_pos hstatus, if_pos ⟨hall, hstatus⟩]
      rw [Engine.effect_bind, effect_put]
      simp only
      rw [Engine.effect_bind, effect_say]
  · rw [if_neg hall, if_neg hall]
    rfl

/-- Completing a round changes its state, and winnings. -/
theorem storeAfter_completeRound (hround : fits round.id = true ∧ s.round? round.id = some round)
    (now : DateTime) : ∃ winnings,
      (completeRound round.id now).storeAfter s = { s.closed round now with winnings } := by
  rw [storeAfter_eq, effect_completeRound hround]
  by_cases hall : (s.fixturesOf round.id).all (·.status == .completed) = true
  · rw [if_pos hall, ← storeAfter_eq, storeAfter_bind_pure]
    exact storeAfter_settlePrizes (s.closed round now) round now
  · rw [if_neg hall, closed, if_neg (fun h => hall h.1)]
    exact ⟨s.winnings, rfl⟩

/-- The stable figures are refused when their points do not fit. -/
theorem effect_updateStableStats
    (hround : fits round.id = true ∧ s.round? round.id = some round) :
    (updateStableStats round.id).effect s =
      if s.stableFits round then (.ok (s.leaguesOf round.seasonId).length, s.ranked round)
      else (.error .integerTooLarge, s) := by
  unfold updateStableStats
  rw [Engine.effect_bind, effect_getRound, found_eq_ok.2 hround]
  simp only
  rw [Engine.effect_bind, effect_current]
  simp only
  rw [Engine.effect_bind, effect_checkAll, ← stableFits]
  cases hfit : s.stableFits round with
  | true => rfl
  | false => rfl

/-- The live figures do not fail. -/
theorem returns_shown (hround : fits round.id = true ∧ s.round? round.id = some round) :
    (updateLiveStats round.id).Returns s (s.leaguesOf round.seasonId).length (s.shown round) :=
  returns_updateLiveStats.2 ⟨round, hround, rfl, rfl⟩

/-- What follows once the predictions are judged: it stops at points that do not fit, or shows the
figures and completes the round. -/
theorem effect_settleScores (hround : fits round.id = true ∧ s.round? round.id = some round)
    (recording : Recording) :
    (settleScores round.id recording now).effect s =
      if s.pointsFit round then
        if recording.newlyCompleted = true ∧ (s.recomputed round).stableFits round = false then
          (.error .integerTooLarge, s.recomputed round)
        else
          (do
            completeRound round.id now
            return recording.updated.length : Engine Nat).effect
              (s.figured round recording.newlyCompleted)
      else (.error .integerTooLarge, s) := by
  unfold settleScores
  rw [Engine.effect_bind, effect_recomputePoints, found_eq_ok.2 hround]
  simp only
  cases hfit : s.pointsFit round with
  | false => rfl
  | true =>
    have hpointed : fits round.id = true ∧ (s.recomputed round).round? round.id = some round := by
      rwa [s.round?_recomputed]
    simp only [reduceIte]
    cases hnewly : recording.newlyCompleted with
    | false =>
      rw [showScores, hnewly]
      exact (returns_shown hpointed).effect_bind _
    | true =>
      rw [showScores, hnewly]
      simp only [reduceIte, true_and]
      rw [Engine.effect_bind, effect_updateStableStats hpointed]
      cases hstable : (s.recomputed round).stableFits round with
      | false => rfl
      | true =>
        obtain ⟨stats, hranked⟩ := (s.recomputed round).exists_ranked round
        have hround' : fits round.id = true ∧
            ((s.recomputed round).ranked round).round? round.id = some round := by
          rw [hranked]
          exact hpointed
        exact (returns_shown hround').effect_bind _

/-- When what follows once the predictions are judged returns. -/
theorem returns_settleScores {n : Nat} {t : Store}
    (hround : fits round.id = true ∧ s.round? round.id = some round) (recording : Recording) :
    (settleScores round.id recording now).Returns s n t ↔
      s.pointsFit round = true ∧
        (recording.newlyCompleted = true → (s.recomputed round).stableFits round = true) ∧
        (completeRound round.id now).Returns (s.figured round recording.newlyCompleted) () t ∧
        n = recording.updated.length := by
  rw [Returns, effect_settleScores hround]
  cases hfit : s.pointsFit round with
  | false => simp
  | true =>
    rw [if_pos rfl]
    by_cases hstable : recording.newlyCompleted = true ∧
        (s.recomputed round).stableFits round = false
    · rw [if_pos hstable]
      simp [hstable.1, hstable.2]
    · rw [if_neg hstable]
      have hranked : recording.newlyCompleted = true →
          (s.recomputed round).stableFits round = true := by simpa using hstable
      refine Iff.trans (b := (completeRound round.id now >>= fun _ =>
        pure recording.updated.length).Returns _ n t) Iff.rfl ?_
      rw [returns_bind]
      simp only [returns_pure, true_and]
      constructor
      · rintro ⟨_, u, hcomplete, rfl, rfl⟩
        exact ⟨hranked, hcomplete, rfl⟩
      · rintro ⟨-, hcomplete, rfl⟩
        exact ⟨(), t, hcomplete, rfl, rfl⟩

/-- What follows once the points are made. -/
theorem ends_settleScores (hround : fits round.id = true ∧ s.round? round.id = some round)
    (recording : Recording) (now : DateTime) : s.Ends round recording.newlyCompleted now
      ((settleScores round.id recording now).effect s).1
      ((settleScores round.id recording now).storeAfter s) := by
  rw [storeAfter_eq, effect_settleScores hround]
  cases hfit : s.pointsFit round with
  | false => exact .unpointed _ hfit
  | true =>
    rw [if_pos rfl]
    by_cases hstable : recording.newlyCompleted = true ∧
        (s.recomputed round).stableFits round = false
    · rw [if_pos hstable]
      exact .unranked _ hfit hstable.1 hstable.2
    · rw [if_neg hstable]
      obtain ⟨counts, points, stats, hfigured⟩ := s.figured_frame round recording.newlyCompleted
      have hround' : fits round.id = true ∧
          (s.figured round recording.newlyCompleted).round? round.id = some round := by
        rw [hfigured]
        exact hround
      obtain ⟨winnings, hclosed⟩ := storeAfter_completeRound hround' now
      rw [← storeAfter_eq, storeAfter_bind_pure, hclosed]
      refine .figured _ hfit (fun hnewly => ?_) winnings
      by_contra hunfit
      exact hstable ⟨hnewly, Bool.eq_false_of_not_eq_true hunfit⟩

/-- A call whose scores are recorded starts its round with the first match that kicks off and judges
the predictions again; neither fails. -/
theorem effect_carryScores (hround : fits round.id = true ∧ s.round? round.id = some round)
    (recording : Recording) :
    (carryScores round recording round.id now).effect (s.withRecording recording) =
      (settleScores round.id recording now).effect (s.carried round recording now) := by
  have hjudge (t : Store) : (rescoreMatches recording.updated now).Returns t ()
      (t.rejudged recording.updated now) := returns_rescoreMatches.2 rfl
  unfold carryScores
  rw [carried]
  by_cases hstart : round.status = .published ∧ recording.anyStarted
  · simp only [if_pos hstart]
    have hstarted : (startRound round now).Returns (s.withRecording recording) ()
        ((s.withRecording recording).started round now) := returns_startRound hround
    rw [hstarted.effect_bind, (hjudge _).effect_bind]
  · simp only [if_neg hstart]
    rw [(hjudge _).effect_bind]

/-- What follows once the scores are recorded. -/
theorem ends_carryScores (hround : fits round.id = true ∧ s.round? round.id = some round)
    (recording : Recording) :
    (s.carried round recording now).Ends (round.opened recording now) recording.newlyCompleted now
      ((carryScores round recording round.id now).effect (s.withRecording recording)).1
      ((carryScores round recording round.id now).storeAfter (s.withRecording recording)) := by
  have hfound := s.round?_carried recording now hround.2
  rw [← round.id_opened recording now] at hfound
  have hends := ends_settleScores ⟨by simpa using hround.1, hfound⟩ recording now
  rw [storeAfter_eq, effect_carryScores hround]
  rwa [storeAfter_eq, round.id_opened] at hends

/-- A call that takes its scores records them and carries them through. -/
theorem effect_updateMatchResults {scores : List MatchScore} {recording : Recording}
    (hround : s.round? round.id = some round) (h : s.Accepts round.id scores recording) :
    (updateMatchResults round.id scores now).effect s =
      (settleScores round.id recording now).effect (s.carried round recording now) := by
  have hsome : ¬recording.updated.isEmpty = true := by simpa using h.some
  rw [updateMatchResults_eq, Engine.effect_bind, effect_getRound, found_eq_ok.2 ⟨h.key, hround⟩]
  simp only
  rw [Engine.effect_bind, effect_current]
  simp only
  rw [h.recorded.effect_bind, if_neg hsome, Engine.effect_bind, effect_checkAll, h.numbers]
  simp only [checked, reduceIte]
  rw [Engine.effect_bind, effect_put]
  exact effect_carryScores ⟨h.key, hround⟩ recording

/-- Every call is refused or carried through. -/
theorem reported_updateMatchResults {roundId : Int} (hround : s.round? roundId = some round)
    (scores : List MatchScore) (now : DateTime) :
    s.Reported round scores now ((updateMatchResults roundId scores now).effect s).1
      ((updateMatchResults roundId scores now).storeAfter s) := by
  obtain rfl : round.id = roundId := Table.id_of_get? hround
  have hrefused (answer : Except Fault Nat) (hanswer : ∀ n, answer = .ok n → n = 0)
      (h : ∀ recording, ¬s.Accepts round.id scores recording) :
      s.Reported round scores now answer s := .refused answer h hanswer
  rw [updateMatchResults_eq, storeAfter_eq, Engine.effect_bind, effect_getRound]
  cases hfound : found "Round" (s.round? round.id) round.id with
  | error fault =>
    refine hrefused _ (by simp) fun recording h => ?_
    rw [found_eq_ok.2 ⟨h.key, hround⟩] at hfound
    simp at hfound
  | ok round' =>
    have hround' := found_eq_ok.1 hfound
    obtain rfl : round = round' := Option.some.inj (hround.symm.trans hround'.2)
    simp only
    rw [Engine.effect_bind, effect_current]
    simp only
    rw [Engine.effect_bind]
    -- Recording only reads the store.
    have hkept : (recordScores round.id scores (.start (s.fixturesOf round.id))).storeAfter s = s :=
      Keeps.storeAfter (P := (· = s)) (KeptByWrites.keeps_recordScores round.id scores _) rfl
    rw [storeAfter_eq] at hkept
    rcases hrecord : (recordScores round.id scores (.start (s.fixturesOf round.id))).effect s with
      ⟨fault | recording, t⟩
    · obtain rfl : t = s := by
        rw [hrecord] at hkept
        exact hkept
      refine hrefused _ (by simp) fun recording h => ?_
      have hreturns := h.recorded
      rw [Returns, hrecord] at hreturns
      simp at hreturns
    · obtain rfl : t = s := by
        rw [hrecord] at hkept
        exact hkept
      have honly {recording' : Recording} (h : t.Accepts round.id scores recording') :
          recording' = recording := by
        have hreturns := h.recorded
        rw [Returns, hrecord] at hreturns
        simpa using hreturns.symm
      simp only [effect_ite]
      by_cases hempty : recording.updated.isEmpty = true
      · rw [if_pos hempty]
        refine hrefused _ (by simp) fun recording' h => ?_
        exact h.some (honly h ▸ List.isEmpty_iff.1 hempty)
      · rw [if_neg hempty, Engine.effect_bind, effect_checkAll]
        cases hnumbers : recording.numbers.all fits with
        | false =>
          refine hrefused (.error .integerTooLarge) (by simp) fun recording' h => ?_
          have hfits := h.numbers
          rw [honly h, hnumbers] at hfits
          simp at hfits
        | true =>
          refine .carried recording ⟨hround'.1, hrecord, ?_, hnumbers⟩ ?_
          · simpa using hempty
          · simp only [checked, reduceIte]
            rw [Engine.effect_bind, effect_put]
            exact ends_carryScores hround' recording

/-- A call that returns accepts its scores when one of them names a match of the round. -/
theorem exists_accepts {scores : List MatchScore} {n : Nat} {t : Store} (hs : s.Keyed)
    (h : (updateMatchResults round.id scores now).Returns s n t) (hname : s.Named round.id scores) :
    ∃ recording, s.Accepts round.id scores recording := by
  rw [updateMatchResults_eq] at h
  obtain ⟨round', ⟨hkey, -⟩, h⟩ := returns_getRound_bind.1 h
  rw [returns_current_bind] at h
  obtain ⟨recording, u, hrecord, h⟩ := returns_bind.1 h
  obtain ⟨rfl, -, hupdated⟩ := recordScores_returns (hs.fixtures.filter _).nodup_ids hrecord
  have hsome : recording.updated ≠ [] := by
    obtain ⟨m, hm, hlast⟩ := hname
    have hmem : m.id ∈ recording.updated :=
      (hupdated m.id).2 (.inr ⟨List.mem_map_of_mem hm, hlast⟩)
    exact List.ne_nil_of_mem hmem
  rw [if_neg (by simpa using hsome)] at h
  obtain ⟨hnumbers, -⟩ := returns_checkAll_bind.1 h
  exact ⟨recording, hkey, hrecord, hsome, hnumbers⟩

/-- A call for a round that does not exist changes nothing. -/
theorem storeAfter_updateMatchResults_of_none {roundId : Int} (h : s.round? roundId = none)
    (scores : List MatchScore) (now : DateTime) :
    (updateMatchResults roundId scores now).storeAfter s = s := by
  rw [updateMatchResults_eq, storeAfter_eq, Engine.effect_bind, effect_getRound]
  cases hfound : found "Round" (s.round? roundId) roundId with
  | error fault => rfl
  | ok round =>
    have hround := (found_eq_ok.1 hfound).2
    rw [h] at hround
    simp at hround

/-- What a call keeps however it ends for a round that exists, it keeps for any. -/
theorem kept_updateMatchResults {P : Store → Prop} {roundId : Int} {scores : List MatchScore}
    (hs : P s)
    (h : ∀ round answer t, round.id = roundId → s.round? round.id = some round →
      s.Reported round scores now answer t → P t) :
    P ((updateMatchResults roundId scores now).storeAfter s) := by
  cases hround : s.round? roundId with
  | none => rwa [storeAfter_updateMatchResults_of_none hround]
  | some round =>
    have hid : round.id = roundId := Table.id_of_get? hround
    exact h round _ _ hid (hid ▸ hround) (reported_updateMatchResults hround scores now)

end Actions

/-! ### What the stages leave -/

namespace Store

variable {s t : Store} {round : Round} {roundId : Int} {scores : List MatchScore}
  {recording : Recording} {now : DateTime} {newly : Bool} {answer : Except Fault Nat}

/-- There is one recording of the scores. -/
theorem Accepts.unique {recording' : Recording} (h : s.Accepts roundId scores recording)
    (h' : s.Accepts roundId scores recording') : recording = recording' := by
  have hsame := h.recorded.symm.trans h'.recorded
  simpa using hsame

section Accepts

variable (hs : s.Keyed) (h : s.Accepts roundId scores recording)

include hs h

theorem Accepts.fixtures :
    recording.fixtures = (s.fixturesOf roundId).map (Match.afterScores scores) := by
  obtain ⟨-, hfixtures, -⟩ := recordScores_returns (hs.fixtures.filter _).nodup_ids h.recorded
  exact hfixtures

theorem Accepts.mem_updated (id : Int) : id ∈ recording.updated ↔
    id ∈ (s.fixturesOf roundId).map (·.id) ∧ (lastScore? scores id).isSome = true := by
  obtain ⟨-, -, hupdated⟩ := recordScores_returns (hs.fixtures.filter _).nodup_ids h.recorded
  rw [hupdated]
  exact or_iff_right List.not_mem_nil

theorem Accepts.newly_iff :
    recording.newlyCompleted = true ↔ Completes (s.fixturesOf roundId) scores := by
  rw [newlyCompleted_recordScores (hs.fixtures.filter _).nodup_ids h.recorded]
  exact or_iff_right Bool.false_ne_true

/-- One of the scores names a match of the round. -/
theorem Accepts.named : s.Named roundId scores := by
  obtain ⟨id, hid⟩ := List.exists_mem_of_ne_nil _ h.some
  obtain ⟨hmem, hlast⟩ := (h.mem_updated hs id).1 hid
  obtain ⟨m, hm, rfl⟩ := List.mem_map.1 hmem
  exact ⟨m, hm, hlast⟩

end Accepts

/-- A call that takes its scores and returns brings the store up to date. -/
theorem Keyed.refreshed_of_accepts {n : Nat} (hs : s.Keyed) (hround : s.round? roundId = some round)
    (haccepts : s.Accepts roundId scores recording)
    (h : (updateMatchResults roundId scores now).Returns s n t) : s.Refreshed t round scores now :=
  refreshed_of_named hs hround h (haccepts.named hs)

/-- A call that tells of a score it took names a match of its round. -/
theorem Keyed.named_of_taken {n : Nat} (hs : s.Keyed) (hround : s.round? roundId = some round)
    (h : (updateMatchResults roundId scores now).Returns s n t) (hn : n ≠ 0) :
    s.Named roundId scores := by
  obtain rfl : round.id = roundId := Table.id_of_get? hround
  have hreported := reported_updateMatchResults hround scores now
  rw [h.storeAfter, h] at hreported
  cases hreported with
  | refused _ _ hzero => exact absurd (hzero n rfl) hn
  | carried recording haccepts _ => exact haccepts.named hs

/-- So it brings the store up to date. -/
theorem Keyed.refreshed_of_taken {n : Nat} (hs : s.Keyed) (hround : s.round? roundId = some round)
    (h : (updateMatchResults roundId scores now).Returns s n t) (hn : n ≠ 0) :
    s.Refreshed t round scores now :=
  refreshed_of_named hs hround h (hs.named_of_taken hround h hn)

theorem Keyed.started (hs : s.Keyed) (hround : round ∈ s.rounds) (now : DateTime) :
    (s.started round now).Keyed :=
  leagueUpdate_snapshot.keyed_foldl (hs.withRoundStatus hround .inProgress now).1 _

section Carried

variable (hs : s.Keyed) (h : s.Accepts round.id scores recording)

include hs h

theorem Keyed.fixtures_accepted :
    (s.withRecording recording).fixtures = s.fixtures.map (matchAfter round.id scores) :=
  hs.fixtures_withRecording (h.fixtures hs)

theorem Keyed.carried (hround : s.round? round.id = some round) (now : DateTime) :
    (s.carried round recording now).Keyed := by
  have hrecorded : (s.withRecording recording).Keyed := hs.withFixtures (hs.fixtures_accepted h)
  have hmem : round ∈ s.rounds := ((Table.get?_eq_some hs.rounds).1 hround).1
  unfold Store.carried
  split
  · exact { hrecorded.started hmem now with }
  · exact { hrecorded with }

theorem Keyed.fixtures_carried (now : DateTime) : (s.carried round recording now).fixtures =
    s.fixtures.map (matchAfter round.id scores) := by
  rw [← hs.fixtures_accepted h]
  unfold Store.carried
  split
  · obtain ⟨stats, hstats⟩ := (s.withRecording recording).exists_started round now
    rw [hstats]
    rfl
  · rfl

theorem Keyed.predictions_carried (now : DateTime) : (s.carried round recording now).predictions =
    s.predictions.map (s.predictionAfter round.id scores now) := by
  have hjudged {t : Store} (hfixtures : t.fixtures = s.fixtures.map (matchAfter round.id scores))
      (hpredictions : t.predictions = s.predictions) :
      (t.rejudged recording.updated now).predictions =
        s.predictions.map (s.predictionAfter round.id scores now) := by
    rw [rejudged, hpredictions]
    exact List.map_congr_left fun p _ => hs.judgedAgain_eq hfixtures (h.mem_updated hs) now p
  unfold Store.carried
  split
  · obtain ⟨stats, hstats⟩ := (s.withRecording recording).exists_started round now
    rw [hstats]
    exact hjudged (hs.fixtures_accepted h) rfl
  · exact hjudged (hs.fixtures_accepted h) rfl

end Carried

/-- Recording touches matches, predictions, states of rounds and stats. -/
theorem carried_frame (s : Store) (round : Round) (recording : Recording) (now : DateTime) :
    ∃ fixtures predictions rounds stats,
      s.carried round recording now = { s with fixtures, predictions, rounds, stats } := by
  unfold Store.carried
  split
  · obtain ⟨stats, hstats⟩ := (s.withRecording recording).exists_started round now
    rw [hstats]
    exact ⟨_, _, _, _, rfl⟩
  · exact ⟨_, _, _, _, rfl⟩

@[simp] theorem members_carried (s : Store) (round : Round) (recording : Recording)
    (now : DateTime) : (s.carried round recording now).members = s.members := by
  obtain ⟨fixtures, predictions, rounds, stats, hframe⟩ := s.carried_frame round recording now
  rw [hframe]

@[simp] theorem isMember_carried (s : Store) (round : Round) (recording : Recording)
    (now : DateTime) : (s.carried round recording now).isMember = s.isMember := by
  unfold isMember
  rw [members_carried]

@[simp] theorem leaguesOf_carried (s : Store) (round : Round) (recording : Recording)
    (now : DateTime) : (s.carried round recording now).leaguesOf = s.leaguesOf := by
  obtain ⟨fixtures, predictions, rounds, stats, hframe⟩ := s.carried_frame round recording now
  rw [hframe]
  rfl

theorem Keyed.ranked (hs : s.Keyed) (round : Round) : (s.ranked round).Keyed :=
  (leagueUpdate_stable round.id).keyed_foldl hs _

theorem Keyed.shown (hs : s.Keyed) (round : Round) : (s.shown round).Keyed :=
  (leagueUpdate_live round).keyed_foldl hs _

/-- Where all members of the leagues of a round show the figures of their points, nothing is left
to show. -/
theorem Keyed.shown_eq_self (hs : s.Keyed)
    (h : ∀ league ∈ s.leaguesOf round.seasonId, ∀ userId, s.isMember league.id userId = true →
      s.figuresOf league.id userId = [s.liveFigures round league.id userId]) :
    s.shown round = s :=
  foldl_eq_self fun league hleague => hs.liveLeague_eq_self (h league hleague)

/-- What ranking keeps of every row, it keeps of the stats that a player has. -/
theorem Keyed.map_statsOf_ranked {α : Type} {f : MemberStats → α} {x : α} {leagueId userId : Int}
    (hs : s.Keyed) (round : Round)
    (hf : ∀ u league r, f (stableRow u round.id league r) = f r)
    (h : (s.statsOf leagueId userId).map f = [x]) :
    ((s.ranked round).statsOf leagueId userId).map f = [x] := by
  refine (leagueUpdate_stable round.id).statsOf_foldl (P := fun rows => rows.map f = [x]) hs _ ?_ h
  rintro stats hkeyed league rfl hrows
  exact hkeyed.map_statsOf_changeStats (key_stableRow _ round.id league) (hf _ league) hrows

/-- And so does showing the points. -/
theorem Keyed.map_statsOf_shown {α : Type} {f : MemberStats → α} {x : α} {leagueId userId : Int}
    (hs : s.Keyed) (round : Round) (hf : ∀ u league r, f (liveRow u round league r) = f r)
    (h : (s.statsOf leagueId userId).map f = [x]) :
    ((s.shown round).statsOf leagueId userId).map f = [x] := by
  refine (leagueUpdate_live round).statsOf_foldl (P := fun rows => rows.map f = [x]) hs _ ?_ h
  rintro stats hkeyed league rfl hrows
  exact hkeyed.map_statsOf_changeStats (key_liveRow _ round league) (hf _ league) hrows

theorem Keyed.figured (hs : s.Keyed) (round : Round) (newly : Bool) :
    (s.figured round newly).Keyed := by
  have hpoints := hs.recomputed round
  unfold Store.figured
  split
  · exact (hpoints.ranked round).shown round
  · exact hpoints.shown round

/-- What each ranking keeps of the stats, whatever the points, the figures keep. -/
theorem Keyed.stats_figured (hs : s.Keyed) (newly : Bool) {P : List MemberStats → Prop}
    (h : P s.stats)
    (hranked : ∀ counts points stats,
      { s with roundResults := counts, leagueResults := points, stats }.Keyed → P stats →
        P ({ s with roundResults := counts, leagueResults := points, stats }.ranked round).stats)
    (hshown : ∀ counts points stats,
      { s with roundResults := counts, leagueResults := points, stats }.Keyed → P stats →
        P ({ s with roundResults := counts, leagueResults := points, stats }.shown round).stats) :
    P (s.figured round newly).stats := by
  have hkeyed := hs.recomputed round
  obtain ⟨counts, points, hpoints⟩ := s.recomputed_frame round
  rw [hpoints] at hkeyed
  unfold Store.figured
  rw [hpoints]
  split
  · obtain ⟨stats, hstats⟩ :=
      Store.exists_ranked { s with roundResults := counts, leagueResults := points } round
    have hrank := hranked counts points s.stats hkeyed h
    have hkeyed' := hkeyed.ranked round
    rw [hstats] at hrank hkeyed' ⊢
    exact hshown counts points stats hkeyed' hrank
  · exact hshown counts points s.stats hkeyed h

/-- Recording leaves the states of other rounds alone. -/
theorem round?_carried_of_ne (s : Store) {round : Round} (recording : Recording) (now : DateTime)
    {id : Int} (hne : id ≠ round.id) : (s.carried round recording now).round? id = s.round? id := by
  unfold Store.carried
  split
  · obtain ⟨stats, hstats⟩ := (s.withRecording recording).exists_started round now
    rw [hstats]
    exact s.round?_withRoundStatus_of_ne .inProgress now hne
  · rfl

theorem closed_frame (s : Store) (round : Round) (now : DateTime) :
    ∃ rounds, s.closed round now = { s with rounds } := by
  unfold closed
  split
  · exact ⟨_, rfl⟩
  · exact ⟨_, rfl⟩

theorem Keyed.closed (hs : s.Keyed) (hround : round ∈ s.rounds) (now : DateTime) :
    (s.closed round now).Keyed := by
  unfold Store.closed
  split
  · exact (hs.withRoundStatus hround .completed now).1
  · exact hs

/-- Showing figures leaves points alone, and what they are about. -/
theorem progressed_figured (s : Store) (round : Round) (newly : Bool) :
    (s.recomputed round).Progressed (s.figured round newly) := by
  have hshown (u : Store) : u.Progressed (u.shown round) := by
    obtain ⟨stats, hstats⟩ := u.exists_shown round
    rw [hstats]
    exact .of_stats stats
  unfold figured
  split
  · obtain ⟨stats, hranked⟩ := (s.recomputed round).exists_ranked round
    refine .trans ?_ (hshown ((s.recomputed round).ranked round))
    rw [hranked]
    exact .of_stats stats
  · exact hshown (s.recomputed round)

theorem Keyed.progressed_closed (hs : s.Keyed) (hround : round ∈ s.rounds) (now : DateTime) :
    s.Progressed (s.closed round now) := by
  unfold Store.closed
  split
  · exact (hs.withRoundStatus hround .completed now).2
  · exact .refl s

theorem mem_rounds_figured (hround : round ∈ s.rounds) (newly : Bool) :
    round ∈ (s.figured round newly).rounds := by
  obtain ⟨counts, points, stats, hfigured⟩ := s.figured_frame round newly
  rw [hfigured]
  exact hround

/-- A round that is completed stays in its place and has the same awards. -/
theorem exists_round?_closed (hround : s.round? round.id = some round) (now : DateTime) :
    ∃ round', (s.closed round now).round? round.id = some round' ∧ round'.slot = round.slot ∧
      ∀ u : Store, u.leagueAwards round' = u.leagueAwards round := by
  unfold closed
  split
  · exact ⟨_, s.round?_withRoundStatus .completed now hround, rfl, fun u => rfl⟩
  · exact ⟨round, hround, rfl, fun u => rfl⟩

theorem leaguesOf_figured (s : Store) (round : Round) (newly : Bool) :
    (s.figured round newly).leaguesOf = s.leaguesOf := by
  obtain ⟨counts, points, stats, hfigured⟩ := s.figured_frame round newly
  rw [hfigured]
  rfl

theorem leaguesOf_closed (s : Store) (round : Round) (now : DateTime) :
    (s.closed round now).leaguesOf = s.leaguesOf := by
  obtain ⟨rounds, hclosed⟩ := s.closed_frame round now
  rw [hclosed]
  rfl

/-- Once the scores are recorded a call touches points, stats, states of rounds and winnings. -/
theorem Ends.frame (h : s.Ends round newly now answer t) : ∃ counts points stats rounds winnings,
    t = { s with
      roundResults := counts, leagueResults := points, stats, rounds, winnings } := by
  cases h with
  | unpointed fault hfit => exact ⟨_, _, _, _, _, rfl⟩
  | unranked fault hfit hnewly hstable =>
    obtain ⟨counts, points, hpoints⟩ := s.recomputed_frame round
    rw [hpoints]
    exact ⟨_, _, _, _, _, rfl⟩
  | figured answer hfit hstable winnings =>
    obtain ⟨counts, points, stats, hfigured⟩ := s.figured_frame round newly
    obtain ⟨rounds, hclosed⟩ := (s.figured round newly).closed_frame round now
    rw [hclosed, hfigured]
    exact ⟨_, _, _, _, _, rfl⟩

/-- Once the scores are recorded a round keeps its state, or it is completed because all its matches
are. -/
theorem Ends.round? (h : s.Ends round newly now answer t)
    (hround : s.round? round.id = some round) :
    t.round? round.id = some round ∨
      (∀ m ∈ s.fixturesOf round.id, m.status = .completed) ∧
        t.round? round.id = some (round.withStatus .completed now) := by
  cases h with
  | unpointed fault hfit => exact .inl hround
  | unranked fault hfit hnewly hstable => exact .inl ((s.round?_recomputed round _).trans hround)
  | figured answer hfit hstable winnings =>
    obtain ⟨counts, points, stats, hfigured⟩ := s.figured_frame round newly
    rw [hfigured, closed]
    split
    · rename_i hall
      refine .inr ⟨?_, round?_withRoundStatus _ .completed now hround⟩
      intro m hm
      simpa using List.all_eq_true.1 hall.1 m hm
    · exact .inl hround

/-- Other rounds keep their states. -/
theorem Ends.round?_of_ne (h : s.Ends round newly now answer t) {id : Int} (hne : id ≠ round.id) :
    t.round? id = s.round? id := by
  cases h with
  | unpointed fault hfit => rfl
  | unranked fault hfit hnewly hstable => exact s.round?_recomputed round id
  | figured answer hfit hstable winnings =>
    obtain ⟨counts, points, stats, hfigured⟩ := s.figured_frame round newly
    rw [hfigured, closed]
    split
    · exact round?_withRoundStatus_of_ne _ .completed now hne
    · rfl

theorem Ends.keyed (h : s.Ends round newly now answer t) (hs : s.Keyed)
    (hround : round ∈ s.rounds) : t.Keyed := by
  cases h with
  | unpointed fault hfit => exact hs
  | unranked fault hfit hnewly hstable => exact hs.recomputed round
  | figured answer hfit hstable winnings =>
    obtain ⟨counts, points, stats, hfigured⟩ := s.figured_frame round newly
    have hmem : round ∈ (s.figured round newly).rounds := by
      rw [hfigured]
      exact hround
    exact { (hs.figured round newly).closed hmem now with }

/-! ### What a call leaves -/

theorem Reported.keyed (h : s.Reported round scores now answer t) (hs : s.Keyed)
    (hround : s.round? round.id = some round) : t.Keyed := by
  cases h with
  | refused => exact hs
  | carried recording haccepts hends =>
    have hcarried := hs.carried haccepts hround now
    have hfound := s.round?_carried recording now hround
    exact hends.keyed hcarried ((Table.get?_eq_some hcarried.rounds).1 hfound).1

/-- In the end the round is in its present state, or it is completed because all its matches
are. -/
theorem Ends.round?_of_carried (hround : s.round? round.id = some round)
    (hends : (s.carried round recording now).Ends (round.opened recording now) newly now answer t) :
    t.round? round.id = some (round.opened recording now) ∨
      (∀ m ∈ t.fixturesOf round.id, m.status = .completed) ∧
        t.round? round.id = some ((round.opened recording now).withStatus .completed now) := by
  have hfixtures : t.fixturesOf round.id =
      (s.carried round recording now).fixturesOf round.id := by
    obtain ⟨counts, points, stats, rounds, winnings, hframe⟩ := hends.frame
    rw [hframe]
    rfl
  have hfound := s.round?_carried recording now hround
  rw [← round.id_opened recording now] at hfound
  have hround' := hends.round? hfound
  rwa [round.id_opened, ← hfixtures] at hround'

/-- In the end every match has the last score that it was given. -/
theorem Ends.fixtures_of_accepts (hs : s.Keyed) (h : s.Accepts round.id scores recording)
    {round' : Round} (hends : (s.carried round recording now).Ends round' newly now answer t) :
    t.fixtures = s.fixtures.map (matchAfter round.id scores) := by
  obtain ⟨counts, points, stats, rounds, winnings, hframe⟩ := hends.frame
  rw [hframe]
  exact hs.fixtures_carried h now

/-- A call for one round leaves the states of the others alone. -/
theorem Reported.round?_of_ne (h : s.Reported round scores now answer t) {id : Int}
    (hne : id ≠ round.id) : t.round? id = s.round? id := by
  cases h with
  | refused => rfl
  | carried recording haccepts hends =>
    rw [hends.round?_of_ne (by simpa using hne), s.round?_carried_of_ne recording now hne]

/-- And their matches. -/
theorem Reported.fixturesOf_of_ne (h : s.Reported round scores now answer t) (hs : s.Keyed)
    {id : Int} (hne : id ≠ round.id) : t.fixturesOf id = s.fixturesOf id := by
  cases h with
  | refused => rfl
  | carried recording haccepts hends =>
    exact fixturesOf_after_of_ne (hends.fixtures_of_accepts hs haccepts) hne

end Store

end PredictionLeague
