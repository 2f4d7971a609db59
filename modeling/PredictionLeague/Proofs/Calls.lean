import PredictionLeague.Proofs.Boost.Limits
import PredictionLeague.Proofs.InPlay

/-!
# What calls leave alone

Matches, predictions and the states of rounds change only when results are recorded. The other calls
touch points, uses of boosts, stats and winnings; and no call breaks what the tables promise.

* `KeptBySettling`: a property that is kept when points are made anew and prizes are paid, so that
  settling a round or a season keeps it;
* `Call.Records`, `Call.Ranks`: the calls that record results, and those that rank members;
* `Store.SamePlay`: two stores that differ in points, uses of boosts, stats and winnings alone;
* `Call.samePlay_after`, `Call.stats_after`, `Call.keyed_after`: what one call leaves alone;
* `Call.afterAll`: the store that calls leave one after the other.
-/

namespace PredictionLeague

namespace Engine

variable {α : Type} {P : Store → Prop}

/-- A quiet action keeps what its effect keeps. -/
theorem keeps_of_effect {x : Engine α} [hx : Quiet x] (h : ∀ s, P s → P (x.effect s).2) :
    Keeps P x := by
  intro st hst
  obtain ⟨log, hlog⟩ := hx.outcome_eq st
  rw [hlog]
  exact h st.store hst

end Engine

open Engine Store

/-! ### Settling -/

/-- A property of the store that is kept when the points of a round are made anew and when awards
are recorded. -/
structure KeptBySettling (P : Store → Prop) : Prop where
  recomputed : ∀ s round, P s → P (s.recomputed round)
  paid : ∀ s now awards, P s → P (s.withAwards now awards)

namespace KeptBySettling

variable {P : Store → Prop} (h : KeptBySettling P)

include h

theorem keeps_recomputePoints (roundId : Int) : Keeps P (recomputePoints roundId) := by
  refine keeps_of_effect fun s hs => ?_
  rw [effect_recomputePoints]
  cases found "Round" (s.round? roundId) roundId with
  | error fault => exact hs
  | ok round =>
    simp only
    split
    · exact h.recomputed s round hs
    · exact hs

/-- Paying the prizes of a league records its awards. -/
theorem keeps_paid (s : Store) (leagueId : Int) (round : Round) (now : DateTime)
    (awards : List Prize.Award) (hs : P s)
    (_ : Prize.awards s (Prize.settingsOf s leagueId) (s.standings leagueId) round
      (s.season? round.seasonId) = .ok awards) :
    P { s with winnings := (Prize.recordAwards now s.winnings awards).1 } :=
  h.paid s now awards hs

theorem storeAfter_processPrizes {s : Store} (hs : P s) (leagueId roundId : Int) (now : DateTime) :
    P ((Prize.processPrizes leagueId roundId now).storeAfter s) :=
  (KeptByWrites.keeps_processPrizes h.keeps_paid leagueId roundId now).storeAfter hs

theorem storeAfter_settleRound {s : Store} (hs : P s) (roundId : Int) (now : DateTime) :
    P ((settleRound roundId now).storeAfter s) :=
  (KeptByWrites.keeps_settleRound h.keeps_paid h.keeps_recomputePoints roundId now).storeAfter hs

theorem keeps_settleStep (seasonId : Int) (now : DateTime) (round : Round) :
    Keeps P (settleStep seasonId now round) := by
  have hsettle := KeptByWrites.keeps_settleRound h.keeps_paid h.keeps_recomputePoints round.id now
  exact keeps_tryCatch (keeps_bind hsettle fun _ => keeps_pure ()) fun _ =>
    keeps_bind (keeps_say _ _ _) fun _ => keeps_throw _

theorem storeAfter_settleSteps {s : Store} (hs : P s) (seasonId : Int) (now : DateTime)
    (rounds : List Round) : P ((rounds.forM (settleStep seasonId now)).storeAfter s) :=
  (keeps_forM (h.keeps_settleStep seasonId now)).storeAfter hs

theorem storeAfter_recalculateSeason {s : Store} (hs : P s) (seasonId : Int) (now : DateTime) :
    P ((recalculateSeason seasonId now).storeAfter s) :=
  (KeptByWrites.keeps_recalculateSeason h.keeps_paid h.keeps_recomputePoints seasonId
    now).storeAfter hs

end KeptBySettling

namespace Store

theorem keptBySettling_keyed : KeptBySettling Keyed where
  recomputed _ round hs := hs.recomputed round
  paid _ _ _ hs := { hs with }

variable {s : Store}

/-! ### Boosts -/

/-- A use that is recorded is the only one of its user, league and round. -/
theorem Keyed.withUse (hs : s.Keyed) {userId leagueId : Int} {round : Round}
    (hnone : s.useInRound? userId leagueId round.id = none) (code : String) (now : DateTime) :
    (s.withUse userId leagueId round code now).Keyed := by
  refine { hs with boostUsages := ?_ }
  rw [Store.withUse, Table.add, List.map_append, List.map_singleton, List.nodup_append]
  refine ⟨hs.boostUsages, List.nodup_singleton _, ?_⟩
  rintro key hkey _ hnew rfl
  obtain ⟨use, huse, rfl⟩ := List.mem_map.1 hkey
  simp only [List.mem_singleton, Prod.mk.injEq] at hnew
  obtain ⟨huser, hleague, hround⟩ := hnew
  refine List.find?_eq_none.1 hnone use huse ?_
  simp [huser, hleague, hround]

/-! ### Figures -/

/-- An update of the figures of the leagues of a round, or of none. -/
def Refigured (s t : Store) : Prop :=
  t = s ∨ ∃ (f : Store → League → Store) (leagues : List League),
    LeagueUpdate f ∧ t = leagues.foldl f s

theorem Refigured.keyed {t : Store} (h : s.Refigured t) (hs : s.Keyed) : t.Keyed := by
  rcases h with rfl | ⟨f, leagues, hf, rfl⟩
  · exact hs
  · exact hf.keyed_foldl hs leagues

theorem Refigured.frame {t : Store} (h : s.Refigured t) : ∃ stats, t = { s with stats } := by
  rcases h with rfl | ⟨f, leagues, hf, rfl⟩
  · exact ⟨_, rfl⟩
  · exact hf.exists_foldl s leagues

end Store

section Figures

variable (s : Store) (roundId : Int)

theorem effect_takeSnapshots : (takeSnapshots roundId).effect s =
    match found "Round" (s.round? roundId) roundId with
    | .ok round => (.ok (s.leaguesOf round.seasonId).length,
        (s.leaguesOf round.seasonId).foldl snapshotLeague s)
    | .error fault => (.error fault, s) := by
  unfold takeSnapshots
  rw [Engine.effect_bind, effect_getRound]
  cases found "Round" (s.round? roundId) roundId with
  | error fault => rfl
  | ok round =>
    simp only [Engine.effect_bind, effect_current, effect_put, effect_say, effect_pure]

theorem effect_updateLiveStats : (updateLiveStats roundId).effect s =
    match found "Round" (s.round? roundId) roundId with
    | .ok round => (.ok (s.leaguesOf round.seasonId).length, s.shown round)
    | .error fault => (.error fault, s) := by
  unfold updateLiveStats
  rw [Engine.effect_bind, effect_getRound]
  cases found "Round" (s.round? roundId) roundId with
  | error fault => rfl
  | ok round =>
    simp only [Engine.effect_bind, effect_current, effect_put, effect_say, effect_pure]
    rfl

theorem refigured_takeSnapshots : s.Refigured ((takeSnapshots roundId).storeAfter s) := by
  rw [storeAfter_eq, effect_takeSnapshots]
  cases found "Round" (s.round? roundId) roundId with
  | error fault => exact .inl rfl
  | ok round => exact .inr ⟨_, _, leagueUpdate_snapshot, rfl⟩

theorem refigured_updateLiveStats : s.Refigured ((updateLiveStats roundId).storeAfter s) := by
  rw [storeAfter_eq, effect_updateLiveStats]
  cases found "Round" (s.round? roundId) roundId with
  | error fault => exact .inl rfl
  | ok round => exact .inr ⟨_, _, leagueUpdate_live round, rfl⟩

theorem refigured_updateStableStats : s.Refigured ((updateStableStats roundId).storeAfter s) := by
  cases hfound : found "Round" (s.round? roundId) roundId with
  | error fault =>
    left
    unfold updateStableStats
    rw [storeAfter_eq, Engine.effect_bind, effect_getRound, hfound]
  | ok round =>
    have hround := found_eq_ok.1 hfound
    obtain rfl : round.id = roundId := Table.id_of_get? hround.2
    rw [storeAfter_eq, effect_updateStableStats hround]
    split
    · exact .inr ⟨_, _, leagueUpdate_stable round.id, rfl⟩
    · exact .inl rfl

end Figures

/-! ### Any call -/

namespace Call

/-- The call records results. -/
def Records : Call → Prop
  | updateResults _ _ _ => True
  | _ => False

/-- The call does nothing but rank members. -/
def Ranks : Call → Prop
  | takeSnapshots _ => True
  | updateLive _ => True
  | updateStable _ => True
  | _ => False

instance (call : Call) : Decidable call.Records := by
  cases call <;> unfold Records <;> infer_instance

instance (call : Call) : Decidable call.Ranks := by
  cases call <;> unfold Ranks <;> infer_instance

/-- A call leaves the store that its part of the engine leaves. -/
theorem after_eq (call : Call) (s : Store) : call.after s =
    match call with
    | updateResults roundId scores now => (updateMatchResults roundId scores now).storeAfter s
    | settle roundId now => (settleRound roundId now).storeAfter s
    | recalculate seasonId now => (recalculateSeason seasonId now).storeAfter s
    | payPrizes leagueId roundId now => (Prize.processPrizes leagueId roundId now).storeAfter s
    | useBoost userId leagueId roundId code now =>
      (Boost.applyBoost userId leagueId roundId code now).storeAfter s
    | dropBoost userId leagueId roundId now =>
      (Boost.removeBoost userId leagueId roundId now).storeAfter s
    | takeSnapshots roundId => (PredictionLeague.takeSnapshots roundId).storeAfter s
    | updateLive roundId => (updateLiveStats roundId).storeAfter s
    | updateStable roundId => (updateStableStats roundId).storeAfter s := by
  cases call <;> exact storeAfter_bind_pure _ (fun _ => ()) s

theorem after_updateResults (s : Store) (roundId : Int) (scores : List MatchScore)
    (now : DateTime) : (updateResults roundId scores now).after s =
      (updateMatchResults roundId scores now).storeAfter s :=
  after_eq _ s

/-- The store that calls leave one after the other, each of which may return or stop. -/
def afterAll (calls : List Call) (s : Store) : Store :=
  calls.foldl (fun (s : Store) (call : Call) => call.after s) s

/-- What every call keeps, any sequence of calls keeps. -/
theorem afterAll_keeps {P : Store → Prop}
    (h : ∀ (s : Store) (call : Call), P s → P (call.after s)) (calls : List Call) {s : Store}
    (hs : P s) : P (afterAll calls s) :=
  foldl_keeps h calls hs

end Call

/-- A property of the store that is kept when rounds are settled and when boosts are used and taken
back. -/
structure KeptBetweenResults (P : Store → Prop) : Prop extends KeptBySettling P where
  used : ∀ s userId leagueId round code now, P s →
    s.useInRound? userId leagueId round.id = none → P (s.withUse userId leagueId round code now)
  dropped : ∀ s uses, uses.Sublist s.boostUsages → P s → P { s with boostUsages := uses }

namespace KeptBetweenResults

variable {P : Store → Prop} (h : KeptBetweenResults P) {s : Store}

include h

theorem storeAfter_applyBoost (hs : P s) (userId leagueId roundId : Int) (code : String)
    (now : DateTime) : P ((Boost.applyBoost userId leagueId roundId code now).storeAfter s) := by
  rcases Boost.storeAfter_applyBoost s userId leagueId roundId code now with
    hsame | ⟨round, league, rule, -, rfl, hgranted, hused⟩
  · rwa [hsame]
  · rw [hused]
    exact h.used s userId league.id round code now hs hgranted.unused

theorem storeAfter_removeBoost (hs : P s) (userId leagueId roundId : Int) (now : DateTime) :
    P ((Boost.removeBoost userId leagueId roundId now).storeAfter s) := by
  obtain ⟨uses, huses, hdropped⟩ := Boost.storeAfter_removeBoost s userId leagueId roundId now
  rw [hdropped]
  exact h.dropped s uses huses hs

/-- A call that does not record results keeps such a property, when ranking members does if that is
what the call does. -/
theorem after {call : Call} (hnot : ¬call.Records)
    (hranks : call.Ranks → ∀ t, s.Refigured t → P t) (hs : P s) : P (call.after s) := by
  rw [Call.after_eq]
  cases call with
  | updateResults roundId scores now => exact absurd trivial hnot
  | settle roundId now => exact h.storeAfter_settleRound hs roundId now
  | recalculate seasonId now => exact h.storeAfter_recalculateSeason hs seasonId now
  | payPrizes leagueId roundId now => exact h.storeAfter_processPrizes hs leagueId roundId now
  | useBoost userId leagueId roundId code now =>
    exact h.storeAfter_applyBoost hs userId leagueId roundId code now
  | dropBoost userId leagueId roundId now =>
    exact h.storeAfter_removeBoost hs userId leagueId roundId now
  | takeSnapshots roundId => exact hranks trivial _ (refigured_takeSnapshots s roundId)
  | updateLive roundId => exact hranks trivial _ (refigured_updateLiveStats s roundId)
  | updateStable roundId => exact hranks trivial _ (refigured_updateStableStats s roundId)

end KeptBetweenResults

namespace Store

/-- Two stores that differ in points, uses of boosts, stats and winnings alone. -/
def SamePlay (s t : Store) : Prop :=
  ∃ counts points uses stats winnings,
    t = { s with
      roundResults := counts, leagueResults := points, boostUsages := uses, stats, winnings }

variable {s t : Store}

theorem SamePlay.refl (s : Store) : s.SamePlay s := ⟨_, _, _, _, _, rfl⟩

theorem SamePlay.of_stats (h : s.SamePlay t) (stats : List MemberStats) :
    s.SamePlay { t with stats } := by
  obtain ⟨counts, points, uses, _, winnings, rfl⟩ := h
  exact ⟨_, _, _, _, _, rfl⟩

theorem keptBetweenResults_samePlay (s : Store) : KeptBetweenResults s.SamePlay where
  recomputed := by
    rintro _ round ⟨counts, points, uses, stats, winnings, rfl⟩
    obtain ⟨counts', points', hpoints⟩ := Store.recomputed_frame { s with
      roundResults := counts, leagueResults := points, boostUsages := uses, stats, winnings } round
    rw [hpoints]
    exact ⟨_, _, _, _, _, rfl⟩
  paid := by
    rintro _ now awards ⟨counts, points, uses, stats, winnings, rfl⟩
    exact ⟨_, _, _, _, _, rfl⟩
  used := by
    rintro _ userId leagueId round code now ⟨counts, points, uses, stats, winnings, rfl⟩ -
    exact ⟨_, _, _, _, _, rfl⟩
  dropped := by
    rintro _ uses' - ⟨counts, points, uses, stats, winnings, rfl⟩
    exact ⟨_, _, _, _, _, rfl⟩

theorem keptBetweenResults_keyed : KeptBetweenResults Keyed where
  toKeptBySettling := keptBySettling_keyed
  used _ _ _ _ code now hs hnone := hs.withUse hnone code now
  dropped _ _ huses hs := { hs with boostUsages := hs.boostUsages.sublist (huses.map _) }

theorem keptBetweenResults_stats (stats : List MemberStats) :
    KeptBetweenResults fun t => t.stats = stats where
  recomputed s round hs := by
    obtain ⟨counts, points, hpoints⟩ := s.recomputed_frame round
    rw [hpoints]
    exact hs
  paid _ _ _ hs := hs
  used _ _ _ _ _ _ hs _ := hs
  dropped _ _ _ hs := hs

end Store

namespace Call

variable {s : Store} {call : Call}

/-- A call that does not record results leaves the play alone. -/
theorem samePlay_after (s : Store) (h : ¬call.Records) : s.SamePlay (call.after s) := by
  refine (keptBetweenResults_samePlay s).after h (fun _ t ht => ?_) (.refl s)
  obtain ⟨stats, rfl⟩ := ht.frame
  exact (SamePlay.refl s).of_stats stats

/-- A call that neither records results nor ranks members leaves the figures alone. -/
theorem stats_after (s : Store) (h : ¬call.Records) (hranks : ¬call.Ranks) :
    (call.after s).stats = s.stats :=
  (keptBetweenResults_stats s.stats).after h (fun hrank => absurd hrank hranks) rfl

/-- No call breaks what the tables promise. -/
theorem keyed_after (hs : s.Keyed) (call : Call) : (call.after s).Keyed := by
  by_cases hrecords : call.Records
  · cases call with
    | updateResults roundId scores now =>
      rw [after_updateResults]
      exact ScoreReport.keyed_after ⟨roundId, scores, now⟩ hs
    | _ => exact absurd hrecords id
  · exact keptBetweenResults_keyed.after hrecords (fun _ t ht => ht.keyed hs) hs

end Call

end PredictionLeague
