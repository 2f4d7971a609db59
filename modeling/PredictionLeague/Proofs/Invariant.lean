import PredictionLeague.Boost.Use
import PredictionLeague.Proofs.Engine
import PredictionLeague.Settlement

/-!
# What every call keeps

* `Engine.Keeps`: an action keeps a property of the store, whether it returns or stops;
* `KeptByWrites`: a property that every single write of the engine keeps;
* `Call`: the calls of the engine, and `Call.after`: the store a call leaves;
* `KeptByWrites.after`: what every write keeps, every call keeps.
-/

namespace PredictionLeague

namespace Engine

variable {α β : Type} {P : Store → Prop}

/-- The action keeps a property of the store, whether it returns or stops. -/
def Keeps (P : Store → Prop) (x : Engine α) : Prop :=
  ∀ st : EngineState, P st.store → P (x.outcome st).2.store

theorem Keeps.storeAfter {x : Engine α} (hx : Keeps P x) {s : Store} (hs : P s) :
    P (x.storeAfter s) :=
  hx ⟨s, []⟩ hs

theorem keeps_pure (a : α) : Keeps P (pure a : Engine α) := fun _ hs => hs

theorem keeps_throw (fault : Fault) : Keeps P (throw fault : Engine α) := fun _ hs => hs

theorem keeps_say (level : LogLevel) (source : LogSource) (message : String) :
    Keeps P (say level source message) := fun _ hs => hs

theorem keeps_put {s : Store} (hs : P s) : Keeps P (put s) := fun _ _ => hs

theorem keeps_lift (r : Except Fault α) : Keeps P (lift r) := by
  cases r with
  | error fault => exact keeps_throw fault
  | ok a => exact keeps_pure a

theorem keeps_bind {x : Engine α} {f : α → Engine β} (hx : Keeps P x) (hf : ∀ a, Keeps P (f a)) :
    Keeps P (x >>= f) := by
  intro st hs
  rw [outcome_bind]
  have hx := hx st hs
  cases hout : x.outcome st with
  | mk r st' =>
    rw [hout] at hx
    cases r with
    | error fault => exact hx
    | ok a => exact hf a st' hx

/-- What is read is the present store, which has the property. -/
theorem keeps_current_bind {f : Store → Engine β} (hf : ∀ s, P s → Keeps P (f s)) :
    Keeps P (current >>= f) := by
  intro st hs
  rw [outcome_bind]
  exact hf st.store hs st hs

theorem keeps_tryCatch {x : Engine α} {f : Fault → Engine α} (hx : Keeps P x)
    (hf : ∀ fault, Keeps P (f fault)) : Keeps P (tryCatch x f) := by
  intro st hs
  rw [outcome_tryCatch]
  have hx := hx st hs
  cases hout : x.outcome st with
  | mk r st' =>
    rw [hout] at hx
    cases r with
    | error fault => exact hf fault st' hx
    | ok a => exact hx

theorem keeps_ite {c : Prop} [Decidable c] {x y : Engine α} (hx : Keeps P x) (hy : Keeps P y) :
    Keeps P (if c then x else y) := by
  split <;> assumption

theorem keeps_forM {as : List α} {f : α → Engine Unit} (hf : ∀ a, Keeps P (f a)) :
    Keeps P (as.forM f) := by
  induction as with
  | nil => exact keeps_pure ()
  | cons a as ih => exact keeps_bind (hf a) fun _ => ih

theorem keeps_atomically {x : Engine α} (hx : Keeps P x) : Keeps P (atomically x) :=
  keeps_current_bind fun _ hs => keeps_tryCatch hx fun fault =>
    keeps_bind (keeps_put hs) fun _ => keeps_throw fault

/-- An action that only asks keeps everything. -/
theorem keeps_of_outcome {x : Engine α} (r : Store → Except Fault α)
    (h : ∀ st, x.outcome st = (r st.store, st)) : Keeps P x := by
  intro st hs
  rw [h]
  exact hs

theorem keeps_checkKey (key : Int) : Keeps P (checkKey key) :=
  keeps_of_outcome (fun _ => checked (fits key)) (outcome_checkKey key)

theorem keeps_checkAll (numbers : List Int) : Keeps P (checkAll numbers) :=
  keeps_of_outcome (fun _ => checked (numbers.all fits)) (outcome_checkAll numbers)

theorem keeps_getRound (id : Int) : Keeps P (getRound id) :=
  keeps_of_outcome (fun s => found "Round" (s.round? id) id) (outcome_getRound id)

theorem keeps_getLeague (id : Int) : Keeps P (getLeague id) :=
  keeps_of_outcome (fun s => found "League" (s.league? id) id) (outcome_getLeague id)

theorem keeps_getSeason (id : Int) : Keeps P (getSeason id) :=
  keeps_of_outcome (fun s => found "Season" (s.season? id) id) (outcome_getSeason id)

end Engine

/-! ### Writes -/

/-- A property of the store that every single write of the engine keeps. -/
structure KeptByWrites (P : Store → Prop) : Prop where
  recorded : ∀ s recording, P s → P (s.withRecording recording)
  status : ∀ s round status now, P s → P (s.withRoundStatus round status now)
  rescored : ∀ s m now, P s → P (s.rescored m now)
  counted : ∀ s roundId, P s → P (s.counted roundId)
  scored : ∀ s roundId league, P s → P (s.scored roundId league)
  boosted : ∀ s roundId, P s → P (s.boosted roundId)
  snapshot : ∀ s league, P s → P (s.snapshotLeague league)
  live : ∀ s round league, P s → P (s.liveLeague round league)
  stable : ∀ s roundId league, P s → P (s.stableLeague roundId league)
  paid : ∀ s leagueId round now awards, P s →
    Prize.awards s (Prize.settingsOf s leagueId) (s.standings leagueId) round
      (s.season? round.seasonId) = .ok awards →
    P { s with winnings := (Prize.recordAwards now s.winnings awards).1 }
  used : ∀ s (userId leagueId : Int) (round : Round) code now, P s →
    s.useInRound? userId leagueId round.id = none →
      P { s with
        boostUsages := Table.add s.boostUsages fun id =>
          ⟨id, userId, leagueId, round.seasonId, round.id, code, now⟩ }
  removed : ∀ s id, P s → P { s with boostUsages := Table.erase s.boostUsages id }

theorem foldl_keeps {β : Type} {P : Store → Prop} {f : Store → β → Store}
    (hf : ∀ s b, P s → P (f s b)) (bs : List β) {s : Store} (hs : P s) : P (bs.foldl f s) := by
  induction bs generalizing s with
  | nil => exact hs
  | cons b bs ih => exact ih (hf s b hs)

namespace KeptByWrites

open Engine

variable {P : Store → Prop} (h : KeptByWrites P)

include h

/-! ### Points and figures -/

theorem keeps_scoreLeague (roundId : Int) (league : League) :
    Keeps P (scoreLeague roundId league) := by
  refine keeps_current_bind fun s hs => ?_
  have hput := keeps_bind (keeps_checkAll ((s.memberCounts league roundId).map league.basePoints))
    fun _ => keeps_put (h.scored s roundId league hs)
  exact keeps_ite (keeps_bind (keeps_say _ _ _) fun _ => hput) hput

theorem keeps_updateRoundResults (roundId : Int) : Keeps P (updateRoundResults roundId) := by
  refine keeps_bind (keeps_getRound roundId) fun _ => keeps_current_bind fun s hs =>
    keeps_bind (keeps_put (h.counted s roundId hs)) fun _ => ?_
  have hdone (n : Nat) (message : String) :
      Keeps P (say .info .aggregation message >>= fun _ => pure n) :=
    keeps_bind (keeps_say _ _ _) fun _ => keeps_pure n
  exact keeps_ite (keeps_bind (keeps_say _ _ _) fun _ => hdone _ _) (hdone _ _)

theorem keeps_updateLeagueResults (roundId : Int) : Keeps P (updateLeagueResults roundId) :=
  keeps_bind (keeps_getRound roundId) fun _ => keeps_current_bind fun _ _ =>
    keeps_bind (keeps_atomically (keeps_forM (h.keeps_scoreLeague roundId))) fun _ =>
      keeps_bind (keeps_say _ _ _) fun _ => keeps_pure _

theorem keeps_applyRoundBoosts (roundId : Int) : Keeps P (applyRoundBoosts roundId) :=
  keeps_bind (keeps_checkKey roundId) fun _ => keeps_current_bind fun s hs =>
    keeps_ite (keeps_pure _) <| keeps_bind (keeps_checkAll _) fun _ =>
      keeps_bind (keeps_put (h.boosted s roundId hs)) fun _ =>
        keeps_bind (keeps_say _ _ _) fun _ => keeps_pure _

theorem keeps_recomputePoints (roundId : Int) : Keeps P (recomputePoints roundId) :=
  keeps_atomically <| keeps_bind (h.keeps_updateRoundResults roundId) fun _ =>
    keeps_bind (h.keeps_updateLeagueResults roundId) fun _ =>
      keeps_bind (h.keeps_applyRoundBoosts roundId) fun _ => keeps_pure ()

theorem keeps_takeSnapshots (roundId : Int) : Keeps P (takeSnapshots roundId) :=
  keeps_bind (keeps_getRound roundId) fun _ => keeps_current_bind fun _ hs =>
    keeps_bind (keeps_put (foldl_keeps h.snapshot _ hs)) fun _ =>
      keeps_bind (keeps_say _ _ _) fun _ => keeps_pure _

theorem keeps_updateLiveStats (roundId : Int) : Keeps P (updateLiveStats roundId) :=
  keeps_bind (keeps_getRound roundId) fun round => keeps_current_bind fun _ hs =>
    keeps_bind (keeps_put (foldl_keeps (h.live · round) _ hs)) fun _ =>
      keeps_bind (keeps_say _ _ _) fun _ => keeps_pure _

theorem keeps_updateStableStats (roundId : Int) : Keeps P (updateStableStats roundId) :=
  keeps_bind (keeps_getRound roundId) fun _ => keeps_current_bind fun _ hs =>
    keeps_bind (keeps_checkAll _) fun _ =>
      keeps_bind (keeps_put (foldl_keeps (h.stable · roundId) _ hs)) fun _ =>
        keeps_bind (keeps_say _ _ _) fun _ => keeps_pure _

/-! ### Prizes and settlement -/

section Paid

variable (hpaid : ∀ s leagueId round now awards, P s →
  Prize.awards s (Prize.settingsOf s leagueId) (s.standings leagueId) round
    (s.season? round.seasonId) = .ok awards →
  P { s with winnings := (Prize.recordAwards now s.winnings awards).1 })

include hpaid
omit h

theorem keeps_processPrizes (leagueId roundId : Int) (now : DateTime) :
    Keeps P (Prize.processPrizes leagueId roundId now) := by
  refine keeps_bind (keeps_getRound roundId) fun round =>
    keeps_bind (keeps_getLeague leagueId) fun _ => keeps_current_bind fun s hs => ?_
  refine keeps_ite (keeps_bind (keeps_say _ _ _) fun _ => keeps_pure _) ?_
  split
  · exact keeps_bind (keeps_say _ _ _) fun _ => keeps_throw _
  · rename_i awards hawards
    exact keeps_bind (keeps_put (hpaid s leagueId round now awards hs hawards)) fun _ =>
      keeps_bind (keeps_say _ _ _) fun _ => keeps_pure _

theorem keeps_settlePrizes (round : Round) (now : DateTime) : Keeps P (settlePrizes round now) :=
  keeps_current_bind fun _ _ => keeps_bind
    (keeps_forM fun league =>
      keeps_bind (keeps_processPrizes hpaid league.id round.id now) fun _ => keeps_pure ())
    fun _ => keeps_pure _

section Settle

variable (hpoints : ∀ roundId, Keeps P (recomputePoints roundId))

include hpoints

theorem keeps_settleRound (roundId : Int) (now : DateTime) : Keeps P (settleRound roundId now) := by
  refine keeps_bind (keeps_getRound roundId) fun round => ?_
  have hsettle : Keeps P (do
      recomputePoints roundId
      let count ← settlePrizes round now
      say .info .settlement
        ("Settled round " ++ round.label ++ " for " ++ toString count ++ " leagues")
      return count) :=
    keeps_bind (hpoints roundId) fun _ =>
      keeps_bind (keeps_settlePrizes hpaid round now) fun _ =>
        keeps_bind (keeps_say _ _ _) fun _ => keeps_pure _
  exact keeps_ite (keeps_bind (keeps_throw _) fun _ => hsettle) hsettle

theorem keeps_recalculateSeason (seasonId : Int) (now : DateTime) :
    Keeps P (recalculateSeason seasonId now) :=
  keeps_bind (keeps_getSeason seasonId) fun _ => keeps_current_bind fun _ _ =>
    keeps_bind (keeps_forM fun round => keeps_tryCatch
      (keeps_bind (keeps_settleRound hpaid hpoints round.id now) fun _ => keeps_pure ()) fun _ =>
        keeps_bind (keeps_say _ _ _) fun _ => keeps_throw _) fun _ =>
      keeps_bind (keeps_say _ _ _) fun _ => keeps_pure _

end Settle

end Paid

/-! ### Results -/

omit h in
theorem keeps_recordScores (roundId : Int) (scores : List MatchScore) (recording : Recording) :
    Keeps P (recordScores roundId scores recording) := by
  induction scores generalizing recording with
  | nil => exact keeps_pure recording
  | cons score scores ih =>
    unfold recordScores
    split
    · exact keeps_bind (keeps_say _ _ _) fun _ => ih recording
    · exact keeps_bind (keeps_lift _) fun recording => ih recording

theorem keeps_startRound (round : Round) (now : DateTime) : Keeps P (startRound round now) :=
  keeps_current_bind fun s hs => keeps_bind (keeps_put (h.status s round .inProgress now hs))
    fun _ => keeps_bind (h.keeps_takeSnapshots round.id) fun _ => keeps_say _ _ _

theorem keeps_rescoreMatches (ids : List Int) (now : DateTime) :
    Keeps P (rescoreMatches ids now) := by
  refine keeps_forM fun id => keeps_current_bind fun s _ => ?_
  split
  · exact keeps_pure ()
  · rename_i m _
    exact keeps_bind (keeps_current_bind fun s hs =>
      keeps_bind (keeps_put (h.rescored s m now hs)) fun _ => keeps_pure _) fun _ => keeps_pure ()

theorem keeps_completeRound (roundId : Int) (now : DateTime) :
    Keeps P (completeRound roundId now) := by
  refine keeps_bind (keeps_getRound roundId) fun round => keeps_current_bind fun s hs => ?_
  have hsettle : Keeps P (settlePrizes round now >>= fun _ => pure ()) :=
    keeps_bind (keeps_settlePrizes h.paid round now) fun _ => keeps_pure ()
  refine keeps_ite (keeps_ite ?_ hsettle) (keeps_pure ())
  exact keeps_bind (keeps_put (h.status s round .completed now hs)) fun _ =>
    keeps_bind (keeps_say _ _ _) fun _ => hsettle

theorem keeps_updateMatchResults (roundId : Int) (scores : List MatchScore) (now : DateTime) :
    Keeps P (updateMatchResults roundId scores now) := by
  refine keeps_bind (keeps_getRound roundId) fun round => keeps_current_bind fun s hs =>
    keeps_bind (keeps_recordScores roundId scores _) fun recording =>
      keeps_ite (keeps_pure _) <| keeps_bind (keeps_checkAll _) fun _ =>
        keeps_bind (keeps_put (h.recorded s recording hs)) fun _ => ?_
  have hfinish : Keeps P (do
      let _ ← updateLiveStats roundId
      completeRound roundId now
      return recording.updated.length) :=
    keeps_bind (h.keeps_updateLiveStats roundId) fun _ =>
      keeps_bind (h.keeps_completeRound roundId now) fun _ => keeps_pure _
  have hrest : Keeps P (do
      rescoreMatches recording.updated now
      recomputePoints roundId
      if recording.newlyCompleted then
        let _ ← updateStableStats roundId
      let _ ← updateLiveStats roundId
      completeRound roundId now
      return recording.updated.length) :=
    keeps_bind (h.keeps_rescoreMatches recording.updated now) fun _ =>
      keeps_bind (h.keeps_recomputePoints roundId) fun _ =>
        keeps_ite (keeps_bind (h.keeps_updateStableStats roundId) fun _ => hfinish) hfinish
  exact keeps_ite (keeps_bind (h.keeps_startRound round now) fun _ => hrest) hrest

/-! ### Boosts -/

omit h in
theorem keeps_boostEligibility (userId leagueId roundId : Int) (code : String) (now : DateTime) :
    Keeps P (Boost.boostEligibility userId leagueId roundId code now) := by
  refine keeps_bind (keeps_getRound roundId) fun _ => keeps_bind (keeps_getLeague leagueId)
    fun _ => keeps_current_bind fun s _ => keeps_ite (keeps_pure _) ?_
  split
  · exact keeps_pure _
  · exact keeps_bind (keeps_checkKey userId) fun _ => keeps_pure _

theorem keeps_applyBoost (userId leagueId roundId : Int) (code : String) (now : DateTime) :
    Keeps P (Boost.applyBoost userId leagueId roundId code now) := by
  have hrecord (round : Round) : Keeps P (Boost.recordUse userId leagueId round code now) := by
    refine keeps_current_bind fun s hs => ?_
    have hput (hnone : ¬(s.useInRound? userId leagueId round.id).isSome) := keeps_bind (keeps_put
      (h.used s userId leagueId round code now hs (by simpa using hnone)))
        fun _ => keeps_pure true
    split
    · exact keeps_pure false
    · rename_i hnone
      exact hput hnone
  refine keeps_bind (keeps_boostEligibility userId leagueId roundId code now) fun _ =>
    keeps_ite (keeps_bind (keeps_say _ _ _) fun _ => keeps_pure _) ?_
  refine keeps_bind (keeps_pure ()) fun _ => keeps_bind (keeps_getRound roundId) fun round =>
    keeps_bind (hrecord round) fun _ => keeps_ite ?_ ?_
  · exact keeps_bind (keeps_say _ _ _) fun _ => keeps_pure _
  · exact keeps_bind (keeps_say _ _ _) fun _ => keeps_pure _

omit h in
theorem keeps_removeBoost
    (hremoved : ∀ s id, P s → P { s with boostUsages := Table.erase s.boostUsages id })
    (userId leagueId roundId : Int) (now : DateTime) :
    Keeps P (Boost.removeBoost userId leagueId roundId now) := by
  refine keeps_bind (keeps_getRound roundId) fun _ => keeps_bind (keeps_getLeague leagueId)
    fun _ => keeps_ite (keeps_pure _) <| keeps_bind (keeps_checkKey userId) fun _ =>
      keeps_current_bind fun s hs => ?_
  split
  · exact keeps_pure _
  · rename_i use _
    exact keeps_bind (keeps_put (hremoved s use.id hs)) fun _ =>
      keeps_bind (keeps_say _ _ _) fun _ => keeps_pure _

end KeptByWrites

/-! ### Calls -/

/-- A call of the engine. -/
inductive Call
  | updateResults (roundId : Int) (scores : List MatchScore) (now : DateTime)
  | settle (roundId : Int) (now : DateTime)
  | recalculate (seasonId : Int) (now : DateTime)
  | payPrizes (leagueId roundId : Int) (now : DateTime)
  | useBoost (userId leagueId roundId : Int) (code : String) (now : DateTime)
  | dropBoost (userId leagueId roundId : Int) (now : DateTime)
  | takeSnapshots (roundId : Int)
  | updateLive (roundId : Int)
  | updateStable (roundId : Int)

namespace Call

/-- The action of a call. -/
def action : Call → Engine Unit
  | updateResults roundId scores now => do let _ ← updateMatchResults roundId scores now
  | settle roundId now => do let _ ← settleRound roundId now
  | recalculate seasonId now => do let _ ← recalculateSeason seasonId now
  | payPrizes leagueId roundId now => do let _ ← Prize.processPrizes leagueId roundId now
  | useBoost userId leagueId roundId code now => do
    let _ ← Boost.applyBoost userId leagueId roundId code now
  | dropBoost userId leagueId roundId now => do
    let _ ← Boost.removeBoost userId leagueId roundId now
  | takeSnapshots roundId => do let _ ← PredictionLeague.takeSnapshots roundId
  | updateLive roundId => do let _ ← updateLiveStats roundId
  | updateStable roundId => do let _ ← updateStableStats roundId

/-- The store a call leaves, whether it returns or stops. -/
def after (call : Call) (s : Store) : Store := call.action.storeAfter s

end Call

/-- What every write keeps, every call keeps. -/
theorem KeptByWrites.after {P : Store → Prop} (h : KeptByWrites P) (call : Call) {s : Store}
    (hs : P s) : P (call.after s) := by
  have hvoid {α : Type} {x : Engine α} (hx : Engine.Keeps P x) :
      Engine.Keeps P (do let _ ← x) := Engine.keeps_bind hx fun _ => Engine.keeps_pure ()
  refine Engine.Keeps.storeAfter ?_ hs
  cases call with
  | updateResults roundId scores now => exact hvoid (h.keeps_updateMatchResults roundId scores now)
  | settle roundId now => exact hvoid (keeps_settleRound h.paid h.keeps_recomputePoints roundId now)
  | recalculate seasonId now =>
    exact hvoid (keeps_recalculateSeason h.paid h.keeps_recomputePoints seasonId now)
  | payPrizes leagueId roundId now => exact hvoid (keeps_processPrizes h.paid leagueId roundId now)
  | useBoost userId leagueId roundId code now =>
    exact hvoid (h.keeps_applyBoost userId leagueId roundId code now)
  | dropBoost userId leagueId roundId now =>
    exact hvoid (keeps_removeBoost h.removed userId leagueId roundId now)
  | takeSnapshots roundId => exact hvoid (h.keeps_takeSnapshots roundId)
  | updateLive roundId => exact hvoid (h.keeps_updateLiveStats roundId)
  | updateStable roundId => exact hvoid (h.keeps_updateStableStats roundId)

end PredictionLeague
