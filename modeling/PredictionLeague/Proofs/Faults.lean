import PredictionLeague.Proofs.Recompute
import PredictionLeague.Proofs.Settlement

/-!
# Why a settlement stops

The settlement of a completed round may stop all the same: a number does not fit, a row is missing,
or a prize cannot be split. It never stops because the round is still being played.

* `FailsWith`, `Engine.StopsWith`: a calculation and an action stop only with faults of a kind;
* `SettlementFault`: the faults of a settlement;
* `stopsWith_settlePrizes`, `settlementFault_of_completed`: settling prizes and settling a completed
  round stop only with these.
-/

namespace PredictionLeague

/-! ### Calculations -/

section Calculation

variable {α β : Type} {P : Fault → Prop}

/-- A calculation that stops does so with a fault of a kind. -/
def FailsWith (P : Fault → Prop) (x : Except Fault α) : Prop := ∀ fault, x = .error fault → P fault

theorem failsWith_ok (a : α) : FailsWith P (.ok a) := by
  intro fault h
  simp at h

theorem failsWith_error {fault : Fault} (h : P fault) :
    FailsWith P (.error fault : Except Fault α) := by
  intro fault' h'
  obtain rfl := Except.error.inj h'
  exact h

theorem failsWith_bind {x : Except Fault α} {f : α → Except Fault β} (hx : FailsWith P x)
    (hf : ∀ a, FailsWith P (f a)) : FailsWith P (x >>= f) := by
  intro fault h
  cases x with
  | error fault' =>
    obtain rfl : fault' = fault := Except.error.inj h
    exact hx fault' rfl
  | ok a => exact hf a fault h

theorem failsWith_mapM {f : α → Except Fault β} (hf : ∀ a, FailsWith P (f a)) (xs : List α) :
    FailsWith P (xs.mapM f) := by
  induction xs with
  | nil => exact failsWith_ok []
  | cons x xs ih =>
    rw [List.mapM_cons]
    exact failsWith_bind (hf x) fun y => failsWith_bind ih fun ys => failsWith_ok (y :: ys)

end Calculation

/-! ### Actions -/

namespace Engine

variable {α β : Type} {P : Fault → Prop}

/-- An action that stops does so with a fault of a kind. -/
def StopsWith (P : Fault → Prop) (x : Engine α) : Prop :=
  ∀ st : EngineState, FailsWith P (x.outcome st).1

theorem StopsWith.effect {x : Engine α} (hx : StopsWith P x) {s t : Store} {fault : Fault}
    (h : x.effect s = (.error fault, t)) : P fault :=
  hx ⟨s, []⟩ fault (congrArg Prod.fst h)

theorem stopsWith_pure (a : α) : StopsWith P (pure a : Engine α) := fun _ => failsWith_ok a

theorem stopsWith_throw {fault : Fault} (h : P fault) : StopsWith P (throw fault : Engine α) :=
  fun _ => failsWith_error h

theorem stopsWith_say (level : LogLevel) (source : LogSource) (message : String) :
    StopsWith P (say level source message) := fun _ => failsWith_ok ()

theorem stopsWith_put (s : Store) : StopsWith P (put s) := fun _ => failsWith_ok ()

theorem stopsWith_current : StopsWith P current := fun st => failsWith_ok st.store

theorem stopsWith_bind {x : Engine α} {f : α → Engine β} (hx : StopsWith P x)
    (hf : ∀ a, StopsWith P (f a)) : StopsWith P (x >>= f) := by
  intro st
  rw [outcome_bind]
  have hx := hx st
  cases hout : x.outcome st with
  | mk r st' =>
    rw [hout] at hx
    cases r with
    | error fault => exact failsWith_error (hx fault rfl)
    | ok a => exact hf a st'

theorem stopsWith_ite {c : Prop} [Decidable c] {x y : Engine α} (hx : StopsWith P x)
    (hy : StopsWith P y) : StopsWith P (if c then x else y) := by
  split
  · exact hx
  · exact hy

theorem stopsWith_forM {f : α → Engine Unit} (hf : ∀ a, StopsWith P (f a)) (as : List α) :
    StopsWith P (as.forM f) := by
  induction as with
  | nil => exact stopsWith_pure ()
  | cons a as ih => exact stopsWith_bind (hf a) fun _ => ih

/-- Whatever the log holds, an action stops for the same reason. -/
theorem stopsWith_of_effect {x : Engine α} [hx : Quiet x]
    (h : ∀ s, FailsWith P (x.effect s).1) : StopsWith P x := by
  intro st
  obtain ⟨log, hlog⟩ := hx.outcome_eq st
  rw [hlog]
  exact h st.store

/-- An action that only asks stops as its answer says. -/
theorem stopsWith_of_outcome {x : Engine α} (r : Store → Except Fault α)
    (h : ∀ st, x.outcome st = (r st.store, st)) (hr : ∀ s, FailsWith P (r s)) : StopsWith P x := by
  intro st
  rw [h]
  exact hr st.store

end Engine

/-! ### Settlements -/

/-- Why a settlement stops: a number does not fit, a row or the season of the round is missing, or
an amount cannot be split. -/
inductive SettlementFault : Fault → Prop
  | number : SettlementFault .integerTooLarge
  | row (entity key : String) : SettlementFault (.notFound entity key)
  | season (field : String) : SettlementFault (.absentRow field)
  | amount : SettlementFault .invalidDecimal

theorem failsWith_found {ρ : Type} (entity : String) (row? : Option ρ) (id : Int) :
    FailsWith SettlementFault (Engine.found entity row? id) := by
  unfold Engine.found
  split
  · cases row? with
    | none => exact failsWith_error (.row entity _)
    | some row => exact failsWith_ok row
  · exact failsWith_error .number

namespace Prize

theorem failsWith_split (total : Decimal) (count : Nat) :
    FailsWith SettlementFault (split total count) := by
  unfold split
  split
  · exact failsWith_ok []
  · split
    · split
      · exact failsWith_ok _
      · exact failsWith_error .amount
    · exact failsWith_error .amount

theorem failsWith_pay (setting : PrizeSetting) (winners : List Int) :
    FailsWith SettlementFault (pay setting winners) :=
  failsWith_bind (failsWith_split _ _) fun _ => failsWith_ok _

theorem failsWith_payRanks (groups : List RankGroup) (settings : List PrizeSetting) :
    FailsWith SettlementFault (payRanks groups settings) := by
  unfold payRanks
  refine failsWith_bind (failsWith_mapM (fun setting => ?_) settings) fun _ => failsWith_ok _
  split
  · exact failsWith_ok []
  · exact failsWith_pay _ _

theorem failsWith_settlesSeason (season : Option Season) (round : Round) :
    FailsWith SettlementFault (settlesSeason season round) := by
  cases season with
  | none => exact failsWith_error (.season _)
  | some season => exact failsWith_ok _

theorem failsWith_award? (s : Store) (kind : PrizeKind) (settings : List PrizeSetting)
    (standings : Standings) (round : Round) (season : Option Season) :
    FailsWith SettlementFault (award? s kind settings standings round season) := by
  unfold award?
  cases settings.head? with
  | none => exact failsWith_ok none
  | some setting =>
    have hpay (winners : List Int) (award : List Payment → Award) :
        FailsWith SettlementFault (do
          let payments ← pay setting winners
          return some (award payments)) :=
      failsWith_bind (failsWith_pay setting winners) fun _ => failsWith_ok _
    cases kind with
    | round => exact hpay _ _
    | monthly =>
      dsimp only
      split
      · exact failsWith_ok none
      · exact hpay _ _
    | overall =>
      refine failsWith_bind (failsWith_settlesSeason season round) fun last => ?_
      cases last with
      | false => exact failsWith_ok none
      | true => exact failsWith_bind (failsWith_payRanks _ _) fun _ => failsWith_ok _
    | mostExactScores =>
      refine failsWith_bind (failsWith_settlesSeason season round) fun last => ?_
      cases last with
      | false => exact failsWith_ok none
      | true => exact hpay _ _

theorem failsWith_awards (s : Store) (settings : List PrizeSetting) (standings : Standings)
    (round : Round) (season : Option Season) :
    FailsWith SettlementFault (awards s settings standings round season) :=
  failsWith_bind (failsWith_mapM (fun kind => failsWith_award? s kind _ standings round season) _)
    fun _ => failsWith_ok _

end Prize

open Engine

theorem stopsWith_processPrizes (leagueId roundId : Int) (now : DateTime) :
    StopsWith SettlementFault (Prize.processPrizes leagueId roundId now) := by
  have hround : StopsWith SettlementFault (getRound roundId) :=
    stopsWith_of_outcome (fun s => found "Round" (s.round? roundId) roundId)
      (outcome_getRound roundId) fun s => failsWith_found _ _ _
  have hleague : StopsWith SettlementFault (getLeague leagueId) :=
    stopsWith_of_outcome (fun s => found "League" (s.league? leagueId) leagueId)
      (outcome_getLeague leagueId) fun s => failsWith_found _ _ _
  unfold Prize.processPrizes
  refine stopsWith_bind hround fun round => stopsWith_bind hleague fun _ =>
    stopsWith_bind stopsWith_current fun s => ?_
  dsimp only
  refine stopsWith_ite (stopsWith_bind (stopsWith_say _ _ _) fun _ => stopsWith_pure []) ?_
  split
  · rename_i fault hawards
    have hfault := Prize.failsWith_awards s _ _ _ _ fault hawards
    exact stopsWith_bind (stopsWith_say _ _ _) fun _ => stopsWith_throw hfault
  · exact stopsWith_bind (stopsWith_put _) fun _ =>
      stopsWith_bind (stopsWith_say _ _ _) fun _ => stopsWith_pure _

theorem stopsWith_settlePrizes (round : Round) (now : DateTime) :
    StopsWith SettlementFault (settlePrizes round now) := by
  unfold settlePrizes
  refine stopsWith_bind stopsWith_current fun s => ?_
  refine stopsWith_bind (stopsWith_forM (fun league => ?_) _) fun _ => stopsWith_pure _
  exact stopsWith_bind (stopsWith_processPrizes _ _ _) fun _ => stopsWith_pure ()

theorem stopsWith_recomputePoints (roundId : Int) :
    StopsWith SettlementFault (recomputePoints roundId) := by
  refine stopsWith_of_effect fun s => ?_
  rw [effect_recomputePoints]
  have hfails := failsWith_found "Round" (s.round? roundId) roundId
  cases hfound : found "Round" (s.round? roundId) roundId with
  | error fault => exact failsWith_error (hfails fault hfound)
  | ok round =>
    dsimp only
    split
    · exact failsWith_ok ()
    · exact failsWith_error .number

/-- The settlement of a completed round stops for other reasons than that the round is in play. -/
theorem settlementFault_of_completed {s t : Store} {roundId : Int} {round : Round} {now : DateTime}
    {fault : Fault} (hround : s.round? roundId = some round) (hstatus : round.status = .completed)
    (h : (settleRound roundId now).effect s = (.error fault, t)) : SettlementFault fault := by
  unfold settleRound at h
  rw [Engine.effect_bind, effect_getRound] at h
  have hfails := failsWith_found "Round" (s.round? roundId) roundId
  cases hfound : found "Round" (s.round? roundId) roundId with
  | error fault' =>
    rw [hfound] at h
    obtain ⟨hfault, -⟩ := Prod.mk.inj h
    obtain rfl : fault' = fault := Except.error.inj hfault
    exact hfails fault' hfound
  | ok round' =>
    obtain rfl : round = round' := Option.some.inj (hround.symm.trans (found_eq_ok.1 hfound).2)
    rw [hfound] at h
    simp only at h
    rw [if_neg (not_not.2 hstatus)] at h
    have hrest : StopsWith SettlementFault (do
        recomputePoints roundId
        let count ← settlePrizes round now
        say .info .settlement
          ("Settled round " ++ round.label ++ " for " ++ toString count ++ " leagues")
        return count) :=
      stopsWith_bind (stopsWith_recomputePoints roundId) fun _ =>
        stopsWith_bind (stopsWith_settlePrizes round now) fun count =>
          stopsWith_bind (stopsWith_say _ _ _) fun _ => stopsWith_pure count
    exact hrest.effect h

end PredictionLeague
