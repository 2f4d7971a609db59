import PredictionLeague.Engine

/-!
# What an action does to the store

The log is written and never read, so an action is known by its answer and by the store it leaves.

* `Engine.effect`: the answer of an action and the store it leaves;
* `Engine.Quiet`: the action answers the same and leaves the same store whatever the log holds;
* `effect_bind` and the equations after it: the effect of an action by the effects of its parts.
-/

namespace PredictionLeague.Engine

variable {α β : Type}

/-- The answer of an action and the store it leaves. -/
def effect (x : Engine α) (s : Store) : Except Fault α × Store := ((x.runOn s).1, x.storeAfter s)

/-- The action returns `a` and leaves the store `s'`. -/
def Returns (x : Engine α) (s : Store) (a : α) (s' : Store) : Prop := x.effect s = (.ok a, s')

instance [DecidableEq α] (x : Engine α) (s : Store) (a : α) (s' : Store) :
    Decidable (x.Returns s a s') :=
  match h : x.effect s with
  | (.ok b, t) => decidable_of_iff (b = a ∧ t = s') (by simp [Returns, h])
  | (.error fault, t) => isFalse (by simp [Returns, h])

theorem storeAfter_eq (x : Engine α) (s : Store) : x.storeAfter s = (x.effect s).2 := rfl

theorem Returns.storeAfter {x : Engine α} {s s' : Store} {a : α} (h : x.Returns s a s') :
    x.storeAfter s = s' := by
  rw [storeAfter_eq, h]

/-- What an action does from a state. -/
def outcome (x : Engine α) (st : EngineState) : Except Fault α × EngineState :=
  (ExceptT.run x).run st

theorem effect_eq (x : Engine α) (s : Store) :
    x.effect s = ((x.outcome ⟨s, []⟩).1, (x.outcome ⟨s, []⟩).2.store) := rfl

/-! ### Actions from a state -/

theorem outcome_bind (x : Engine α) (f : α → Engine β) (st : EngineState) :
    outcome (x >>= f) st =
      match outcome x st with
      | (.ok a, st') => outcome (f a) st'
      | (.error fault, st') => (.error fault, st') := by
  -- A fault passes over what comes after; the state that it leaves is kept.
  unfold outcome
  rw [ExceptT.run_bind, StateT.run_bind]
  rcases (ExceptT.run x).run st with ⟨_ | _, _⟩ <;> rfl

theorem outcome_tryCatch (x : Engine α) (f : Fault → Engine α) (st : EngineState) :
    outcome (tryCatch x f) st =
      match outcome x st with
      | (.ok a, st') => (.ok a, st')
      | (.error fault, st') => outcome (f fault) st' := by
  unfold outcome
  rw [ExceptT.run_tryCatch, StateT.run_bind]
  rcases (ExceptT.run x).run st with ⟨_ | _, _⟩ <;> rfl

/-! ### Actions that do not depend on the log -/

/-- The action answers the same and leaves the same store whatever the log holds. -/
class Quiet (x : Engine α) : Prop where
  outcome_eq (st : EngineState) :
    ∃ log, outcome x st = ((x.effect st.store).1, ⟨(x.effect st.store).2, log⟩)

instance (a : α) : Quiet (pure a : Engine α) := ⟨fun st => ⟨st.log, rfl⟩⟩

instance (fault : Fault) : Quiet (throw fault : Engine α) := ⟨fun st => ⟨st.log, rfl⟩⟩

instance : Quiet current := ⟨fun st => ⟨st.log, rfl⟩⟩

instance (s : Store) : Quiet (put s) := ⟨fun st => ⟨st.log, rfl⟩⟩

instance (level : LogLevel) (source : LogSource) (message : String) :
    Quiet (say level source message) := ⟨fun _ => ⟨_, rfl⟩⟩

instance (c : Prop) [Decidable c] (x y : Engine α) [Quiet x] [Quiet y] :
    Quiet (if c then x else y) := by
  split <;> assumption

instance (r : Except Fault α) : Quiet (lift r) := by
  cases r <;> unfold lift <;> infer_instance

section Parts

variable (x : Engine α) (s : Store)

/-- What comes after does not depend on what was said before. -/
theorem effect_bind (f : α → Engine β) [h : ∀ a, Quiet (f a)] :
    effect (x >>= f) s =
      match x.effect s with
      | (.ok a, s') => (f a).effect s'
      | (.error fault, s') => (.error fault, s') := by
  simp only [effect_eq x, effect_eq (x >>= f), outcome_bind]
  rcases x.outcome ⟨s, []⟩ with ⟨_ | a, st⟩
  · rfl
  · obtain ⟨log, hlog⟩ := (h a).outcome_eq st
    simp only [hlog]

theorem effect_tryCatch (f : Fault → Engine α) [h : ∀ fault, Quiet (f fault)] :
    effect (tryCatch x f) s =
      match x.effect s with
      | (.ok a, s') => (.ok a, s')
      | (.error fault, s') => (f fault).effect s' := by
  simp only [effect_eq x, effect_eq (tryCatch x f), outcome_tryCatch]
  rcases x.outcome ⟨s, []⟩ with ⟨fault | _, st⟩
  · obtain ⟨log, hlog⟩ := (h fault).outcome_eq st
    simp only [hlog]
  · rfl

end Parts

theorem quiet_bind {x : Engine α} {f : α → Engine β} (hx : Quiet x) (hf : ∀ a, Quiet (f a)) :
    Quiet (x >>= f) where
  outcome_eq st := by
    obtain ⟨log, hlog⟩ := hx.outcome_eq st
    rw [outcome_bind, effect_bind, hlog]
    rcases x.effect st.store with ⟨_ | a, s'⟩
    · exact ⟨log, rfl⟩
    · exact (hf a).outcome_eq ⟨s', log⟩

instance (x : Engine α) (f : α → Engine β) [hx : Quiet x] [hf : ∀ a, Quiet (f a)] :
    Quiet (x >>= f) := quiet_bind hx hf

instance (x : Engine α) (f : Fault → Engine α) [hx : Quiet x] [hf : ∀ fault, Quiet (f fault)] :
    Quiet (tryCatch x f) where
  outcome_eq st := by
    obtain ⟨log, hlog⟩ := hx.outcome_eq st
    rw [outcome_tryCatch, effect_tryCatch, hlog]
    rcases x.effect st.store with ⟨fault | _, s'⟩
    · exact (hf fault).outcome_eq ⟨s', log⟩
    · exact ⟨log, rfl⟩

instance (as : List α) (f : α → Engine Unit) [h : ∀ a, Quiet (f a)] : Quiet (as.forM f) := by
  induction as with
  | nil => exact inferInstanceAs (Quiet (pure ()))
  | cons a as ih => exact inferInstanceAs (Quiet (f a >>= fun _ => as.forM f))

/-! ### The effect of the parts -/

section Effect

variable (s : Store)

@[simp] theorem effect_pure (a : α) : effect (pure a) s = (.ok a, s) := rfl

@[simp] theorem effect_throw (fault : Fault) :
    effect (throw fault : Engine α) s = (.error fault, s) := rfl

@[simp] theorem effect_current : effect current s = (.ok s, s) := rfl

@[simp] theorem effect_put (s' : Store) : effect (put s') s = (.ok (), s') := rfl

@[simp] theorem effect_say (level : LogLevel) (source : LogSource) (message : String) :
    effect (say level source message) s = (.ok (), s) := rfl

@[simp] theorem effect_lift (r : Except Fault α) : effect (lift r) s = (r, s) := by
  cases r <;> rfl

theorem effect_ite (c : Prop) [Decidable c] (x y : Engine α) :
    effect (if c then x else y) s = if c then x.effect s else y.effect s := by
  split <;> rfl

@[simp] theorem effect_forM_nil (f : α → Engine Unit) : effect ([].forM f) s = (.ok (), s) := rfl

theorem effect_forM_cons (a : α) (as : List α) (f : α → Engine Unit) [∀ a, Quiet (f a)] :
    effect ((a :: as).forM f) s =
      match (f a).effect s with
      | (.ok _, s') => effect (as.forM f) s'
      | (.error fault, s') => (.error fault, s') := by
  show effect (f a >>= fun _ => as.forM f) s = _
  rw [effect_bind]
  rcases (f a).effect s with ⟨_ | _, s'⟩ <;> rfl

end Effect

/-! ### Checks and look-ups -/

/-- The answer of a check. -/
def checked (c : Bool) : Except Fault Unit := if c then .ok () else .error .integerTooLarge

/-- The answer of a look-up by id. -/
def found {ρ : Type} (entity : String) (row? : Option ρ) (id : Int) : Except Fault ρ :=
  if fits id then
    match row? with
    | some row => .ok row
    | none => .error (.notFound entity (toString id))
  else .error .integerTooLarge

theorem checked_eq_ok {c : Bool} {u : Unit} : checked c = .ok u ↔ c = true := by
  unfold checked; cases c <;> simp

theorem found_eq_ok {ρ : Type} {entity : String} {row? : Option ρ} {id : Int} {row : ρ} :
    found entity row? id = .ok row ↔ fits id ∧ row? = some row := by
  unfold found
  split <;> cases row? <;> simp_all

/-- An action that only asks is quiet. -/
theorem quiet_of_outcome {x : Engine α} (r : Store → Except Fault α)
    (h : ∀ st, x.outcome st = (r st.store, st)) : Quiet x where
  outcome_eq st := ⟨st.log, by rw [effect_eq, h, h]⟩

/-- The effect of an action that only asks. -/
theorem effect_of_outcome {x : Engine α} (r : Store → Except Fault α)
    (h : ∀ st, x.outcome st = (r st.store, st)) (s : Store) : x.effect s = (r s, s) := by
  rw [effect_eq, h]

theorem outcome_checkKey (key : Int) (st : EngineState) :
    outcome (checkKey key) st = (checked (fits key), st) := by
  unfold checkKey checked; split <;> rfl

theorem outcome_checkAll (numbers : List Int) (st : EngineState) :
    outcome (checkAll numbers) st = (checked (numbers.all fits), st) := by
  unfold checkAll checked; split <;> rfl

theorem outcome_lookup {ρ : Type} (entity : String) (id : Int) (row? : Store → Option ρ)
    {next : Store → Engine ρ}
    (hnext : ∀ s, next s = match row? s with
      | some row => pure row
      | none => throw (.notFound entity (toString id)))
    (st : EngineState) :
    outcome (checkKey id >>= fun _ => current >>= next) st =
      (found entity (row? st.store) id, st) := by
  rw [outcome_bind, outcome_checkKey, checked]
  unfold found
  cases fits id
  · rfl
  · show outcome (current >>= next) st = _
    rw [outcome_bind]
    show outcome (next st.store) st = _
    rw [hnext]
    cases row? st.store <;> rfl

theorem outcome_getRound (id : Int) (st : EngineState) :
    outcome (getRound id) st = (found "Round" (st.store.round? id) id, st) := by
  unfold getRound
  exact outcome_lookup "Round" id (·.round? id) (fun s => by cases s.round? id <;> rfl) st

theorem outcome_getLeague (id : Int) (st : EngineState) :
    outcome (getLeague id) st = (found "League" (st.store.league? id) id, st) := by
  unfold getLeague
  exact outcome_lookup "League" id (·.league? id) (fun s => by cases s.league? id <;> rfl) st

theorem outcome_getSeason (id : Int) (st : EngineState) :
    outcome (getSeason id) st = (found "Season" (st.store.season? id) id, st) := by
  unfold getSeason
  exact outcome_lookup "Season" id (·.season? id) (fun s => by cases s.season? id <;> rfl) st

instance (key : Int) : Quiet (checkKey key) :=
  quiet_of_outcome (fun _ => checked (fits key)) (outcome_checkKey key)

instance (numbers : List Int) : Quiet (checkAll numbers) :=
  quiet_of_outcome (fun _ => checked (numbers.all fits)) (outcome_checkAll numbers)

instance (id : Int) : Quiet (getRound id) :=
  quiet_of_outcome (fun s => found "Round" (s.round? id) id) (outcome_getRound id)

instance (id : Int) : Quiet (getLeague id) :=
  quiet_of_outcome (fun s => found "League" (s.league? id) id) (outcome_getLeague id)

instance (id : Int) : Quiet (getSeason id) :=
  quiet_of_outcome (fun s => found "Season" (s.season? id) id) (outcome_getSeason id)

@[simp] theorem effect_checkKey (key : Int) (s : Store) :
    effect (checkKey key) s = (checked (fits key), s) :=
  effect_of_outcome (fun _ => checked (fits key)) (outcome_checkKey key) s

@[simp] theorem effect_checkAll (numbers : List Int) (s : Store) :
    effect (checkAll numbers) s = (checked (numbers.all fits), s) :=
  effect_of_outcome (fun _ => checked (numbers.all fits)) (outcome_checkAll numbers) s

@[simp] theorem effect_getRound (id : Int) (s : Store) :
    effect (getRound id) s = (found "Round" (s.round? id) id, s) :=
  effect_of_outcome (fun s => found "Round" (s.round? id) id) (outcome_getRound id) s

@[simp] theorem effect_getLeague (id : Int) (s : Store) :
    effect (getLeague id) s = (found "League" (s.league? id) id, s) :=
  effect_of_outcome (fun s => found "League" (s.league? id) id) (outcome_getLeague id) s

@[simp] theorem effect_getSeason (id : Int) (s : Store) :
    effect (getSeason id) s = (found "Season" (s.season? id) id, s) :=
  effect_of_outcome (fun s => found "Season" (s.season? id) id) (outcome_getSeason id) s

instance (x : Engine α) [Quiet x] : Quiet (atomically x) := by
  unfold atomically; infer_instance

/-- An action that runs as one unit leaves the store alone when it stops. -/
theorem effect_atomically (x : Engine α) [Quiet x] (s : Store) :
    effect (atomically x) s =
      match x.effect s with
      | (.ok a, s') => (.ok a, s')
      | (.error fault, _) => (.error fault, s) := by
  unfold atomically
  rw [effect_bind]
  show effect (tryCatch x _) s = _
  rw [effect_tryCatch]
  rcases x.effect s with ⟨_ | _, s'⟩ <;> rfl

/-! ### Returning -/

section Returns

variable {s s' : Store}

@[simp] theorem returns_pure {a b : α} : (pure a : Engine α).Returns s b s' ↔ b = a ∧ s' = s := by
  rw [Returns, effect_pure, Prod.mk.injEq, Except.ok.injEq, eq_comm, eq_comm (a := s)]

@[simp] theorem not_returns_throw {fault : Fault} {a : α} :
    ¬(throw fault : Engine α).Returns s a s' := by
  simp [Returns]

theorem returns_bind {x : Engine α} {f : α → Engine β} [∀ a, Quiet (f a)] {b : β} :
    (x >>= f).Returns s b s' ↔ ∃ a t, x.Returns s a t ∧ (f a).Returns t b s' := by
  rw [Returns, effect_bind]
  rcases hx : x.effect s with ⟨fault | a, t⟩
  · simp [Returns, hx]
  · simp only [Returns, hx, Prod.mk.injEq, Except.ok.injEq]
    constructor
    · exact fun h => ⟨a, t, ⟨rfl, rfl⟩, h⟩
    · rintro ⟨_, _, ⟨rfl, rfl⟩, h⟩
      exact h

variable {b : β}

/-- After an action that only asks. -/
theorem returns_ask_bind {x : Engine α} {f : α → Engine β} (r : Store → Except Fault α)
    (hx : ∀ st, x.outcome st = (r st.store, st)) :
    (x >>= f).Returns s b s' ↔ ∃ a, r s = .ok a ∧ (f a).Returns s b s' := by
  rw [Returns, effect_eq, outcome_bind, hx]
  cases r s with
  | error fault => simp
  | ok a => simp [Returns, effect_eq]

theorem returns_lift_bind {r : Except Fault α} {f : α → Engine β} :
    (lift r >>= f).Returns s b s' ↔ ∃ a, r = .ok a ∧ (f a).Returns s b s' :=
  returns_ask_bind (fun _ => r) fun st => by cases r <;> rfl

theorem returns_current_bind {f : Store → Engine β} :
    (current >>= f).Returns s b s' ↔ (f s).Returns s b s' := by
  rw [Returns, effect_eq, outcome_bind]
  rfl

theorem returns_put_bind {f : Unit → Engine β} {t : Store} :
    (put t >>= f).Returns s b s' ↔ (f ()).Returns t b s' := by
  rw [Returns, effect_eq, outcome_bind]
  rfl

theorem returns_say_bind {f : Unit → Engine β} [∀ u, Quiet (f u)] {level : LogLevel}
    {source : LogSource} {message : String} :
    (say level source message >>= f).Returns s b s' ↔ (f ()).Returns s b s' := by
  rw [Returns, effect_bind]
  rfl

theorem returns_checkAll_bind {f : Unit → Engine β} {numbers : List Int} :
    (checkAll numbers >>= f).Returns s b s' ↔
      numbers.all fits = true ∧ (f ()).Returns s b s' := by
  rw [returns_ask_bind (fun _ => checked (numbers.all fits)) (outcome_checkAll numbers)]
  simp only [checked_eq_ok]
  exact ⟨fun ⟨(), h⟩ => h, fun h => ⟨(), h⟩⟩

theorem returns_getRound_bind {f : Round → Engine β} {id : Int} :
    (getRound id >>= f).Returns s b s' ↔
      ∃ round, (fits id ∧ s.round? id = some round) ∧ (f round).Returns s b s' := by
  rw [returns_ask_bind (fun s => found "Round" (s.round? id) id) (outcome_getRound id)]
  simp only [found_eq_ok]

theorem returns_getLeague_bind {f : League → Engine β} {id : Int} :
    (getLeague id >>= f).Returns s b s' ↔
      ∃ league, (fits id ∧ s.league? id = some league) ∧ (f league).Returns s b s' := by
  rw [returns_ask_bind (fun s => found "League" (s.league? id) id) (outcome_getLeague id)]
  simp only [found_eq_ok]

theorem returns_getSeason_bind {f : Season → Engine β} {id : Int} :
    (getSeason id >>= f).Returns s b s' ↔
      ∃ season, (fits id ∧ s.season? id = some season) ∧ (f season).Returns s b s' := by
  rw [returns_ask_bind (fun s => found "Season" (s.season? id) id) (outcome_getSeason id)]
  simp only [found_eq_ok]

/-- An action whose faults are reported returns when the action itself does. -/
theorem returns_tryCatch {x : Engine α} {g : Fault → Engine α} [∀ fault, Quiet (g fault)] {a : α}
    (hg : ∀ fault t, ¬(g fault).Returns t a s') :
    (tryCatch x g).Returns s a s' ↔ x.Returns s a s' := by
  rw [Returns, effect_tryCatch]
  rcases hx : x.effect s with ⟨fault | a', t⟩
  · simp only [Returns, hx, Prod.mk.injEq, reduceCtorEq, false_and, iff_false]
    exact hg fault t
  · simp only [Returns, hx]

theorem returns_forM_cons {a : α} {as : List α} {f : α → Engine Unit} [∀ a, Quiet (f a)] :
    ((a :: as).forM f).Returns s () s' ↔
      ∃ t, (f a).Returns s () t ∧ (as.forM f).Returns t () s' := by
  show (f a >>= fun _ => as.forM f).Returns s () s' ↔ _
  rw [returns_bind]
  exact ⟨fun ⟨(), h⟩ => h, fun h => ⟨(), h⟩⟩

end Returns

/-! ### Stopping -/

section Stops

variable {s s' : Store} {fault : Fault}

/-- An action that stops does so in its first part, or in what follows once that has returned. -/
theorem stops_bind {x : Engine α} {f : α → Engine β} [∀ a, Quiet (f a)]
    (h : (x >>= f).effect s = (.error fault, s')) :
    x.effect s = (.error fault, s') ∨
      ∃ a t, x.Returns s a t ∧ (f a).effect t = (.error fault, s') := by
  rw [effect_bind] at h
  cases hx : x.effect s with
  | mk answer t =>
    rw [hx] at h
    cases answer with
    | error fault' =>
      obtain ⟨hfault, rfl⟩ := Prod.mk.inj h
      obtain rfl := Except.error.inj hfault
      exact .inl rfl
    | ok a => exact .inr ⟨a, t, hx, h⟩

/-- What is done with the answer of an action does not stop. -/
theorem stops_bind_pure {x : Engine α} {f : α → β}
    (h : (do let a ← x; return f a : Engine β).effect s = (.error fault, s')) :
    x.effect s = (.error fault, s') := by
  rcases stops_bind h with hx | ⟨a, t, -, hdone⟩
  · exact hx
  · simp at hdone

/-- Nor does it when the action is reported first. -/
theorem stops_bind_say {x : Engine α} {level : LogLevel} {source : LogSource} {text : α → String}
    {f : α → β} (h : (do
      let a ← x
      say level source (text a)
      return f a : Engine β).effect s = (.error fault, s')) : x.effect s = (.error fault, s') := by
  rcases stops_bind h with hx | ⟨a, t, -, hdone⟩
  · exact hx
  · have hsay := stops_bind_pure hdone
    simp at hsay

/-- A loop that stops does so at one of its elements, once it has gone through those before it. -/
theorem stops_forM {f : α → Engine Unit} [∀ a, Quiet (f a)] {as : List α}
    (h : (as.forM f).effect s = (.error fault, s')) :
    ∃ before a after t, as = before ++ a :: after ∧ (before.forM f).Returns s () t ∧
      (f a).effect t = (.error fault, s') := by
  induction as generalizing s with
  | nil => simp at h
  | cons a as ih =>
    rcases stops_bind (x := f a) (f := fun _ => as.forM f) h with hfirst | ⟨_, t, hfirst, hrest⟩
    · exact ⟨[], a, as, s, rfl, returns_pure.2 ⟨rfl, rfl⟩, hfirst⟩
    · obtain ⟨before, b, after, u, rfl, hbefore, hstops⟩ := ih hrest
      exact ⟨a :: before, b, after, u, rfl, returns_forM_cons.2 ⟨t, hfirst, hbefore⟩, hstops⟩

end Stops

end PredictionLeague.Engine
