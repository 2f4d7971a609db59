import PredictionLeague.Log
import PredictionLeague.Store

/-!
# Engine actions

An action reads and changes the store, writes to the log, and returns a value or stops with a
fault. What an action did before a fault stays done, unless it runs `atomically`: then the store
is as before, while the log keeps what was said.

Every call starts from the committed tables: a session in which a call stopped with a fault is
rolled back before the next call. So the store between calls is what is committed, and what stays
done after a fault is what the call had committed by then.
-/

namespace PredictionLeague

/-- What an action works on: the store, and the log with the latest entry last. -/
structure EngineState where
  store : Store
  log : List LogEntry
  deriving DecidableEq

/-- An action of the engine. -/
abbrev Engine (α : Type) := ExceptT Fault (StateM EngineState) α

namespace Engine

/-- Run an action from a store, with an empty log. -/
def runOn {α : Type} (action : Engine α) (store : Store) : Except Fault α × EngineState :=
  (ExceptT.run action).run ⟨store, []⟩

/-- The store an action leaves behind, whether or not it stops with a fault. -/
def storeAfter {α : Type} (action : Engine α) (store : Store) : Store :=
  (action.runOn store).2.store

/-- The present store. -/
def current : Engine Store := do return (← get).store

/-- Replace the store. -/
def put (store : Store) : Engine Unit := modify fun state => { state with store }

/-- The value of a calculation, or its fault. -/
def lift {α : Type} : Except Fault α → Engine α
  | .ok a => pure a
  | .error fault => throw fault

/-- Write to the log. -/
def say (level : LogLevel) (source : LogSource) (message : String) : Engine Unit :=
  modify fun state => { state with log := state.log ++ [⟨level, source, message⟩] }

/-- Run an action whose changes of the store are undone when it stops with a fault. -/
def atomically {α : Type} (action : Engine α) : Engine α := do
  let store ← current
  tryCatch action fun fault => do
    put store
    throw fault

end Engine

/-! ### Numbers in the store -/

/-- Whether an integer has a place in the store. -/
def fits (n : Int) : Bool := -9223372036854775808 ≤ n && n < 9223372036854775808

namespace Engine

/-- Refuse a key that no row can have because it does not fit. -/
def checkKey (key : Int) : Engine Unit :=
  if fits key then pure () else throw .integerTooLarge

/-- Refuse numbers that do not fit. -/
def checkAll (numbers : List Int) : Engine Unit :=
  if numbers.all fits then pure () else throw .integerTooLarge

/-- The round with an id. -/
def getRound (id : Int) : Engine Round := do
  checkKey id
  match (← current).round? id with
  | some round => pure round
  | none => throw (.notFound "Round" (toString id))

/-- The league with an id. -/
def getLeague (id : Int) : Engine League := do
  checkKey id
  match (← current).league? id with
  | some league => pure league
  | none => throw (.notFound "League" (toString id))

/-- The season with an id. -/
def getSeason (id : Int) : Engine Season := do
  checkKey id
  match (← current).season? id with
  | some season => pure season
  | none => throw (.notFound "Season" (toString id))

end Engine

end PredictionLeague
