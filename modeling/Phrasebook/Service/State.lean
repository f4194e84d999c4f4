import Phrasebook.Service.Registry

/-!
# Running factories

A lookup seals the registry, takes the factory stored at that moment and runs it; what the factory does to the registry while it runs cannot change which factory answers. A lookup of the default seals it, copies its namespace and then resolves the copy, which is to look that namespace up (`State.lookupDefaultWith_eq`). Factories may look up in turn, and a factory may look itself up without end, so a run is given the number of factory calls that may be nested in one another. A run that needs more has no outcome; every run that has one keeps it when more calls are allowed.
-/

namespace Phrasebook.Service

/-- A registry and the counts of all cells. -/
structure State (S : Type) where
  registry : Registry S
  counts : Nat → Nat

namespace State

variable {S : Type}

def ofRegistry (registry : Registry S) : State S := ⟨registry, fun _ => 0⟩

instance : Inhabited (State S) := ⟨ofRegistry .new⟩

def withRegistry (state : State S) (registry : Registry S) : State S := { state with registry }

/-- Marks that a lookup has begun. -/
def sealDefault (state : State S) : State S := state.withRegistry state.registry.sealDefault

@[simp] theorem registry_sealDefault (state : State S) :
    state.sealDefault.registry = state.registry.sealDefault := rfl

def count (state : State S) (cell : Nat) : State S :=
  let counted := state.counts cell + 1
  { state with counts := fun other => if other = cell then counted else state.counts other }

def register (state : State S) (space : String) (factory : Program S) : State S :=
  state.withRegistry (state.registry.register space factory)

/-- Changes the default namespace; a refusal leaves the state as it is. -/
def overrideDefault (state : State S) (space : String) : Except Refusal Unit × State S :=
  match state.registry.overrideDefault space with
  | .ok registry => (.ok (), state.withRegistry registry)
  | .error refusal => (.error refusal, state)

end State

/-- What running a program comes to: a service and the state after it, or nothing when too many calls are nested. -/
abbrev Run (S : Type) := State S → Option (S × State S)

variable {S : Type}

/-- Runs the factory registered for a namespace, if there is one. -/
def resolve (call : Program S → Run S) (space : String) (state : State S) :
    Option (Except Refusal S × State S) :=
  match state.registry.factory? space with
  | none => some (.error (.unregistered space), state)
  | some factory => (call factory state).map fun (service, state) => (.ok service, state)

namespace State

/-- Looks a namespace up, with `call` to run its factory: the default is sealed before the namespace is resolved. -/
def lookupWith (call : Program S → Run S) (state : State S) (space : String) :
    Option (Except Refusal S × State S) :=
  resolve call space state.sealDefault

/-- Looks the default namespace up, with `call` to run its factory: the default is sealed, its namespace is copied, and the copy is resolved. -/
def lookupDefaultWith (call : Program S → Run S) (state : State S) :
    Option (Except Refusal S × State S) :=
  let begun := state.sealDefault
  let space := begun.registry.default
  resolve call space begun

/-- The namespace that is copied is the one that was the default when the lookup began. -/
theorem lookupDefaultWith_eq (call : Program S → Run S) (state : State S) :
    state.lookupDefaultWith call = state.lookupWith call state.registry.default := by
  rw [lookupDefaultWith, lookupWith, registry_sealDefault, Registry.default_sealDefault]

section

variable {call : Program S → Run S} {state : State S} {space : String}

theorem lookupWith_of_none (h : state.registry.factory? space = none) :
    state.lookupWith call space =
      some (.error (.unregistered space), state.sealDefault) := by
  rw [lookupWith, resolve, registry_sealDefault, Registry.factory?_sealDefault, h]

theorem lookupWith_of_some {factory : Program S}
    (h : state.registry.factory? space = some factory) :
    state.lookupWith call space =
      (call factory state.sealDefault).map fun (service, made) => (.ok service, made) := by
  rw [lookupWith, resolve, registry_sealDefault, Registry.factory?_sealDefault, h]

end

end State

/-- Runs a program, with `call` to run the factories that it looks up. -/
def Program.runWith (call : Program S → Run S) : Program S → Run S
  | .done service, state => some (service, state)
  | .lookup space next, state =>
    (state.lookupWith call space).bind fun (answer, state) => (next answer).runWith call state
  | .lookupDefault next, state =>
    (state.lookupDefaultWith call).bind fun (answer, state) => (next answer).runWith call state
  | .overrideDefault space next, state =>
    let (answer, state) := state.overrideDefault space
    (next answer).runWith call state
  | .register space factory next, state => next.runWith call (state.register space factory)
  | .inspect next, state => (next state.registry.overview).runWith call state
  | .count cell next, state => (next (state.counts cell)).runWith call (state.count cell)

/-- Runs a program in which at most `depth` factory calls are nested. -/
def Program.run : Nat → Program S → Run S
  | 0 => Program.runWith fun _ _ => none
  | depth + 1 => Program.runWith (Program.run depth)

namespace State

/-- Looks a namespace up, with at most `depth` factory calls nested. -/
def lookup (depth : Nat) (state : State S) (space : String) :
    Option (Except Refusal S × State S) :=
  state.lookupWith (Program.run depth) space

/-- Looks the default namespace up, with at most `depth` factory calls nested. -/
def lookupDefault (depth : Nat) (state : State S) : Option (Except Refusal S × State S) :=
  state.lookupDefaultWith (Program.run depth)

theorem lookupDefault_eq (depth : Nat) (state : State S) :
    state.lookupDefault depth = state.lookup depth state.registry.default :=
  lookupDefaultWith_eq (Program.run depth) state

end State

end Phrasebook.Service
