import Phrasebook.Service.State
import Mathlib.Data.List.Basic

/-!
# Sessions

A session is what the owner of a registry does to it, one operation after the other, together with all that factories do to it meanwhile. `Performed` says what a session is without a bound on nested calls: a lookup seals the registry, then the factory stored at that moment does what its program asks for, which is a session of its own, and only then the session goes on. Along with the answers it gives the moments of the session, which are all uses of the registry in the order in which they take effect, those inside running factories included.

`run_iff` says that programs run to their end exactly as sessions say, `exists_performed` and `exists_performAll` the same of operations. The theorems about registries are stated of runs and proved of sessions.
-/

namespace Phrasebook.Service

variable {S : Type}

/-! ### What happens in a session -/

/-- What a lookup is for. -/
inductive Target where
  | named (space : String)
  | default

/-- The namespace that a lookup resolves. -/
def Target.space (registry : Registry S) : Target → String
  | named space => space
  | default => registry.default

/-- The queries that only read. -/
inductive Query where
  | isRegistered (space : String)
  | spaces
  | size
  | isEmpty
  | default
  | diagnostic
  /-- What a running program can see. -/
  | overview

def Query.Answer : Query → Type
  | isRegistered _ | isEmpty => Bool
  | spaces => List String
  | size => Nat
  | default | diagnostic => String
  | overview => Overview

def Registry.answer (registry : Registry S) : (query : Query) → query.Answer
  | .isRegistered space => registry.isRegistered space
  | .spaces => registry.spaces
  | .size => registry.size
  | .isEmpty => registry.isEmpty
  | .default => registry.default
  | .diagnostic => registry.overview.diagnostic
  | .overview => registry.overview

/-- One use of a registry, with the answer to whoever used it. Counting is here because programs do it; it leaves the registry alone. -/
inductive Event (S : Type) where
  | lookup (target : Target) (answer : Except Refusal S)
  | overrideDefault (space : String) (answer : Except Refusal Unit)
  | register (space : String) (factory : Program S)
  | query (query : Query) (answer : query.Answer)
  | count (cell before : Nat)

/-- An event with the registry just before and just after it took effect. A lookup takes effect when it begins; what its factory does are later moments. -/
structure Moment (S : Type) where
  event : Event S
  before : Registry S
  after : Registry S

/-- A program that gets the answers in these events asks for just them and ends with a service. -/
inductive Program.Yields : Program S → List (Event S) → S → Prop
  | done (service : S) : Yields (.done service) [] service
  | lookup {space : String} {next : Except Refusal S → Program S} {answer : Except Refusal S}
      {events : List (Event S)} {service : S} (h : Yields (next answer) events service) :
      Yields (.lookup space next) (.lookup (.named space) answer :: events) service
  | lookupDefault {next : Except Refusal S → Program S} {answer : Except Refusal S}
      {events : List (Event S)} {service : S} (h : Yields (next answer) events service) :
      Yields (.lookupDefault next) (.lookup .default answer :: events) service
  | overrideDefault {space : String} {next : Except Refusal Unit → Program S}
      {answer : Except Refusal Unit} {events : List (Event S)} {service : S}
      (h : Yields (next answer) events service) :
      Yields (.overrideDefault space next) (.overrideDefault space answer :: events) service
  | register {space : String} {factory next : Program S} {events : List (Event S)} {service : S}
      (h : Yields next events service) :
      Yields (.register space factory next) (.register space factory :: events) service
  | inspect {next : Overview → Program S} {overview : Overview} {events : List (Event S)}
      {service : S} (h : Yields (next overview) events service) :
      Yields (.inspect next) (.query .overview overview :: events) service
  | count {cell before : Nat} {next : Nat → Program S} {events : List (Event S)} {service : S}
      (h : Yields (next before) events service) :
      Yields (.count cell next) (.count cell before :: events) service

/-- The events that run no factory, each with the answer that the state gives. -/
inductive State.Takes : State S → Event S → State S → Prop
  | overrideDefault (state : State S) (space : String) :
      Takes state (.overrideDefault space (state.overrideDefault space).1)
        (state.overrideDefault space).2
  | register (state : State S) (space : String) (factory : Program S) :
      Takes state (.register space factory) (state.register space factory)
  | query (state : State S) (query : Query) :
      Takes state (.query query (state.registry.answer query)) state
  | count (state : State S) (cell : Nat) :
      Takes state (.count cell (state.counts cell)) (state.count cell)

/-- From a state, these events happen one after the other and lead to a state, with these moments in all. -/
inductive Performed : State S → List (Event S) → List (Moment S) → State S → Prop
  | nil (state : State S) : Performed state [] [] state
  | plain {state next after : State S} {event : Event S} {events : List (Event S)}
      {moments : List (Moment S)} (h : state.Takes event next)
      (hrest : Performed next events moments after) :
      Performed state (event :: events) (⟨event, state.registry, next.registry⟩ :: moments) after
  /-- Nothing is registered for what is looked up. -/
  | missed {state after : State S} {target : Target} {events : List (Event S)}
      {moments : List (Moment S)}
      (hfactory : state.registry.factory? (target.space state.registry) = none)
      (hrest : Performed state.sealDefault events moments after) :
      Performed state
        (.lookup target (.error (.unregistered (target.space state.registry))) :: events)
        (⟨.lookup target (.error (.unregistered (target.space state.registry))),
          state.registry, state.registry.sealDefault⟩ :: moments) after
  /-- The factory makes a service, and the session goes on where that leads. -/
  | made {state made after : State S} {target : Target} {factory : Program S} {service : S}
      {uses events : List (Event S)} {inner moments : List (Moment S)}
      (hfactory : state.registry.factory? (target.space state.registry) = some factory)
      (hyields : factory.Yields uses service) (hinner : Performed state.sealDefault uses inner made)
      (hrest : Performed made events moments after) :
      Performed state (.lookup target (.ok service) :: events)
        (⟨.lookup target (.ok service), state.registry, state.registry.sealDefault⟩ ::
          (inner ++ moments)) after

/-! ### Operations of the owner -/

/-- What the owner of a registry can do. -/
inductive Operation (S : Type) where
  | lookup (target : Target)
  | overrideDefault (space : String)
  | register (space : String) (factory : Program S)
  | query (query : Query)

namespace State

/-- Looks a target up, with at most `depth` factory calls nested. -/
def lookupTarget (depth : Nat) (state : State S) : Target → Option (Except Refusal S × State S)
  | .named space => state.lookup depth space
  | .default => state.lookupDefault depth

/-- Performs one operation, with at most `depth` factory calls nested. -/
def perform (depth : Nat) (state : State S) : Operation S → Option (Event S × State S)
  | .lookup target =>
    (state.lookupTarget depth target).map fun (answer, after) => (.lookup target answer, after)
  | .overrideDefault space =>
    let (answer, after) := state.overrideDefault space
    some (.overrideDefault space answer, after)
  | .register space factory => some (.register space factory, state.register space factory)
  | .query query => some (.query query (state.registry.answer query), state)

/-- Performs operations one after the other, with at most `depth` factory calls nested in each. -/
def performAll (depth : Nat) : List (Operation S) → State S → Option (List (Event S) × State S)
  | [], state => some ([], state)
  | operation :: operations, state =>
    (state.perform depth operation).bind fun (event, next) =>
      (performAll depth operations next).map fun (events, after) => (event :: events, after)

end State

/-- What the owner does for an event to happen; only programs count. -/
def Event.operation? : Event S → Option (Operation S)
  | lookup target _ => some (.lookup target)
  | overrideDefault space _ => some (.overrideDefault space)
  | register space factory => some (.register space factory)
  | query asked _ => some (.query asked)
  | count _ _ => none

theorem State.lookupTarget_eq (depth : Nat) (state : State S) (target : Target) :
    state.lookupTarget depth target =
      state.lookupWith (Program.run depth) (target.space state.registry) := by
  cases target with
  | named space => rfl
  | default => exact lookupDefault_eq depth state

/-- An operation is a lookup or takes effect at once. -/
theorem State.perform_cases {depth : Nat} {state next : State S} {operation : Operation S}
    {event : Event S} (h : state.perform depth operation = some (event, next)) :
    (∃ target answer, operation = .lookup target ∧ event = .lookup target answer ∧
      state.lookupWith (Program.run depth) (target.space state.registry) =
        some (answer, next)) ∨
    (state.Takes event next ∧ event.operation? = some operation) := by
  cases operation with
  | lookup target =>
    obtain ⟨⟨answer, found⟩, hlookup, heq⟩ := Option.map_eq_some_iff.1 h
    obtain ⟨rfl, rfl⟩ := Prod.mk.inj heq
    rw [lookupTarget_eq] at hlookup
    exact .inl ⟨target, answer, rfl, rfl, hlookup⟩
  | overrideDefault space =>
    obtain ⟨rfl, rfl⟩ := Prod.mk.inj (Option.some.inj h)
    exact .inr ⟨.overrideDefault state space, rfl⟩
  | register space factory =>
    obtain ⟨rfl, rfl⟩ := Prod.mk.inj (Option.some.inj h)
    exact .inr ⟨.register state space factory, rfl⟩
  | query query =>
    obtain ⟨rfl, rfl⟩ := Prod.mk.inj (Option.some.inj h)
    exact .inr ⟨.query state query, rfl⟩

theorem State.performAll_cons_iff {depth : Nat} {operation : Operation S}
    {operations : List (Operation S)} {state after : State S} {events : List (Event S)} :
    state.performAll depth (operation :: operations) = some (events, after) ↔
      ∃ event next later, state.perform depth operation = some (event, next) ∧
        next.performAll depth operations = some (later, after) ∧ events = event :: later := by
  constructor
  · intro h
    obtain ⟨⟨event, next⟩, hperform, hmap⟩ := Option.bind_eq_some_iff.1 h
    obtain ⟨⟨later, last⟩, hlater, heq⟩ := Option.map_eq_some_iff.1 hmap
    obtain ⟨rfl, rfl⟩ := Prod.mk.inj heq
    exact ⟨event, next, later, hperform, hlater, rfl⟩
  · rintro ⟨event, next, later, hperform, hlater, rfl⟩
    exact Option.bind_eq_some_iff.2
      ⟨_, hperform, Option.map_eq_some_iff.2 ⟨_, hlater, rfl⟩⟩

/-! ### Runs are sessions -/

/-- What a way of running factories achieves is a session of what they ask for. -/
def Traced (call : Program S → Run S) : Prop :=
  ∀ factory state service after, call factory state = some (service, after) →
    ∃ events moments, factory.Yields events service ∧ Performed state events moments after

theorem Traced.lookupWith {call : Program S → Run S} (hcall : Traced call) (target : Target)
    {state next after : State S} {answer : Except Refusal S} {events : List (Event S)}
    {moments : List (Moment S)}
    (h : state.lookupWith call (target.space state.registry) = some (answer, next))
    (hrest : Performed next events moments after) :
    ∃ moments, Performed state (.lookup target answer :: events) moments after := by
  cases hfactory : state.registry.factory? (target.space state.registry) with
  | none =>
    rw [State.lookupWith_of_none hfactory] at h
    obtain ⟨rfl, rfl⟩ := Prod.mk.inj (Option.some.inj h)
    exact ⟨_, .missed hfactory hrest⟩
  | some factory =>
    rw [State.lookupWith_of_some hfactory] at h
    obtain ⟨⟨service, made⟩, hmade, heq⟩ := Option.map_eq_some_iff.1 h
    obtain ⟨rfl, rfl⟩ := Prod.mk.inj heq
    obtain ⟨uses, inner, hyields, hinner⟩ := hcall _ _ _ _ hmade
    exact ⟨_, .made hfactory hyields hinner hrest⟩

theorem Traced.runWith {call : Program S → Run S} (hcall : Traced call) :
    Traced (Program.runWith call) := by
  intro program
  -- In each case the first thing that the program asks for goes before the session of the rest.
  induction program with
  | done service =>
    intro state service after h
    obtain ⟨rfl, rfl⟩ := Prod.mk.inj (Option.some.inj h)
    exact ⟨_, _, .done _, .nil _⟩
  | lookup space next ih =>
    intro state service after h
    obtain ⟨⟨answer, mid⟩, hlookup, hnext⟩ := Option.bind_eq_some_iff.1 h
    obtain ⟨events, moments, hyields, hrest⟩ := ih answer _ _ _ hnext
    obtain ⟨moments, hperformed⟩ := hcall.lookupWith (.named space) hlookup hrest
    exact ⟨_, _, .lookup hyields, hperformed⟩
  | lookupDefault next ih =>
    intro state service after h
    obtain ⟨⟨answer, mid⟩, hlookup, hnext⟩ := Option.bind_eq_some_iff.1 h
    obtain ⟨events, moments, hyields, hrest⟩ := ih answer _ _ _ hnext
    rw [State.lookupDefaultWith_eq] at hlookup
    obtain ⟨moments, hperformed⟩ := hcall.lookupWith .default hlookup hrest
    exact ⟨_, _, .lookupDefault hyields, hperformed⟩
  | overrideDefault space next ih =>
    intro state service after h
    obtain ⟨events, moments, hyields, hrest⟩ := ih _ _ _ _ h
    exact ⟨_, _, .overrideDefault hyields, .plain (.overrideDefault state space) hrest⟩
  | register space factory next _ ih =>
    intro state service after h
    obtain ⟨events, moments, hyields, hrest⟩ := ih _ _ _ h
    exact ⟨_, _, .register hyields, .plain (.register state space factory) hrest⟩
  | inspect next ih =>
    intro state service after h
    obtain ⟨events, moments, hyields, hrest⟩ := ih _ _ _ _ h
    exact ⟨_, _, .inspect hyields, .plain (.query state .overview) hrest⟩
  | count cell next ih =>
    intro state service after h
    obtain ⟨events, moments, hyields, hrest⟩ := ih _ _ _ _ h
    exact ⟨_, _, .count hyields, .plain (.count state cell) hrest⟩

theorem traced_run (depth : Nat) : Traced (S := S) (Program.run depth) := by
  induction depth with
  | zero => exact Traced.runWith fun _ _ _ _ h => absurd h (by simp)
  | succ depth ih => exact ih.runWith

theorem State.exists_performed {depth : Nat} {operations : List (Operation S)}
    {state after : State S} {events : List (Event S)}
    (h : state.performAll depth operations = some (events, after)) :
    ∃ moments, Performed state events moments after := by
  induction operations generalizing state events with
  | nil =>
    obtain ⟨rfl, rfl⟩ := Prod.mk.inj (Option.some.inj h)
    exact ⟨_, .nil _⟩
  | cons operation operations ih =>
    obtain ⟨event, next, later, hperform, hlater, rfl⟩ := State.performAll_cons_iff.1 h
    obtain ⟨moments, hrest⟩ := ih hlater
    rcases State.perform_cases hperform with ⟨target, answer, -, rfl, hlookup⟩ | ⟨htakes, -⟩
    · exact (traced_run depth).lookupWith target hlookup hrest
    · exact ⟨_, .plain htakes hrest⟩

/-! ### Sessions are runs -/

/-- How factories are run where at most `depth` calls are nested. -/
def calls : Nat → Program S → Run S
  | 0 => fun _ _ => none
  | depth + 1 => Program.run depth

theorem run_eq_runWith (depth : Nat) (program : Program S) :
    program.run depth = program.runWith (calls depth) := by
  cases depth <;> rfl

/-- `more` achieves whatever `call` does. -/
def Extends (more call : Program S → Run S) : Prop :=
  ∀ factory state result, call factory state = some result → more factory state = some result

theorem Extends.lookupWith {more call : Program S → Run S} (h : Extends more call)
    {space : String} {state : State S} {result : Except Refusal S × State S}
    (hlookup : state.lookupWith call space = some result) :
    state.lookupWith more space = some result := by
  cases hfactory : state.registry.factory? space with
  | none =>
    rw [State.lookupWith_of_none hfactory] at hlookup ⊢
    exact hlookup
  | some factory =>
    rw [State.lookupWith_of_some hfactory] at hlookup ⊢
    obtain ⟨made, hmade, rfl⟩ := Option.map_eq_some_iff.1 hlookup
    rw [h _ _ _ hmade, Option.map_some]

theorem Extends.runWith {more call : Program S → Run S} (h : Extends more call) :
    Extends (Program.runWith more) (Program.runWith call) := by
  intro program
  induction program with
  | done service => exact fun _ _ hrun => hrun
  | lookup space next ih =>
    intro state result hrun
    obtain ⟨⟨answer, mid⟩, hlookup, hnext⟩ := Option.bind_eq_some_iff.1 hrun
    exact Option.bind_eq_some_iff.2 ⟨_, h.lookupWith hlookup, ih _ _ _ hnext⟩
  | lookupDefault next ih =>
    intro state result hrun
    rw [Program.runWith, State.lookupDefaultWith_eq] at hrun ⊢
    obtain ⟨⟨answer, mid⟩, hlookup, hnext⟩ := Option.bind_eq_some_iff.1 hrun
    exact Option.bind_eq_some_iff.2 ⟨_, h.lookupWith hlookup, ih _ _ _ hnext⟩
  | overrideDefault space next ih => exact fun _ _ hrun => ih _ _ _ hrun
  | register space factory next _ ih => exact fun _ _ hrun => ih _ _ hrun
  | inspect next ih => exact fun _ _ hrun => ih _ _ _ hrun
  | count cell next ih => exact fun _ _ hrun => ih _ _ _ hrun

theorem calls_mono {depth deeper : Nat} (h : depth ≤ deeper) :
    Extends (S := S) (calls deeper) (calls depth) := by
  induction depth generalizing deeper with
  | zero => exact fun _ _ _ hrun => absurd hrun (by simp [calls])
  | succ depth ih =>
    -- A factory that is called may nest one call less, on either side.
    obtain ⟨deeper, rfl⟩ : ∃ less, deeper = less + 1 := ⟨deeper - 1, by omega⟩
    intro factory
    rw [calls, calls, run_eq_runWith, run_eq_runWith]
    exact (ih (by omega)).runWith factory

/-- A run that has an outcome keeps it when more calls may be nested. -/
theorem run_mono {depth deeper : Nat} (h : depth ≤ deeper) {program : Program S} {state : State S}
    {result : S × State S} (hrun : program.run depth state = some result) :
    program.run deeper state = some result := by
  rw [run_eq_runWith] at hrun ⊢
  exact (calls_mono h).runWith _ _ _ hrun

theorem State.lookup_eq (depth : Nat) (state : State S) (space : String) :
    state.lookup depth space =
      match state.registry.factory? space with
      | none => some (.error (.unregistered space), state.sealDefault)
      | some factory =>
        (factory.run depth state.sealDefault).map fun (service, made) => (.ok service, made) := by
  cases h : state.registry.factory? space with
  | none => exact lookupWith_of_none h
  | some factory => exact lookupWith_of_some h

theorem Program.Yields.exists_lookup {program : Program S} {target : Target}
    {answer : Except Refusal S} {events : List (Event S)} {service : S}
    (h : program.Yields (.lookup target answer :: events) service) :
    ∃ next : Except Refusal S → Program S, (next answer).Yields events service ∧
      ∀ depth (state : State S), program.run depth state =
        (state.lookupWith (calls depth) (target.space state.registry)).bind
          fun (answer, mid) => (next answer).run depth mid := by
  cases h with
  | lookup h =>
    refine ⟨_, h, fun depth state => ?_⟩
    simp only [run_eq_runWith]
    rfl
  | lookupDefault h =>
    refine ⟨_, h, fun depth state => ?_⟩
    simp only [run_eq_runWith]
    rw [Program.runWith, State.lookupDefaultWith_eq]
    rfl

theorem Program.Yields.exists_plain {program : Program S} {event : Event S}
    {events : List (Event S)} {service : S} {state next : State S}
    (h : program.Yields (event :: events) service) (hevent : state.Takes event next) :
    ∃ rest : Program S, rest.Yields events service ∧
      ∀ depth, program.run depth state = rest.run depth next := by
  cases hevent with
  | overrideDefault space =>
    cases h with
    | overrideDefault h => exact ⟨_, h, fun depth => by simp only [run_eq_runWith]; rfl⟩
  | register space factory =>
    cases h with
    | register h => exact ⟨_, h, fun depth => by simp only [run_eq_runWith]; rfl⟩
  | query query =>
    cases h with
    | inspect h => exact ⟨_, h, fun depth => by simp only [run_eq_runWith]; rfl⟩
  | count cell =>
    cases h with
    | count h => exact ⟨_, h, fun depth => by simp only [run_eq_runWith]; rfl⟩

theorem Performed.exists_run {state after : State S} {events : List (Event S)}
    {moments : List (Moment S)} (h : Performed state events moments after) {program : Program S}
    {service : S} (hyields : program.Yields events service) :
    ∃ depth, program.run depth state = some (service, after) := by
  induction h generalizing program service with
  | nil state =>
    cases hyields
    exact ⟨0, rfl⟩
  | plain hevent _ ih =>
    obtain ⟨rest, hrest, hrun⟩ := hyields.exists_plain hevent
    obtain ⟨depth, hdepth⟩ := ih hrest
    exact ⟨depth, (hrun depth).trans hdepth⟩
  | missed hfactory _ ih =>
    obtain ⟨next, hnext, hrun⟩ := hyields.exists_lookup
    obtain ⟨depth, hdepth⟩ := ih hnext
    refine ⟨depth, ?_⟩
    rw [hrun, State.lookupWith_of_none hfactory]
    exact hdepth
  | made hfactory hfactoryYields _ _ ihinner ihrest =>
    obtain ⟨next, hnext, hrun⟩ := hyields.exists_lookup
    obtain ⟨inner, hinner⟩ := ihinner hfactoryYields
    obtain ⟨depth, hdepth⟩ := ihrest hnext
    -- The factory runs one call deeper than the program that looks it up.
    have hcall := calls_mono (Nat.le_max_left (inner + 1) depth) _ _ _ hinner
    refine ⟨max (inner + 1) depth, ?_⟩
    rw [hrun, State.lookupWith_of_some hfactory, hcall]
    exact run_mono (Nat.le_max_right _ _) hdepth

/-- A program comes to its end in a run, with as many calls nested as it takes, exactly if some session does what it asks for. -/
theorem run_iff {program : Program S} {state after : State S} {service : S} :
    (∃ depth, program.run depth state = some (service, after)) ↔
      ∃ events moments, program.Yields events service ∧ Performed state events moments after := by
  constructor
  · rintro ⟨depth, hrun⟩
    exact traced_run depth _ _ _ _ hrun
  · rintro ⟨events, moments, hyields, hperformed⟩
    exact hperformed.exists_run hyields

/-! ### Sessions of the owner -/

theorem State.Takes.perform {state next : State S} {event : Event S} (h : state.Takes event next)
    {operation : Operation S} (hoperation : event.operation? = some operation) (depth : Nat) :
    state.perform depth operation = some (event, next) := by
  cases h with
  | overrideDefault _ | register _ _ | query _ =>
    cases hoperation
    rfl
  | count _ => cases hoperation

theorem State.perform_lookup {depth : Nat} {state next : State S} {target : Target}
    {answer : Except Refusal S}
    (h : state.lookupWith (Program.run depth) (target.space state.registry) =
      some (answer, next)) :
    state.perform depth (.lookup target) = some (.lookup target answer, next) := by
  rw [← lookupTarget_eq] at h
  exact Option.map_eq_some_iff.2 ⟨_, h, rfl⟩

theorem State.performAll_mono {depth deeper : Nat} (h : depth ≤ deeper)
    {operations : List (Operation S)} {state after : State S} {events : List (Event S)}
    (hrun : state.performAll depth operations = some (events, after)) :
    state.performAll deeper operations = some (events, after) := by
  induction operations generalizing state events with
  | nil => exact hrun
  | cons operation operations ih =>
    obtain ⟨event, next, later, hperform, hlater, rfl⟩ := State.performAll_cons_iff.1 hrun
    refine State.performAll_cons_iff.2 ⟨event, next, later, ?_, ih hlater, rfl⟩
    rcases State.perform_cases hperform with ⟨target, answer, rfl, rfl, hlookup⟩ | ⟨htakes, hop⟩
    · exact State.perform_lookup (Extends.lookupWith (fun _ _ _ => run_mono h) hlookup)
    · exact htakes.perform hop deeper

theorem State.operation?_of_performAll {depth : Nat} {operations : List (Operation S)}
    {state after : State S} {events : List (Event S)}
    (h : state.performAll depth operations = some (events, after)) :
    events.map Event.operation? = operations.map some := by
  induction operations generalizing state events with
  | nil =>
    obtain ⟨rfl, -⟩ := Prod.mk.inj (Option.some.inj h)
    rfl
  | cons operation operations ih =>
    obtain ⟨event, next, later, hperform, hlater, rfl⟩ := State.performAll_cons_iff.1 h
    rw [List.map_cons, List.map_cons, ih hlater]
    rcases State.perform_cases hperform with ⟨target, answer, rfl, rfl, -⟩ | ⟨-, hop⟩
    · rfl
    · rw [hop]

theorem Performed.exists_performAll {state after : State S} {events : List (Event S)}
    {moments : List (Moment S)} (h : Performed state events moments after)
    {operations : List (Operation S)}
    (hoperations : events.map Event.operation? = operations.map some) :
    ∃ depth, state.performAll depth operations = some (events, after) := by
  induction h generalizing operations with
  | nil state =>
    obtain rfl := List.map_eq_nil_iff.1 hoperations.symm
    exact ⟨0, rfl⟩
  | plain hevent _ ih =>
    obtain ⟨operation, operations, rfl, hop, hops⟩ := List.map_eq_cons_iff.1 hoperations.symm
    obtain ⟨depth, hrest⟩ := ih hops.symm
    exact ⟨depth, State.performAll_cons_iff.2
      ⟨_, _, _, hevent.perform hop.symm depth, hrest, rfl⟩⟩
  | missed hfactory _ ih =>
    obtain ⟨operation, operations, rfl, hop, hops⟩ := List.map_eq_cons_iff.1 hoperations.symm
    obtain rfl := Option.some.inj hop
    obtain ⟨depth, hrest⟩ := ih hops.symm
    exact ⟨depth, State.performAll_cons_iff.2
      ⟨_, _, _, State.perform_lookup (State.lookupWith_of_none hfactory), hrest, rfl⟩⟩
  | made hfactory hyields hinner _ _ ih =>
    obtain ⟨operation, operations, rfl, hop, hops⟩ := List.map_eq_cons_iff.1 hoperations.symm
    obtain rfl := Option.some.inj hop
    obtain ⟨calls, hrun⟩ := hinner.exists_run hyields
    obtain ⟨depth, hrest⟩ := ih hops.symm
    refine ⟨max calls depth, State.performAll_cons_iff.2
      ⟨_, _, _, State.perform_lookup ?_, State.performAll_mono (Nat.le_max_right _ _) hrest, rfl⟩⟩
    rw [State.lookupWith_of_some hfactory, run_mono (Nat.le_max_left _ _) hrun]
    rfl

end Phrasebook.Service
