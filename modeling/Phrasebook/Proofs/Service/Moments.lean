import Phrasebook.Proofs.Service.Session

/-!
# Moments, one after the other

However deep lookups nest, the moments of a session form one line: each starts from the registry that the one before it left. `Moment.Lawful` lists all that a single moment can be, with what it is told and what it does to the registry, and `Performed.chain` says that a session is a line of such moments. What a step keeps therefore holds throughout a session, inside factories and between operations alike (`Chain.invariant`).
-/

namespace Phrasebook.Service

variable {S : Type}

/-- All that a moment can be. A lookup that finds a factory answers with what the factory makes when it runs on the sealed registry. -/
inductive Moment.Lawful : Moment S → Prop
  | missed {registry : Registry S} {target : Target}
      (h : registry.factory? (target.space registry) = none) :
      Lawful ⟨.lookup target (.error (.unregistered (target.space registry))), registry,
        registry.sealDefault⟩
  | made {registry : Registry S} {target : Target} {factory : Program S} {state made : State S}
      {depth : Nat} {service : S} (h : registry.factory? (target.space registry) = some factory)
      (hstate : state.registry = registry.sealDefault)
      (hrun : factory.run depth state = some (service, made)) :
      Lawful ⟨.lookup target (.ok service), registry, registry.sealDefault⟩
  | accepted {registry : Registry S} (space : String) (h : registry.isSealed = false) :
      Lawful ⟨.overrideDefault space (.ok ()), registry, { registry with default := space }⟩
  | refused {registry : Registry S} (space : String) (h : registry.isSealed = true) :
      Lawful ⟨.overrideDefault space (.error (.defaultSealed space registry.default)), registry,
        registry⟩
  | registered (registry : Registry S) (space : String) (factory : Program S) :
      Lawful ⟨.register space factory, registry, registry.register space factory⟩
  | queried (registry : Registry S) (query : Query) :
      Lawful ⟨.query query (registry.answer query), registry, registry⟩
  | counted (registry : Registry S) (cell before : Nat) :
      Lawful ⟨.count cell before, registry, registry⟩

/-- Lawful moments that lead from one registry to another. -/
inductive Chain : Registry S → List (Moment S) → Registry S → Prop
  | nil (registry : Registry S) : Chain registry [] registry
  | cons {moment : Moment S} {moments : List (Moment S)} {last : Registry S} (h : moment.Lawful)
      (hrest : Chain moment.after moments last) : Chain moment.before (moment :: moments) last

theorem State.overrideDefault_of_open {state : State S} (h : state.registry.isSealed = false)
    (space : String) :
    state.overrideDefault space =
      (.ok (), state.withRegistry { state.registry with default := space }) := by
  rw [State.overrideDefault, Registry.overrideDefault, if_neg (by simp [h])]

theorem State.overrideDefault_of_sealed {state : State S} (h : state.registry.isSealed = true)
    (space : String) :
    state.overrideDefault space =
      (.error (.defaultSealed space state.registry.default), state) := by
  rw [State.overrideDefault, Registry.overrideDefault, if_pos h]

theorem State.Takes.lawful {state next : State S} {event : Event S} (h : state.Takes event next) :
    Moment.Lawful ⟨event, state.registry, next.registry⟩ := by
  cases h with
  | overrideDefault space =>
    cases hsealed : state.registry.isSealed with
    | false =>
      rw [State.overrideDefault_of_open hsealed]
      exact .accepted space hsealed
    | true =>
      rw [State.overrideDefault_of_sealed hsealed]
      exact .refused space hsealed
  | register space factory => exact .registered _ space factory
  | query query => exact .queried _ query
  | count cell => exact .counted _ cell _

theorem Chain.append {first middle last : Registry S} {moments later : List (Moment S)}
    (h : Chain first moments middle) (hlater : Chain middle later last) :
    Chain first (moments ++ later) last := by
  induction h with
  | nil => exact hlater
  | cons hmoment _ ih => exact .cons hmoment (ih hlater)

theorem Performed.chain {state after : State S} {events : List (Event S)}
    {moments : List (Moment S)} (h : Performed state events moments after) :
    Chain state.registry moments after.registry := by
  induction h with
  | nil state => exact .nil _
  | plain hevent _ ih => exact .cons hevent.lawful ih
  | missed hfactory _ ih => exact .cons (.missed hfactory) ih
  | made hfactory hyields hinner _ ihinner ihrest =>
    -- The moments of the factory stand between the lookup and what comes after it.
    obtain ⟨depth, hrun⟩ := hinner.exists_run hyields
    exact .cons (.made hfactory rfl hrun) (ihinner.append ihrest)

theorem Chain.split {first last : Registry S} {past later : List (Moment S)} {moment : Moment S}
    (h : Chain first (past ++ moment :: later) last) :
    Chain first past moment.before ∧ moment.Lawful ∧ Chain moment.after later last := by
  induction past generalizing first with
  | nil =>
    cases h with
    | cons hmoment hlater => exact ⟨.nil _, hmoment, hlater⟩
  | cons head past ih =>
    cases h with
    | cons hhead hrest =>
      obtain ⟨hpast, hmoment, hlater⟩ := ih hrest
      exact ⟨.cons hhead hpast, hmoment, hlater⟩

/-- What holds of the first registry and is kept by each moment holds of the last one. The moments so far are part of what is kept. -/
theorem Chain.invariant (Inv : List (Moment S) → Registry S → Prop)
    (hstep : ∀ past (moment : Moment S), Inv past moment.before → moment.Lawful →
      Inv (past ++ [moment]) moment.after)
    {first last : Registry S} {moments : List (Moment S)} (h : Chain first moments last)
    (hfirst : Inv [] first) : Inv moments last := by
  -- The chain grows at its front, what is kept grows behind what has passed.
  suffices hall : ∀ past, Inv past first → Inv (past ++ moments) last from hall [] hfirst
  clear hfirst
  induction h with
  | nil => simp
  | cons hmoment _ ih =>
    intro past hpast
    simpa using ih _ (hstep _ _ hpast hmoment)

end Phrasebook.Service
