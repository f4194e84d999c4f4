import Phrasebook.Proofs.Service.Registrations
import Phrasebook.Proofs.Service.Sealing
import Phrasebook.Service.Recipe

/-!
# Lookups of the default, pinned

To look the default up is to look up the namespace that is the default when the lookup begins. The first lookup seals the default, and no lookup of it begins earlier, so in one run every lookup of the default, however deep in factories, resolves the default that is left at the end. Each of them may therefore be pinned, that is, replaced by a lookup of that namespace, in what the owner does and in the programs of factories: `Program.Pinned` and the relations after it say that two programs, events or states differ in nothing else, and `Performed.pinned` that a session stays related to the one with pinned lookups, moment by moment, with the same answers.
-/

namespace Phrasebook.Service

variable {S : Type}

/-! ### What differs where lookups are pinned -/

/-- Some lookups of the default are pinned to `space` in the second program, also in the factories that it registers. -/
inductive Program.Pinned (space : String) : Program S → Program S → Prop
  | done (service : S) : Pinned space (.done service) (.done service)
  | lookup {other : String} {next next' : Except Refusal S → Program S}
      (h : ∀ answer, Pinned space (next answer) (next' answer)) :
      Pinned space (.lookup other next) (.lookup other next')
  | lookupDefault {next next' : Except Refusal S → Program S}
      (h : ∀ answer, Pinned space (next answer) (next' answer)) :
      Pinned space (.lookupDefault next) (.lookupDefault next')
  | pinned {next next' : Except Refusal S → Program S}
      (h : ∀ answer, Pinned space (next answer) (next' answer)) :
      Pinned space (.lookupDefault next) (.lookup space next')
  | overrideDefault {other : String} {next next' : Except Refusal Unit → Program S}
      (h : ∀ answer, Pinned space (next answer) (next' answer)) :
      Pinned space (.overrideDefault other next) (.overrideDefault other next')
  | register {other : String} {factory factory' next next' : Program S}
      (hfactory : Pinned space factory factory') (hnext : Pinned space next next') :
      Pinned space (.register other factory next) (.register other factory' next')
  | inspect {next next' : Overview → Program S}
      (h : ∀ overview, Pinned space (next overview) (next' overview)) :
      Pinned space (.inspect next) (.inspect next')
  | count {cell : Nat} {next next' : Nat → Program S}
      (h : ∀ before, Pinned space (next before) (next' before)) :
      Pinned space (.count cell next) (.count cell next')

/-- What the owner does, with a lookup pinned or a factory in which some are. -/
inductive Operation.Pinned (space : String) : Operation S → Operation S → Prop
  | same (operation : Operation S) : Pinned space operation operation
  | pinned : Pinned space (.lookup .default) (.lookup (.named space))
  | register {other : String} {factory factory' : Program S} (h : factory.Pinned space factory') :
      Pinned space (.register other factory) (.register other factory')

/-- Events of programs or of the owner with the same answer. -/
inductive Event.Pinned (space : String) : Event S → Event S → Prop
  | same (event : Event S) : Pinned space event event
  | pinned (answer : Except Refusal S) :
      Pinned space (.lookup .default answer) (.lookup (.named space) answer)
  | register {other : String} {factory factory' : Program S} (h : factory.Pinned space factory') :
      Pinned space (.register other factory) (.register other factory')

/-- The same namespaces are registered, with factories in which lookups may be pinned. -/
structure Registry.Pinned (space : String) (registry registry' : Registry S) : Prop where
  get? : ∀ text, Option.Rel (Program.Pinned space) (registry.factories.get? text)
    (registry'.factories.get? text)
  default_eq : registry'.default = registry.default
  isSealed_eq : registry'.isSealed = registry.isSealed

structure State.Pinned (space : String) (state state' : State S) : Prop where
  registry : state.registry.Pinned space state'.registry
  counts_eq : state'.counts = state.counts

structure Moment.Pinned (space : String) (moment moment' : Moment S) : Prop where
  event : moment.event.Pinned space moment'.event
  before : moment.before.Pinned space moment'.before
  after : moment.after.Pinned space moment'.after

variable {space : String}

@[refl] theorem Program.Pinned.refl (program : Program S) : program.Pinned space program := by
  induction program with
  | done service => exact .done service
  | lookup _ _ ih => exact .lookup ih
  | lookupDefault _ ih => exact .lookupDefault ih
  | overrideDefault _ _ ih => exact .overrideDefault ih
  | register _ _ _ ihfactory ihnext => exact .register ihfactory ihnext
  | inspect _ ih => exact .inspect ih
  | count _ _ ih => exact .count ih

@[refl] theorem Registry.Pinned.refl (registry : Registry S) : registry.Pinned space registry where
  get? := by
    intro text
    cases registry.factories.get? text with
    | none => exact .none
    | some factory => exact .some (.refl factory)
  default_eq := rfl
  isSealed_eq := rfl

@[refl] theorem State.Pinned.refl (state : State S) : state.Pinned space state :=
  ⟨.refl state.registry, rfl⟩

/-! ### Registries -/

namespace Registry.Pinned

variable {registry registry' : Registry S}

theorem get?_cases (h : registry.Pinned space registry') (text : String) :
    (registry.factories.get? text = none ∧ registry'.factories.get? text = none) ∨
    ∃ factory factory', registry.factories.get? text = some factory ∧
      registry'.factories.get? text = some factory' ∧ factory.Pinned space factory' := by
  have hrel := h.get? text
  generalize registry.factories.get? text = found at hrel ⊢
  generalize registry'.factories.get? text = found' at hrel ⊢
  cases hrel with
  | none => exact .inl ⟨rfl, rfl⟩
  | some hfactory => exact .inr ⟨_, _, rfl, rfl, hfactory⟩

theorem factory?_eq_none (h : registry.Pinned space registry') {other : String}
    (hnone : registry.factory? other = none) : registry'.factory? other = none := by
  rcases h.get?_cases (Key.derive other).text with ⟨-, hnone'⟩ | ⟨factory, _, hsome, -, -⟩
  · exact hnone'
  · exact absurd (hnone.symm.trans hsome) (Option.some_ne_none factory).symm

theorem exists_factory (h : registry.Pinned space registry') {other : String}
    {factory : Program S} (hsome : registry.factory? other = some factory) :
    ∃ factory', registry'.factory? other = some factory' ∧ factory.Pinned space factory' := by
  rcases h.get?_cases (Key.derive other).text with
    ⟨hnone, -⟩ | ⟨found, factory', hfound, hsome', hfactory⟩
  · exact absurd (hsome.symm.trans hnone) (Option.some_ne_none factory)
  · obtain rfl := Option.some.inj (hfound.symm.trans hsome)
    exact ⟨factory', hsome', hfactory⟩

theorem sealDefault (h : registry.Pinned space registry') :
    registry.sealDefault.Pinned space registry'.sealDefault :=
  ⟨h.get?, h.default_eq, rfl⟩

theorem register (h : registry.Pinned space registry') (other : String)
    {factory factory' : Program S} (hfactory : factory.Pinned space factory') :
    (registry.register other factory).Pinned space (registry'.register other factory') where
  get? := by
    intro text
    rw [Registry.register, Registry.register, Dictionary.get?_insert, Dictionary.get?_insert]
    split
    · exact .some hfactory
    · exact h.get? text
  default_eq := h.default_eq
  isSealed_eq := h.isSealed_eq

theorem isSome_get?_eq (h : registry.Pinned space registry') (text : String) :
    (registry'.factories.get? text).isSome = (registry.factories.get? text).isSome := by
  rcases h.get?_cases text with ⟨hnone, hnone'⟩ | ⟨_, _, hsome, hsome', -⟩
  · rw [hnone, hnone']
  · rw [hsome, hsome', Option.isSome_some, Option.isSome_some]

theorem answer_eq (h : registry.Pinned space registry') (query : Query) :
    registry'.answer query = registry.answer query := by
  have hnames : registry'.factories.names = registry.factories.names :=
    Dictionary.names_eq_of_isSome_eq h.isSome_get?_eq
  have hspaces : registry'.spaces = registry.spaces := by
    rw [Registry.spaces, Registry.spaces, hnames]
  have hoverview : registry'.overview = registry.overview := by
    rw [Registry.overview, Registry.overview, hspaces, h.default_eq, h.isSealed_eq]
  cases query with
  | isRegistered other => exact h.isSome_get?_eq (Key.derive other).text
  | spaces => exact hspaces
  | size =>
    change registry'.size = registry.size
    rw [← Registry.length_spaces, ← Registry.length_spaces, hspaces]
  | isEmpty =>
    change registry'.factories.isEmpty = registry.factories.isEmpty
    rw [Dictionary.isEmpty_eq, Dictionary.isEmpty_eq, hnames]
  | default => exact h.default_eq
  | diagnostic => exact congrArg Overview.diagnostic hoverview
  | overview => exact hoverview

end Registry.Pinned

/-! ### Sessions with pinned lookups -/

theorem State.Pinned.sealDefault {state state' : State S} (h : state.Pinned space state') :
    state.sealDefault.Pinned space state'.sealDefault :=
  ⟨h.registry.sealDefault, h.counts_eq⟩

theorem State.Pinned.overrideDefault {state state' : State S} (h : state.Pinned space state')
    (other : String) :
    (state'.overrideDefault other).1 = (state.overrideDefault other).1 ∧
      (state.overrideDefault other).2.Pinned space (state'.overrideDefault other).2 := by
  have hsealed' := h.registry.isSealed_eq
  cases hsealed : state.registry.isSealed with
  | false =>
    rw [hsealed] at hsealed'
    rw [State.overrideDefault_of_open hsealed, State.overrideDefault_of_open hsealed']
    exact ⟨rfl, ⟨h.registry.get?, rfl, hsealed'.trans hsealed.symm⟩, h.counts_eq⟩
  | true =>
    rw [hsealed] at hsealed'
    rw [State.overrideDefault_of_sealed hsealed, State.overrideDefault_of_sealed hsealed',
      h.registry.default_eq]
    exact ⟨rfl, h⟩

theorem State.Takes.pinned {state next state' : State S} {event event' : Event S}
    (h : state.Takes event next) (hevent : event.Pinned space event')
    (hstate : state.Pinned space state') :
    ∃ next', state'.Takes event' next' ∧ next.Pinned space next' := by
  cases hevent with
  | same =>
    cases h with
    | overrideDefault other =>
      obtain ⟨hanswer, hnext⟩ := hstate.overrideDefault other
      rw [← hanswer]
      exact ⟨_, .overrideDefault state' other, hnext⟩
    | register other factory =>
      exact ⟨_, .register state' other factory,
        hstate.registry.register other (.refl factory), hstate.counts_eq⟩
    | query query =>
      rw [← hstate.registry.answer_eq]
      exact ⟨_, .query state' query, hstate⟩
    | count cell =>
      rw [← hstate.counts_eq]
      refine ⟨_, .count state' cell, hstate.registry, ?_⟩
      rw [State.count, State.count, hstate.counts_eq]
  | pinned answer => cases h
  | register hfactory =>
    cases h
    exact ⟨_, .register state' _ _, hstate.registry.register _ hfactory, hstate.counts_eq⟩

/-- A program with pinned lookups asks for pinned lookups and is otherwise led by the same answers to the same service. -/
theorem Program.Yields.pinned {program program' : Program S} {events : List (Event S)}
    {service : S} (h : program.Yields events service) (hprogram : program.Pinned space program') :
    ∃ events', program'.Yields events' service ∧
      List.Forall₂ (Event.Pinned space) events events' := by
  induction h generalizing program' with
  | done service =>
    cases hprogram
    exact ⟨_, .done service, .nil⟩
  | lookup _ ih =>
    cases hprogram with
    | lookup hnext =>
      obtain ⟨events', hyields, hevents⟩ := ih (hnext _)
      exact ⟨_, .lookup hyields, .cons (.same _) hevents⟩
  | lookupDefault _ ih =>
    cases hprogram with
    | lookupDefault hnext =>
      obtain ⟨events', hyields, hevents⟩ := ih (hnext _)
      exact ⟨_, .lookupDefault hyields, .cons (.same _) hevents⟩
    | pinned hnext =>
      obtain ⟨events', hyields, hevents⟩ := ih (hnext _)
      exact ⟨_, .lookup hyields, .cons (.pinned _) hevents⟩
  | overrideDefault _ ih =>
    cases hprogram with
    | overrideDefault hnext =>
      obtain ⟨events', hyields, hevents⟩ := ih (hnext _)
      exact ⟨_, .overrideDefault hyields, .cons (.same _) hevents⟩
  | register _ ih =>
    cases hprogram with
    | register hfactory hnext =>
      obtain ⟨events', hyields, hevents⟩ := ih hnext
      exact ⟨_, .register hyields, .cons (.register hfactory) hevents⟩
  | inspect _ ih =>
    cases hprogram with
    | inspect hnext =>
      obtain ⟨events', hyields, hevents⟩ := ih (hnext _)
      exact ⟨_, .inspect hyields, .cons (.same _) hevents⟩
  | count _ ih =>
    cases hprogram with
    | count hnext =>
      obtain ⟨events', hyields, hevents⟩ := ih (hnext _)
      exact ⟨_, .count hyields, .cons (.same _) hevents⟩

/-- If this is a lookup of the default, it resolves `space`. -/
def Moment.DefaultsTo (space : String) (moment : Moment S) : Prop :=
  ∀ answer, moment.event = .lookup .default answer → Target.default.space moment.before = space

theorem Event.Pinned.exists_target {target : Target} {answer : Except Refusal S}
    {event' : Event S} (h : Event.Pinned space (.lookup target answer) event')
    {registry registry' after : Registry S}
    (hdefault : Moment.DefaultsTo space ⟨.lookup target answer, registry, after⟩)
    (hregistry : registry.Pinned space registry') :
    ∃ target', event' = .lookup target' answer ∧
      target'.space registry' = target.space registry := by
  cases h with
  | same =>
    cases target with
    | named other => exact ⟨_, rfl, rfl⟩
    | default => exact ⟨_, rfl, hregistry.default_eq⟩
  | pinned => exact ⟨_, rfl, (hdefault answer rfl).symm⟩

theorem Performed.pinned {state after : State S} {events : List (Event S)}
    {moments : List (Moment S)} (h : Performed state events moments after)
    (hdefault : ∀ moment ∈ moments, moment.DefaultsTo space) {state' : State S}
    {events' : List (Event S)} (hstate : state.Pinned space state')
    (hevents : List.Forall₂ (Event.Pinned space) events events') :
    ∃ moments' after', Performed state' events' moments' after' ∧
      List.Forall₂ (Moment.Pinned space) moments moments' ∧ after.Pinned space after' := by
  induction h generalizing state' events' with
  | nil state =>
    cases hevents
    exact ⟨_, _, .nil state', .nil, hstate⟩
  | plain htakes _ ih =>
    obtain ⟨-, hdefaults⟩ := List.forall_mem_cons.1 hdefault
    cases hevents with
    | cons hevent hevents =>
      obtain ⟨next', htakes', hnext⟩ := htakes.pinned hevent hstate
      obtain ⟨moments', after', hrest, hmoments, hafter⟩ := ih hdefaults hnext hevents
      exact ⟨_, _, .plain htakes' hrest,
        .cons ⟨hevent, hstate.registry, hnext.registry⟩ hmoments, hafter⟩
  | missed hnone _ ih =>
    obtain ⟨hhead, hdefaults⟩ := List.forall_mem_cons.1 hdefault
    cases hevents with
    | cons hevent hevents =>
      obtain ⟨target', rfl, hspace⟩ := hevent.exists_target hhead hstate.registry
      have hnone' := hstate.registry.factory?_eq_none hnone
      obtain ⟨moments', after', hrest, hmoments, hafter⟩ :=
        ih hdefaults hstate.sealDefault hevents
      rw [← hspace] at hnone' hevent ⊢
      exact ⟨_, _, .missed hnone' hrest,
        .cons ⟨hevent, hstate.registry, hstate.registry.sealDefault⟩ hmoments, hafter⟩
  | made hsome hyields _ _ ihinner ih =>
    obtain ⟨hhead, hdefaults⟩ := List.forall_mem_cons.1 hdefault
    obtain ⟨hdefaultsInner, hdefaults⟩ := List.forall_mem_append.1 hdefaults
    cases hevents with
    | cons hevent hevents =>
      obtain ⟨target', rfl, hspace⟩ := hevent.exists_target hhead hstate.registry
      obtain ⟨factory', hsome', hfactory⟩ := hstate.registry.exists_factory hsome
      obtain ⟨uses', hyields', huses⟩ := hyields.pinned hfactory
      obtain ⟨inner', made', hinner, hmomentsInner, hmade⟩ :=
        ihinner hdefaultsInner hstate.sealDefault huses
      obtain ⟨moments', after', hrest, hmoments, hafter⟩ := ih hdefaults hmade hevents
      rw [← hspace] at hsome'
      exact ⟨_, _, .made hsome' hyields' hinner hrest,
        .cons ⟨hevent, hstate.registry, hstate.registry.sealDefault⟩
          (List.rel_append hmomentsInner hmoments), hafter⟩

/-! ### Whole runs -/

/-- The default that is left is the one that every lookup of it resolved. -/
theorem Chain.defaultsTo {first last : Registry S} {moments : List (Moment S)}
    (h : Chain first moments last) : ∀ moment ∈ moments, moment.DefaultsTo last.default := by
  intro moment hmem answer hevent
  obtain ⟨past, later, rfl⟩ := List.append_of_mem hmem
  obtain ⟨-, hmoment, hlater⟩ := h.split
  have hafter : moment.after = moment.before.sealDefault :=
    hmoment.after_eq_of_isLookup (by rw [hevent]; rfl)
  rw [hafter] at hlater
  exact (hlater.last_frozen rfl).2.symm

theorem Event.exists_pinned {event : Event S} {operation operation' : Operation S}
    (hevent : event.operation? = some operation) (h : operation.Pinned space operation') :
    ∃ event', event.Pinned space event' ∧ event'.operation? = some operation' := by
  cases h with
  | same => exact ⟨event, .same event, hevent⟩
  | pinned =>
    cases event <;> cases hevent
    exact ⟨_, .pinned _, rfl⟩
  | register hfactory =>
    cases event <;> cases hevent
    exact ⟨_, .register hfactory, rfl⟩

theorem exists_pinned_events {events : List (Event S)} {operations operations' : List (Operation S)}
    (hevents : events.map Event.operation? = operations.map some)
    (h : List.Forall₂ (Operation.Pinned space) operations operations') :
    ∃ events', List.Forall₂ (Event.Pinned space) events events' ∧
      events'.map Event.operation? = operations'.map some := by
  induction h generalizing events with
  | nil =>
    obtain rfl := List.map_eq_nil_iff.1 hevents
    exact ⟨[], .nil, rfl⟩
  | cons hoperation _ ih =>
    obtain ⟨event, events, rfl, hevent, hrest⟩ := List.map_eq_cons_iff.1 hevents
    obtain ⟨event', hpinned, hevent'⟩ := Event.exists_pinned hevent hoperation
    obtain ⟨events', hpinnedRest, hrest'⟩ := ih hrest
    exact ⟨event' :: events', .cons hpinned hpinnedRest, by
      rw [List.map_cons, List.map_cons, hevent', hrest']⟩

/-- In every state, sealed or not, to look the default up comes to the same as to ask for the default and look that up, with the same answer and the same state after it, for the owner and for a running program; where nothing is registered for the default, the answer names it. In a run of operations all lookups of the default, however deep in factories, resolve the default that is left at its end. So any of them may be pinned to that namespace, by the owner, in factories registered before or in those registered meanwhile: the run with pinned lookups ends too, all that happens in it gets the same answers moment by moment, and the states after it differ in nothing but what is pinned. -/
theorem pinned_lookups_agree :
    (∀ (depth : Nat) (state : State S),
      state.lookupTarget depth .default =
        state.lookupTarget depth (.named (state.registry.answer .default)) ∧
      (state.registry.factory? state.registry.default = none → state.lookupTarget depth .default =
        some (.error (.unregistered state.registry.default), state.sealDefault))) ∧
    (∀ (depth : Nat) (state : State S) (next : Except Refusal S → Program S),
      (Program.lookupDefault next).run depth state =
        (Program.inspect fun overview => .lookup overview.default next).run depth state) ∧
    ∀ (depth : Nat) (operations : List (Operation S)) (state after : State S)
      (events : List (Event S)), state.performAll depth operations = some (events, after) →
      (∃ moments, Performed state events moments after) ∧
      ∀ moments, Performed state events moments after →
        (∀ moment ∈ moments, moment.DefaultsTo after.registry.default) ∧
        ∀ state' operations', state.Pinned after.registry.default state' →
          List.Forall₂ (Operation.Pinned after.registry.default) operations operations' →
          ∃ depth' events' moments' after',
            state'.performAll depth' operations' = some (events', after') ∧
            Performed state' events' moments' after' ∧
            List.Forall₂ (Event.Pinned after.registry.default) events events' ∧
            List.Forall₂ (Moment.Pinned after.registry.default) moments moments' ∧
            after.Pinned after.registry.default after' := by
  refine ⟨?_, ?_, ?_⟩
  · intro depth state
    have hdefault := State.lookupDefault_eq depth state
    refine ⟨hdefault, fun hnone => ?_⟩
    exact hdefault.trans (State.lookupWith_of_none hnone)
  · intro depth state next
    -- The program that asks first is told the default that the other one copies.
    rw [run_eq_runWith, run_eq_runWith, Program.runWith, State.lookupDefaultWith_eq]
    rfl
  · intro depth operations state after events h
    refine ⟨State.exists_performed h, ?_⟩
    intro moments hmoments
    have hdefault := hmoments.chain.defaultsTo
    refine ⟨hdefault, ?_⟩
    intro state' operations' hstate hoperations
    -- The pinned operations ask for pinned events, which the simulation performs.
    obtain ⟨events', hevents, hoperations'⟩ :=
      exists_pinned_events (State.operation?_of_performAll h) hoperations
    obtain ⟨moments', after', hperformed, hmoments', hafter⟩ :=
      hmoments.pinned hdefault hstate hevents
    obtain ⟨depth', hrun⟩ := hperformed.exists_performAll hoperations'
    exact ⟨depth', events', moments', after', hrun, hperformed, hevents, hmoments', hafter⟩

/-- A factory is looked up that looks something up in turn, and then `target` is. -/
def relaying (relay : Recipe) (target : Target) : List (Operation String) :=
  [.register "fr" (.done "salut"), .register "relay" (relay.factory 1), .overrideDefault "fr",
    .lookup (.named "relay"), .lookup target]

/-- The default is changed before it is looked up, and both lookups of it are pinned to what it was changed to. -/
theorem pinned_lookups_agree_relaying :
    ∃ events after depth' events' after',
      State.performAll 1 (relaying (.lookupDefault "!") .default) ⟨.withDefault "en", fun _ => 0⟩ =
        some (events, after) ∧
      State.performAll depth' (relaying (.lookup "fr" "!") (.named "fr"))
        ⟨.withDefault "en", fun _ => 0⟩ = some (events', after') ∧
      Event.lookup (.named "relay") (.ok "salut!") ∈ events ∧
      List.Forall₂ (Event.Pinned "fr") events events' ∧
      after'.registry.default = "fr" := by
  obtain ⟨-, -, hall⟩ := @pinned_lookups_agree String
  obtain ⟨⟨moments, hmoments⟩, hpinned⟩ := hall 1 (relaying (.lookupDefault "!") .default)
    ⟨.withDefault "en", fun _ => 0⟩ _ _ rfl
  obtain ⟨-, hreplace⟩ := hpinned moments hmoments
  have hrelay : Program.Pinned "fr" ((Recipe.lookupDefault "!").factory 1)
      ((Recipe.lookup "fr" "!").factory 1) := .count fun _ => .pinned fun answer => .refl _
  obtain ⟨depth', events', _, after', hrun, -, hevents, -, hafter⟩ := hreplace _
    (relaying (.lookup "fr" "!") (.named "fr")) (.refl _)
    (.cons (.same _) (.cons (.register hrelay) (.cons (.same _) (.cons (.same _)
      (.cons .pinned .nil)))))
  exact ⟨_, _, depth', events', after', rfl, hrun, .tail _ (.tail _ (.tail _ (.head _))), hevents,
    hafter.registry.default_eq⟩

end Phrasebook.Service
