import Phrasebook.Proofs.Service.Registrations
import Phrasebook.Proofs.Service.Sealing

/-!
# What a lookup may change

A lookup seals the registry, takes the factory stored at that moment and runs it once. What the factory does meanwhile, and what is done by the factories that it looks up in turn, is a line of moments, and a single moment changes no factory but the one of the namespace that it registers. `Registry.Grown` says what moments leave of a registry that had factories before; it holds at each moment of a lookup and at its end, so a factory that is replaced while it runs has been taken already, and the new one serves the lookups that begin afterwards.
-/

namespace Phrasebook.Service

variable {S : Type}

/-- A registry some moments later. -/
structure Registry.Grown (before : Registry S) (moments : List (Moment S))
    (after : Registry S) : Prop where
  /-- A namespace registered meanwhile has the last of its new factories, any other the one it had. -/
  factory?_eq : ∀ space,
    after.factory? space = (latest? (registrations moments) space).or (before.factory? space)
  isRegistered : ∀ space, before.isRegistered space = true → after.isRegistered space = true
  registered : ∀ space, after.factory? space ≠ before.factory? space →
    ∃ moment ∈ moments, ∃ factory, moment.event = .register space factory

/-! ### Moments -/

theorem Event.registration?_eq_some_iff {event : Event S} {space : String}
    {factory : Program S} :
    event.registration? = some (space, factory) ↔ event = .register space factory := by
  cases event <;> simp [registration?]

theorem exists_register_of_latest? {moments : List (Moment S)} {space : String}
    (h : (latest? (registrations moments) space).isSome = true) :
    ∃ moment ∈ moments, ∃ factory, moment.event = .register space factory := by
  obtain ⟨⟨space, factory⟩, hmem, rfl⟩ := List.mem_map.1 (latest?_isSome_iff.1 h)
  obtain ⟨moment, hmoment, hevent⟩ := List.mem_filterMap.1 hmem
  exact ⟨moment, hmoment, factory, Event.registration?_eq_some_iff.1 hevent⟩

theorem Moment.Lawful.factory?_eq {moment : Moment S} (h : moment.Lawful) (space : String) :
    moment.after.factory? space =
      (latest? moment.event.registration?.toList space).or (moment.before.factory? space) := by
  cases h with
  | registered registry other factory =>
    have hlatest := latest?_append [] other space factory
    rw [Registry.factory?_register, Event.registration?, Option.toList_some,
      ← List.nil_append [(other, factory)], hlatest]
    split <;> rfl
  | missed _ | made _ _ _ | accepted _ _ | refused _ _ | queried _ _ | counted _ _ _ => rfl

theorem latest?_registrations_concat (past : List (Moment S)) (moment : Moment S)
    (space : String) :
    latest? (registrations (past ++ [moment])) space =
      (latest? moment.event.registration?.toList space).or
        (latest? (registrations past) space) := by
  rw [registrations_concat, latest?, List.reverse_append, List.lookup_append]
  rfl

theorem Chain.factory?_eq {first last : Registry S} {moments : List (Moment S)}
    (h : Chain first moments last) (space : String) :
    last.factory? space = (latest? (registrations moments) space).or (first.factory? space) := by
  refine h.invariant (fun past registry =>
    registry.factory? space = (latest? (registrations past) space).or (first.factory? space)) ?_ rfl
  intro past moment hpast hmoment
  rw [hmoment.factory?_eq, hpast, latest?_registrations_concat, Option.or_assoc]

theorem Chain.grown {first last : Registry S} {moments : List (Moment S)}
    (h : Chain first moments last) : first.Grown moments last where
  factory?_eq := h.factory?_eq
  isRegistered := by
    intro space hfirst
    have hsome : (first.factory? space).isSome = true := hfirst
    change (last.factory? space).isSome = true
    rw [h.factory?_eq, Option.isSome_or, hsome, Bool.or_true]
  registered := by
    intro space hne
    refine exists_register_of_latest? (Option.isSome_iff_ne_none.2 fun hnone => hne ?_)
    rw [h.factory?_eq, hnone, Option.none_or]

/-! ### Lookups -/

/-- The first moment of a lookup seals the registry, and all others are those of the factory. -/
theorem Performed.chain_of_lookup {state after : State S} {target : Target}
    {answer : Except Refusal S} {moments : List (Moment S)}
    (h : Performed state [.lookup target answer] moments after) :
    ∃ opening inner, moments = opening :: inner ∧
      Chain state.registry.sealDefault inner after.registry := by
  cases h with
  | plain hevent => cases hevent
  | missed _ hrest => exact ⟨_, _, rfl, hrest.chain⟩
  | made _ _ hinner hrest => exact ⟨_, _, rfl, hinner.chain.append hrest.chain⟩

/-- Whatever the factories do that run during a lookup, be it of a namespace or of the default: the answer is what the factory stored at the beginning makes in one run on the sealed registry, and that run leads to the state after the lookup; without such a factory the answer says so, and nothing but the seal has changed. The default stays as it is. Afterwards no namespace is missing that was registered before, and a factory differs from the one before only where a factory that ran meanwhile registered its namespace. At each moment of the lookup and at its end a namespace has the factory registered last, so a replacement serves the lookups that begin later. -/
theorem lookup_frame (depth : Nat) (state after : State S) (target : Target)
    (answer : Except Refusal S) (h : state.lookupTarget depth target = some (answer, after)) :
    (∀ factory, state.registry.factory? (target.space state.registry) = some factory →
      ∃ service, answer = .ok service ∧
        factory.run depth state.sealDefault = some (service, after)) ∧
    (state.registry.factory? (target.space state.registry) = none →
      answer = .error (.unregistered (target.space state.registry)) ∧
        after = { state with registry := { state.registry with isSealed := true } }) ∧
    after.registry.default = state.registry.default ∧
    (∃ moments, Performed state [.lookup target answer] moments after) ∧
    ∀ moments, Performed state [.lookup target answer] moments after →
      state.registry.Grown moments after.registry ∧
      (∀ past moment later, moments = past ++ moment :: later →
        state.registry.Grown past moment.before ∧ moment.Lawful) ∧
      ∀ depth space, after.lookup depth space =
        match (latest? (registrations moments) space).or (state.registry.factory? space) with
        | none => some (.error (.unregistered space), after.sealDefault)
        | some factory =>
          (factory.run depth after.sealDefault).map fun (service, made) => (.ok service, made) := by
  rw [State.lookupTarget_eq] at h
  obtain ⟨moments, hmoments⟩ := (traced_run depth).lookupWith target h (.nil after)
  refine ⟨?_, ?_, ?_, ⟨moments, hmoments⟩, ?_⟩
  · intro factory hfactory
    rw [State.lookupWith_of_some hfactory] at h
    obtain ⟨⟨service, made⟩, hrun, heq⟩ := Option.map_eq_some_iff.1 h
    obtain ⟨rfl, rfl⟩ := Prod.mk.inj heq
    exact ⟨service, rfl, hrun⟩
  · intro hnone
    rw [State.lookupWith_of_none hnone] at h
    obtain ⟨rfl, rfl⟩ := Prod.mk.inj (Option.some.inj h)
    exact ⟨rfl, rfl⟩
  · -- The factory runs behind the seal, where the default is frozen.
    obtain ⟨_, _, -, hinner⟩ := hmoments.chain_of_lookup
    exact (hinner.last_frozen rfl).2
  · intro moments hmoments
    refine ⟨hmoments.chain.grown, ?_, ?_⟩
    · rintro past moment later rfl
      obtain ⟨hpast, hmoment, -⟩ := hmoments.chain.split
      exact ⟨hpast.grown, hmoment⟩
    · intro depth space
      have hlookup := State.lookup_eq depth after space
      rw [hmoments.chain.factory?_eq] at hlookup
      exact hlookup

/-- Registers another factory in its own place and then looks that up. -/
def renewing : Program String :=
  .register "python" (.done "new") <| .lookup "python" fun
    | .ok service => .done ("old, then " ++ service)
    | .error refusal => .done refusal.message

/-- The lookup that began first gets what the old factory makes, the one within it and the one after it what the new factory makes. -/
theorem lookup_frame_renewing :
    ∃ state after : State String, state.registry.factory? "python" = some renewing ∧
      state.lookup 1 "python" = some (.ok "old, then new", after) ∧
      after.registry.default = "en" ∧
      after.lookup 0 "python" = some (.ok "new", after.sealDefault) := by
  let state : State String := .ofRegistry ((Registry.withDefault "en").register "python" renewing)
  have hyields : renewing.Yields [.register "python" (.done "new"),
      .lookup (.named "python") (.ok "new")] "old, then new" := .register (.lookup (.done _))
  have hperformed : Performed state [.lookup (.named "python") (.ok "old, then new")] _ _ :=
    .made rfl hyields
      (.plain (.register _ "python" (.done "new")) (.made rfl (.done _) (.nil _) (.nil _))) (.nil _)
  obtain ⟨-, -, hdefault, -, hall⟩ := lookup_frame 1 state _ (.named "python") _ rfl
  obtain ⟨-, -, hlater⟩ := hall _ hperformed
  exact ⟨state, _, rfl, rfl, hdefault, hlater 0 "python"⟩

end Phrasebook.Service
