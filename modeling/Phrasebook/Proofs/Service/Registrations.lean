import Phrasebook.Proofs.Dictionary
import Phrasebook.Proofs.Service.Moments
import Phrasebook.Proofs.Text.Bytes

/-!
# Registries as registrations

Seen from outside a registry is the list of the registrations made so far, in which the last one for a namespace counts. The keys under which factories are kept do not show: a namespace is got back from its key whatever it ends in, so no two namespaces share a key (`Key.space_derive`). `Represents` is the relation between the two that every moment keeps, and `Refines` is all that can be asked of a registry, answered from the registrations alone.
-/

namespace Phrasebook

theorem Dictionary.mem_names_insert {α : Type} {d : Dictionary α} {name other : String}
    {value : α} : other ∈ (d.insert name value).names ↔ other = name ∨ other ∈ d.names := by
  rw [← get?_isSome_iff, ← get?_isSome_iff, get?_insert, eq_comm (a := other)]
  split
  · next heq => simp [heq]
  · next hne => simp [hne]

namespace Service

variable {S : Type}

/-! ### Keys -/

theorem Key.space_derive (space : String) : (Key.derive space).space = space := by
  rw [Key.space, Key.derive, String.toList_append, dropEnding?,
    if_pos (List.isSuffixOf_iff_suffix.2 (List.suffix_append _ _)), List.length_append,
    Nat.add_sub_cancel, List.take_left']
  · exact String.ofList_toList
  · rfl

theorem Key.space_mk_text_derive (space : String) : (Key.mk (Key.derive space).text).space = space :=
  Key.space_derive space

theorem Key.derive_injective : Function.Injective Key.derive :=
  Function.LeftInverse.injective Key.space_derive

theorem Key.text_derive_inj {space other : String} :
    (Key.derive space).text = (Key.derive other).text ↔ space = other := by
  refine ⟨fun h => Key.derive_injective ?_, fun h => h ▸ rfl⟩
  exact congrArg Key.mk h

/-! ### What registrations say -/

/-- The factory registered last for a namespace, if there is one. -/
def latest? (registrations : List (String × Program S)) (space : String) : Option (Program S) :=
  registrations.reverse.lookup space

theorem latest?_append (registrations : List (String × Program S)) (space other : String)
    (factory : Program S) :
    latest? (registrations ++ [(space, factory)]) other =
      if space = other then some factory else latest? registrations other := by
  rw [latest?, List.reverse_append, List.reverse_singleton, List.singleton_append,
    List.lookup_cons, latest?]
  by_cases h : space = other
  · simp [h]
  · have hne : (other == space) = false := by simpa using Ne.symm h
    simp [h, hne]

theorem latest?_isSome_iff {registrations : List (String × Program S)} {space : String} :
    (latest? registrations space).isSome = true ↔ space ∈ registrations.map (·.1) := by
  rw [latest?, List.lookup_isSome_iff, List.mem_map]
  refine exists_congr fun pair => ?_
  rw [List.mem_reverse, beq_iff_eq, eq_comm (a := space)]

/-- A registry that holds just the factories of these registrations, each under the key of its namespace. -/
structure Registry.Represents (registry : Registry S)
    (registrations : List (String × Program S)) : Prop where
  factory?_eq : ∀ space, registry.factory? space = latest? registrations space
  derived : ∀ text ∈ registry.factories.names, ∃ space, text = (Key.derive space).text

namespace Registry

theorem factory?_register (registry : Registry S) (space other : String) (factory : Program S) :
    (registry.register space factory).factory? other =
      if space = other then some factory else registry.factory? other := by
  rw [factory?, register, Dictionary.get?_insert, ← factory?]
  simp only [Key.text_derive_inj]

theorem perm_spaces (registry : Registry S) :
    registry.spaces.Perm (registry.factories.names.map fun text => (Key.mk text).space) :=
  List.mergeSort_perm _ _

theorem length_spaces (registry : Registry S) : registry.spaces.length = registry.size := by
  rw [(perm_spaces registry).length_eq, List.length_map, Dictionary.names, List.length_map]
  rfl

theorem represents_withDefault (space : String) :
    (withDefault space : Registry S).Represents [] :=
  ⟨fun _ => rfl, by simp [withDefault, Dictionary.names]⟩

theorem Represents.register {registry : Registry S} {registrations : List (String × Program S)}
    (h : registry.Represents registrations) (space : String) (factory : Program S) :
    (registry.register space factory).Represents (registrations ++ [(space, factory)]) where
  factory?_eq := by
    intro other
    rw [factory?_register, latest?_append, h.factory?_eq]
  derived := by
    intro text htext
    rcases Dictionary.mem_names_insert.1 htext with rfl | hmem
    · exact ⟨space, rfl⟩
    · exact h.derived text hmem

/-! ### What can be asked of a registry -/

/-- All answers of a registry, given by the registrations alone. -/
structure Refines (registry : Registry S) (registrations : List (String × Program S)) : Prop where
  factory?_eq : ∀ space, registry.factory? space = latest? registrations space
  isRegistered_iff : ∀ space,
    registry.isRegistered space = true ↔ space ∈ registrations.map (·.1)
  mem_spaces_iff : ∀ space, space ∈ registry.spaces ↔ space ∈ registrations.map (·.1)
  /-- The namespaces strictly increase in the order of their bytes. -/
  spaces_increase : registry.spaces.Pairwise fun left right => Text.bytes left < Text.bytes right
  size_eq : registry.size = registry.spaces.length
  isEmpty_iff : registry.isEmpty = true ↔ registry.spaces = []

namespace Represents

variable {registry : Registry S} {registrations : List (String × Program S)}

theorem isRegistered_iff (h : registry.Represents registrations) (space : String) :
    registry.isRegistered space = true ↔ space ∈ registrations.map (·.1) := by
  rw [← latest?_isSome_iff, ← h.factory?_eq]
  rfl

theorem mem_spaces_iff (h : registry.Represents registrations) (space : String) :
    space ∈ registry.spaces ↔ space ∈ registrations.map (·.1) := by
  rw [← h.isRegistered_iff, (perm_spaces registry).mem_iff, List.mem_map, isRegistered,
    Dictionary.contains, Dictionary.get?_isSome_iff]
  constructor
  · rintro ⟨text, htext, rfl⟩
    -- Every key stored is one that was derived, so the listing reads its namespace back.
    obtain ⟨space, rfl⟩ := h.derived text htext
    rwa [Key.space_mk_text_derive]
  · exact fun hmem => ⟨_, hmem, Key.space_mk_text_derive space⟩

theorem nodup_spaces (h : registry.Represents registrations) : registry.spaces.Nodup := by
  refine (perm_spaces registry).nodup_iff.2 (List.Nodup.map_on ?_ (Dictionary.nodup_names _))
  intro text htext other hother hspace
  obtain ⟨left, rfl⟩ := h.derived text htext
  obtain ⟨right, rfl⟩ := h.derived other hother
  rw [Key.space_mk_text_derive, Key.space_mk_text_derive] at hspace
  rw [hspace]

theorem pairwise_spaces (h : registry.Represents registrations) :
    registry.spaces.Pairwise fun left right => Text.bytes left < Text.bytes right := by
  have htrans (left middle right : String) (hleft : decide (left ≤ middle) = true)
      (hright : decide (middle ≤ right) = true) : decide (left ≤ right) = true :=
    decide_eq_true (le_trans (of_decide_eq_true hleft) (of_decide_eq_true hright))
  have htotal (left right : String) : (decide (left ≤ right) || decide (right ≤ left)) = true := by
    simpa using le_total left right
  have hsorted : registry.spaces.Pairwise fun left right => decide (left ≤ right) = true :=
    List.pairwise_mergeSort htrans htotal _
  refine (hsorted.and h.nodup_spaces).imp fun ⟨hle, hne⟩ => ?_
  exact Text.lt_iff_bytes_lt.1 (lt_of_le_of_ne (of_decide_eq_true hle) hne)

theorem refines (h : registry.Represents registrations) : registry.Refines registrations where
  factory?_eq := h.factory?_eq
  isRegistered_iff := h.isRegistered_iff
  mem_spaces_iff := h.mem_spaces_iff
  spaces_increase := h.pairwise_spaces
  size_eq := (length_spaces registry).symm
  isEmpty_iff := by
    rw [← List.length_eq_zero_iff, length_spaces, isEmpty, Dictionary.isEmpty, List.isEmpty_iff,
      ← List.length_eq_zero_iff]
    rfl

end Represents

end Registry

/-! ### Moments -/

namespace Event

def registration? : Event S → Option (String × Program S)
  | register space factory => some (space, factory)
  | _ => none

end Event

/-- The registrations among moments, in order. -/
def registrations (moments : List (Moment S)) : List (String × Program S) :=
  moments.filterMap fun moment => moment.event.registration?

/-- A lookup that begins after these registrations answers with what the last factory for its namespace makes, run on the registry as the lookup sealed it, and without one says that there is none. A query tells what the registry is like. -/
structure Moment.AnswersFrom (registrations : List (String × Program S)) (moment : Moment S) :
    Prop where
  missed : ∀ target answer, moment.event = .lookup target answer →
    latest? registrations (target.space moment.before) = none →
      answer = .error (.unregistered (target.space moment.before))
  made : ∀ target answer factory, moment.event = .lookup target answer →
    latest? registrations (target.space moment.before) = some factory →
      ∃ depth state service made, state.registry = moment.after ∧
        factory.run depth state = some (service, made) ∧ answer = .ok service
  queried : ∀ query answer, moment.event = .query query answer →
    answer = moment.before.answer query

theorem Moment.Lawful.answersFrom {moment : Moment S} {registrations : List (String × Program S)}
    (h : moment.Lawful) (hbefore : moment.before.Represents registrations) :
    moment.AnswersFrom registrations := by
  cases h with
  | missed hnone =>
    rw [hbefore.factory?_eq] at hnone
    refine ⟨fun _ _ hevent _ => ?_, fun _ _ _ hevent hsome => ?_, by simp⟩
    · cases hevent
      rfl
    · cases hevent
      simp [hnone] at hsome
  | made hfactory hstate hrun =>
    rw [hbefore.factory?_eq] at hfactory
    refine ⟨fun _ _ hevent hnone => ?_, fun _ _ factory hevent hsome => ?_, by simp⟩
    · cases hevent
      simp [hfactory] at hnone
    · cases hevent
      obtain rfl := Option.some.inj (hfactory.symm.trans hsome)
      exact ⟨_, _, _, _, hstate, hrun, rfl⟩
  | queried registry query =>
    refine ⟨by simp, by simp, fun _ _ hevent => ?_⟩
    cases hevent
    rfl
  | accepted _ _ | refused _ _ | registered _ _ _ | counted _ _ _ =>
    exact ⟨by simp, by simp, by simp⟩

theorem registrations_concat (past : List (Moment S)) (moment : Moment S) :
    registrations (past ++ [moment]) =
      registrations past ++ moment.event.registration?.toList := by
  rw [registrations, registrations, List.filterMap_append]
  cases h : moment.event.registration? <;> simp [h]

theorem Registry.Represents.step {moment : Moment S} {past : List (Moment S)}
    (h : moment.before.Represents (registrations past)) (hmoment : moment.Lawful) :
    moment.after.Represents (registrations (past ++ [moment])) := by
  rw [registrations_concat]
  cases hmoment with
  | registered registry space factory => exact h.register space factory
  | missed _ | made _ _ _ | accepted _ _ | refused _ _ | queried _ _ | counted _ _ _ =>
    rw [Event.registration?, Option.toList_none, List.append_nil]
    · exact ⟨h.factory?_eq, h.derived⟩
    · simp

theorem Chain.represents {initial : String} {moments : List (Moment S)} {last : Registry S}
    (h : Chain (.withDefault initial) moments last) : last.Represents (registrations moments) :=
  h.invariant (fun past registry => registry.Represents (registrations past)) (fun _ _ => .step)
    (Registry.represents_withDefault initial)

/-! ### Whole sessions -/

theorem State.lookup_of_latest? {state : State S} {registrations : List (String × Program S)}
    (h : state.registry.Represents registrations) (depth : Nat) (space : String) :
    state.lookup depth space =
      match latest? registrations space with
      | none => some (.error (.unregistered space), state.sealDefault)
      | some factory =>
        (factory.run depth state.sealDefault).map fun (service, made) => (.ok service, made) := by
  have hlookup := State.lookup_eq depth state space
  rw [h.factory?_eq] at hlookup
  exact hlookup

/-- After any run of operations, with registrations by factories among them, and at each of its moments, a registry answers as the list of registrations made so far does, in which the last one for exactly the namespace counts: which factory a lookup runs and when there is none, what is registered, the namespaces in increasing order, their number and whether there are any. To register one namespace changes no other. -/
theorem registry_refines_registrations (initial : String) (counts : Nat → Nat) (depth : Nat)
    (operations : List (Operation S)) (events : List (Event S)) (after : State S)
    (h : State.performAll depth operations ⟨.withDefault initial, counts⟩ = some (events, after)) :
    (∃ moments, Performed ⟨.withDefault initial, counts⟩ events moments after) ∧
    (∀ moments, Performed ⟨.withDefault initial, counts⟩ events moments after →
      after.registry.Refines (registrations moments) ∧
      (∀ depth space, after.lookup depth space =
        match latest? (registrations moments) space with
        | none => some (.error (.unregistered space), after.sealDefault)
        | some factory =>
          (factory.run depth after.sealDefault).map fun (service, made) => (.ok service, made)) ∧
      ∀ past moment later, moments = past ++ moment :: later →
        moment.before.Refines (registrations past) ∧ moment.AnswersFrom (registrations past)) ∧
    ∀ (registry : Registry S) (space other : String) (factory : Program S), space ≠ other →
      (registry.register space factory).factory? other = registry.factory? other := by
  refine ⟨State.exists_performed h, fun moments hmoments => ?_, ?_⟩
  · have hchain : Chain (.withDefault initial) moments after.registry := hmoments.chain
    refine ⟨hchain.represents.refines, State.lookup_of_latest? hchain.represents, ?_⟩
    rintro past moment later rfl
    obtain ⟨hpast, hmoment, -⟩ := hchain.split
    exact ⟨hpast.represents.refines, hmoment.answersFrom hpast.represents⟩
  · intro registry space other factory hne
    rw [Registry.factory?_register, if_neg hne]

/-- Registers a namespace that ends in the suffix of keys while the factory of the namespace before the suffix runs. -/
def suffixed : List (Operation String) :=
  [.register "python" (.register ("python" ++ keySuffix) (.done "inner") (.done "outer")),
    .lookup (.named "python"), .register "" (.done "empty")]

theorem registry_refines_registrations_suffixed :
    ∃ events after,
      State.performAll 0 suffixed ⟨.withDefault "en", fun _ => 0⟩ = some (events, after) ∧
      after.lookup 0 ("python" ++ keySuffix) = some (.ok "inner", after.sealDefault) ∧
      after.lookup 0 "" = some (.ok "empty", after.sealDefault) ∧
      after.lookup 0 keySuffix = some (.error (.unregistered keySuffix), after.sealDefault) := by
  have hyields : Program.Yields (.register ("python" ++ keySuffix) (.done "inner") (.done "outer"))
      [.register ("python" ++ keySuffix) (.done "inner")] "outer" := .register (.done _)
  have hperformed : Performed ⟨.withDefault "en", fun _ => 0⟩
      [.register "python" (.register ("python" ++ keySuffix) (.done "inner") (.done "outer")),
        .lookup (.named "python") (.ok "outer"), .register "" (.done "empty")] _ _ :=
    .plain (.register _ "python" _) <|
      .made rfl hyields (.plain (.register _ _ _) (.nil _)) <|
        .plain (.register _ "" _) (.nil _)
  obtain ⟨-, hall, -⟩ := registry_refines_registrations "en" (fun _ => 0) 0 suffixed _ _ rfl
  obtain ⟨-, hlookup, -⟩ := hall _ hperformed
  exact ⟨_, _, rfl, hlookup 0 _, hlookup 0 _, hlookup 0 _⟩

end Service

end Phrasebook
