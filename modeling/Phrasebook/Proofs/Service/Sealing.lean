import Phrasebook.Proofs.Service.Moments
import Mathlib.Data.List.TakeWhile

/-!
# The seal of the default

Until the first lookup begins the default namespace is the one asked for last, and from then on it is frozen. A lookup sets the seal before its factory runs, so this also binds the factories of the very first lookup. `DefaultAfter` says it of a registry and the moments that led to it, and `Moment.KeepsSeal` of what a single moment does; nothing but the beginning of a lookup ever changes the seal.
-/

namespace Phrasebook.Service

variable {S : Type}

namespace Event

/-- Whether a lookup begins. -/
def isLookup : Event S → Bool
  | lookup _ _ => true
  | _ => false

/-- The namespace that is to become the default. -/
def requested? : Event S → Option String
  | overrideDefault space _ => some space
  | _ => none

end Event

/-- The default that was asked for last before the first lookup, or else the one at the beginning. -/
def chosenDefault (initial : String) (past : List (Moment S)) : String :=
  ((past.takeWhile fun moment => !moment.event.isLookup).filterMap
    fun moment => moment.event.requested?).getLastD initial

/-- A registry after these moments: whether it is sealed, and its default. -/
structure Registry.DefaultAfter (initial : String) (past : List (Moment S))
    (registry : Registry S) : Prop where
  isSealed_iff : registry.isSealed = true ↔ ∃ moment ∈ past, moment.event.isLookup = true
  default_eq : registry.default = chosenDefault initial past

/-- What a moment may do to the seal and the default. -/
structure Moment.KeepsSeal (moment : Moment S) : Prop where
  accepted : ∀ space answer, moment.event = .overrideDefault space answer →
    moment.before.isSealed = false →
      answer = .ok () ∧ moment.after = { moment.before with default := space }
  refused : ∀ space answer, moment.event = .overrideDefault space answer →
    moment.before.isSealed = true →
      answer = .error (.defaultSealed space moment.before.default) ∧ moment.after = moment.before
  queried : ∀ query answer, moment.event = .query query answer →
    answer = moment.before.answer query ∧ moment.after = moment.before
  /-- Only a lookup seals. -/
  isSealed_eq : moment.event.isLookup = false → moment.after.isSealed = moment.before.isSealed

/-! ### One moment -/

theorem Moment.Lawful.keepsSeal {moment : Moment S} (h : moment.Lawful) : moment.KeepsSeal := by
  cases h with
  | missed h => exact ⟨by simp, by simp, by simp, by simp [Event.isLookup]⟩
  | made h hstate hrun => exact ⟨by simp, by simp, by simp, by simp [Event.isLookup]⟩
  | accepted space h =>
    refine ⟨fun _ _ hevent _ => ?_, fun _ _ _ hsealed => ?_, by simp, fun _ => rfl⟩
    · cases hevent
      exact ⟨rfl, rfl⟩
    · simp [h] at hsealed
  | refused space h =>
    refine ⟨fun _ _ _ hopen => ?_, fun _ _ hevent _ => ?_, by simp, fun _ => rfl⟩
    · simp [h] at hopen
    · cases hevent
      exact ⟨rfl, rfl⟩
  | registered registry space factory => exact ⟨by simp, by simp, by simp, fun _ => rfl⟩
  | queried registry query =>
    refine ⟨by simp, by simp, fun _ _ hevent => ?_, fun _ => rfl⟩
    cases hevent
    exact ⟨rfl, rfl⟩
  | counted registry cell before => exact ⟨by simp, by simp, by simp, fun _ => rfl⟩

theorem Moment.Lawful.frozen {moment : Moment S} (h : moment.Lawful)
    (hsealed : moment.before.isSealed = true) :
    moment.after.isSealed = true ∧ moment.after.default = moment.before.default := by
  cases h with
  | accepted space hopen => simp [hopen] at hsealed
  | missed _ | made _ _ _ => exact ⟨rfl, rfl⟩
  | refused _ _ | registered _ _ _ | queried _ _ | counted _ _ _ => exact ⟨hsealed, rfl⟩

theorem Moment.Lawful.after_eq_of_isLookup {moment : Moment S} (h : moment.Lawful)
    (hlookup : moment.event.isLookup = true) : moment.after = moment.before.sealDefault := by
  cases h with
  | missed _ | made _ _ _ => rfl
  | accepted _ _ | refused _ _ | registered _ _ _ | queried _ _ | counted _ _ _ => cases hlookup

theorem Moment.Lawful.isSealed_iff {moment : Moment S} (h : moment.Lawful) :
    moment.after.isSealed = true ↔
      moment.before.isSealed = true ∨ moment.event.isLookup = true := by
  cases h with
  | missed _ | made _ _ _ => exact iff_of_true rfl (.inr rfl)
  | accepted _ _ | refused _ _ | registered _ _ _ | queried _ _ | counted _ _ _ =>
    exact (or_iff_left Bool.false_ne_true).symm

theorem Moment.Lawful.default_of_open {moment : Moment S} (h : moment.Lawful)
    (hopen : moment.before.isSealed = false) :
    moment.after.default = moment.event.requested?.getD moment.before.default := by
  cases h with
  | refused space hsealed => simp [hsealed] at hopen
  | missed _ | made _ _ _ | accepted _ _ | registered _ _ _ | queried _ _ | counted _ _ _ => rfl

/-! ### One moment more -/

section

variable {initial : String} {past : List (Moment S)}

theorem chosenDefault_of_sealed (h : ∃ moment ∈ past, moment.event.isLookup = true)
    (moment : Moment S) :
    chosenDefault initial (past ++ [moment]) = chosenDefault initial past := by
  obtain ⟨lookup, hmem, hlookup⟩ := h
  obtain ⟨earlier, later, rfl⟩ := List.append_of_mem hmem
  simp [chosenDefault, List.takeWhile_append, hlookup]

theorem chosenDefault_of_open (h : ¬∃ moment ∈ past, moment.event.isLookup = true)
    (moment : Moment S) :
    chosenDefault initial (past ++ [moment]) =
      moment.event.requested?.getD (chosenDefault initial past) := by
  have hpast : ∀ earlier ∈ past, (!earlier.event.isLookup) = true := by simpa using h
  rw [chosenDefault, chosenDefault, List.takeWhile_append_of_pos hpast,
    List.takeWhile_eq_self_iff.2 hpast, List.filterMap_append]
  cases hevent : moment.event <;> simp [Event.isLookup, Event.requested?, hevent]

theorem Registry.DefaultAfter.step {moment : Moment S}
    (h : moment.before.DefaultAfter initial past) (hmoment : moment.Lawful) :
    moment.after.DefaultAfter initial (past ++ [moment]) where
  isSealed_iff := by
    rw [hmoment.isSealed_iff, h.isSealed_iff]
    simp
  default_eq := by
    by_cases hsealed : moment.before.isSealed = true
    · rw [(hmoment.frozen hsealed).2, h.default_eq,
        chosenDefault_of_sealed (h.isSealed_iff.1 hsealed)]
    · rw [hmoment.default_of_open (by simpa using hsealed), h.default_eq,
        chosenDefault_of_open (mt h.isSealed_iff.2 hsealed)]

theorem defaultAfter_withDefault (initial : String) :
    (Registry.withDefault initial : Registry S).DefaultAfter initial [] :=
  ⟨by simp [Registry.withDefault], rfl⟩

end

/-! ### Whole sessions -/

theorem Chain.defaultAfter {initial : String} {moments : List (Moment S)} {last : Registry S}
    (h : Chain (.withDefault initial) moments last) : last.DefaultAfter initial moments :=
  h.invariant (fun past registry => registry.DefaultAfter initial past) (fun _ _ => .step)
    (defaultAfter_withDefault initial)

/-- From a sealed registry on, the seal and the default stay as they are. -/
theorem Chain.frozen {first last : Registry S} {moments : List (Moment S)}
    (h : Chain first moments last) (hsealed : first.isSealed = true) :
    ∀ moment ∈ moments, moment.after.isSealed = true ∧ moment.after.default = first.default := by
  induction h with
  | nil => simp
  | cons hmoment _ ih =>
    obtain ⟨hafter, hdefault⟩ := hmoment.frozen hsealed
    rw [List.forall_mem_cons, ← hdefault]
    exact ⟨⟨hafter, rfl⟩, ih hafter⟩

theorem Chain.last_frozen {first last : Registry S} {moments : List (Moment S)}
    (h : Chain first moments last) (hsealed : first.isSealed = true) :
    last.isSealed = true ∧ last.default = first.default := by
  induction h with
  | nil => exact ⟨hsealed, rfl⟩
  | cons hmoment _ ih =>
    obtain ⟨hafter, hdefault⟩ := hmoment.frozen hsealed
    rw [← hdefault]
    exact ih hafter

theorem Chain.pairwise_frozen {first last : Registry S} {moments : List (Moment S)}
    (h : Chain first moments last) :
    moments.Pairwise fun earlier later => earlier.after.isSealed = true →
      later.after.isSealed = true ∧ later.after.default = earlier.after.default := by
  induction h with
  | nil => exact .nil
  | cons _ hrest ih => exact .cons (fun later hlater hsealed => hrest.frozen hsealed later hlater) ih

/-- A run of operations, with factories that use the registry in turn however deep, is a session that starts from an unsealed registry with a default. At each of its moments and at its end the registry is sealed exactly if some lookup has begun, and its default is the last one asked for before the first lookup, or else the one at the beginning. While the registry is unsealed every change of the default is accepted; once it is sealed every change is refused with the frozen default and leaves the registry as it is, also one by a factory that the first lookup runs. The seal and the default then stay for good. Registering and the queries never seal. -/
theorem sealed_by_first_lookup (initial : String) (counts : Nat → Nat) (depth : Nat)
    (operations : List (Operation S)) (events : List (Event S)) (after : State S)
    (h : State.performAll depth operations ⟨.withDefault initial, counts⟩ = some (events, after)) :
    (∃ moments, Performed ⟨.withDefault initial, counts⟩ events moments after) ∧
    ∀ moments, Performed ⟨.withDefault initial, counts⟩ events moments after →
      after.registry.DefaultAfter initial moments ∧
      (∀ past moment later, moments = past ++ moment :: later →
        moment.before.DefaultAfter initial past ∧ moment.KeepsSeal) ∧
      moments.Pairwise fun earlier later => earlier.after.isSealed = true →
        later.after.isSealed = true ∧ later.after.default = earlier.after.default := by
  refine ⟨State.exists_performed h, fun moments hmoments => ?_⟩
  have hchain : Chain (.withDefault initial) moments after.registry := hmoments.chain
  refine ⟨hchain.defaultAfter, ?_, hchain.pairwise_frozen⟩
  rintro past moment later rfl
  obtain ⟨hpast, hmoment, -⟩ := hchain.split
  exact ⟨hpast.defaultAfter, hmoment.keepsSeal⟩

def meddler : Program String :=
  .overrideDefault "de" fun
    | .ok () => .done "changed"
    | .error refusal => .done refusal.message

/-- The default is changed before the first lookup, by the factory of the first lookup, and after it. -/
def meddling : List (Operation String) :=
  [.overrideDefault "fr", .register "fr" meddler, .lookup .default, .overrideDefault "es"]

theorem sealed_by_first_lookup_meddling :
    ∃ events moments after,
      State.performAll 0 meddling ⟨.withDefault "en", fun _ => 0⟩ = some (events, after) ∧
      Performed ⟨.withDefault "en", fun _ => 0⟩ events moments after ∧
      after.registry.default = "fr" ∧
      ∃ moment ∈ moments,
        moment.event = .overrideDefault "de" (.error (.defaultSealed "de" "fr")) ∧
        moment.after = moment.before := by
  have hyields : meddler.Yields [.overrideDefault "de" (.error (.defaultSealed "de" "fr"))]
      (Refusal.defaultSealed "de" "fr").message := .overrideDefault (.done _)
  have hperformed : Performed ⟨.withDefault "en", fun _ => 0⟩
      [.overrideDefault "fr" (.ok ()), .register "fr" meddler,
        .lookup .default (.ok (Refusal.defaultSealed "de" "fr").message),
        .overrideDefault "es" (.error (.defaultSealed "es" "fr"))] _ _ :=
    .plain (.overrideDefault _ "fr") <| .plain (.register _ "fr" meddler) <|
      .made rfl hyields (.plain (.overrideDefault _ "de") (.nil _)) <|
        .plain (.overrideDefault _ "es") (.nil _)
  obtain ⟨-, hall⟩ := sealed_by_first_lookup "en" (fun _ => 0) 0 meddling _ _ rfl
  obtain ⟨hafter, hmoments, -⟩ := hall _ hperformed
  refine ⟨_, _, _, rfl, hperformed, hafter.default_eq, _, .tail _ (.tail _ (.tail _ (.head _))), ?_⟩
  -- The fourth moment is the use that the running factory makes of the registry.
  obtain ⟨-, hkeeps⟩ := hmoments [_, _, _] _ [_] rfl
  obtain ⟨hanswer, hsame⟩ := hkeeps.refused "de" _ rfl rfl
  exact ⟨congrArg (Event.overrideDefault "de") hanswer, hsame⟩

end Phrasebook.Service
