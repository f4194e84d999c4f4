import Phrasebook.Message.Builder
import Phrasebook.Proofs.Name.Fresh
import Phrasebook.Proofs.Template.RoundTrip

/-!
# Runs of builders

Any number of builders are made, cloned and worked on in any order, and a slot that one of them returned may be given to any other. A workbench holds all builders and all slots of such a run. Each builder is kept with the names that its declarations returned: they are its history, nothing in the builder is computed from them. `wellFormed_run` says what every builder and every slot of every run satisfies, and the properties of building rest on it alone.

What a builder has become is told by the calls made on it, one after the other. A call that appends a placeholder says where its slot comes from, since a slot of the builder itself can only be used once it has been returned. Every builder of every run comes from such calls, a clone from those of the builder it was cloned from and its own (`Workbench.exists_perform`), so what is said of calls is said of all builders.
-/

namespace Phrasebook

/-! ### Builders with their history -/

/-- A builder and the names that its declarations returned, in order. -/
structure Draft where
  builder : Builder
  /-- What the declarations of the builder returned, those of the builder it was cloned from included. -/
  returned : List String := []
  deriving DecidableEq, Repr

namespace Draft

def describe (draft : Draft) (text : String) : Draft :=
  { draft with builder := draft.builder.describe text }

def text (draft : Draft) (literal : String) : Draft :=
  { draft with builder := draft.builder.text literal }

def placeholder (draft : Draft) (slot : Slot) : Draft :=
  { draft with builder := draft.builder.placeholder slot }

/-- Declares an argument, and notes the name that comes back. -/
def declare (draft : Draft) (natural : String) : Slot × Draft :=
  let (slot, builder) := draft.builder.declare natural
  (slot, { builder, returned := draft.returned ++ [slot.name] })

end Draft

/-! ### The workbench -/

/-- All builders and all slots of a run, each in the order in which they came to be. -/
structure Workbench where
  drafts : List Draft := []
  slots : List Slot := []
  deriving DecidableEq, Repr

namespace Workbench

/-- One operation of a run. Builders and slots are meant by their numbers. -/
inductive Step where
  | new (id : String)
  | clone (draft : Nat)
  | describe (draft : Nat) (text : String)
  | declare (draft : Nat) (natural : String)
  | text (draft : Nat) (literal : String)
  /-- Appends a placeholder for any slot there is. -/
  | placeholder (draft : Nat) (slot : Nat)
  deriving DecidableEq, Repr

/-- Performs one operation. An operation on a builder or a slot that is not there does nothing. -/
def step (bench : Workbench) : Step → Workbench
  | .new id => { bench with drafts := bench.drafts ++ [{ builder := Builder.new id }] }
  | .clone i => { bench with drafts := bench.drafts ++ bench.drafts[i]?.toList }
  | .describe i text => { bench with drafts := bench.drafts.modify i (·.describe text) }
  | .declare i natural =>
    { drafts := bench.drafts.modify i fun draft => (draft.declare natural).2
      slots := bench.slots ++ (bench.drafts[i]?.map fun draft => (draft.declare natural).1).toList }
  | .text i literal => { bench with drafts := bench.drafts.modify i (·.text literal) }
  | .placeholder i j =>
    match bench.slots[j]? with
    | some slot => { bench with drafts := bench.drafts.modify i (·.placeholder slot) }
    | none => bench

/-- Performs operations one after the other, on a workbench that is empty at first. -/
def run (steps : List Step) : Workbench :=
  steps.foldl step {}

end Workbench

/-! ### Collected segments -/

/-- Segments as a builder collects them: literals hold text and do not touch, and placeholders have valid names. Only markers in literal text are missing from what makes a template normal. -/
structure Segment.Tidy (segments : List Segment) : Prop where
  ne_empty : ∀ text, .literal text ∈ segments → text ≠ ""
  isValid : ∀ name, .placeholder name ∈ segments → Name.isValid name.toList = true
  separate : segments.IsChain Separate

namespace Segment

theorem tidy_nil : Tidy [] :=
  ⟨by simp, by simp, List.IsChain.nil⟩

theorem separate_comm {left right : Segment} : left.Separate right ↔ right.Separate left :=
  not_congr and_comm

theorem Tidy.reverse {segments : List Segment} (h : Tidy segments) : Tidy segments.reverse where
  ne_empty := fun text htext => h.ne_empty text (List.mem_reverse.1 htext)
  isValid := fun name hname => h.isValid name (List.mem_reverse.1 hname)
  separate := List.isChain_reverse.2 (h.separate.imp fun _ _ => separate_comm.1)

theorem Tidy.placeholder {segments : List Segment} (h : Tidy segments) {name : String}
    (hname : Name.isValid name.toList = true) : Tidy (.placeholder name :: segments) where
  ne_empty := by simpa using h.ne_empty
  isValid := by
    intro other hother
    rcases List.mem_cons.1 hother with heq | hmem
    · cases heq
      exact hname
    · exact h.isValid other hmem
  separate := List.isChain_cons.2 ⟨by simp [Separate, isLiteral], h.separate⟩

theorem Tidy.literal {segments : List Segment} (h : Tidy segments) {text : String}
    (htext : text ≠ "") (hnext : ∀ next ∈ segments.head?, (Segment.literal text).Separate next) :
    Tidy (.literal text :: segments) where
  ne_empty := by
    intro other hother
    rcases List.mem_cons.1 hother with heq | hmem
    · cases heq
      exact htext
    · exact h.ne_empty other hmem
  isValid := by simpa using h.isValid
  separate := List.isChain_cons.2 ⟨hnext, h.separate⟩

theorem Tidy.tail {segment : Segment} {segments : List Segment} (h : Tidy (segment :: segments)) :
    Tidy segments :=
  ⟨fun text htext => h.ne_empty text (List.mem_cons_of_mem _ htext),
    fun name hname => h.isValid name (List.mem_cons_of_mem _ hname), h.separate.tail⟩

theorem Tidy.appendText {segments : List Segment} (h : Tidy segments) (text : String) :
    Tidy (Builder.appendText text segments) := by
  match segments with
  | .literal before :: rest =>
    have hbefore : before ≠ "" := h.ne_empty before List.mem_cons_self
    refine h.tail.literal ?_ (List.isChain_cons.1 h.separate).1
    intro hempty
    exact hbefore (String.append_eq_empty_iff.1 hempty).1
  | [] =>
    show Tidy (if text.isEmpty then [] else [.literal text])
    split
    · exact h
    · next hempty => exact h.literal (by simpa using hempty) (by simp)
  | .placeholder name :: rest =>
    show Tidy (if text.isEmpty then .placeholder name :: rest
      else .literal text :: .placeholder name :: rest)
    split
    · exact h
    · next hempty =>
      exact h.literal (by simpa using hempty) (by simp [Separate, isLiteral])

theorem Tidy.normal_iff {segments : List Segment} (h : Tidy segments) :
    Template.Normal ⟨segments⟩ ↔
      ∀ text, .literal text ∈ segments → markerAt? text.toList = none := by
  rw [Template.normal_iff]
  constructor
  · rintro ⟨hliteral, -⟩ text htext
    exact markerAt?_eq_none_iff.2 (hliteral text htext).2
  · intro hmarker
    exact ⟨fun text htext => ⟨h.ne_empty text htext, markerAt?_eq_none_iff.1 (hmarker text htext)⟩,
      h.isValid, h.separate⟩

end Segment

/-! ### What holds of every builder -/

namespace Draft

/-- What every operation keeps of a builder. The namer knows exactly the names that were returned, which are distinct and are the arguments in order, and the segments are tidy. Nothing is said about markers in literal text, nor that placeholders are declared: that is for building to find out. -/
structure WellFormed (draft : Draft) : Prop where
  isAssigned_iff : ∀ name, draft.builder.namer.isAssigned name = true ↔ name ∈ draft.returned
  arguments_eq : draft.builder.arguments = draft.returned
  nodup : draft.returned.Nodup
  tidy : Segment.Tidy draft.builder.collected

theorem wellFormed_new (id : String) : WellFormed { builder := Builder.new id } where
  isAssigned_iff := by simp [Builder.new, Namer.isAssigned_iff]
  arguments_eq := rfl
  nodup := List.nodup_nil
  tidy := Segment.tidy_nil

namespace WellFormed

variable {draft : Draft}

theorem describe (h : draft.WellFormed) (text : String) : (draft.describe text).WellFormed :=
  ⟨h.isAssigned_iff, h.arguments_eq, h.nodup, h.tidy⟩

theorem text (h : draft.WellFormed) (literal : String) : (draft.text literal).WellFormed :=
  ⟨h.isAssigned_iff, h.arguments_eq, h.nodup, h.tidy.appendText literal⟩

theorem placeholder (h : draft.WellFormed) {slot : Slot}
    (hslot : Name.isValid slot.name.toList = true) : (draft.placeholder slot).WellFormed :=
  ⟨h.isAssigned_iff, h.arguments_eq, h.nodup, h.tidy.placeholder hslot⟩

theorem declare (h : draft.WellFormed) (natural : String) :
    (draft.declare natural).2.WellFormed where
  isAssigned_iff := Namer.isAssigned_assign_iff_mem h.isAssigned_iff natural
  arguments_eq := congrArg (· ++ [(draft.builder.namer.assign natural).1]) h.arguments_eq
  nodup := Namer.nodup_concat_assign h.isAssigned_iff h.nodup natural
  tidy := h.tidy

end WellFormed

end Draft

/-! ### What holds of every run -/

namespace Workbench

/-- Every builder is well formed and every slot has a valid name, whichever builder it came from. -/
structure WellFormed (bench : Workbench) : Prop where
  drafts : ∀ draft ∈ bench.drafts, draft.WellFormed
  slots : ∀ slot ∈ bench.slots, Name.isValid slot.name.toList = true

/-- What new builders have and every call keeps holds of all builders after an operation. -/
theorem forall_mem_step {P : Draft → Prop} {bench : Workbench}
    (hnew : ∀ id, P { builder := Builder.new id })
    (hdescribe : ∀ draft text, P draft → P (draft.describe text))
    (hdeclare : ∀ draft natural, P draft → P (draft.declare natural).2)
    (htext : ∀ draft literal, P draft → P (draft.text literal))
    (hplaceholder : ∀ draft, ∀ slot ∈ bench.slots, P draft → P (draft.placeholder slot))
    (h : ∀ draft ∈ bench.drafts, P draft) (step : Step) :
    ∀ draft ∈ (bench.step step).drafts, P draft := by
  cases step with
  | new id => exact List.forall_mem_append.2 ⟨h, List.forall_mem_singleton.2 (hnew id)⟩
  | clone i =>
    refine List.forall_mem_append.2 ⟨h, fun draft hcopy => ?_⟩
    exact h draft (List.mem_of_getElem? (Option.mem_toList.1 hcopy))
  | describe i text => exact forall_mem_modify h (fun draft => hdescribe draft text) i
  | declare i natural => exact forall_mem_modify h (fun draft => hdeclare draft natural) i
  | text i literal => exact forall_mem_modify h (fun draft => htext draft literal) i
  | placeholder i j =>
    rw [Workbench.step]
    split
    · next slot hslot =>
      have hmem := List.mem_of_getElem? hslot
      exact forall_mem_modify h (fun draft => hplaceholder draft slot hmem) i
    · exact h

theorem WellFormed.step {bench : Workbench} (h : bench.WellFormed) (step : Step) :
    (bench.step step).WellFormed where
  drafts := by
    refine forall_mem_step Draft.wellFormed_new (fun _ text hdraft => hdraft.describe text)
      (fun _ natural hdraft => hdraft.declare natural) (fun _ literal hdraft => hdraft.text literal)
      (fun _ slot hslot hdraft => hdraft.placeholder (h.slots slot hslot)) h.drafts step
  slots := by
    intro slot hslot
    cases step with
    | declare i natural =>
      rcases List.mem_append.1 hslot with hmem | hnew
      · exact h.slots slot hmem
      · obtain ⟨draft, -, rfl⟩ := Option.map_eq_some_iff.1 (Option.mem_toList.1 hnew)
        exact Namer.isValid_nameFor draft.builder.namer natural
    | placeholder i j =>
      rw [Workbench.step] at hslot
      split at hslot <;> exact h.slots slot hslot
    | new _ | clone _ | describe _ _ | text _ _ => exact h.slots slot hslot

theorem WellFormed.foldl {bench : Workbench} (h : bench.WellFormed) (steps : List Step) :
    (steps.foldl Workbench.step bench).WellFormed := by
  induction steps generalizing bench with
  | nil => exact h
  | cons step steps ih => exact ih (h.step step)

theorem wellFormed_run (steps : List Step) : (run steps).WellFormed :=
  WellFormed.foldl ⟨by simp, by simp⟩ steps

end Workbench

/-! ### Builders by their calls -/

/-- Where a slot comes from: the `k`-th declaration of the builder that uses it, counted from zero, or another builder. -/
inductive SlotSource where
  | own (k : Nat)
  | foreign (slot : Slot)
  deriving DecidableEq, Repr

/-- The name of the slot, for a builder whose declarations have returned these names. -/
def SlotSource.name? (returned : List String) : SlotSource → Option String
  | own k => returned[k]?
  | foreign slot => some slot.name

theorem SlotSource.name?_append {source : SlotSource} {returned : List String} {name : String}
    (h : source.name? returned = some name) (more : List String) :
    source.name? (returned ++ more) = some name := by
  cases source with
  | own k =>
    obtain ⟨hk, -⟩ := List.getElem?_eq_some_iff.1 h
    exact (List.getElem?_append_left hk).trans h
  | foreign slot => exact h

namespace Draft

/-- One call on a builder. -/
inductive Call where
  | describe (text : String)
  | declare (natural : String)
  | text (literal : String)
  | placeholder (source : SlotSource)
  deriving DecidableEq, Repr

/-- Makes a call. A slot that the builder has not returned yet cannot be used. -/
def call (draft : Draft) : Call → Option Draft
  | .describe text => some (draft.describe text)
  | .declare natural => some (draft.declare natural).2
  | .text literal => some (draft.text literal)
  | .placeholder source =>
    (source.name? draft.returned).map fun name => draft.placeholder ⟨name⟩

/-- Makes calls one after the other. -/
def perform (draft : Draft) (calls : List Call) : Option Draft := calls.foldlM call draft

/-- A new builder, on which no call has been made. -/
def new (id : String) : Draft := { builder := Builder.new id }

theorem perform_cons_eq_some_iff {draft later : Draft} {first : Call} {calls : List Call} :
    draft.perform (first :: calls) = some later ↔
      ∃ next, draft.call first = some next ∧ next.perform calls = some later := by
  rw [perform, List.foldlM_cons]
  exact Option.bind_eq_some_iff

theorem perform_concat {draft later next : Draft} {calls : List Call} {last : Call}
    (h : draft.perform calls = some later) (hlast : later.call last = some next) :
    draft.perform (calls ++ [last]) = some next := by
  rw [perform] at h ⊢
  have hlast' : later.perform [last] = some next :=
    perform_cons_eq_some_iff.2 ⟨next, hlast, rfl⟩
  rw [List.foldlM_append, h]
  exact hlast'

theorem perform_invariant {P : Draft → Prop}
    (hcall : ∀ draft next call, P draft → draft.call call = some next → P next)
    {draft later : Draft} {calls : List Call} (h : draft.perform calls = some later)
    (hdraft : P draft) : P later := by
  induction calls generalizing draft with
  | nil => exact Option.some.inj h ▸ hdraft
  | cons first calls ih =>
    obtain ⟨next, hnext, hrest⟩ := perform_cons_eq_some_iff.1 h
    exact ih hrest (hcall draft next first hdraft hnext)

end Draft

/-- Every builder of a run comes from the calls made on it and on the builders it was cloned from. -/
theorem Workbench.exists_perform (steps : List Step) :
    ∀ draft ∈ (run steps).drafts, ∃ id calls, (Draft.new id).perform calls = some draft := by
  have hcall {draft next : Draft} (call : Draft.Call) (hnext : draft.call call = some next) :
      (∃ id calls, (Draft.new id).perform calls = some draft) →
        ∃ id calls, (Draft.new id).perform calls = some next :=
    fun ⟨id, calls, h⟩ => ⟨id, calls ++ [call], Draft.perform_concat h hnext⟩
  suffices hall : ∀ bench : Workbench,
      (∀ draft ∈ bench.drafts, ∃ id calls, (Draft.new id).perform calls = some draft) →
        ∀ draft ∈ (steps.foldl step bench).drafts,
          ∃ id calls, (Draft.new id).perform calls = some draft from hall {} (by simp)
  induction steps with
  | nil => exact fun _ h => h
  | cons s steps ih =>
    intro bench h
    apply ih
    refine forall_mem_step ?_ ?_ ?_ ?_ ?_ h s
    · exact fun id => ⟨id, [], rfl⟩
    · exact fun _ text => hcall (.describe text) rfl
    · exact fun _ natural => hcall (.declare natural) rfl
    · exact fun _ literal => hcall (.text literal) rfl
    · exact fun _ slot _ => hcall (.placeholder (.foreign slot)) rfl

end Phrasebook
