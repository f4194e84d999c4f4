import Phrasebook.Proofs.Message.Workbench

/-!
# Calls in another arrangement

A builder does not remember how its text was cut into pieces, nor where declarations and descriptions stood between pieces of text and placeholders. What it becomes is a function of three things: the natural names in order, the descriptions in order, and what was written, character by character and slot by slot (`perform_eq_after`). Text is appended as if each of its characters came in a call of its own (`appendText_eq_foldl`), so cuts cannot show; and a slot keeps its name whatever is declared later, so it does not matter when.
-/

namespace Phrasebook

/-! ### Text, character by character -/

namespace Builder

theorem appendText_append (first second : String) (segments : List Segment) :
    appendText (first ++ second) segments = appendText second (appendText first segments) := by
  have hopen (segments : List Segment)
      (hsegments : ∀ text, appendText text segments =
        if text.isEmpty then segments else .literal text :: segments) :
      appendText (first ++ second) segments = appendText second (appendText first segments) := by
    rw [hsegments first]
    by_cases hfirst : first = ""
    · simp [hfirst]
    · have hboth : (first ++ second).isEmpty = false := by simp [hfirst]
      rw [hsegments, hboth, if_neg (by simp), if_neg (by simpa using hfirst)]
      rfl
  match segments with
  | .literal before :: rest =>
    show Segment.literal (before ++ (first ++ second)) :: rest =
      .literal (before ++ first ++ second) :: rest
    rw [String.append_assoc]
  | [] => exact hopen [] fun _ => rfl
  | .placeholder name :: rest => exact hopen _ fun _ => rfl

theorem appendText_empty (segments : List Segment) : appendText "" segments = segments := by
  match segments with
  | .literal before :: rest =>
    show Segment.literal (before ++ "") :: rest = .literal before :: rest
    rw [String.append_empty]
  | [] => rfl
  | .placeholder name :: rest => rfl

/-- Writes one character, or a placeholder for a slot that a builder knows which has returned these names. -/
def write (returned : List String) (collected : List Segment) :
    Char ⊕ SlotSource → List Segment
  | .inl c => appendText (.singleton c) collected
  | .inr source =>
    match source.name? returned with
    | some name => .placeholder name :: collected
    | none => collected

theorem appendText_eq_foldl (returned : List String) (literal : String) (collected : List Segment) :
    appendText literal collected = (literal.toList.map .inl).foldl (write returned) collected := by
  obtain ⟨chars, rfl⟩ : ∃ chars, literal = String.ofList chars := ⟨literal.toList, by simp⟩
  rw [String.toList_ofList]
  induction chars generalizing collected with
  | nil => exact appendText_empty collected
  | cons c chars ih =>
    rw [List.map_cons, List.foldl_cons, ← ih, write, ← appendText_append]
    congr 1
    simp

end Builder

namespace Draft

/-! ### What calls come to -/

namespace Call

def natural? : Call → Option String
  | .declare natural => some natural
  | _ => none

def description? : Call → Option String
  | .describe description => some description
  | _ => none

/-- The characters and slots that a call writes. -/
def written : Call → List (Char ⊕ SlotSource)
  | .text literal => literal.toList.map .inl
  | .placeholder source => [.inr source]
  | _ => []

end Call

/-- Calls that declare the same natural names in the same order, describe alike, and write the same characters and slots. They may differ in how text is cut, and in where declarations and descriptions stand. -/
structure Rearranged (left right : List Call) : Prop where
  declared : left.filterMap Call.natural? = right.filterMap Call.natural?
  described : left.filterMap Call.description? = right.filterMap Call.description?
  written : left.flatMap Call.written = right.flatMap Call.written

/-- What a builder becomes by declaring these names, being described so and having this written, all names being known when something is written. -/
def after (draft : Draft) (naturals descriptions : List String)
    (written : List (Char ⊕ SlotSource)) : Draft :=
  let names := (draft.builder.namer.assignAll naturals).1
  { builder := { draft.builder with
      description := descriptions.foldl (fun _ text => some text) draft.builder.description
      namer := (draft.builder.namer.assignAll naturals).2
      arguments := draft.builder.arguments ++ names
      collected := written.foldl (Builder.write (draft.returned ++ names)) draft.builder.collected }
    returned := draft.returned ++ names }

theorem perform_eq_after {draft later : Draft} {calls : List Call}
    (h : draft.perform calls = some later) :
    later = draft.after (calls.filterMap Call.natural?) (calls.filterMap Call.description?)
      (calls.flatMap Call.written) := by
  induction calls generalizing draft with
  | nil =>
    obtain rfl := Option.some.inj h
    simp [after, Namer.assignAll]
  | cons call calls ih =>
    obtain ⟨next, hnext, hrest⟩ := perform_cons_eq_some_iff.1 h
    rw [ih hrest, List.filterMap_cons, List.filterMap_cons, List.flatMap_cons]
    cases call with
    | describe text =>
      obtain rfl := Option.some.inj hnext
      rfl
    | declare natural =>
      obtain rfl := Option.some.inj hnext
      simp only [after, declare, Builder.declare, Call.natural?, Call.description?, Call.written,
        Namer.assignAll, List.append_assoc, List.singleton_append, List.nil_append]
    | text literal =>
      obtain rfl := Option.some.inj hnext
      simp only [after, text, Builder.text, Call.natural?, Call.description?, Call.written,
        List.foldl_append, ← Builder.appendText_eq_foldl]
    | placeholder source =>
      -- The slot has its name already, and keeps it when the later names are known.
      obtain ⟨name, hname, rfl⟩ := Option.map_eq_some_iff.1 hnext
      have hkept := SlotSource.name?_append hname
      simp only [after, placeholder, Builder.placeholder, Call.natural?, Call.description?,
        Call.written, List.singleton_append, List.foldl_cons, Builder.write, hkept]

end Draft

/-- Every builder of every run, clones included, comes from the calls made on it. Where two lists of calls on a builder can both be performed, which is to say that every slot is returned before it is used, and differ only in how text is cut and in where declarations and descriptions stand, building gives the same message or the same failure after the one as after the other, and the declarations have returned the same names. -/
theorem Draft.build_of_rearranged :
    (∀ steps, ∀ draft ∈ (Workbench.run steps).drafts,
      ∃ id calls, (Draft.new id).perform calls = some draft) ∧
    ∀ (draft first second : Draft) (left right : List Call), Rearranged left right →
      draft.perform left = some first → draft.perform right = some second →
        first.builder.build = second.builder.build ∧ first.returned = second.returned := by
  refine ⟨Workbench.exists_perform, fun draft first second left right h hleft hright => ?_⟩
  have heq : first = second := by
    rw [perform_eq_after hleft, perform_eq_after hright, h.declared, h.described, h.written]
  rw [heq]
  exact ⟨rfl, rfl⟩

/-- A marker that is cut in two, with a declaration and a piece without text at the cut. -/
def Draft.scattered : List Draft.Call :=
  [.declare "_a", .text "é\x7b", .describe "old", .text "", .declare "a", .text "$5",
    .placeholder (.own 1), .describe "new"]

/-- The same with all declarations and descriptions first, and the text cut elsewhere. -/
def Draft.gathered : List Draft.Call :=
  [.describe "old", .declare "_a", .describe "new", .declare "a", .text "é", .text "\x7b$5",
    .placeholder (.own 1)]

theorem Draft.build_of_rearranged_marker :
    ∃ first second : Draft, (Draft.new "price").perform scattered = some first ∧
      (Draft.new "price").perform gathered = some second ∧
      first.builder.build = .error (.malformed 2 .reservedSequence) ∧
      second.builder.build = .error (.malformed 2 .reservedSequence) ∧
      second.returned = ["a", "a_1"] := by
  have h : Rearranged scattered gathered := ⟨by decide, by decide, by decide⟩
  obtain ⟨-, hall⟩ := build_of_rearranged
  obtain ⟨hbuild, hreturned⟩ := hall (Draft.new "price") _ _ _ _ h rfl rfl
  exact ⟨_, _, rfl, rfl, rfl, hbuild.symm.trans rfl, hreturned.symm.trans rfl⟩

end Phrasebook
