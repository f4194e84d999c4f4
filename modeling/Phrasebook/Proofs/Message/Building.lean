import Phrasebook.Proofs.Message.Workbench
import Phrasebook.Proofs.Template.Rendering

/-!
# Building and translating messages

A message is well formed if its arguments are distinct, its template is normal and declares nothing new. `translate_eq_ok_iff` says when a translation is accepted and what it gives; a translation of a well-formed message is well formed again, and the message's own source translates it to itself.

A builder can be finished exactly if what it has collected can be read back and needs declared arguments only. `build_eq_ok_iff` says what building checks, `WellFormed.build_isOk_iff` turns that into reading back for every builder of a run, and the messages that building returns are well formed.
-/

/-! ### Translations -/

namespace Phrasebook.Message

/-- A message whose template can be read back and needs declared arguments only. -/
structure WellFormed (message : Message) : Prop where
  nodup : message.arguments.Nodup
  normal : message.template.Normal
  declared : ∀ name, .placeholder name ∈ message.template.segments → name ∈ message.arguments

theorem translate_eq_ok_iff {message translated : Message} {source : String} :
    message.translate source = .ok translated ↔
      ∃ template, Template.parse source = .ok template ∧
        (∀ name, .placeholder name ∈ template.segments → name ∈ message.arguments) ∧
        translated = { message with template } := by
  rw [translate, bind_eq_ok_iff]
  refine exists_congr fun template => and_congr_right fun _ => ?_
  cases hfind : template.placeholders.find? fun name => !message.arguments.contains name with
  | none =>
    have hdeclared : ∀ name, .placeholder name ∈ template.segments →
        name ∈ message.arguments := by
      intro name hname
      simpa using List.find?_eq_none.1 hfind name (Template.mem_placeholders.2 hname)
    constructor
    · intro h
      exact ⟨hdeclared, (Except.ok.inj h).symm⟩
    · rintro ⟨-, rfl⟩
      rfl
  | some name =>
    have hunknown : name ∉ message.arguments := by simpa using List.find?_some hfind
    have hname := Template.mem_placeholders.1 (List.mem_of_find?_eq_some hfind)
    constructor
    · intro h
      cases h
    · rintro ⟨hdeclared, -⟩
      exact absurd (hdeclared name hname) hunknown

variable {message : Message}

theorem WellFormed.parse_source (h : message.WellFormed) :
    Template.parse message.template.source = .ok message.template :=
  Template.parse_source h.normal

theorem WellFormed.translate_source (h : message.WellFormed) :
    message.translate message.template.source = .ok message :=
  translate_eq_ok_iff.2 ⟨message.template, h.parse_source, h.declared, rfl⟩

theorem WellFormed.translate (h : message.WellFormed) {source : String} {translated : Message}
    (htranslate : message.translate source = .ok translated) : translated.WellFormed := by
  obtain ⟨template, hparse, hdeclared, rfl⟩ := translate_eq_ok_iff.1 htranslate
  exact ⟨h.nodup, (Template.normal_of_parse hparse).1, hdeclared⟩

end Phrasebook.Message

/-! ### Builders -/

namespace Phrasebook

namespace Builder

theorem firstFault?_eq_none_iff {namer : Namer} (position : Nat) {segments : List Segment} :
    firstFault? namer position segments = none ↔
      (∀ text, .literal text ∈ segments → markerAt? text.toList = none) ∧
      ∀ name, .placeholder name ∈ segments → namer.isAssigned name = true := by
  induction segments generalizing position with
  | nil => simp [firstFault?]
  | cons segment segments ih =>
    cases segment with
    | literal text =>
      rw [firstFault?]
      cases hmarker : markerAt? text.toList with
      | none => simp [ih, hmarker]
      | some index =>
        have hnone : ¬markerAt? text.toList = none := by simp [hmarker]
        simp [hnone]
    | placeholder name =>
      rw [firstFault?]
      by_cases hassigned : namer.isAssigned name = true
      · simp [ih, hassigned]
      · simp [hassigned]

theorem build_eq_ok_iff {builder : Builder} {message : Message} :
    builder.build = .ok message ↔
      ((∀ text, .literal text ∈ builder.template.segments → markerAt? text.toList = none) ∧
        ∀ name, .placeholder name ∈ builder.template.segments →
          builder.namer.isAssigned name = true) ∧
      message = {
        id := builder.id
        description := builder.description
        arguments := builder.arguments
        template := builder.template } := by
  rw [build, ← firstFault?_eq_none_iff 0]
  cases firstFault? builder.namer 0 builder.template.segments with
  | none => simp [eq_comm]
  | some fault => simp

end Builder

namespace Draft.WellFormed

variable {draft : Draft}

theorem normal_iff (h : draft.WellFormed) :
    draft.builder.template.Normal ↔
      ∀ text, .literal text ∈ draft.builder.template.segments → markerAt? text.toList = none :=
  h.tidy.reverse.normal_iff

/-- Building checks that the template is normal and needs returned names only. -/
theorem build_eq_ok_iff (h : draft.WellFormed) {message : Message} :
    draft.builder.build = .ok message ↔
      (draft.builder.template.Normal ∧
        ∀ name, .placeholder name ∈ draft.builder.template.segments → name ∈ draft.returned) ∧
      message = {
        id := draft.builder.id
        description := draft.builder.description
        arguments := draft.returned
        template := draft.builder.template } := by
  rw [Builder.build_eq_ok_iff, h.normal_iff, h.arguments_eq]
  simp only [h.isAssigned_iff]

theorem build_isOk_iff (h : draft.WellFormed) :
    (∃ message, draft.builder.build = .ok message) ↔
      Template.parse draft.builder.template.source = .ok draft.builder.template ∧
        ∀ name, .placeholder name ∈ draft.builder.template.segments → name ∈ draft.returned := by
  constructor
  · rintro ⟨message, hbuild⟩
    obtain ⟨⟨hnormal, hdeclared⟩, -⟩ := h.build_eq_ok_iff.1 hbuild
    exact ⟨Template.parse_source hnormal, hdeclared⟩
  · rintro ⟨hparse, hdeclared⟩
    exact ⟨_, h.build_eq_ok_iff.2 ⟨⟨(Template.normal_of_parse hparse).1, hdeclared⟩, rfl⟩⟩

theorem message (h : draft.WellFormed) {message : Message}
    (hbuild : draft.builder.build = .ok message) : message.WellFormed := by
  obtain ⟨⟨hnormal, hdeclared⟩, rfl⟩ := h.build_eq_ok_iff.1 hbuild
  exact ⟨h.nodup, hnormal, hdeclared⟩

end Draft.WellFormed

/-- In every run, whatever order its operations have and wherever its slots come from, building succeeds for a builder exactly if the written form of its segments is read back as these segments and every placeholder among them is a name that its own declarations returned. So every message that is built is read back from its source, and its source translates it to itself. -/
theorem Workbench.build_isOk_iff_reads_back (steps : List Step) (draft : Draft)
    (h : draft ∈ (run steps).drafts) :
    ((∃ message, draft.builder.build = .ok message) ↔
      Template.parse draft.builder.template.source = .ok draft.builder.template ∧
        ∀ name, .placeholder name ∈ draft.builder.template.segments → name ∈ draft.returned) ∧
    ∀ message, draft.builder.build = .ok message →
      message.template = draft.builder.template ∧
        Template.parse message.template.source = .ok message.template ∧
        message.translate message.template.source = .ok message := by
  have hdraft := (wellFormed_run steps).drafts draft h
  refine ⟨hdraft.build_isOk_iff, fun message hbuild => ?_⟩
  have hmessage := hdraft.message hbuild
  obtain ⟨-, heq⟩ := hdraft.build_eq_ok_iff.1 hbuild
  exact ⟨by rw [heq], hmessage.parse_source, hmessage.translate_source⟩

/-- A run with a slot given to a stranger, and with a clone that goes on with the slot of the builder it was cloned from. The clone's literals come close to markers at both sides of the placeholder. -/
def Workbench.cloning : List Step :=
  [.new "greeting", .declare 0 "_who", .new "farewell", .declare 1 "whom", .clone 0,
    .placeholder 0 1, .text 2 "", .text 2 "\x7b", .placeholder 2 0, .text 2 "$"]

theorem Workbench.cloning_reads_back :
    ∃ draft ∈ (run cloning).drafts, ∃ message,
      draft.builder.build = .ok message ∧ message.template.source = "\x7b\x7b$who\x7d$" ∧
        Template.parse "\x7b\x7b$who\x7d$" = .ok message.template ∧
        message.translate "\x7b\x7b$who\x7d$" = .ok message := by
  have hclone : 2 < (run cloning).drafts.length := by decide
  have hmem := List.getElem_mem hclone
  have hbuild : (run cloning).drafts[2].builder.build =
      .ok ⟨"greeting", none, ["who"], ⟨[.literal "\x7b", .placeholder "who", .literal "$"]⟩⟩ := rfl
  have hread := (build_isOk_iff_reads_back cloning _ hmem).2 _ hbuild
  exact ⟨_, hmem, _, hbuild, by decide, hread.2⟩

end Phrasebook
