import Phrasebook.Proofs.Dictionary
import Phrasebook.Proofs.Message.Building

/-!
# Values by position

Values reach a message by position and the template by name. Nothing is lost on the way: the declared names of a message that was built, and of every translation of it, are distinct and cover its placeholders, so each placeholder shows the value at the position of its name.
-/

namespace Phrasebook

/-! ### Messages that can come about -/

/-- Messages that a builder of some run built, and their translations. -/
inductive Message.Reachable : Message → Prop
  | build {steps : List Workbench.Step} {draft : Draft} {message : Message}
      (hdraft : draft ∈ (Workbench.run steps).drafts)
      (hbuild : draft.builder.build = .ok message) : Reachable message
  | translate {message translated : Message} {source : String} (h : Reachable message)
      (htranslate : message.translate source = .ok translated) : Reachable translated

theorem Message.Reachable.wellFormed {message : Message} (h : message.Reachable) :
    message.WellFormed := by
  induction h with
  | build hdraft hbuild => exact ((Workbench.wellFormed_run _).drafts _ hdraft).message hbuild
  | translate _ htranslate ih => exact ih.translate htranslate

/-! ### Segments filled by position -/

/-- What a segment shows when each of `names` stands for the value at its position: a literal its text through the mode, a placeholder the value where its name is declared. -/
inductive Segment.Filled (names values : List String) (mode : EscapeMode) : Segment → String → Prop
  | literal (text : String) : Filled names values mode (.literal text) (mode.apply text)
  | placeholder {i : Nat} {name value : String} (hname : names[i]? = some name)
      (hvalue : values[i]? = some value) : Filled names values mode (.placeholder name) value

section

variable {names values : List String}

theorem Segment.exists_filled (mode : EscapeMode) (hlength : values.length = names.length)
    (segment : Segment) (hdeclared : ∀ name, segment = .placeholder name → name ∈ names) :
    ∃ text, segment.Filled names values mode text := by
  cases segment with
  | literal text => exact ⟨_, .literal text⟩
  | placeholder name =>
    obtain ⟨i, hi⟩ := List.mem_iff_getElem?.1 (hdeclared name rfl)
    have hlt : i < values.length := by
      have := (List.getElem?_eq_some_iff.1 hi).1
      omega
    exact ⟨values[i], .placeholder hi (List.getElem?_eq_getElem hlt)⟩

theorem Segment.exists_forall₂_filled (mode : EscapeMode)
    (hlength : values.length = names.length) (segments : List Segment)
    (hdeclared : ∀ name, .placeholder name ∈ segments → name ∈ names) :
    ∃ texts, List.Forall₂ (Segment.Filled names values mode) segments texts := by
  induction segments with
  | nil => exact ⟨[], .nil⟩
  | cons segment segments ih =>
    obtain ⟨texts, htexts⟩ := ih fun name hname => hdeclared name (List.mem_cons_of_mem _ hname)
    obtain ⟨text, htext⟩ := segment.exists_filled mode hlength
      fun name heq => hdeclared name (heq ▸ List.mem_cons_self)
    exact ⟨text :: texts, .cons htext htexts⟩

theorem Segment.Filled.render_zip (hnodup : names.Nodup) (hlength : values.length = names.length)
    {mode : EscapeMode} {segment : Segment} {text : String}
    (h : segment.Filled names values mode text) :
    segment.render (Arguments.zip names values) mode = .ok text := by
  cases h with
  | literal text => rfl
  | placeholder hname hvalue =>
    rw [Segment.render, Arguments.get?_zip hnodup hlength hname hvalue]

end

/-! ### Binding and formatting -/

namespace Message

variable {message : Message} {values : List String} {mode : EscapeMode}

theorem bind_of_length_ne (h : values.length ≠ message.arguments.length) :
    message.bind values =
      .error (.argumentCount message.arguments.length values.length) := by
  rw [bind, if_neg h]

theorem bind_of_length_eq (h : values.length = message.arguments.length) :
    message.bind values = .ok (Arguments.zip message.arguments values) := by
  rw [bind, if_pos h]

theorem WellFormed.exists_render_zip (h : message.WellFormed)
    (hlength : values.length = message.arguments.length) (mode : EscapeMode) :
    ∃ texts, List.Forall₂ (Segment.Filled message.arguments values mode)
        message.template.segments texts ∧
      message.template.render (Arguments.zip message.arguments values) mode =
        .ok (String.join texts) := by
  obtain ⟨texts, htexts⟩ :=
    Segment.exists_forall₂_filled mode hlength message.template.segments h.declared
  refine ⟨texts, htexts, Template.render_eq_ok_iff.2 ⟨texts, ?_, rfl⟩⟩
  exact htexts.imp fun _ _ hfilled => hfilled.render_zip h.nodup hlength

theorem WellFormed.format_source (h : message.WellFormed) (arguments : Arguments)
    (mode : EscapeMode) :
    Phrasebook.format message.template.source arguments mode =
      message.template.render arguments mode := by
  rw [Phrasebook.format, h.parse_source]
  rfl

/-- A message that was built, or a translation of one, declares distinct arguments. It takes exactly as many values as these are, and says so otherwise. Given that many, binding binds the name at each position to the value there and nothing else, and formatting succeeds: the literals go through the mode, each placeholder shows the value at the position of its name, and formatting the source with the bound arguments gives the same text. -/
theorem format_by_position (message : Message) (h : message.Reachable) (values : List String)
    (mode : EscapeMode) :
    message.arguments.Nodup ∧
    (values.length ≠ message.arguments.length →
      message.bind values =
          .error (.argumentCount message.arguments.length values.length) ∧
        message.format values mode =
          .error (.argumentCount message.arguments.length values.length)) ∧
    (values.length = message.arguments.length →
      ∃ arguments texts,
        message.bind values = .ok arguments ∧
        arguments.size = message.arguments.length ∧
        (∀ (i : Nat) (name value : String), message.arguments[i]? = some name →
          values[i]? = some value → arguments.get? name = some value) ∧
        List.Forall₂ (Segment.Filled message.arguments values mode)
          message.template.segments texts ∧
        message.format values mode = .ok (String.join texts) ∧
        Phrasebook.format message.template.source arguments mode = .ok (String.join texts)) := by
  have hmessage := h.wellFormed
  refine ⟨hmessage.nodup, fun hlength => ?_, fun hlength => ?_⟩
  · have hbind := bind_of_length_ne hlength
    refine ⟨hbind, ?_⟩
    rw [format, hbind]
    rfl
  · have hbind := bind_of_length_eq hlength
    obtain ⟨texts, htexts, hrender⟩ := hmessage.exists_render_zip hlength mode
    refine ⟨_, texts, hbind, Arguments.size_zip hmessage.nodup hlength,
      fun i name value => Arguments.get?_zip hmessage.nodup hlength, htexts, ?_, ?_⟩
    · rw [format, hbind]
      exact hrender
    · rw [hmessage.format_source]
      exact hrender

/-- Two natural names that collide, declared for one message. -/
def colliding : List Workbench.Step :=
  [.new "order", .declare 0 "a-b", .declare 0 "a_b", .placeholder 0 0, .text 0 "&amp;",
    .placeholder 0 1]

theorem format_by_position_colliding :
    ∃ message : Message, message.Reachable ∧
      message.template.source = "\x7b$a_b_1\x7d&amp;\x7b$a_b\x7d" ∧
      message.format ["1"] .unescape = .error (.argumentCount 2 1) ∧
      ∃ arguments, message.bind ["\x7b$a_b_1\x7d", "2"] = .ok arguments ∧
        arguments.get? "a_b" = some "\x7b$a_b_1\x7d" ∧ arguments.get? "a_b_1" = some "2" := by
  have hdraft : 0 < (Workbench.run colliding).drafts.length := by decide
  have hbuild : (Workbench.run colliding).drafts[0].builder.build = .ok ⟨"order", none,
      ["a_b", "a_b_1"], ⟨[.placeholder "a_b", .literal "&amp;", .placeholder "a_b_1"]⟩⟩ := rfl
  have hbuilt := Reachable.build (List.getElem_mem hdraft) hbuild
  have hreachable := hbuilt.translate (translate_eq_ok_iff.2
    ⟨⟨[.placeholder "a_b_1", .literal "&amp;", .placeholder "a_b"]⟩,
      Template.parse_source (by decide), by simp, rfl⟩)
  refine ⟨_, hreachable, by decide, ?_, ?_⟩
  · exact ((format_by_position _ hreachable ["1"] .unescape).2.1 (by decide)).2
  · obtain ⟨arguments, -, hbind, -, hget, -⟩ :=
      (format_by_position _ hreachable ["\x7b$a_b_1\x7d", "2"] .unescape).2.2 rfl
    exact ⟨arguments, hbind, hget 0 _ _ rfl rfl, hget 1 _ _ rfl rfl⟩

end Message

end Phrasebook
