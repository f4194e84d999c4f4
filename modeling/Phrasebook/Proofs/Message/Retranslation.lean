import Phrasebook.Proofs.Message.Positional
import Phrasebook.Proofs.Template.Unbound

/-!
# Translating again

A translation is judged by its source and the declared arguments, never by the template it replaces. So a chain of translations comes to what its last one gives, and since the source of a message can be read back, translating to it undoes the chain.
-/

namespace Phrasebook.Message

variable {message : Message} {source : String}

/-! ### When a translation is refused -/

theorem translate_of_parse_error {error : FormatError} (h : Template.parse source = .error error) :
    message.translate source = .error error :=
  bind_eq_error_iff.2 (.inl h)

theorem translate_eq_error_iff {template : Template} (h : Template.parse source = .ok template)
    {error : FormatError} :
    message.translate source = .error error ↔
      ∃ name, template.FirstUnknown (· ∈ message.arguments) name ∧ error = .unbound name := by
  have hknown : (fun other => message.arguments.contains other = true) =
      (· ∈ message.arguments) :=
    funext fun other => propext List.contains_iff_mem
  have hfirst (name : String) : template.FirstUnknown (· ∈ message.arguments) name ↔
      template.placeholders.find? (fun other => !message.arguments.contains other) = some name := by
    rw [Template.find?_placeholders_eq_some_iff, hknown]
  simp only [hfirst]
  rw [translate, bind_eq_error_iff, h]
  constructor
  · rintro (hparse | ⟨read, hread, hrefused⟩)
    · cases hparse
    · obtain rfl := Except.ok.inj hread
      split at hrefused
      · next name hname => exact ⟨name, hname, (Except.error.inj hrefused).symm⟩
      · cases hrefused
  · rintro ⟨name, hname, rfl⟩
    refine .inr ⟨template, rfl, ?_⟩
    rw [hname]

/-! ### What a translation keeps and forgets -/

/-- Only the id, the description and the arguments count for the next translation. -/
theorem translate_translate {translated : Message} (h : message.translate source = .ok translated)
    (other : String) : translated.translate other = message.translate other := by
  obtain ⟨template, -, -, rfl⟩ := translate_eq_ok_iff.1 h
  rfl

theorem translate_of_foldlM {sources : List String} {translated : Message}
    (h : sources.foldlM translate message = .ok translated) (other : String) :
    translated.translate other = message.translate other := by
  induction sources generalizing message with
  | nil =>
    obtain rfl := Except.ok.inj h
    rfl
  | cons source sources ih =>
    rw [List.foldlM_cons, bind_eq_ok_iff] at h
    obtain ⟨next, hnext, hrest⟩ := h
    rw [ih hrest, translate_translate hnext]

/-- A message that was built, or a translation of one, can be translated to a source exactly if the source can be read and each of its placeholders is declared. What is wrong with the source is reported first, then the first placeholder that is not declared. A translation keeps everything but the template, which is that of the source. It can be translated further as the message itself can, to any other source with the same outcome and to the source of the message back to the message, and so can a translation of a translation. -/
theorem translate_outcome (message : Message) (h : message.Reachable) (source : String) :
    ((∃ translated, message.translate source = .ok translated) ↔
      ∃ template, Template.parse source = .ok template ∧
        ∀ name, .placeholder name ∈ template.segments → name ∈ message.arguments) ∧
    (∀ error, Template.parse source = .error error → message.translate source = .error error) ∧
    (∀ template, Template.parse source = .ok template →
      ∀ error, message.translate source = .error error ↔
        ∃ name, template.FirstUnknown (· ∈ message.arguments) name ∧ error = .unbound name) ∧
    (∀ translated, message.translate source = .ok translated →
      translated.id = message.id ∧ translated.description = message.description ∧
      translated.arguments = message.arguments ∧ translated.template.source = source ∧
      (∀ other, translated.translate other = message.translate other) ∧
      translated.translate message.template.source = .ok message) ∧
    (∀ (sources : List String) (translated : Message),
      sources.foldlM translate message = .ok translated →
        (∀ other, translated.translate other = message.translate other) ∧
        translated.translate message.template.source = .ok message) := by
  have hsource := h.wellFormed.translate_source
  refine ⟨?_, fun error => translate_of_parse_error, fun template hparse error =>
    translate_eq_error_iff hparse, fun translated htranslate => ?_,
    fun sources translated hchain => ?_⟩
  · constructor
    · rintro ⟨translated, htranslate⟩
      obtain ⟨template, hparse, hdeclared, -⟩ := translate_eq_ok_iff.1 htranslate
      exact ⟨template, hparse, hdeclared⟩
    · rintro ⟨template, hparse, hdeclared⟩
      exact ⟨_, translate_eq_ok_iff.2 ⟨template, hparse, hdeclared, rfl⟩⟩
  · have hagain := translate_translate htranslate
    have hback := (hagain message.template.source).trans hsource
    obtain ⟨template, hparse, -, rfl⟩ := translate_eq_ok_iff.1 htranslate
    exact ⟨rfl, rfl, rfl, (Template.normal_of_parse hparse).2, hagain, hback⟩
  · have hagain := translate_of_foldlM hchain
    exact ⟨hagain, (hagain message.template.source).trans hsource⟩

/-- A message with two arguments. -/
def pairing : List Workbench.Step :=
  [.new "pair", .declare 0 "a", .declare 0 "b", .placeholder 0 0, .text 0 " and ", .placeholder 0 1]

theorem translate_outcome_dropping :
    ∃ message first second : Message, message.Reachable ∧
      message.template.source = "\x7b$a\x7d and \x7b$b\x7d" ∧
      message.translate "\x7b$b\x7d\x7b$b\x7d" = .ok first ∧
      first.translate "\x7b$a\x7d" = .ok second ∧
      second.translate "\x7b$a\x7d and \x7b$b\x7d" = .ok message ∧
      first.translate "\x7b$a\x7d\x7b$d\x7d\x7b$c\x7d" = .error (.unbound "d") := by
  have hdraft : 0 < (Workbench.run pairing).drafts.length := by decide
  have hbuild : (Workbench.run pairing).drafts[0].builder.build = .ok ⟨"pair", none,
      ["a", "b"], ⟨[.placeholder "a", .literal " and ", .placeholder "b"]⟩⟩ := rfl
  have hreachable := Reachable.build (List.getElem_mem hdraft) hbuild
  have hdropped : Template.parse "\x7b$b\x7d\x7b$b\x7d" =
      .ok ⟨[.placeholder "b", .placeholder "b"]⟩ :=
    @Template.parse_source ⟨[.placeholder "b", .placeholder "b"]⟩ (by decide)
  have hother : Template.parse "\x7b$a\x7d" = .ok ⟨[.placeholder "a"]⟩ :=
    @Template.parse_source ⟨[.placeholder "a"]⟩ (by decide)
  have hstrange : Template.parse "\x7b$a\x7d\x7b$d\x7d\x7b$c\x7d" =
      .ok ⟨[.placeholder "a", .placeholder "d", .placeholder "c"]⟩ :=
    @Template.parse_source ⟨[.placeholder "a", .placeholder "d", .placeholder "c"]⟩ (by decide)
  obtain ⟨⟨-, haccepted⟩, -, -, hkept, hchain⟩ :=
    translate_outcome _ hreachable "\x7b$b\x7d\x7b$b\x7d"
  obtain ⟨first, hfirst⟩ := haccepted ⟨_, hdropped, by simp⟩
  obtain ⟨-, -, -, -, hagain, -⟩ := hkept first hfirst
  obtain ⟨⟨-, haccepted'⟩, -, -, -⟩ := translate_outcome _ hreachable "\x7b$a\x7d"
  obtain ⟨second, hsecond⟩ := haccepted' ⟨_, hother, by simp⟩
  obtain ⟨-, -, hrefused, -⟩ :=
    translate_outcome _ hreachable "\x7b$a\x7d\x7b$d\x7d\x7b$c\x7d"
  have hnext := (hagain "\x7b$a\x7d").trans hsecond
  have hboth : ["\x7b$b\x7d\x7b$b\x7d", "\x7b$a\x7d"].foldlM translate
      ⟨"pair", none, ["a", "b"], ⟨[.placeholder "a", .literal " and ", .placeholder "b"]⟩⟩ =
        .ok second :=
    bind_eq_ok_iff.2 ⟨first, hfirst, bind_eq_ok_iff.2 ⟨second, hnext, rfl⟩⟩
  refine ⟨_, first, second, hreachable, by decide, hfirst, hnext, (hchain _ _ hboth).2, ?_⟩
  rw [hagain]
  exact (hrefused _ hstrange _).2
    ⟨"d", ⟨[.placeholder "a"], [.placeholder "c"], rfl, by decide, by simp⟩, rfl⟩

end Phrasebook.Message
