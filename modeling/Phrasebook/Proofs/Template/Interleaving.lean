import Phrasebook.Proofs.Entity.Decoding
import Phrasebook.Proofs.Template.Rendering
import Phrasebook.Proofs.Template.RoundTrip

/-!
# What values can change

Formatting puts values between fixed texts. The gaps of a template are the literal texts before, between and behind its placeholders. They are cut out of the source before anything is decoded, each goes through the escape mode on its own, and the values stand between them as they are. So no value is read as a placeholder or a reference, alone or together with the text next to it, and two runs on one source differ at most where their values stand.
-/

namespace Phrasebook

/-! ### Texts with values between them -/

/-- Puts one value between any two neighbouring texts. -/
def interleave : List String → List String → String
  | text :: texts, value :: values => text ++ value ++ interleave texts values
  | texts, _ => String.join texts

theorem interleave_cons (text : String) (texts values : List String) :
    interleave (text :: texts) values = text ++ interleave ("" :: texts) values := by
  cases values with
  | nil => simp [interleave]
  | cons value values => simp [interleave, String.append_assoc]

/-! ### Names and gaps -/

namespace Segment

/-- The literal texts before, between and behind the placeholders, empty where there is none. -/
def gaps : List Segment → List String
  | [] => [""]
  | literal text :: rest => (text ++ (gaps rest).headD "") :: (gaps rest).tail
  | placeholder _ :: rest => "" :: gaps rest

theorem length_gaps (segments : List Segment) :
    (gaps segments).length = (names segments).length + 1 := by
  induction segments with
  | nil => rfl
  | cons segment rest ih => cases segment <;> simp [gaps, ih]

theorem gaps_literal {text : String} {rest : List Segment}
    (h : ∀ next ∈ rest.head?, (literal text).Separate next) :
    gaps rest = "" :: (gaps rest).tail ∧ gaps (literal text :: rest) = text :: (gaps rest).tail := by
  match rest with
  | [] => simp [gaps]
  | placeholder name :: tail => simp [gaps]
  | literal other :: tail => exact absurd ⟨rfl, rfl⟩ (h _ rfl)

theorem literal_mem_of_mem_gaps {segments : List Segment} (h : segments.IsChain Separate)
    {text : String} (htext : text ∈ gaps segments) (hempty : text ≠ "") :
    literal text ∈ segments := by
  induction segments with
  | nil => exact absurd (List.mem_singleton.1 htext) hempty
  | cons segment rest ih =>
    obtain ⟨hnext, hrest⟩ := List.isChain_cons.1 h
    cases segment with
    | placeholder name =>
      rcases List.mem_cons.1 htext with hfront | hmem
      · exact absurd hfront hempty
      · exact List.mem_cons_of_mem _ (ih hrest hmem)
    | literal other =>
      rw [(gaps_literal hnext).2] at htext
      rcases List.mem_cons.1 htext with rfl | hmem
      · exact List.mem_cons_self
      · exact List.mem_cons_of_mem _ (ih hrest (List.mem_of_mem_tail hmem))

/-- A segment as text, given what becomes of literal texts and of names. -/
def spell (onText onName : String → String) : Segment → String
  | literal text => onText text
  | placeholder name => onName name

theorem join_map_spell {segments : List Segment} (h : segments.IsChain Separate)
    (onText onName : String → String) (hempty : onText "" = "") :
    String.join (segments.map (spell onText onName)) =
      interleave ((gaps segments).map onText) ((names segments).map onName) := by
  induction segments with
  | nil => simp [gaps, names, interleave, hempty]
  | cons segment rest ih =>
    obtain ⟨hnext, hrest⟩ := List.isChain_cons.1 h
    rw [List.map_cons, String.join_cons, ih hrest]
    cases segment with
    | placeholder name => simp [spell, gaps, interleave, hempty]
    | literal text =>
      obtain ⟨hfront, hgaps⟩ := gaps_literal hnext
      rw [hgaps, hfront, names_literal, List.map_cons, List.map_cons, hempty, spell,
        interleave_cons (onText text), List.tail_cons]

/-- The written form of a placeholder. -/
def mark (name : String) : String := .ofList (placeholder name).chars

end Segment

theorem EscapeMode.apply_empty (mode : EscapeMode) : mode.apply "" = "" := by
  cases mode with
  | preserve => rfl
  | unescape => exact (Entity.decode_eq "").trans (congrArg String.ofList Entity.decodeChars_nil)

namespace Template

theorem source_eq_join (template : Template) :
    template.source = String.join (template.segments.map (Segment.spell id Segment.mark)) := by
  rw [source, sourceChars, List.flatMap_def]
  apply String.toList_injective
  have hchars : Segment.chars = String.toList ∘ Segment.spell id Segment.mark := by
    funext segment
    cases segment <;> simp [Segment.spell, Segment.mark, Segment.chars]
  rw [String.toList_ofList, String.toList_join, List.flatMap_def, List.map_map, hchars]

theorem source_eq_interleave {template : Template}
    (h : template.segments.IsChain Segment.Separate) :
    template.source = interleave (Segment.gaps template.segments)
      ((Segment.names template.segments).map Segment.mark) := by
  rw [source_eq_join, Segment.join_map_spell h id Segment.mark rfl, List.map_id]

/-! ### Rendering and formatting -/

theorem eq_map_getD_of_map_eq {bound : String → Option String} {names values : List String}
    (h : names.map bound = values.map some) :
    (∀ name ∈ names, bound name = some ((bound name).getD "")) ∧
      names.map (fun name => (bound name).getD "") = values := by
  induction names generalizing values with
  | nil => simpa using h.symm
  | cons name names ih =>
    cases values with
    | nil => simp at h
    | cons value values =>
      rw [List.map_cons, List.map_cons] at h
      obtain ⟨hname, hrest⟩ := List.cons.inj h
      obtain ⟨hbound, hvalues⟩ := ih hrest
      refine ⟨fun other hother => ?_, ?_⟩
      · rcases List.mem_cons.1 hother with rfl | hmem
        · rw [hname, Option.getD_some]
        · exact hbound other hmem
      · rw [List.map_cons, hname, hvalues, Option.getD_some]

theorem render_of_bound {template : Template} {arguments : Arguments} {value : String → String}
    (h : ∀ name ∈ template.placeholders, arguments.get? name = some (value name))
    (mode : EscapeMode) :
    template.render arguments mode =
      .ok (String.join (template.segments.map (Segment.spell mode.apply value))) := by
  refine render_eq_ok_iff.2 ⟨_, List.forall₂_map_right_iff.2 (List.forall₂_same.2 ?_), rfl⟩
  intro segment hsegment
  cases segment with
  | literal text => rfl
  | placeholder name => rw [Segment.render, h name (mem_placeholders.2 hsegment), Segment.spell]

theorem render_congr {template : Template} {left right : Arguments}
    (h : ∀ name ∈ template.placeholders, left.get? name = right.get? name)
    (mode : EscapeMode) : template.render left mode = template.render right mode := by
  have hsegments : template.segments.mapM (Segment.render left mode) =
      template.segments.mapM (Segment.render right mode) := by
    refine mapM_congr fun segment hsegment => ?_
    cases segment with
    | literal text => rfl
    | placeholder name =>
      rw [Segment.render, Segment.render, h name (mem_placeholders.2 hsegment)]
  rw [render, render, hsegments]

/-- A source that can be read consists of gaps with marked names between them, one gap more than there are names, and each gap is empty or a literal of the template. In every mode, and for all arguments that bind the names, formatting gives these same gaps, each through the mode on its own, with the values between them as they are. What is bound to other names has no effect on any outcome. -/
theorem format_eq_interleave (source : String) (template : Template)
    (h : parse source = .ok template) :
    (Segment.gaps template.segments).length = (Segment.names template.segments).length + 1 ∧
    (∀ text ∈ Segment.gaps template.segments, text ≠ "" → .literal text ∈ template.segments) ∧
    source = interleave (Segment.gaps template.segments)
      ((Segment.names template.segments).map Segment.mark) ∧
    (∀ (mode : EscapeMode) (arguments : Arguments) (values : List String),
      (Segment.names template.segments).map arguments.get? = values.map some →
        format source arguments mode =
          .ok (interleave ((Segment.gaps template.segments).map mode.apply) values)) ∧
    (∀ (mode : EscapeMode) (left right : Arguments),
      (∀ name ∈ Segment.names template.segments, left.get? name = right.get? name) →
        format source left mode = format source right mode) := by
  obtain ⟨hnormal, hsource⟩ := normal_of_parse h
  have hseparate := (normal_iff.1 hnormal).2.2
  have hformat (arguments : Arguments) (mode : EscapeMode) :
      format source arguments mode = template.render arguments mode := by
    rw [format, h]
    rfl
  have hnames {name : String} :
      name ∈ template.placeholders ↔ name ∈ Segment.names template.segments :=
    mem_placeholders.trans Segment.mem_names.symm
  refine ⟨Segment.length_gaps _, fun _ => Segment.literal_mem_of_mem_gaps hseparate,
    hsource.symm.trans (source_eq_interleave hseparate), ?_, ?_⟩
  · intro mode arguments values hvalues
    obtain ⟨hbound, hvalue⟩ := eq_map_getD_of_map_eq hvalues
    have hplaceholder : ∀ name ∈ template.placeholders,
        arguments.get? name = some ((arguments.get? name).getD "") :=
      fun name hname => hbound name (hnames.1 hname)
    rw [hformat, render_of_bound hplaceholder,
      Segment.join_map_spell hseparate _ _ mode.apply_empty, hvalue]
  · intro mode left right hagree
    rw [hformat, hformat]
    exact render_congr (fun name hname => hagree name (hnames.1 hname)) mode

theorem format_eq_interleave_decoding :
    format "&#123;$x\x7d\x7b$a\x7damp;" (Dictionary.ofList [("a", "\x7b$x\x7d&"), ("x", "unused")])
      .unescape = .ok "\x7b$x\x7d\x7b$x\x7d&amp;" := by
  have hparse : parse "&#123;$x\x7d\x7b$a\x7damp;" =
      .ok ⟨[.literal "&#123;$x\x7d", .placeholder "a", .literal "amp;"]⟩ :=
    @parse_source ⟨[.literal "&#123;$x\x7d", .placeholder "a", .literal "amp;"]⟩ (by decide)
  obtain ⟨-, -, -, hformat, -⟩ := format_eq_interleave _ _ hparse
  rw [hformat .unescape _ ["\x7b$x\x7d&"] (by decide)]
  decide +kernel

/-! ### Templates made of gaps and names -/

/-- The segments of a template with these gaps and names, of which there is one gap more. -/
def weave : List String → List String → List Segment
  | gap :: gaps, name :: names =>
    consLiteral gap.toList.reverse (.placeholder name :: weave gaps names)
  | gap :: _, [] => consLiteral gap.toList.reverse []
  | [], _ => []

theorem gaps_consLiteral (gap : String) {segments : List Segment} {rest : List String}
    (h : Segment.gaps segments = "" :: rest) :
    Segment.gaps (consLiteral gap.toList.reverse segments) = gap :: rest := by
  by_cases hgap : gap = ""
  · simpa [hgap] using h
  · have hne : gap.toList.reverse ≠ [] := by simpa using hgap
    rw [consLiteral_of_ne_nil hne, List.reverse_reverse, String.ofList_toList, Segment.gaps, h]
    simp

theorem names_consLiteral (literal : List Char) (segments : List Segment) :
    Segment.names (consLiteral literal segments) = Segment.names segments := by
  unfold consLiteral
  split <;> simp

section

variable {gaps names : List String} (hlength : gaps.length = names.length + 1)

include hlength

theorem gaps_weave : Segment.gaps (weave gaps names) = gaps := by
  induction names generalizing gaps with
  | nil =>
    obtain ⟨gap, rfl⟩ := List.length_eq_one_iff.1 hlength
    exact gaps_consLiteral gap rfl
  | cons name names ih =>
    obtain ⟨gap, rest, rfl⟩ := List.exists_cons_of_length_eq_add_one hlength
    have hrest : rest.length = names.length + 1 := by simpa using hlength
    exact gaps_consLiteral gap (congrArg ("" :: ·) (ih hrest))

theorem names_weave : Segment.names (weave gaps names) = names := by
  induction names generalizing gaps with
  | nil =>
    obtain ⟨gap, rfl⟩ := List.length_eq_one_iff.1 hlength
    exact names_consLiteral _ []
  | cons name names ih =>
    obtain ⟨gap, rest, rfl⟩ := List.exists_cons_of_length_eq_add_one hlength
    have hrest : rest.length = names.length + 1 := by simpa using hlength
    rw [weave, names_consLiteral, Segment.names_placeholder, ih hrest]

theorem normal_weave (hgaps : ∀ gap ∈ gaps, ¬['{', '$'] <:+: gap.toList)
    (hnames : ∀ name ∈ names, Name.isValid name.toList = true) : Normal ⟨weave gaps names⟩ := by
  induction names generalizing gaps with
  | nil =>
    obtain ⟨gap, rfl⟩ := List.length_eq_one_iff.1 hlength
    have hmarker := markerAt?_eq_none_iff.2 (hgaps gap List.mem_cons_self)
    exact normal_consLiteral (by simpa using hmarker) (by simp) normal_nil
  | cons name names ih =>
    obtain ⟨gap, rest, rfl⟩ := List.exists_cons_of_length_eq_add_one hlength
    have hlength' : rest.length = names.length + 1 := by simpa using hlength
    obtain ⟨hgap, hrest⟩ := List.forall_mem_cons.1 hgaps
    obtain ⟨hname, hnames'⟩ := List.forall_mem_cons.1 hnames
    have hmarker := markerAt?_eq_none_iff.2 hgap
    refine normal_consLiteral (by simpa using hmarker) (by simp [Segment.isLiteral]) ?_
    exact normal_cons.2 ⟨hname, by simp [Segment.Separate, Segment.isLiteral],
      ih hlength' hrest hnames'⟩

/-- Gaps without a marker and marked names between them are read as just that. -/
theorem parse_interleave (hgaps : ∀ gap ∈ gaps, ¬['{', '$'] <:+: gap.toList)
    (hnames : ∀ name ∈ names, Name.isValid name.toList = true) :
    parse (interleave gaps (names.map Segment.mark)) = .ok ⟨weave gaps names⟩ := by
  have hnormal := normal_weave hlength hgaps hnames
  have hsource := source_eq_interleave (normal_iff.1 hnormal).2.2
  rw [gaps_weave hlength, names_weave hlength] at hsource
  rw [← hsource]
  exact parse_source hnormal

/-- Values are put in the places of their names, and each gap goes through the mode on its own. -/
theorem format_interleave (hgaps : ∀ gap ∈ gaps, ¬['{', '$'] <:+: gap.toList)
    (hnames : ∀ name ∈ names, Name.isValid name.toList = true) {arguments : Arguments}
    {values : List String} (hvalues : names.map arguments.get? = values.map some)
    (mode : EscapeMode) :
    format (interleave gaps (names.map Segment.mark)) arguments mode =
      .ok (interleave (gaps.map mode.apply) values) := by
  have hseparate := (normal_iff.1 (normal_weave hlength hgaps hnames)).2.2
  obtain ⟨hbound, hvalue⟩ := eq_map_getD_of_map_eq hvalues
  have hplaceholder : ∀ name ∈ placeholders ⟨weave gaps names⟩,
      arguments.get? name = some ((arguments.get? name).getD "") := by
    intro name hname
    refine hbound name ?_
    rw [← names_weave hlength]
    exact Segment.mem_names.2 (mem_placeholders.1 hname)
  rw [format, parse_interleave hlength hgaps hnames]
  refine (render_of_bound hplaceholder mode).trans ?_
  rw [Segment.join_map_spell hseparate _ _ mode.apply_empty, gaps_weave hlength,
    names_weave hlength, hvalue]

end

end Template

end Phrasebook
