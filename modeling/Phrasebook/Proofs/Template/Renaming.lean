import Phrasebook.Proofs.Template.Interleaving
import Phrasebook.Proofs.Template.Unbound

/-!
# Values that are placeholders again

A value is put into the output as it is, so it may be a placeholder for a later stage. In the mode that keeps references the output is then the written form of the template with its names replaced: every placeholder makes way for one, and no literal changes. Rendering that template is rendering the first one with each name standing for what its new name is bound to, also where names fall together.
-/

namespace Phrasebook

/-- The segment with another name in its place. -/
def Segment.rename (ρ : String → String) : Segment → Segment
  | literal text => literal text
  | placeholder name => placeholder (ρ name)

/-- The template with other names in the places of its own. -/
def Template.rename (ρ : String → String) (template : Template) : Template :=
  ⟨template.segments.map (Segment.rename ρ)⟩

/-- The failure that is reported when names are replaced. -/
def FormatError.rename (ρ : String → String) : FormatError → FormatError
  | unbound name => unbound (ρ name)
  | malformed position fault => malformed position fault
  | argumentCount expected actual => argumentCount expected actual

theorem Segment.render_rename {segment : Segment} {ρ : String → String}
    {arguments bound : Arguments}
    (hbound : ∀ name, segment = .placeholder name → bound.get? name = arguments.get? (ρ name))
    (mode : EscapeMode) :
    (segment.rename ρ).render arguments mode =
      (segment.render bound mode).mapError (FormatError.rename ρ) := by
  cases segment with
  | literal text => rfl
  | placeholder name =>
    rw [Segment.rename, Segment.render, Segment.render, ← hbound name rfl]
    cases bound.get? name <;> rfl

namespace Template

variable {template : Template} {ρ : String → String}

/-! ### The template of the second stage -/

theorem normal_rename (h : template.Normal)
    (hvalid : ∀ name ∈ template.placeholders, Name.isValid (ρ name).toList = true) :
    (template.rename ρ).Normal := by
  obtain ⟨segments⟩ := template
  obtain ⟨hliteral, -, hseparate⟩ := normal_iff.1 h
  refine normal_iff.2 ⟨fun text htext => ?_, fun name hname => ?_, ?_⟩
  · obtain ⟨segment, hsegment, heq⟩ := List.mem_map.1 htext
    cases segment with
    | literal other =>
      obtain rfl := Segment.literal.inj heq
      exact hliteral _ hsegment
    | placeholder name => cases heq
  · obtain ⟨segment, hsegment, heq⟩ := List.mem_map.1 hname
    cases segment with
    | literal text => cases heq
    | placeholder other =>
      obtain rfl := Segment.placeholder.inj heq
      exact hvalid other (mem_placeholders.2 hsegment)
  · refine (List.isChain_map _).2 (hseparate.imp fun left right hboth => ?_)
    cases left <;> cases right <;> exact hboth

/-- With a placeholder for the value of each name, rendering writes the template with these placeholders. -/
theorem render_marks {marks : Arguments}
    (hmarks : ∀ name ∈ template.placeholders, marks.get? name = some (Segment.mark (ρ name))) :
    template.render marks .preserve = .ok (template.rename ρ).source := by
  have hspell : Segment.spell EscapeMode.preserve.apply (fun name => Segment.mark (ρ name)) =
      Segment.spell id Segment.mark ∘ Segment.rename ρ := by
    funext segment
    cases segment <;> rfl
  rw [render_of_bound hmarks, source_eq_join, rename, List.map_map, hspell]

theorem rename_id (template : Template) : template.rename id = template := by
  obtain ⟨segments⟩ := template
  have hsegment : Segment.rename id = id := by
    funext segment
    cases segment <;> rfl
  rw [rename, hsegment, List.map_id]

/-! ### The second stage -/

/-- Rendering with new names is rendering with what the new names are bound to. -/
theorem render_rename {arguments bound : Arguments}
    (hbound : ∀ name, .placeholder name ∈ template.segments →
      bound.get? name = arguments.get? (ρ name)) (mode : EscapeMode) :
    (template.rename ρ).render arguments mode =
      (template.render bound mode).mapError (FormatError.rename ρ) := by
  obtain ⟨segments⟩ := template
  induction segments with
  | nil => rfl
  | cons segment segments ih =>
    obtain ⟨hname, hnames⟩ : (∀ name, segment = .placeholder name →
        bound.get? name = arguments.get? (ρ name)) ∧
        ∀ name, .placeholder name ∈ segments → bound.get? name = arguments.get? (ρ name) :=
      ⟨fun name heq => hbound name (heq ▸ List.mem_cons_self),
        fun name hmem => hbound name (List.mem_cons_of_mem _ hmem)⟩
    have hsegment := Segment.render_rename hname mode
    have hcons : rename ρ ⟨segment :: segments⟩ =
        ⟨segment.rename ρ :: (rename ρ ⟨segments⟩).segments⟩ := rfl
    rw [hcons]
    cases hrender : segment.render bound mode with
    | error error =>
      rw [hrender] at hsegment
      rw [render_cons_of_error hsegment, render_cons_of_error hrender]
      rfl
    | ok text =>
      rw [hrender] at hsegment
      rw [render_cons_of_ok hsegment, render_cons_of_ok hrender, ih hnames]
      cases render ⟨segments⟩ bound mode <;> rfl

/-! ### Sources -/

/-- A source that can be read, formatted with a placeholder for each of its names, gives a source that can be read: as the same template with the new names. Formatting that one does what formatting the first does with the values of the new names, in every mode and also where new names are the same: it gives the same texts, and it fails with the new name of what is missing. With its own placeholders for its names a source gives itself. -/
theorem format_in_stages (source : String) (template : Template)
    (h : parse source = .ok template) :
    (∀ (ρ : String → String) (marks : Arguments),
      (∀ name ∈ template.placeholders, Name.isValid (ρ name).toList = true) →
      (∀ name ∈ template.placeholders, marks.get? name = some (Segment.mark (ρ name))) →
        ∃ staged, format source marks .preserve = .ok staged ∧
          parse staged = .ok (template.rename ρ) ∧
          ∀ (arguments bound : Arguments) (mode : EscapeMode),
            (∀ name ∈ template.placeholders, bound.get? name = arguments.get? (ρ name)) →
              (∀ text, format staged arguments mode = .ok text ↔
                format source bound mode = .ok text) ∧
              (∀ error, format staged arguments mode = .error error ↔
                ∃ name, format source bound mode = .error (.unbound name) ∧
                  error = .unbound (ρ name))) ∧
    (∀ marks : Arguments,
      (∀ name ∈ template.placeholders, marks.get? name = some (Segment.mark name)) →
        format source marks .preserve = .ok source) := by
  obtain ⟨hnormal, hsource⟩ := normal_of_parse h
  constructor
  · intro ρ marks hvalid hmarks
    have hstaged := parse_source (normal_rename hnormal hvalid)
    refine ⟨(template.rename ρ).source, (format_of_parse h).trans (render_marks hmarks), hstaged, ?_⟩
    intro arguments bound mode hbound
    have hsecond : format (template.rename ρ).source arguments mode =
        (format source bound mode).mapError (FormatError.rename ρ) := by
      rw [format_of_parse hstaged, format_of_parse h]
      exact render_rename (fun name hname => hbound name (mem_placeholders.2 hname)) mode
    rw [hsecond]
    refine ⟨fun text => mapError_eq_ok_iff, fun error => mapError_eq_error_iff.trans ?_⟩
    constructor
    · rintro ⟨first, hfirst, rfl⟩
      obtain ⟨name, -, rfl⟩ := render_eq_error_iff.1 ((format_of_parse h).symm.trans hfirst)
      exact ⟨name, hfirst, rfl⟩
    · rintro ⟨name, hfirst, rfl⟩
      exact ⟨_, hfirst, rfl⟩
  · intro marks hmarks
    rw [format_of_parse h, render_marks hmarks]
    exact congrArg Except.ok ((congrArg Template.source (rename_id template)).trans hsource)

/-- Two names become one, behind a brace that a placeholder follows, and the third is missing under its new name. -/
theorem format_in_stages_together :
    format "\x7b$a\x7d\x7b\x7b$b\x7d&amp;\x7b$c\x7d"
      (Dictionary.ofList [("a", "\x7b$x\x7d"), ("b", "\x7b$x\x7d"), ("c", "\x7b$y\x7d")])
      .preserve = .ok "\x7b$x\x7d\x7b\x7b$x\x7d&amp;\x7b$y\x7d" ∧
    format "\x7b$x\x7d\x7b\x7b$x\x7d&amp;\x7b$y\x7d"
      (Dictionary.ofList [("x", "1"), ("y", "2")]) .unescape = .ok "1\x7b1&2" ∧
    format "\x7b$x\x7d\x7b\x7b$x\x7d&amp;\x7b$y\x7d"
      (Dictionary.ofList [("x", "1"), ("c", "2")]) .unescape = .error (.unbound "y") ∧
    format "\x7b$a\x7d\x7b\x7b$b\x7d&amp;\x7b$c\x7d"
      (Dictionary.ofList [("a", "\x7b$a\x7d"), ("b", "\x7b$b\x7d"), ("c", "\x7b$c\x7d")])
      .preserve = .ok "\x7b$a\x7d\x7b\x7b$b\x7d&amp;\x7b$c\x7d" := by
  have hparse : parse "\x7b$a\x7d\x7b\x7b$b\x7d&amp;\x7b$c\x7d" =
      .ok ⟨[.placeholder "a", .literal "\x7b", .placeholder "b", .literal "&amp;",
        .placeholder "c"]⟩ :=
    @parse_source ⟨[.placeholder "a", .literal "\x7b", .placeholder "b", .literal "&amp;",
      .placeholder "c"]⟩ (by decide)
  obtain ⟨hstages, hself⟩ := format_in_stages _ _ hparse
  obtain ⟨staged, hstaged, -, hsecond⟩ := hstages (fun name => if name = "c" then "y" else "x")
    (Dictionary.ofList [("a", "\x7b$x\x7d"), ("b", "\x7b$x\x7d"), ("c", "\x7b$y\x7d")])
    (by decide) (by decide)
  have hfirst : format "\x7b$a\x7d\x7b\x7b$b\x7d&amp;\x7b$c\x7d"
      (Dictionary.ofList [("a", "\x7b$x\x7d"), ("b", "\x7b$x\x7d"), ("c", "\x7b$y\x7d")])
      .preserve = .ok "\x7b$x\x7d\x7b\x7b$x\x7d&amp;\x7b$y\x7d" := by
    rw [format_of_parse hparse]
    decide +kernel
  obtain rfl := Except.ok.inj (hstaged.symm.trans hfirst)
  refine ⟨hfirst, ?_, ?_, hself _ (by decide)⟩
  · refine ((hsecond _ (Dictionary.ofList [("a", "1"), ("b", "1"), ("c", "2")]) .unescape
      (by decide)).1 _).2 ?_
    rw [format_of_parse hparse]
    decide +kernel
  · refine ((hsecond _ (Dictionary.ofList [("a", "1"), ("b", "1")]) .unescape
      (by decide)).2 _).2 ⟨"c", ?_, rfl⟩
    rw [format_of_parse hparse]
    decide +kernel

end Template

end Phrasebook
