import Phrasebook.Proofs.Template.Rendering
import Mathlib.Data.List.Induction

/-!
# The first name that is missing

Rendering walks over the segments and stops at the first placeholder that nothing is bound to. The list of placeholders is made by a walk of its own, which drops the names it has already met. The two agree on what is missing first: a name that is dropped was met before, and had it been missing, the walk would have ended there. So how rendering fails is known from the list of placeholders and the set of bound names alone.
-/

namespace Phrasebook.Template

/-! ### The list of placeholders, from its end -/

theorem placeholders_concat_literal (segments : List Segment) (text : String) :
    placeholders ⟨segments ++ [.literal text]⟩ = placeholders ⟨segments⟩ := by
  rw [placeholders_eq, placeholders_eq, Segment.names_append, Segment.names_literal,
    Segment.names_nil, List.append_nil]

theorem placeholders_concat_placeholder (segments : List Segment) (name : String) :
    placeholders ⟨segments ++ [.placeholder name]⟩ =
      if .placeholder name ∈ segments then placeholders ⟨segments⟩
      else placeholders ⟨segments⟩ ++ [name] := by
  rw [placeholders_eq, placeholders_eq, Segment.names_append, Segment.names_placeholder,
    Segment.names_nil, List.eraseDups_append]
  by_cases hmem : .placeholder name ∈ segments
  · have hremoved : [name].removeAll (Segment.names segments) = [] := by
      simpa [List.removeAll] using Segment.mem_names.2 hmem
    rw [if_pos hmem, hremoved, List.eraseDups_nil, List.append_nil]
  · have hkept : [name].removeAll (Segment.names segments) = [name] := by
      simpa [List.removeAll] using fun h => hmem (Segment.mem_names.1 h)
    rw [if_neg hmem, hkept]
    rfl

/-- The listed names stand in the order of the first placeholders that have them. -/
theorem pairwise_idxOf_placeholders (segments : List Segment) :
    (placeholders ⟨segments⟩).Pairwise fun left right =>
      segments.idxOf (.placeholder left) < segments.idxOf (.placeholder right) := by
  induction segments using List.reverseRecOn with
  | nil => exact List.Pairwise.nil
  | append_singleton segments segment ih =>
    -- What stands behind a segment does not move its first occurrence.
    have hkept : ∀ name ∈ placeholders ⟨segments⟩,
        (segments ++ [segment]).idxOf (.placeholder name) = segments.idxOf (.placeholder name) :=
      fun name hname => List.idxOf_append_of_mem (mem_placeholders.1 hname)
    have hbefore : (placeholders ⟨segments⟩).Pairwise fun left right =>
        (segments ++ [segment]).idxOf (.placeholder left) <
          (segments ++ [segment]).idxOf (.placeholder right) := by
      refine ih.imp_of_mem fun {left right} hleft hright hlt => ?_
      rw [hkept left hleft, hkept right hright]
      exact hlt
    cases segment with
    | literal text =>
      rw [placeholders_concat_literal]
      exact hbefore
    | placeholder name =>
      rw [placeholders_concat_placeholder]
      by_cases hmem : .placeholder name ∈ segments
      · rw [if_pos hmem]
        exact hbefore
      · rw [if_neg hmem]
        refine List.pairwise_append.2 ⟨hbefore, List.pairwise_singleton .., ?_⟩
        intro left hleft right hright
        obtain rfl := List.mem_singleton.1 hright
        rw [hkept left hleft, List.idxOf_append_of_notMem hmem, List.idxOf_cons_self, Nat.add_zero]
        exact List.idxOf_lt_length_of_mem (mem_placeholders.1 hleft)

theorem nodup_placeholders (template : Template) : template.placeholders.Nodup := by
  refine (pairwise_idxOf_placeholders template.segments).imp fun {left right} hlt => ?_
  rintro rfl
  exact Nat.lt_irrefl _ hlt

theorem find?_placeholders (segments : List Segment) (p : String → Bool) :
    (placeholders ⟨segments⟩).find? p = (Segment.names segments).find? p := by
  induction segments using List.reverseRecOn with
  | nil => rfl
  | append_singleton segments segment ih =>
    cases segment with
    | literal text =>
      rw [placeholders_concat_literal, ih, Segment.names_append, Segment.names_literal,
        Segment.names_nil, List.append_nil]
    | placeholder name =>
      rw [placeholders_concat_placeholder, Segment.names_append, Segment.names_placeholder,
        Segment.names_nil, List.find?_append, ← ih]
      by_cases hmem : .placeholder name ∈ segments
      · rw [if_pos hmem]
        cases hfind : (placeholders ⟨segments⟩).find? p with
        | some found => rfl
        | none =>
          have hname := List.find?_eq_none.1 hfind name (mem_placeholders.2 hmem)
          simp [hname]
      · rw [if_neg hmem, List.find?_append]

/-! ### The first placeholder that is not known -/

/-- `name` is the name of the first placeholder that is none of the known ones. -/
def FirstUnknown (template : Template) (known : String → Prop) (name : String) : Prop :=
  ∃ before after, template.segments = before ++ .placeholder name :: after ∧ ¬known name ∧
    ∀ other, .placeholder other ∈ before → known other

theorem not_firstUnknown_nil {known : String → Prop} {name : String} :
    ¬FirstUnknown ⟨[]⟩ known name := by
  rintro ⟨before, after, h, -⟩
  simp at h

theorem firstUnknown_cons {known : String → Prop} {name : String} {segment : Segment}
    {segments : List Segment} :
    FirstUnknown ⟨segment :: segments⟩ known name ↔
      (segment = .placeholder name ∧ ¬known name) ∨
        ((∀ other, segment = .placeholder other → known other) ∧
          FirstUnknown ⟨segments⟩ known name) := by
  constructor
  · rintro ⟨before, after, h, hname, hbefore⟩
    rcases List.cons_eq_append_iff.1 h with ⟨rfl, hhead⟩ | ⟨rest, rfl, hrest⟩
    · exact .inl ⟨(List.cons.inj hhead).1.symm, hname⟩
    · refine .inr ⟨fun other hother => ?_, rest, after, hrest, hname, fun other hother => ?_⟩
      · exact hbefore other (hother ▸ List.mem_cons_self)
      · exact hbefore other (List.mem_cons_of_mem _ hother)
  · rintro (⟨rfl, hname⟩ | ⟨hsegment, before, after, h, hname, hbefore⟩)
    · exact ⟨[], segments, rfl, hname, by simp⟩
    · refine ⟨segment :: before, after, congrArg (segment :: ·) h, hname, fun other hother => ?_⟩
      rcases List.mem_cons.1 hother with heq | hmem
      · exact hsegment other heq.symm
      · exact hbefore other hmem

section

variable {known : String → Prop} {segments : List Segment} {name : String}

theorem firstUnknown_cons_of_known {segment : Segment}
    (h : ∀ other, segment = .placeholder other → known other) :
    FirstUnknown ⟨segment :: segments⟩ known name ↔ FirstUnknown ⟨segments⟩ known name := by
  rw [firstUnknown_cons]
  constructor
  · rintro (⟨rfl, hname⟩ | ⟨-, hrest⟩)
    · exact absurd (h name rfl) hname
    · exact hrest
  · exact fun hrest => .inr ⟨h, hrest⟩

theorem firstUnknown_cons_of_unknown {other : String} (h : ¬known other) :
    FirstUnknown ⟨.placeholder other :: segments⟩ known name ↔ name = other := by
  rw [firstUnknown_cons]
  constructor
  · rintro (⟨heq, -⟩ | ⟨hknown, -⟩)
    · exact (Segment.placeholder.inj heq).symm
    · exact absurd (hknown other rfl) h
  · rintro rfl
    exact .inl ⟨rfl, h⟩

end

theorem find?_names_eq_some_iff {segments : List Segment} {known : String → Bool}
    {name : String} :
    (Segment.names segments).find? (fun other => !known other) = some name ↔
      FirstUnknown ⟨segments⟩ (fun other => known other = true) name := by
  induction segments with
  | nil => simp [not_firstUnknown_nil]
  | cons segment segments ih =>
    cases segment with
    | literal text => rw [Segment.names_literal, ih, firstUnknown_cons_of_known (by simp)]
    | placeholder other =>
      rw [Segment.names_placeholder]
      by_cases hknown : known other = true
      · rw [List.find?_cons_of_neg (by simp [hknown]), ih,
          firstUnknown_cons_of_known (by simp [hknown])]
      · rw [List.find?_cons_of_pos (by simp [hknown]), firstUnknown_cons_of_unknown hknown,
          Option.some_inj, eq_comm]

theorem find?_placeholders_eq_some_iff {template : Template} {known : String → Bool}
    {name : String} :
    template.placeholders.find? (fun other => !known other) = some name ↔
      template.FirstUnknown (fun other => known other = true) name := by
  rw [find?_placeholders, find?_names_eq_some_iff]

/-! ### Rendering -/

/-- Rendering fails at the first placeholder that nothing is bound to, and nowhere else. -/
theorem render_eq_error_iff {template : Template} {arguments : Arguments} {mode : EscapeMode}
    {error : FormatError} :
    template.render arguments mode = .error error ↔
      ∃ name, template.FirstUnknown (fun other => arguments.contains other = true) name ∧
        error = .unbound name := by
  obtain ⟨segments⟩ := template
  induction segments with
  | nil => simp [render_nil, not_firstUnknown_nil]
  | cons segment segments ih =>
    cases segment with
    | literal text =>
      have hsegment : (Segment.literal text).render arguments mode = .ok (mode.apply text) := rfl
      rw [render_cons_of_ok hsegment, map_eq_error_iff, ih]
      refine exists_congr fun name => and_congr_left' ?_
      exact (firstUnknown_cons_of_known (by simp)).symm
    | placeholder other =>
      cases hbound : arguments.get? other with
      | some value =>
        have hcontains : arguments.contains other = true := by simp [Dictionary.contains, hbound]
        rw [render_cons_of_ok (Segment.render_placeholder_of_some hbound mode), map_eq_error_iff, ih]
        refine exists_congr fun name => and_congr_left' ?_
        exact (firstUnknown_cons_of_known (by simp [hcontains])).symm
      | none =>
        have hcontains : ¬arguments.contains other = true := by simp [Dictionary.contains, hbound]
        have hfirst (name : String) :
            FirstUnknown ⟨.placeholder other :: segments⟩
              (fun other => arguments.contains other = true) name ↔ name = other :=
          firstUnknown_cons_of_unknown hcontains
        rw [render_cons_of_error (Segment.render_placeholder_of_none hbound mode)]
        simp only [hfirst, exists_eq_left, Except.error.injEq]
        exact eq_comm

/-- The listed placeholders are the names among the segments, each once and in the order in which they are first used. Rendering fails exactly if one of them is not bound, and then the first of these is what it reports. So arguments that bind the same of these names fail alike, in whatever modes and whatever the values are. -/
theorem render_reports_first_unbound (template : Template) :
    (∀ name, name ∈ template.placeholders ↔ .placeholder name ∈ template.segments) ∧
    template.placeholders.Nodup ∧
    (template.placeholders.Pairwise fun left right =>
      template.segments.idxOf (.placeholder left) <
        template.segments.idxOf (.placeholder right)) ∧
    (∀ (arguments : Arguments) (mode : EscapeMode),
      ((∃ error, template.render arguments mode = .error error) ↔
        ∃ name ∈ template.placeholders, arguments.get? name = none) ∧
      ∀ error, template.render arguments mode = .error error ↔
        ∃ name, template.placeholders.find? (fun name => !arguments.contains name) = some name ∧
          error = .unbound name) ∧
    (∀ left right : Arguments,
      (∀ name ∈ template.placeholders, left.contains name = right.contains name) →
        ∀ (leftMode rightMode : EscapeMode) (error : FormatError),
          template.render left leftMode = .error error ↔
            template.render right rightMode = .error error) := by
  have herror (arguments : Arguments) (mode : EscapeMode) (error : FormatError) :
      template.render arguments mode = .error error ↔
        ∃ name, template.placeholders.find? (fun name => !arguments.contains name) = some name ∧
          error = .unbound name := by
    simp only [render_eq_error_iff, find?_placeholders_eq_some_iff]
  refine ⟨fun name => mem_placeholders, nodup_placeholders template,
    pairwise_idxOf_placeholders template.segments,
    fun arguments mode => ⟨?_, herror arguments mode⟩, ?_⟩
  · constructor
    · rintro ⟨error, h⟩
      obtain ⟨name, hname, -⟩ := (herror arguments mode error).1 h
      refine ⟨name, List.mem_of_find?_eq_some hname, ?_⟩
      simpa [Dictionary.contains] using List.find?_some hname
    · rintro ⟨name, hmem, hname⟩
      have hfound : (template.placeholders.find? fun name => !arguments.contains name).isSome := by
        rw [List.find?_isSome]
        exact ⟨name, hmem, by simp [Dictionary.contains, hname]⟩
      obtain ⟨first, hfirst⟩ := Option.isSome_iff_exists.1 hfound
      exact ⟨_, (herror arguments mode _).2 ⟨first, hfirst, rfl⟩⟩
  · intro left right hagree leftMode rightMode error
    have hfind : template.placeholders.find? (fun name => !left.contains name) =
        template.placeholders.find? (fun name => !right.contains name) := by
      rw [← List.head?_filter, ← List.head?_filter,
        List.filter_congr fun name hname => congrArg not (hagree name hname)]
    rw [herror, herror, hfind]

/-- A template with a name that comes back behind one that is missing. -/
def returning : Template :=
  ⟨[.placeholder "b", .literal "&amp;", .placeholder "a", .placeholder "b", .placeholder "c"]⟩

theorem render_reports_first_unbound_returning :
    returning.placeholders = ["b", "a", "c"] ∧
    returning.render (Dictionary.ofList [("b", "")]) .preserve = .error (.unbound "a") ∧
    returning.render (Dictionary.ofList [("b", "\x7b$a\x7d"), ("z", "1")]) .unescape =
      .error (.unbound "a") := by
  obtain ⟨-, -, -, herror, hagree⟩ := render_reports_first_unbound returning
  have hpreserved : returning.render (Dictionary.ofList [("b", "")]) .preserve =
      .error (.unbound "a") :=
    ((herror _ _).2 _).2 ⟨"a", by decide, rfl⟩
  exact ⟨by decide, hpreserved, (hagree _ _ (by decide) _ _ _).1 hpreserved⟩

end Phrasebook.Template
