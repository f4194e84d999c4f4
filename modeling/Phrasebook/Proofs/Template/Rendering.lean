import Phrasebook.Proofs.Basic
import Phrasebook.Template

/-!
# Rendering, one segment at a time

What a template needs and what comes out of it, said of its segments: the listed placeholders are those among the segments (`mem_placeholders`), and rendering succeeds with the segments' contributions in order exactly if each segment contributes (`render_eq_ok_iff`). Statements that also cover failures go by induction on the segments, with `render_cons_of_ok` and `render_cons_of_error` for the step.
-/

namespace Phrasebook

/-! ### The names a template needs -/

namespace Segment

/-- The names of the placeholders, as often as they occur. -/
def names (segments : List Segment) : List String := segments.filterMap name?

@[simp] theorem names_nil : names [] = [] := rfl

@[simp] theorem names_literal (text : String) (rest : List Segment) :
    names (literal text :: rest) = names rest := List.filterMap_cons_none rfl

@[simp] theorem names_placeholder (name : String) (rest : List Segment) :
    names (placeholder name :: rest) = name :: names rest := List.filterMap_cons_some rfl

theorem names_append (left right : List Segment) :
    names (left ++ right) = names left ++ names right := List.filterMap_append

theorem mem_names {segments : List Segment} {name : String} :
    name ∈ names segments ↔ placeholder name ∈ segments := by
  induction segments with
  | nil => simp
  | cons segment rest ih => cases segment <;> simp [ih]

theorem render_placeholder_of_some {arguments : Arguments} {name value : String}
    (h : arguments.get? name = some value) (mode : EscapeMode) :
    (placeholder name).render arguments mode = .ok value := by
  rw [render, h]

theorem render_placeholder_of_none {arguments : Arguments} {name : String}
    (h : arguments.get? name = none) (mode : EscapeMode) :
    (placeholder name).render arguments mode = .error (.unbound name) := by
  rw [render, h]

end Segment

namespace Template

theorem placeholders_eq (template : Template) :
    template.placeholders = (Segment.names template.segments).eraseDups := rfl

theorem mem_placeholders {template : Template} {name : String} :
    name ∈ template.placeholders ↔ .placeholder name ∈ template.segments := by
  rw [placeholders_eq, List.mem_eraseDups, Segment.mem_names]

/-! ### What comes out of it -/

theorem render_eq_ok_iff {template : Template} {arguments : Arguments} {mode : EscapeMode}
    {output : String} :
    template.render arguments mode = .ok output ↔
      ∃ texts, List.Forall₂ (fun segment text => segment.render arguments mode = .ok text)
        template.segments texts ∧ String.join texts = output := by
  rw [render, bind_pure_comp, map_eq_ok_iff]
  simp only [mapM_eq_ok_iff]

theorem render_nil (arguments : Arguments) (mode : EscapeMode) :
    render ⟨[]⟩ arguments mode = .ok "" := rfl

section

variable {arguments : Arguments} {mode : EscapeMode}

theorem render_cons_of_ok {segment : Segment} {text : String}
    (h : segment.render arguments mode = .ok text) (segments : List Segment) :
    render ⟨segment :: segments⟩ arguments mode =
      (text ++ ·) <$> render ⟨segments⟩ arguments mode := by
  rw [render, render, List.mapM_cons, h]
  cases segments.mapM (Segment.render arguments mode) with
  | error error => rfl
  | ok texts => exact congrArg Except.ok (String.join_cons ..)

theorem render_cons_of_error {segment : Segment} {error : FormatError}
    (h : segment.render arguments mode = .error error) (segments : List Segment) :
    render ⟨segment :: segments⟩ arguments mode = .error error := by
  rw [render, List.mapM_cons, h]
  rfl

theorem format_of_parse {source : String} {template : Template}
    (h : parse source = .ok template) :
    format source arguments mode = template.render arguments mode := by
  rw [format, h]
  rfl

end

end Template

end Phrasebook
