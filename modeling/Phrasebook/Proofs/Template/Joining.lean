import Phrasebook.Proofs.Template.Failure
import Phrasebook.Proofs.Template.Rendering

/-!
# Sources one behind the other

Where a source that can be read is followed by another text, the whole is read as the segments of the one and then those of the other. Only literal texts that meet become one, and only a brace that meets a dollar sign would make something new, so that seam is excluded. Nothing is scanned here: normal templates are joined, and what can be read is the written form of normal templates.
-/

namespace Phrasebook

open Text

/-! ### Joining segments -/

namespace Segment

/-- Segments one behind the other, where a literal at the end of the first and one at the start of the second become one. -/
def joined : List Segment → List Segment → List Segment
  | [literal left], literal right :: rest => literal (left ++ right) :: rest
  | segment :: segments, rest => segment :: joined segments rest
  | [], rest => rest

theorem flatMap_chars_joined (left right : List Segment) :
    (joined left right).flatMap chars = left.flatMap chars ++ right.flatMap chars := by
  fun_induction joined left right with
  | case1 left right rest => simp [chars]
  | case2 segment segments rest hmeet ih =>
    rw [List.flatMap_cons, List.flatMap_cons, ih, List.append_assoc]
  | case3 rest => rfl

theorem isLiteral_head_joined (segment : Segment) (segments rest : List Segment) :
    ∃ first tail, joined (segment :: segments) rest = first :: tail ∧
      first.isLiteral = segment.isLiteral := by
  rw [joined.eq_def]
  split
  · next heq =>
    obtain ⟨rfl, -⟩ := List.cons.inj heq
    exact ⟨_, _, rfl, rfl⟩
  · next heq _ =>
    obtain ⟨rfl, -⟩ := List.cons.inj heq
    exact ⟨_, _, rfl, rfl⟩
  · next heq => cases heq

end Segment

namespace Template

theorem source_joined (left right : List Segment) :
    source ⟨Segment.joined left right⟩ = source ⟨left⟩ ++ source ⟨right⟩ := by
  rw [source, sourceChars, Segment.flatMap_chars_joined, String.ofList_append]
  rfl

theorem normal_joined {left right : List Segment} (hleft : Normal ⟨left⟩) (hright : Normal ⟨right⟩)
    (hseam : ¬MarkerAtSeam (left.flatMap Segment.chars) (right.flatMap Segment.chars)) :
    Normal ⟨Segment.joined left right⟩ := by
  fun_induction Segment.joined left right with
  | case1 left right rest =>
    obtain ⟨hfirst, -, -⟩ := normal_cons.1 hleft
    obtain ⟨hsecond, hnext, hrest⟩ := normal_cons.1 hright
    rw [Segment.isNormal_literal_iff] at hfirst hsecond
    have hmarker : markerAt? (left ++ right).toList = none := by
      rw [String.toList_append]
      refine markerAt?_append_eq_none_iff.2 ⟨hfirst.2, hsecond.2, fun hmeet => hseam ?_⟩
      have := hmeet.extend [] (rest.flatMap Segment.chars)
      simpa [Segment.chars] using this
    have hempty : left ++ right ≠ "" := fun h => hfirst.1 (String.append_eq_empty_iff.1 h).1
    exact normal_cons.2 ⟨Segment.isNormal_literal_iff.2 ⟨hempty, hmarker⟩, hnext, hrest⟩
  | case2 segment segments rest hmeet ih =>
    obtain ⟨hsegment, hnext, htail⟩ := normal_cons.1 hleft
    have hjoined := ih htail hright fun h => hseam (by simpa using h.extend segment.chars [])
    refine normal_cons.2 ⟨hsegment, fun next hhead => ?_, hjoined⟩
    cases segments with
    | nil =>
      -- A literal here would have been joined to the literal behind it.
      rintro ⟨hfirst, hsecond⟩
      obtain ⟨others, rfl⟩ := List.head?_eq_some_iff.1 hhead
      cases segment with
      | placeholder name => cases hfirst
      | literal left =>
        cases next with
        | placeholder name => cases hsecond
        | literal right => exact hmeet left right others rfl rfl rfl
    | cons other others =>
      obtain ⟨first, tail, heq, hkind⟩ := Segment.isLiteral_head_joined other others rest
      obtain rfl : first = next := by simpa [heq] using hhead
      rw [Segment.Separate, hkind]
      exact hnext other rfl
  | case3 rest => exact hright

theorem render_joined (left right : List Segment) (arguments : Arguments) :
    render ⟨Segment.joined left right⟩ arguments .preserve = do
      let first ← render ⟨left⟩ arguments .preserve
      let second ← render ⟨right⟩ arguments .preserve
      return first ++ second := by
  fun_induction Segment.joined left right with
  | case1 left right rest =>
    have hliteral (text : String) :
        (Segment.literal text).render arguments .preserve = .ok text := rfl
    rw [render_cons_of_ok (hliteral _), render_cons_of_ok (hliteral left), render_nil,
      render_cons_of_ok (hliteral right)]
    cases render ⟨rest⟩ arguments .preserve with
    | error error => rfl
    | ok tail => exact congrArg Except.ok (by simp [String.append_assoc])
  | case2 segment segments rest hmeet ih =>
    cases hsegment : segment.render arguments .preserve with
    | error error =>
      rw [render_cons_of_error hsegment, render_cons_of_error hsegment]
      rfl
    | ok text =>
      rw [render_cons_of_ok hsegment, render_cons_of_ok hsegment, ih]
      simp only [map_eq_pure_bind, bind_assoc, pure_bind, String.append_assoc]
  | case3 rest =>
    rw [render_nil]
    cases render ⟨rest⟩ arguments .preserve with
    | error error => rfl
    | ok text => exact congrArg Except.ok (String.empty_append ..).symm

/-! ### Sources -/

section

variable {first second : String} {template : Template}

theorem parse_joined {next : Template} (hfirst : parse first = .ok template)
    (hseam : ¬MarkerAtSeam first.toList second.toList) (hsecond : parse second = .ok next) :
    parse (first ++ second) = .ok ⟨Segment.joined template.segments next.segments⟩ := by
  obtain ⟨hnormal, rfl⟩ := normal_of_parse hfirst
  obtain ⟨hnext, rfl⟩ := normal_of_parse hsecond
  have hjoined := normal_joined hnormal hnext (by simpa [source, sourceChars] using hseam)
  have hsource := source_joined template.segments next.segments
  rw [← hsource]
  exact parse_source hjoined

theorem parse_joined_error {position : Nat} {fault : PlaceholderFault}
    (hfirst : parse first = .ok template) (hseam : ¬MarkerAtSeam first.toList second.toList)
    (hsecond : parse second = .error (.malformed position fault)) :
    parse (first ++ second) = .error (.malformed (position + first.utf8ByteSize) fault) := by
  obtain ⟨hnormal, rfl⟩ := normal_of_parse hfirst
  obtain ⟨next, rest, found, hstops, herror⟩ := exists_stopsBefore hsecond
  obtain ⟨rfl, rfl⟩ := FormatError.malformed.inj herror
  -- What is read of the second text is only its front, and so is the seam.
  have hfront : ¬MarkerAtSeam (template.segments.flatMap Segment.chars)
      (next.segments.flatMap Segment.chars) := by
    intro h
    apply hseam
    rw [hstops.source_eq]
    simpa [source, sourceChars] using h.extend [] ('{' :: '$' :: rest.toList)
  have hjoined : StopsBefore ⟨Segment.joined template.segments next.segments⟩ rest fault
      (template.source ++ second) := by
    refine ⟨normal_joined hnormal hstops.normal hfront, ?_, hstops.behind⟩
    rw [hstops.source_eq, source_joined, String.append_assoc, String.append_assoc,
      String.append_assoc]
  rw [parse_eq_error_of_stopsBefore hjoined, source_joined, String.utf8ByteSize_append,
    Nat.add_comm]

end

/-- A source that can be read, with any text behind it, unless a brace at its end meets a dollar sign. If that text can be read, so can the whole: as the segments of both, with the literals that meet made one. If it cannot, the whole fails with the same fault, as many bytes further on as the source takes. So in the mode that keeps references formatting the whole gives what formatting gives of the one and of the other. -/
theorem parse_append (first second : String) (template : Template)
    (hfirst : parse first = .ok template) (hseam : ¬MarkerAtSeam first.toList second.toList) :
    (∀ next, parse second = .ok next →
      parse (first ++ second) = .ok ⟨Segment.joined template.segments next.segments⟩) ∧
    (∀ position fault, parse second = .error (.malformed position fault) →
      parse (first ++ second) = .error (.malformed (position + first.utf8ByteSize) fault)) ∧
    (∀ (arguments : Arguments) (left right : String),
      format first arguments .preserve = .ok left → format second arguments .preserve = .ok right →
        format (first ++ second) arguments .preserve = .ok (left ++ right)) := by
  refine ⟨fun next => parse_joined hfirst hseam, fun position fault =>
    parse_joined_error hfirst hseam, fun arguments left right hleft hright => ?_⟩
  obtain ⟨next, hsecond, hshown⟩ := bind_eq_ok_iff.1 hright
  have hfront : render ⟨template.segments⟩ arguments .preserve = .ok left :=
    (format_of_parse hfirst).symm.trans hleft
  have hback : render ⟨next.segments⟩ arguments .preserve = .ok right := hshown
  rw [format_of_parse (parse_joined hfirst hseam hsecond), render_joined, hfront, hback]
  rfl

theorem parse_append_braces :
    parse "é\x7b$a\x7d\x7b\x7d\x7b$a\x7d" =
      .ok ⟨[.literal "é", .placeholder "a", .literal "\x7b\x7d", .placeholder "a"]⟩ ∧
    parse "é\x7b$a\x7d\x7bé\x7b$a b\x7d" = .error (.malformed 9 (.invalidName "a b")) ∧
    format "é\x7b$a\x7d\x7b\x7d\x7b$a\x7d" (Dictionary.ofList [("a", "$")]) .preserve =
      .ok "é$\x7b\x7d$" := by
  have hfirst : parse "é\x7b$a\x7d\x7b" =
      .ok ⟨[.literal "é", .placeholder "a", .literal "\x7b"]⟩ :=
    @parse_source ⟨[.literal "é", .placeholder "a", .literal "\x7b"]⟩ (by decide)
  have hsecond : parse "\x7d\x7b$a\x7d" = .ok ⟨[.literal "\x7d", .placeholder "a"]⟩ :=
    @parse_source ⟨[.literal "\x7d", .placeholder "a"]⟩ (by decide)
  have hstops : StopsBefore ⟨[.literal "é"]⟩ "a b\x7d" (.invalidName "a b") "é\x7b$a b\x7d" :=
    ⟨by decide, by decide, .invalidName "" (by decide) (by decide) (by decide)⟩
  have hfailing : parse "é\x7b$a b\x7d" = .error (.malformed 2 (.invalidName "a b")) :=
    parse_eq_error_of_stopsBefore hstops
  obtain ⟨hread, -, hformat⟩ :=
    parse_append "é\x7b$a\x7d\x7b" "\x7d\x7b$a\x7d" _ hfirst (by decide)
  obtain ⟨-, hfailed, -⟩ := parse_append "é\x7b$a\x7d\x7b" "é\x7b$a b\x7d" _ hfirst (by decide)
  refine ⟨hread _ hsecond, hfailed 2 _ hfailing, hformat _ "é$\x7b" "\x7d$" ?_ ?_⟩
  · rw [format_of_parse hfirst]
    decide +kernel
  · rw [format_of_parse hsecond]
    decide +kernel

end Template

end Phrasebook
