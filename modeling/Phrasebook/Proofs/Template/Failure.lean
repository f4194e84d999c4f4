import Phrasebook.Proofs.Template.RoundTrip
import Phrasebook.Proofs.Text.Bytes

/-!
# Where reading fails

Reading fails at the first marker that opens no placeholder. What stands before it is the written form of a normal template, so its position is the size of that form, and what is wrong is judged by the text behind it: no closing brace follows, or what stands before the first one is no name. `parse_eq_error_iff` says that this is every failure there is, and that a source can be taken apart like this in one way only.
-/

namespace Phrasebook

open Text

/-- What makes a text behind a marker no placeholder. -/
inductive PlaceholderFault.Behind : PlaceholderFault → String → Prop
  | unterminated {rest : String} (h : '}' ∉ rest.toList) : Behind .unterminated rest
  | invalidName {name rest : String} (after : String) (hrest : rest = name ++ "\x7d" ++ after)
      (hbrace : '}' ∉ name.toList) (hname : ¬Name.isValid name.toList = true) :
      Behind (.invalidName name) rest

/-- A source that can be read up to a marker, and no further. -/
structure Template.StopsBefore (template : Template) (rest : String) (fault : PlaceholderFault)
    (source : String) : Prop where
  normal : template.Normal
  source_eq : source = template.source ++ "\x7b$" ++ rest
  behind : fault.Behind rest

namespace Template

/-! ### The scan at the marker -/

theorem scan_fault {rest : String} {fault : PlaceholderFault} (h : fault.Behind rest)
    (position : Nat) (literal : List Char) :
    scan position literal ('{' :: '$' :: rest.toList) = .error (.malformed position fault) := by
  rw [scan]
  cases h with
  | unterminated h =>
    split
    · rfl
    · next hcut => simp [cut?_eq_none_iff.2 h] at hcut
  | @invalidName name rest after hrest hbrace hname =>
    have hcut : cut? '}' rest.toList = some (name.toList, after.toList) := by
      rw [hrest]
      simpa using cut?_append_cons hbrace after.toList
    split
    · simp_all
    · next found behind heq =>
      obtain ⟨rfl, rfl⟩ := Prod.mk.inj (Option.some.inj (hcut.symm.trans heq))
      rw [if_neg hname, String.ofList_toList]

/-- Where the scan fails, the text held back and the text ahead are a normal template up to a marker, and the fault is that of the text behind it. -/
theorem stops_of_scan {position : Nat} {literal text : List Char} {error : FormatError}
    (h : scan position literal text = .error error) (hmarker : markerAt? literal.reverse = none)
    (hseam : ¬MarkerAtSeam literal.reverse text) :
    ∃ (segments : List Segment) (rest : String) (fault : PlaceholderFault) (place : Nat),
      Normal ⟨segments⟩ ∧ fault.Behind rest ∧
      literal.reverse ++ text = segments.flatMap Segment.chars ++ '{' :: '$' :: rest.toList ∧
      error = .malformed place fault ∧
      place + byteLength literal.reverse =
        position + byteLength (segments.flatMap Segment.chars) := by
  fun_induction scan position literal text with
  | case1 position literal rest hcut =>
    refine ⟨consLiteral literal [], .ofList rest, .unterminated, position, ?_, ?_, ?_, ?_, ?_⟩
    · exact normal_consLiteral hmarker (by simp) normal_nil
    · exact .unterminated (by simpa using cut?_eq_none_iff.1 hcut)
    · simp
    · exact (Except.error.inj h).symm
    · simp
  | case2 position literal rest name after hcut hvalid ih =>
    -- Behind a placeholder the scan starts anew, with nothing held back.
    rw [bind_pure_comp] at h
    obtain ⟨hrest, -⟩ := cut?_eq_some_iff.1 hcut
    obtain ⟨segments, tail, fault, place, hnormal, hbehind, hchars, herror, hplace⟩ :=
      ih (map_eq_error_iff.1 h) (by simp [markerAt?]) (by simp [MarkerAtSeam])
    refine ⟨consLiteral literal (.placeholder (.ofList name) :: segments), tail, fault, place,
      ?_, hbehind, ?_, herror, ?_⟩
    · exact normal_consLiteral hmarker (by simp [Segment.isLiteral]) (normal_cons.2
        ⟨by simpa [Segment.isNormal] using hvalid, by simp [Segment.Separate, Segment.isLiteral],
          hnormal⟩)
    · rw [List.reverse_nil, List.nil_append] at hchars
      rw [flatMap_chars_consLiteral, List.flatMap_cons, hrest, hchars]
      simp [Segment.chars]
    · rw [flatMap_chars_consLiteral, List.flatMap_cons, byteLength_append, byteLength_append,
        byteLength_chars_placeholder]
      simp at hplace ⊢
      omega
  | case3 position literal rest name after hcut hvalid =>
    obtain ⟨rfl, hbrace⟩ := cut?_eq_some_iff.1 hcut
    refine ⟨consLiteral literal [], .ofList (name ++ '}' :: after), .invalidName (.ofList name),
      position, ?_, ?_, ?_, ?_, ?_⟩
    · exact normal_consLiteral hmarker (by simp) normal_nil
    · exact .invalidName (.ofList after) (String.toList_injective (by simp))
        (by simpa using hbrace) (by simpa using hvalid)
    · simp
    · exact (Except.error.inj h).symm
    · simp
  | case4 position literal c rest hopen ih =>
    obtain ⟨hclear, hmoved⟩ := markerAt?_hold hmarker hseam hopen
    obtain ⟨segments, tail, fault, place, hnormal, hbehind, hchars, herror, hplace⟩ :=
      ih h hclear hmoved
    refine ⟨segments, tail, fault, place, hnormal, hbehind, by simpa using hchars, herror, ?_⟩
    rw [List.reverse_cons, byteLength_append] at hplace
    simp at hplace
    omega
  | case5 position literal => simp at h

/-! ### Sources -/

theorem parse_eq_error_of_stopsBefore {template : Template} {rest : String}
    {fault : PlaceholderFault} {source : String} (h : template.StopsBefore rest fault source) :
    parse source = .error (.malformed template.source.utf8ByteSize fault) := by
  have hsource : source.toList =
      template.segments.flatMap Segment.chars ++ '{' :: '$' :: rest.toList := by
    rw [h.source_eq]
    simp [Template.source, sourceChars]
  have hsize : byteLength (template.segments.flatMap Segment.chars) =
      template.source.utf8ByteSize := by
    rw [← byteLength_toList, Template.source, String.toList_ofList, sourceChars]
  have hboundary : AtBoundary ('{' :: '$' :: rest.toList) := .inr ⟨rest.toList, rfl⟩
  rw [parse, hsource, scan_segments h.normal hboundary, scan_fault h.behind, hsize, Nat.zero_add]
  rfl

theorem exists_stopsBefore {source : String} {error : FormatError}
    (h : parse source = .error error) :
    ∃ template rest fault, StopsBefore template rest fault source ∧
      error = .malformed template.source.utf8ByteSize fault := by
  rw [parse, bind_pure_comp, map_eq_error_iff] at h
  obtain ⟨segments, rest, fault, place, hnormal, hbehind, hchars, herror, hplace⟩ :=
    stops_of_scan h (by simp [markerAt?]) (by simp [MarkerAtSeam])
  rw [List.reverse_nil, List.nil_append] at hchars
  have hsize : (Template.mk segments).source.utf8ByteSize = place := by
    rw [← byteLength_toList, Template.source, String.toList_ofList, sourceChars]
    simpa using hplace.symm
  refine ⟨⟨segments⟩, rest, fault, ⟨hnormal, ?_, hbehind⟩, by rw [herror, hsize]⟩
  apply String.toList_injective
  rw [hchars]
  simp [Template.source, sourceChars]

/-- The place where reading stops is the only one: reading finds one error, so two prefixes have one size. -/
theorem StopsBefore.unique {source : String} {left right : Template} {leftRest rightRest : String}
    {leftFault rightFault : PlaceholderFault} (hleft : left.StopsBefore leftRest leftFault source)
    (hright : right.StopsBefore rightRest rightFault source) :
    left = right ∧ leftRest = rightRest ∧ leftFault = rightFault := by
  have herror := (parse_eq_error_of_stopsBefore hleft).symm.trans
    (parse_eq_error_of_stopsBefore hright)
  obtain ⟨hsize, hfault⟩ := FormatError.malformed.inj (Except.error.inj herror)
  have hsource := hleft.source_eq.symm.trans hright.source_eq
  rw [String.append_assoc, String.append_assoc] at hsource
  obtain ⟨htemplate, hrest⟩ := eq_of_append_eq hsource hsize
  refine ⟨?_, (String.append_right_inj _).1 hrest, hfault⟩
  have hread := parse_source hleft.normal
  rw [htemplate, parse_source hright.normal] at hread
  exact (Except.ok.inj hread).symm

/-- Reading a source fails exactly if the source is the written form of a normal template, a marker, and a text that makes no placeholder of it: one without a closing brace, or one in which no name stands before the first of them. The failure gives the number of bytes before that marker, and the fault with the text that is no name. There is only one way to take a source apart like this, so the marker is the first that opens no placeholder. -/
theorem parse_eq_error_iff :
    (∀ source error, parse source = .error error ↔
      ∃ template rest fault, StopsBefore template rest fault source ∧
        error = .malformed template.source.utf8ByteSize fault) ∧
    (∀ (source : String) (left right : Template) (leftRest rightRest : String)
      (leftFault rightFault : PlaceholderFault),
      left.StopsBefore leftRest leftFault source → right.StopsBefore rightRest rightFault source →
        left = right ∧ leftRest = rightRest ∧ leftFault = rightFault) := by
  refine ⟨fun source error => ⟨exists_stopsBefore, ?_⟩, fun _ _ _ _ _ _ _ hleft hright =>
    hleft.unique hright⟩
  rintro ⟨template, rest, fault, hstops, rfl⟩
  exact parse_eq_error_of_stopsBefore hstops

theorem parse_eq_error_nested :
    parse "é\x7b$a\x7d\x7b\x7b$b\x7b$c\x7d\x7d" =
      .error (.malformed 7 (.invalidName "b\x7b$c")) := by
  refine (parse_eq_error_iff.1 _ _).2
    ⟨⟨[.literal "é", .placeholder "a", .literal "\x7b"]⟩, "b\x7b$c\x7d\x7d", .invalidName "b\x7b$c",
      ⟨by decide, by decide, ?_⟩, by decide⟩
  exact .invalidName "\x7d" (by decide) (by decide) (by decide)

end Template

end Phrasebook
