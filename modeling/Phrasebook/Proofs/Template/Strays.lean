import Phrasebook.Proofs.Template.RoundTrip
import Phrasebook.Proofs.Text.Bytes
import Mathlib.Order.Bounds.Image

/-!
# Stray markers

The written form of a template holds a marker wherever a placeholder starts. Any other marker is a stray: reading would take it for a placeholder that the template does not have. Where literals do not touch and names are valid, no marker arises at a seam between segments, so the strays are the markers of the literal texts, each as many bytes further on as the segments before it take (`strays_literal`, `strays_placeholder`).
-/

namespace Phrasebook

open Text

/-! ### Markers in a text -/

/-- The bytes of a text at which a marker stands. -/
def markers (text : List Char) : Set Nat :=
  {position | ∃ front rest, text = front ++ '{' :: '$' :: rest ∧ byteLength front = position}

theorem lt_of_mem_markers {text : List Char} {position : Nat} (h : position ∈ markers text) :
    position < byteLength text := by
  obtain ⟨front, rest, rfl, rfl⟩ := h
  have hbrace := '{'.utf8Size_pos
  rw [byteLength_append, byteLength_cons]
  omega

theorem mem_markers_cons {c : Char} {rest : List Char} {position : Nat} :
    position ∈ markers (c :: rest) ↔
      (position = 0 ∧ c = '{' ∧ rest.head? = some '$') ∨
        position ∈ (c.utf8Size + ·) '' markers rest := by
  constructor
  · rintro ⟨front, behind, htext, rfl⟩
    rcases List.cons_eq_append_iff.1 htext with ⟨rfl, hfront⟩ | ⟨tail, rfl, htail⟩
    · obtain ⟨hc, hrest⟩ := List.cons.inj hfront
      exact .inl ⟨rfl, hc.symm, by rw [← hrest]; rfl⟩
    · exact .inr ⟨byteLength tail, ⟨tail, behind, htail, rfl⟩, rfl⟩
  · rintro (⟨rfl, rfl, hrest⟩ | ⟨later, ⟨front, behind, rfl, rfl⟩, rfl⟩)
    · obtain ⟨tail, rfl⟩ := List.head?_eq_some_iff.1 hrest
      exact ⟨[], tail, rfl, rfl⟩
    · exact ⟨c :: front, behind, rfl, rfl⟩

@[simp] theorem markers_nil : markers [] = ∅ := by
  refine Set.eq_empty_of_forall_notMem fun position h => ?_
  exact absurd (lt_of_mem_markers h) (Nat.not_lt_zero position)

theorem markers_append {left right : List Char} (h : ¬MarkerAtSeam left right) :
    markers (left ++ right) = markers left ∪ (byteLength left + ·) '' markers right := by
  induction left with
  | nil => simp
  | cons c left ih =>
    have hrest : ¬MarkerAtSeam left right := fun hmeet => h (by simpa using hmeet.extend [c] [])
    have hfront : c = '{' ∧ (left ++ right).head? = some '$' ↔ c = '{' ∧ left.head? = some '$' := by
      cases left with
      | nil => simpa [MarkerAtSeam] using h
      | cons d left => rfl
    ext position
    rw [List.cons_append, Set.mem_union, mem_markers_cons, mem_markers_cons, hfront, ih hrest,
      or_assoc]
    refine or_congr_right ?_
    constructor
    · rintro ⟨later, hleft | ⟨further, hright, rfl⟩, rfl⟩
      · exact .inl ⟨later, hleft, rfl⟩
      · exact .inr ⟨further, hright, Nat.add_assoc ..⟩
    · rintro (⟨later, hleft, rfl⟩ | ⟨further, hright, rfl⟩)
      · exact ⟨later, .inl hleft, rfl⟩
      · exact ⟨_, .inr ⟨further, hright, rfl⟩, (Nat.add_assoc ..).symm⟩

theorem markers_eq_empty_of_markerAt? {text : List Char} (h : markerAt? text = none) :
    markers text = ∅ := by
  rw [markerAt?_eq_none_iff] at h
  refine Set.eq_empty_of_forall_notMem ?_
  rintro position ⟨front, rest, rfl, -⟩
  exact h ⟨front, rest, by simp⟩

theorem isLeast_markers_of_markerAt? {text : List Char} {index : Nat}
    (h : markerAt? text = some index) : IsLeast (markers text) index := by
  induction text generalizing index with
  | nil => simp [markerAt?] at h
  | cons c rest ih =>
    by_cases hopen : c = '{' ∧ rest.head? = some '$'
    · obtain ⟨rfl, hrest⟩ := hopen
      obtain ⟨tail, rfl⟩ := List.head?_eq_some_iff.1 hrest
      obtain rfl : 0 = index := by simpa [markerAt?_marker] using h
      exact ⟨⟨[], tail, rfl, rfl⟩, fun _ _ => Nat.zero_le _⟩
    · rw [markerAt?_cons_of_not hopen] at h
      obtain ⟨later, hlater, rfl⟩ := Option.map_eq_some_iff.1 h
      obtain ⟨hmem, hleast⟩ := ih hlater
      refine ⟨mem_markers_cons.2 (.inr ⟨later, hmem, rfl⟩), fun position hposition => ?_⟩
      rcases mem_markers_cons.1 hposition with ⟨-, hfront⟩ | ⟨other, hother, rfl⟩
      · exact absurd hfront hopen
      · exact Nat.add_le_add_left (hleast hother) _

theorem markers_placeholder {name : String} (h : Name.isValid name.toList = true) :
    markers (Segment.placeholder name).chars = {0} := by
  have hname : '{' ∉ name.toList := Name.not_mem_of_isValid rfl h
  have hbrace : '{' ∉ '$' :: name.toList ++ ['}'] := by simpa using hname
  ext position
  rw [Segment.chars, List.cons_append, mem_markers_cons, Set.mem_singleton_iff]
  constructor
  · rintro (⟨rfl, -⟩ | ⟨later, ⟨front, rest, htext, -⟩, rfl⟩)
    · rfl
    · rw [htext] at hbrace
      simp at hbrace
  · rintro rfl
    exact .inl ⟨rfl, rfl, rfl⟩

/-! ### Strays of a template -/

namespace Template

/-- The bytes of the written form at which a placeholder starts. -/
def openings (template : Template) : Set Nat :=
  {position | ∃ before name after, template.segments = before ++ .placeholder name :: after ∧
    (Template.mk before).source.utf8ByteSize = position}

/-- The bytes of the written form at which there is a marker and no placeholder starts. -/
def strays (template : Template) : Set Nat :=
  markers template.source.toList \ template.openings

theorem sourceChars_cons (segment : Segment) (segments : List Segment) :
    sourceChars ⟨segment :: segments⟩ = segment.chars ++ sourceChars ⟨segments⟩ := rfl

theorem toList_source (template : Template) : template.source.toList = template.sourceChars := by
  rw [source, String.toList_ofList]

theorem utf8ByteSize_source_append (left right : List Segment) :
    (Template.mk (left ++ right)).source.utf8ByteSize =
      (Template.mk left).source.utf8ByteSize + (Template.mk right).source.utf8ByteSize := by
  rw [← byteLength_toList, ← byteLength_toList, ← byteLength_toList, toList_source, toList_source,
    toList_source, ← byteLength_append]
  exact congrArg byteLength List.flatMap_append

theorem utf8ByteSize_source_cons (segment : Segment) (segments : List Segment) :
    (Template.mk (segment :: segments)).source.utf8ByteSize =
      byteLength segment.chars + (Template.mk segments).source.utf8ByteSize := by
  rw [← byteLength_toList, ← byteLength_toList, toList_source, toList_source, sourceChars_cons,
    byteLength_append]

theorem mem_openings_cons {segment : Segment} {segments : List Segment} {position : Nat} :
    position ∈ openings ⟨segment :: segments⟩ ↔
      (position = 0 ∧ segment.isLiteral = false) ∨
        position ∈ (byteLength segment.chars + ·) '' openings ⟨segments⟩ := by
  constructor
  · rintro ⟨before, name, after, hsegments, rfl⟩
    rcases List.cons_eq_append_iff.1 hsegments with ⟨rfl, hfront⟩ | ⟨tail, rfl, htail⟩
    · obtain ⟨rfl, -⟩ := List.cons.inj hfront
      exact .inl ⟨rfl, rfl⟩
    · exact .inr ⟨_, ⟨tail, name, after, htail, rfl⟩, (utf8ByteSize_source_cons ..).symm⟩
  · rintro (⟨rfl, hkind⟩ | ⟨later, ⟨before, name, after, hsegments, rfl⟩, rfl⟩)
    · cases segment with
      | literal text => cases hkind
      | placeholder name => exact ⟨[], name, segments, rfl, rfl⟩
    · exact ⟨segment :: before, name, after, congrArg (segment :: ·) hsegments,
        utf8ByteSize_source_cons ..⟩

theorem strays_nil : strays ⟨[]⟩ = ∅ := by
  rw [strays, toList_source]
  show markers [] \ _ = ∅
  rw [markers_nil, Set.empty_sdiff]

theorem strays_literal {text : String} {segments : List Segment}
    (hnext : ∀ next ∈ segments.head?, (Segment.literal text).Separate next) :
    strays ⟨.literal text :: segments⟩ =
      markers text.toList ∪ (byteLength text.toList + ·) '' strays ⟨segments⟩ := by
  have hboundary : AtBoundary (sourceChars ⟨segments⟩) := by
    have := AtBoundary.append (.inl rfl) hnext
    rwa [List.append_nil] at this
  have hopenings : openings ⟨.literal text :: segments⟩ =
      (byteLength text.toList + ·) '' openings ⟨segments⟩ := by
    ext position
    simp [mem_openings_cons, Segment.isLiteral, Segment.chars]
  have hdisjoint : Disjoint (markers text.toList)
      ((byteLength text.toList + ·) '' openings ⟨segments⟩) := by
    rw [Set.disjoint_left]
    rintro position hmarker ⟨later, -, rfl⟩
    exact absurd (lt_of_mem_markers hmarker) (Nat.not_lt.2 (Nat.le_add_right _ _))
  rw [strays, toList_source, sourceChars_cons, Segment.chars,
    markers_append (hboundary.not_markerAtSeam _), hopenings, Set.union_sdiff_distrib,
    hdisjoint.sdiff_eq_left, ← Set.image_sdiff (add_right_injective _), strays, toList_source]

theorem strays_placeholder {name : String} (h : Name.isValid name.toList = true)
    (segments : List Segment) :
    strays ⟨.placeholder name :: segments⟩ =
      (byteLength (Segment.placeholder name).chars + ·) '' strays ⟨segments⟩ := by
  have hseam : ¬MarkerAtSeam (Segment.placeholder name).chars (sourceChars ⟨segments⟩) := by
    rintro ⟨hlast, -⟩
    rw [Segment.chars, List.getLast?_concat] at hlast
    cases hlast
  have hopenings : openings ⟨.placeholder name :: segments⟩ =
      {0} ∪ (byteLength (Segment.placeholder name).chars + ·) '' openings ⟨segments⟩ := by
    ext position
    simp [mem_openings_cons, Segment.isLiteral]
  have hzero : 0 ∉ (byteLength (Segment.placeholder name).chars + ·) ''
      markers (sourceChars ⟨segments⟩) := by
    rintro ⟨later, -, hsum⟩
    simp [byteLength_chars_placeholder] at hsum
  rw [strays, strays, Set.image_sdiff (add_right_injective _), toList_source, toList_source,
    sourceChars_cons, markers_append hseam, markers_placeholder h, hopenings, ← Set.sdiff_sdiff,
    Set.union_sdiff_left, Set.sdiff_singleton_eq_self hzero]

end Template

end Phrasebook
