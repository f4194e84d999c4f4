import Phrasebook.Proofs.Basic
import Phrasebook.Template
import Mathlib.Data.List.Chain
import Mathlib.Data.List.Infix
import Mathlib.Data.Set.Function

/-!
# Reading undoes writing

A text can be read exactly if it is the written form of a normal template, and what is read is that template. The scan is followed one segment at a time: `scan_text` and `scan_placeholder` say what it does with one literal text and with one placeholder, `scan_segments` with a whole normal template in front of any marker or of nothing, and `normal_of_scan` goes back from what was read to the text.

A text must be free of the marker of a placeholder to be read back as a literal. `markerAt?_eq_none_iff` says it without the search, and `markerAt?_append_eq_none_iff` says where a marker can come from when texts are joined: from one of them, or from the seam between an opening brace and a dollar sign.
-/

namespace Phrasebook

/-! ### Texts without markers -/

/-- The two characters of the marker meet where one text follows another. -/
def MarkerAtSeam (left right : List Char) : Prop :=
  left.getLast? = some '{' ∧ right.head? = some '$'

instance (left right : List Char) : Decidable (MarkerAtSeam left right) :=
  inferInstanceAs (Decidable (_ ∧ _))

theorem MarkerAtSeam.extend {left right : List Char} (h : MarkerAtSeam left right)
    (before after : List Char) : MarkerAtSeam (before ++ left) (right ++ after) := by
  obtain ⟨hleft, hright⟩ := h
  refine ⟨?_, ?_⟩
  · rw [List.getLast?_append, hleft]
    rfl
  · rw [List.head?_append, hright]
    rfl

theorem markerAt?_marker (rest : List Char) : markerAt? ('{' :: '$' :: rest) = some 0 := by
  rw [markerAt?]

theorem markerAt?_cons_of_not {c : Char} {rest : List Char}
    (h : ¬(c = '{' ∧ rest.head? = some '$')) :
    markerAt? (c :: rest) = (markerAt? rest).map (c.utf8Size + ·) := by
  rw [markerAt?]
  rintro tail rfl rfl
  exact h ⟨rfl, rfl⟩

theorem markerAt?_cons_eq_none_iff {c : Char} {rest : List Char} :
    markerAt? (c :: rest) = none ↔ ¬(c = '{' ∧ rest.head? = some '$') ∧ markerAt? rest = none := by
  by_cases h : c = '{' ∧ rest.head? = some '$'
  · obtain ⟨rfl, hrest⟩ := h
    obtain ⟨tail, rfl⟩ := List.head?_eq_some_iff.1 hrest
    simp [markerAt?_marker]
  · rw [markerAt?_cons_of_not h, Option.map_eq_none_iff]
    exact (and_iff_right h).symm

/-- Joined texts are free of markers if each of them is and no marker arises at their seam. -/
theorem markerAt?_append_eq_none_iff {left right : List Char} :
    markerAt? (left ++ right) = none ↔
      markerAt? left = none ∧ markerAt? right = none ∧ ¬MarkerAtSeam left right := by
  induction left with
  | nil => simp [MarkerAtSeam, markerAt?]
  | cons c left ih =>
    rw [List.cons_append, markerAt?_cons_eq_none_iff, markerAt?_cons_eq_none_iff, ih]
    cases left with
    | nil => simp [MarkerAtSeam, markerAt?]; tauto
    | cons d left => simp [MarkerAtSeam]; tauto

theorem markerAt?_append_of_some {left : List Char} {index : Nat}
    (h : markerAt? left = some index) (right : List Char) :
    markerAt? (left ++ right) = some index := by
  induction left generalizing index with
  | nil => simp [markerAt?] at h
  | cons c left ih =>
    by_cases hopen : c = '{' ∧ left.head? = some '$'
    · obtain ⟨rfl, hleft⟩ := hopen
      obtain ⟨tail, rfl⟩ := List.head?_eq_some_iff.1 hleft
      rwa [markerAt?_marker] at h
    · rw [markerAt?_cons_of_not hopen] at h
      obtain ⟨later, hlater, rfl⟩ := Option.map_eq_some_iff.1 h
      have hclosed : ¬(c = '{' ∧ (left ++ right).head? = some '$') := by
        cases left with
        | nil => simp [markerAt?] at hlater
        | cons d left => exact hopen
      rw [List.cons_append, markerAt?_cons_of_not hclosed, ih hlater, Option.map_some]

theorem markerAt?_eq_none_iff {text : List Char} :
    markerAt? text = none ↔ ¬['{', '$'] <:+: text := by
  induction text with
  | nil => simp [markerAt?]
  | cons c rest ih =>
    rw [markerAt?_cons_eq_none_iff, ih, List.infix_cons_iff, not_or]
    have hfront : ['{', '$'] <+: c :: rest ↔ c = '{' ∧ rest.head? = some '$' := by
      cases rest <;> simp [List.cons_prefix_cons, eq_comm]
    rw [hfront]

open Text

/-! ### Normal templates, one segment at a time -/

/-- Whether a segment is literal text. -/
def Segment.isLiteral : Segment → Bool
  | literal _ => true
  | placeholder _ => false

/-- Neighbours that are not both literal text. -/
def Segment.Separate (left right : Segment) : Prop :=
  ¬(left.isLiteral = true ∧ right.isLiteral = true)

theorem Segment.areSeparate_iff {segments : List Segment} :
    areSeparate segments = true ↔ segments.IsChain Separate := by
  fun_induction areSeparate segments with
  | case1 text other tail => simp [Separate, isLiteral]
  | case2 head rest h ih =>
    rw [ih, List.isChain_cons]
    refine (and_iff_right fun next hnext => ?_).symm
    rintro ⟨hhead, hliteral⟩
    obtain ⟨tail, rfl⟩ := List.head?_eq_some_iff.1 hnext
    cases head <;> cases next <;> simp_all [isLiteral]
  | case3 => simp

theorem Segment.isNormal_literal_iff {text : String} :
    (literal text).isNormal = true ↔ text ≠ "" ∧ markerAt? text.toList = none := by
  rw [isNormal, Bool.and_eq_true, bne_iff_ne, Option.isNone_iff_eq_none]

theorem Template.normal_nil : Normal ⟨[]⟩ := by
  simp [Normal, Segment.areSeparate]

theorem Template.normal_cons {segment : Segment} {segments : List Segment} :
    Normal ⟨segment :: segments⟩ ↔
      segment.isNormal = true ∧ (∀ next ∈ segments.head?, segment.Separate next) ∧
        Normal ⟨segments⟩ := by
  unfold Normal
  rw [Segment.areSeparate_iff, Segment.areSeparate_iff, List.isChain_cons, List.all_cons,
    Bool.and_eq_true]
  tauto

theorem Template.normal_iff {template : Template} :
    template.Normal ↔
      (∀ text, .literal text ∈ template.segments → text ≠ "" ∧ ¬['{', '$'] <:+: text.toList) ∧
      (∀ name, .placeholder name ∈ template.segments → Name.isValid name.toList = true) ∧
      template.segments.IsChain Segment.Separate := by
  rw [Normal, Segment.areSeparate_iff, List.all_eq_true, ← and_assoc]
  refine and_congr_left' ⟨fun h => ⟨fun text htext => ?_, fun name hname => h _ hname⟩,
    fun ⟨hliteral, hplaceholder⟩ segment hsegment => ?_⟩
  · rw [← markerAt?_eq_none_iff, ← Segment.isNormal_literal_iff]
    exact h _ htext
  · cases segment with
    | literal text =>
      rw [Segment.isNormal_literal_iff, markerAt?_eq_none_iff]
      exact hliteral text hsegment
    | placeholder name => exact hplaceholder name hsegment

theorem Name.not_mem_of_isValid {mark : Char} (hmark : isContinue mark = false) {name : List Char}
    (h : isValid name = true) : mark ∉ name := by
  intro hmem
  cases name with
  | nil => simp at hmem
  | cons c rest =>
    rw [isValid, Bool.and_eq_true, List.all_eq_true] at h
    rcases List.mem_cons.1 hmem with rfl | hrest
    · simp [isContinue, Char.isAlphanum] at hmark
      simp [isStart, hmark] at h
    · simp [h.2 mark hrest] at hmark

namespace Template

/-! ### The scan, one segment at a time -/

@[simp] theorem consLiteral_nil (segments : List Segment) : consLiteral [] segments = segments := by
  simp [consLiteral]

theorem consLiteral_of_ne_nil {literal : List Char} (h : literal ≠ []) (segments : List Segment) :
    consLiteral literal segments = .literal (String.ofList literal.reverse) :: segments := by
  simp [consLiteral, h]

@[simp] theorem flatMap_chars_consLiteral (literal : List Char) (segments : List Segment) :
    (consLiteral literal segments).flatMap Segment.chars =
      literal.reverse ++ segments.flatMap Segment.chars := by
  unfold consLiteral
  split
  · simp_all
  · simp [Segment.chars]

theorem scan_nil (position : Nat) (literal : List Char) :
    scan position literal [] = .ok (consLiteral literal []) := by
  rw [scan]

theorem scan_cons {c : Char} {rest : List Char} (h : ¬(c = '{' ∧ rest.head? = some '$'))
    (position : Nat) (literal : List Char) :
    scan position literal (c :: rest) = scan (position + c.utf8Size) (c :: literal) rest := by
  rw [scan]
  rintro tail rfl rfl
  exact h ⟨rfl, rfl⟩

theorem scan_placeholder {name : List Char} (h : Name.isValid name = true)
    (position : Nat) (literal rest : List Char) :
    scan position literal ('{' :: '$' :: name ++ '}' :: rest) =
      (fun segments => consLiteral literal (.placeholder (String.ofList name) :: segments)) <$>
        scan (position + byteLength name + 3) [] rest := by
  have hcut : cut? '}' (name ++ '}' :: rest) = some (name, rest) :=
    cut?_append_cons (Name.not_mem_of_isValid rfl h) rest
  rw [List.cons_append, List.cons_append, scan]
  split
  · simp_all
  · next name' after heq =>
    obtain ⟨rfl, rfl⟩ := Prod.mk.inj (Option.some.inj (hcut.symm.trans heq))
    rw [if_pos h, bind_pure_comp]

theorem scan_text {text rest : List Char} (hmarker : markerAt? text = none)
    (hseam : ¬MarkerAtSeam text rest) (position : Nat) (literal : List Char) :
    scan position literal (text ++ rest) =
      scan (position + byteLength text) (text.reverse ++ literal) rest := by
  induction text generalizing position literal with
  | nil => simp
  | cons c text ih =>
    rw [markerAt?_cons_eq_none_iff] at hmarker
    have hopen : ¬(c = '{' ∧ (text ++ rest).head? = some '$') := by
      cases text with
      | nil => simpa [MarkerAtSeam] using hseam
      | cons d text => simpa using hmarker.1
    have hseam' : ¬MarkerAtSeam text rest := by
      cases text with
      | nil => simp [MarkerAtSeam]
      | cons d text => simpa [MarkerAtSeam] using hseam
    rw [List.cons_append, scan_cons hopen, ih hmarker.2 hseam', byteLength_cons,
      List.reverse_cons, List.append_assoc, Nat.add_assoc]
    rfl

/-- Where literal text can end: at a marker, or with the source. -/
def AtBoundary (rest : List Char) : Prop :=
  rest = [] ∨ ['{', '$'] <+: rest

theorem AtBoundary.not_markerAtSeam {rest : List Char} (h : AtBoundary rest) (text : List Char) :
    ¬MarkerAtSeam text rest := by
  rintro ⟨-, hrest⟩
  rcases h with rfl | ⟨tail, rfl⟩
  · simp at hrest
  · simp at hrest

theorem AtBoundary.append {segments : List Segment} {rest : List Char} (h : AtBoundary rest)
    {text : String} (hnext : ∀ next ∈ segments.head?, (Segment.literal text).Separate next) :
    AtBoundary (segments.flatMap Segment.chars ++ rest) := by
  match segments with
  | [] => exact h
  | .placeholder name :: tail => exact .inr ⟨_, rfl⟩
  | .literal other :: tail => exact absurd ⟨rfl, rfl⟩ (hnext _ rfl)

theorem scan_of_atBoundary {rest : List Char} (h : AtBoundary rest) (position : Nat)
    (literal : List Char) :
    scan position literal rest = consLiteral literal <$> scan position [] rest := by
  rcases h with rfl | ⟨tail, rfl⟩
  · rw [scan_nil, scan_nil]
    rfl
  · rw [List.cons_append, List.cons_append, List.nil_append, scan, scan]
    split
    · rfl
    · next name after hcut =>
      split
      · rw [bind_pure_comp, bind_pure_comp, Functor.map_map]
        simp only [consLiteral_nil]
      · rfl

theorem byteLength_chars_placeholder (name : String) :
    byteLength (Segment.placeholder name).chars = byteLength name.toList + 3 := by
  simp only [Segment.chars, byteLength_append, byteLength_cons, byteLength_nil]
  have : '{'.utf8Size = 1 ∧ '$'.utf8Size = 1 ∧ '}'.utf8Size = 1 := by decide
  omega

/-- The scan reads a normal template back and goes on at the boundary behind it. -/
theorem scan_segments {segments : List Segment} (hnormal : Normal ⟨segments⟩) {rest : List Char}
    (hrest : AtBoundary rest) (position : Nat) :
    scan position [] (segments.flatMap Segment.chars ++ rest) =
      (segments ++ ·) <$>
        scan (position + byteLength (segments.flatMap Segment.chars)) [] rest := by
  induction segments generalizing position with
  | nil => simp
  | cons segment segments ih =>
    obtain ⟨hsegment, hseparate, htail⟩ := normal_cons.1 hnormal
    rw [List.flatMap_cons, List.append_assoc, byteLength_append, ← Nat.add_assoc]
    cases segment with
    | placeholder name =>
      have hchars : ∀ tail, (Segment.placeholder name).chars ++ tail =
          '{' :: '$' :: name.toList ++ '}' :: tail := fun tail => by simp [Segment.chars]
      rw [byteLength_chars_placeholder, hchars, scan_placeholder hsegment, ih htail, Functor.map_map,
        Nat.add_assoc position]
      simp only [consLiteral_nil, String.ofList_toList, List.cons_append]
    | literal text =>
      have hboundary := hrest.append hseparate
      rw [Segment.isNormal_literal_iff] at hsegment
      have hheld : text.toList.reverse ≠ [] := by simpa using hsegment.1
      rw [Segment.chars, scan_text hsegment.2 (hboundary.not_markerAtSeam _),
        scan_of_atBoundary hboundary, ih htail, Functor.map_map]
      simp only [List.append_nil, consLiteral_of_ne_nil hheld, List.reverse_reverse,
        String.ofList_toList, List.cons_append]

/-! ### From what is read back to the text -/

theorem normal_consLiteral {literal : List Char} {segments : List Segment}
    (hmarker : markerAt? literal.reverse = none)
    (hhead : ∀ next ∈ segments.head?, next.isLiteral = false) (h : Normal ⟨segments⟩) :
    Normal ⟨consLiteral literal segments⟩ := by
  by_cases hliteral : literal = []
  · rwa [hliteral, consLiteral_nil]
  · rw [consLiteral_of_ne_nil hliteral, normal_cons]
    refine ⟨?_, fun next hnext hboth => ?_, h⟩
    · simp [Segment.isNormal, hmarker, hliteral]
    · exact absurd hboth.2 (by simp [hhead next hnext])

theorem markerAt?_hold {c : Char} {literal rest : List Char}
    (hmarker : markerAt? literal.reverse = none)
    (hseam : ¬MarkerAtSeam literal.reverse (c :: rest))
    (hopen : ∀ tail, c = '{' → rest = '$' :: tail → False) :
    markerAt? (c :: literal).reverse = none ∧ ¬MarkerAtSeam (c :: literal).reverse rest := by
  rw [List.reverse_cons]
  refine ⟨markerAt?_append_eq_none_iff.2 ⟨hmarker, by simp [markerAt?], fun hmeet => ?_⟩, ?_⟩
  · exact hseam ⟨hmeet.1, by simpa using hmeet.2⟩
  · rintro ⟨hc, hrest⟩
    obtain ⟨tail, rfl⟩ := List.head?_eq_some_iff.1 hrest
    exact hopen tail (by simpa using hc) rfl

/-- What the scan reads is a normal template that spells out the text held back and the text ahead. The text held back never holds a marker, and none arises where the text ahead follows it. -/
theorem normal_of_scan {position : Nat} {literal text : List Char} {segments : List Segment}
    (h : scan position literal text = .ok segments) (hmarker : markerAt? literal.reverse = none)
    (hseam : ¬MarkerAtSeam literal.reverse text) :
    Normal ⟨segments⟩ ∧ segments.flatMap Segment.chars = literal.reverse ++ text := by
  fun_induction scan position literal text generalizing segments with
  | case1 position literal rest hcut => simp at h
  | case2 position literal rest name after hcut hvalid ih =>
    rw [bind_pure_comp] at h
    obtain ⟨tail, htail, rfl⟩ := map_eq_ok_iff.1 h
    obtain ⟨hnormal, hchars⟩ := ih htail (by simp [markerAt?]) (by simp [MarkerAtSeam])
    obtain ⟨hrest, -⟩ := cut?_eq_some_iff.1 hcut
    refine ⟨normal_consLiteral hmarker (by simp [Segment.isLiteral]) ?_, ?_⟩
    · exact normal_cons.2 ⟨by simpa [Segment.isNormal] using hvalid,
        by simp [Segment.Separate, Segment.isLiteral], hnormal⟩
    · rw [flatMap_chars_consLiteral, List.flatMap_cons, hchars, hrest]
      simp [Segment.chars]
  | case3 position literal rest name after hcut hvalid => simp at h
  | case4 position literal c rest hopen ih =>
    obtain ⟨hclear, hmoved⟩ := markerAt?_hold hmarker hseam hopen
    obtain ⟨hnormal, hchars⟩ := ih h hclear hmoved
    exact ⟨hnormal, by simpa using hchars⟩
  | case5 position literal =>
    obtain rfl := Except.ok.inj h
    exact ⟨normal_consLiteral hmarker (by simp) normal_nil, by simp⟩

/-! ### Templates -/

theorem normal_of_parse {source : String} {template : Template}
    (h : parse source = .ok template) : template.Normal ∧ template.source = source := by
  rw [parse, bind_pure_comp] at h
  obtain ⟨segments, hscan, rfl⟩ := map_eq_ok_iff.1 h
  obtain ⟨hnormal, hchars⟩ := normal_of_scan hscan (by simp [markerAt?]) (by simp [MarkerAtSeam])
  refine ⟨hnormal, ?_⟩
  rw [Template.source, sourceChars, hchars]
  simp

/-- A normal template is read back from its written form. -/
theorem parse_source {template : Template} (h : template.Normal) :
    parse template.source = .ok template := by
  have hscan := scan_segments h (.inl rfl) 0
  rw [List.append_nil, scan_nil] at hscan
  rw [parse, Template.source, String.toList_ofList, sourceChars, hscan]
  simp

theorem parse_placeholder {name : String} (h : Name.isValid name.toList = true) :
    parse ("\x7b$" ++ name ++ "\x7d") = .ok ⟨[.placeholder name]⟩ := by
  have hnormal : Normal ⟨[.placeholder name]⟩ :=
    normal_cons.2 ⟨by simpa [Segment.isNormal] using h, by simp, normal_nil⟩
  have hsource : (⟨[.placeholder name]⟩ : Template).source = "\x7b$" ++ name ++ "\x7d" := by
    apply String.toList_injective
    simp [Template.source, sourceChars, Segment.chars]
  rw [← hsource]
  exact parse_source hnormal

/-- What can be read are the written forms of normal templates. A text is read as a template exactly if the template is normal and the text is its written form, so the readable texts are the image of the normal templates under writing, and no text is the written form of two of them. -/
theorem parse_eq_ok_iff :
    (∀ template : Template, template.Normal ↔
      (∀ text, .literal text ∈ template.segments → text ≠ "" ∧ ¬['{', '$'] <:+: text.toList) ∧
      (∀ name, .placeholder name ∈ template.segments → Name.isValid name.toList = true) ∧
      template.segments.IsChain Segment.Separate) ∧
    (∀ source template,
      parse source = .ok template ↔ template.Normal ∧ template.source = source) ∧
    {source | ∃ template, parse source = .ok template} =
      Template.source '' {template | template.Normal} ∧
    Set.InjOn Template.source {template | template.Normal} := by
  have hiff : ∀ source template,
      parse source = .ok template ↔ template.Normal ∧ template.source = source := by
    intro source template
    constructor
    · exact normal_of_parse
    · rintro ⟨hnormal, rfl⟩
      exact parse_source hnormal
  refine ⟨fun template => normal_iff, hiff, ?_, ?_⟩
  · ext source
    simp only [Set.mem_ofPred_eq, Set.mem_image, hiff]
  · intro left hleft right hright hsource
    have hread : parse left.source = .ok right := by
      rw [hsource]
      exact parse_source hright
    exact Except.ok.inj ((parse_source hleft).symm.trans hread)

end Template

end Phrasebook
