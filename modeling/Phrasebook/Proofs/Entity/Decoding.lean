import Phrasebook.Proofs.Entity.Reference

/-!
# Decoding replaces exactly the references

`Occurrence text` is the set of places of a text at which a reference stands, wherever a scan may come from. `Reading text pieces` takes the text apart into kept characters and decoded references, in which every occurrence is decoded. The scan is compared with it through `scan_induction`: every text is empty, or opens with a character that begins no occurrence, or opens with a reference, and both the decoder and a reading are then determined by the rest.
-/

namespace Phrasebook.Entity

open Phrasebook.Text

/-- A place of `text` at which a reference stands. -/
@[ext] structure Occurrence (text : List Char) where
  before : List Char
  reference : List Char
  char : Char
  after : List Char
  isReference : IsReference reference char
  text_eq : text = before ++ (reference ++ after)

def Occurrence.start {text : List Char} (o : Occurrence text) : Nat := o.before.length

def Occurrence.stop {text : List Char} (o : Occurrence text) : Nat :=
  o.before.length + o.reference.length

/-- No reference stands at the very front of `text`. -/
def FreeAtFront (text : List Char) : Prop := ∀ o : Occurrence text, o.before ≠ []

/-- A part of a text as decoding sees it. -/
inductive Piece where
  | kept (c : Char)
  | decoded (reference : List Char) (c : Char)
deriving DecidableEq, Repr

def Piece.source : Piece → List Char
  | kept c => [c]
  | decoded reference _ => reference

def Piece.char : Piece → Char
  | kept c => c
  | decoded _ c => c

/-- The pieces make up the text in order, only references are decoded, and every occurrence of a reference is decoded where it stands. -/
structure Reading (text : List Char) (pieces : List Piece) : Prop where
  source_eq : pieces.flatMap Piece.source = text
  sound : ∀ reference c, .decoded reference c ∈ pieces → IsReference reference c
  complete : ∀ o : Occurrence text, ∃ left right,
    pieces = left ++ .decoded o.reference o.char :: right ∧ left.flatMap Piece.source = o.before

/-! ### Occurrences -/

variable {text reference rest : List Char} {c : Char} {piece : Piece} {pieces : List Piece}

theorem Occurrence.eq_or_stop_le {one other : Occurrence text} (h : one.start ≤ other.start) :
    one = other ∨ one.stop ≤ other.start := by
  have htext := one.text_eq.symm.trans other.text_eq
  have hone : one.before <+: text := ⟨_, one.text_eq.symm⟩
  have hother : other.before <+: text := ⟨_, other.text_eq.symm⟩
  obtain ⟨gap, hgap⟩ := List.prefix_of_prefix_length_le hone hother h
  rw [← hgap, List.append_assoc, List.append_cancel_left_eq] at htext
  obtain rfl | ⟨between, rfl, -⟩ := one.isReference.align other.isReference htext
  · obtain ⟨href, hchar, hafter⟩ := one.isReference.eq_of_append_eq other.isReference htext
    exact .inl (Occurrence.ext (by simpa using hgap) href hchar hafter)
  · refine .inr ?_
    rw [stop, start, ← hgap, List.length_append, List.length_append]
    omega

theorem Occurrence.eq_or_disjoint (one other : Occurrence text) :
    one = other ∨ one.stop ≤ other.start ∨ other.stop ≤ one.start := by
  rcases Nat.le_total one.start other.start with h | h
  · exact (eq_or_stop_le h).imp_right .inl
  · rcases eq_or_stop_le h with heq | hle
    · exact .inl heq.symm
    · exact .inr (.inr hle)

/-- Text put in front moves an occurrence. -/
def Occurrence.behind (front : List Char) (o : Occurrence rest) : Occurrence (front ++ rest) where
  before := front ++ o.before
  reference := o.reference
  char := o.char
  after := o.after
  isReference := o.isReference
  text_eq := by rw [List.append_assoc, ← o.text_eq]

/-- Text put behind leaves an occurrence where it is. -/
def Occurrence.ahead (o : Occurrence text) (back : List Char) : Occurrence (text ++ back) where
  before := o.before
  reference := o.reference
  char := o.char
  after := o.after ++ back
  isReference := o.isReference
  text_eq := by rw [← List.append_assoc o.reference, ← List.append_assoc, ← o.text_eq]

def Occurrence.atFront (h : IsReference reference c) (rest : List Char) :
    Occurrence (reference ++ rest) :=
  ⟨[], reference, c, rest, h, rfl⟩

theorem FreeAtFront.of_append (back : List Char) (h : FreeAtFront (text ++ back)) :
    FreeAtFront text :=
  fun o => h (o.ahead back)

theorem Occurrence.exists_of_free (hfree : FreeAtFront (c :: rest)) (o : Occurrence (c :: rest)) :
    ∃ o' : Occurrence rest, o = o'.behind [c] := by
  obtain ⟨before, reference, d, after, href, htext⟩ := o
  cases before with
  | nil => exact absurd rfl (hfree ⟨[], reference, d, after, href, htext⟩)
  | cons e before =>
    obtain ⟨rfl, rfl⟩ := List.cons.inj htext
    exact ⟨⟨before, reference, d, after, href, rfl⟩, rfl⟩

theorem Occurrence.exists_of_reference (h : IsReference reference c)
    (o : Occurrence (reference ++ rest)) :
    o = atFront h rest ∨ ∃ o' : Occurrence rest, o = o'.behind reference := by
  obtain ⟨before, other, d, after, hother, htext⟩ := o
  obtain rfl | ⟨between, rfl, rfl⟩ := h.align hother htext
  · obtain ⟨rfl, rfl, rfl⟩ := h.eq_of_append_eq hother htext
    exact .inl rfl
  · exact .inr ⟨⟨between, other, d, after, hother, rfl⟩, rfl⟩

/-! ### The scan -/

theorem FreeAtFront.reference?_eq_none (h : FreeAtFront ('&' :: rest)) :
    reference? rest = none := by
  by_contra hread
  obtain ⟨⟨c, after⟩, hread⟩ := Option.ne_none_iff_exists'.1 hread
  obtain ⟨reference, htext, href⟩ := reference?_eq_some_iff.1 hread
  exact h ⟨[], reference, c, after, href, htext⟩ rfl

theorem decodeChars_of_free (h : FreeAtFront (c :: rest)) :
    decodeChars (c :: rest) = c :: decodeChars rest := by
  by_cases hc : c = '&'
  · subst hc
    exact decodeChars_amp_of_none h.reference?_eq_none
  · exact decodeChars_cons_of_ne hc rest

theorem decodeChars_of_reference (h : IsReference reference c) (rest : List Char) :
    decodeChars (reference ++ rest) = c :: decodeChars rest := by
  obtain ⟨tail, rfl, -⟩ := h.exists_tail
  exact decodeChars_amp_of_some (reference?_eq_some_iff.2 ⟨_, rfl, h⟩)

/-- Every text is empty, or goes on behind a character that begins no reference, or goes on behind a reference. -/
theorem scan_induction {motive : List Char → Prop} (nil : motive [])
    (kept : ∀ c rest, FreeAtFront (c :: rest) → motive rest → motive (c :: rest))
    (decoded : ∀ reference c rest, IsReference reference c → motive rest →
      motive (reference ++ rest))
    (text : List Char) : motive text := by
  induction hn : text.length using Nat.strongRecOn generalizing text with
  | ind n ih =>
    subst hn
    by_cases hfree : FreeAtFront text
    · cases text with
      | nil => exact nil
      | cons c rest => exact kept c rest hfree (ih rest.length (by simp) rest rfl)
    · have hfront : ∃ o : Occurrence text, o.before = [] := by
        simpa [FreeAtFront] using hfree
      obtain ⟨⟨before, reference, c, rest, href, rfl⟩, rfl : before = []⟩ := hfront
      have hlength : rest.length < ([] ++ (reference ++ rest)).length := by
        have := List.length_pos_iff.2 href.ne_nil
        rw [List.nil_append, List.length_append]
        omega
      exact decoded reference c rest href (ih rest.length hlength rest rfl)

theorem Occurrence.mem_delimiters (o : Occurrence text) : '&' ∈ text ∧ ';' ∈ text := by
  obtain ⟨before, reference, c, after, ⟨body, rfl, -, -⟩, rfl⟩ := o
  simp

theorem decodeChars_of_isEmpty (h : IsEmpty (Occurrence text)) : decodeChars text = text := by
  induction text using scan_induction with
  | nil => exact decodeChars_nil
  | kept c rest hfree ih =>
    have hrest : IsEmpty (Occurrence rest) := ⟨fun o => h.elim (o.behind [c])⟩
    rw [decodeChars_of_free hfree, ih hrest]
  | decoded reference c rest href => exact h.elim (.atFront href rest)

theorem decodeChars_of_not_mem (h : '&' ∉ text) : decodeChars text = text :=
  decodeChars_of_isEmpty ⟨fun o => h o.mem_delimiters.1⟩

theorem decode_eq (text : String) : decode text = String.ofList (decodeChars text.toList) := by
  rw [decode]
  split
  · rfl
  · next hmem =>
    rw [List.contains_iff_mem] at hmem
    rw [decodeChars_of_not_mem hmem, String.ofList_toList]

/-- A reference is decoded wherever it stands, and the text before it and the text after it are decoded on their own. -/
theorem decodeChars_eq_of_occurrence (text : List Char) (o : Occurrence text) :
    decodeChars text = decodeChars o.before ++ o.char :: decodeChars o.after := by
  induction text using scan_induction with
  | nil => exact absurd o.text_eq (by simp [o.isReference.ne_nil])
  | kept c rest hfree ih =>
    obtain ⟨o, rfl⟩ := o.exists_of_free hfree
    have hfront : FreeAtFront (c :: o.before) := by
      refine FreeAtFront.of_append (o.reference ++ o.after) ?_
      rwa [List.cons_append, ← o.text_eq]
    rw [decodeChars_of_free hfree, ih o]
    exact congrArg (· ++ _) (decodeChars_of_free hfront).symm
  | decoded reference c rest href ih =>
    rw [decodeChars_of_reference href]
    obtain rfl | ⟨o, rfl⟩ := o.exists_of_reference href
    · simp [Occurrence.atFront]
    · rw [ih o]
      exact congrArg (· ++ _) (decodeChars_of_reference href o.before).symm

/-! ### Readings -/

theorem Reading.nil : Reading [] [] :=
  ⟨rfl, by simp, fun o => absurd o.text_eq (by simp [o.isReference.ne_nil])⟩

theorem Reading.kept (hfree : FreeAtFront (c :: rest)) (h : Reading rest pieces) :
    Reading (c :: rest) (.kept c :: pieces) where
  source_eq := congrArg (c :: ·) h.source_eq
  sound reference d hmem := h.sound reference d (by simpa using hmem)
  complete o := by
    obtain ⟨o, rfl⟩ := o.exists_of_free hfree
    obtain ⟨left, right, hpieces, hleft⟩ := h.complete o
    exact ⟨.kept c :: left, right, congrArg _ hpieces, congrArg (c :: ·) hleft⟩

theorem Reading.decoded (href : IsReference reference c) (h : Reading rest pieces) :
    Reading (reference ++ rest) (.decoded reference c :: pieces) where
  source_eq := congrArg (reference ++ ·) h.source_eq
  sound other d hmem := by
    obtain heq | hmem := List.mem_cons.1 hmem
    · obtain ⟨rfl, rfl⟩ := Piece.decoded.inj heq
      exact href
    · exact h.sound other d hmem
  complete o := by
    obtain rfl | ⟨o, rfl⟩ := o.exists_of_reference href
    · exact ⟨[], pieces, rfl, rfl⟩
    · obtain ⟨left, right, hpieces, hleft⟩ := h.complete o
      exact ⟨.decoded reference c :: left, right, congrArg _ hpieces,
        congrArg (reference ++ ·) hleft⟩

theorem exists_reading (text : List Char) :
    ∃ pieces, Reading text pieces ∧ decodeChars text = pieces.map Piece.char := by
  induction text using scan_induction with
  | nil => exact ⟨[], .nil, decodeChars_nil⟩
  | kept c rest hfree ih =>
    obtain ⟨pieces, hreading, hdecode⟩ := ih
    refine ⟨.kept c :: pieces, hreading.kept hfree, ?_⟩
    rw [decodeChars_of_free hfree, hdecode]
    rfl
  | decoded reference c rest href ih =>
    obtain ⟨pieces, hreading, hdecode⟩ := ih
    refine ⟨.decoded reference c :: pieces, hreading.decoded href, ?_⟩
    rw [decodeChars_of_reference href, hdecode]
    rfl

theorem Reading.source_ne_nil (h : Reading text pieces) (hmem : piece ∈ pieces) :
    piece.source ≠ [] := by
  cases piece with
  | kept => exact List.cons_ne_nil _ _
  | decoded reference c => exact (h.sound reference c hmem).ne_nil

theorem Reading.eq_nil (h : Reading [] pieces) : pieces = [] := by
  rw [List.eq_nil_iff_forall_not_mem]
  intro piece hmem
  exact h.source_ne_nil hmem (List.flatMap_eq_nil_iff.1 h.source_eq piece hmem)

theorem Reading.tail (piece : Piece) (h : Reading (piece.source ++ rest) (piece :: pieces)) :
    Reading rest pieces where
  source_eq := List.append_cancel_left h.source_eq
  sound reference c hmem := h.sound reference c (List.mem_cons_of_mem _ hmem)
  complete o := by
    obtain ⟨left, right, hpieces, hleft⟩ := h.complete (o.behind piece.source)
    cases left with
    | nil =>
      have hsource : piece.source ++ o.before = [] := hleft.symm
      exact absurd (List.append_eq_nil_iff.1 hsource).1 (h.source_ne_nil List.mem_cons_self)
    | cons first left =>
      obtain ⟨rfl, htail⟩ := List.cons.inj hpieces
      exact ⟨left, right, htail, List.append_cancel_left hleft⟩

theorem Reading.exists_of_reference (href : IsReference reference c)
    (h : Reading (reference ++ rest) pieces) :
    ∃ others, pieces = .decoded reference c :: others ∧ Reading rest others := by
  obtain ⟨left, right, rfl, hleft⟩ := h.complete (.atFront href rest)
  cases left with
  | nil => exact ⟨right, rfl, h.tail (.decoded reference c)⟩
  | cons first left =>
    have hfirst : first.source ++ left.flatMap Piece.source = [] := hleft
    exact absurd (List.append_eq_nil_iff.1 hfirst).1 (h.source_ne_nil List.mem_cons_self)

theorem Reading.exists_of_free (hfree : FreeAtFront (c :: rest)) (h : Reading (c :: rest) pieces) :
    ∃ others, pieces = .kept c :: others ∧ Reading rest others := by
  cases pieces with
  | nil => exact absurd h.source_eq (by simp)
  | cons piece others =>
    have hsource : piece.source ++ others.flatMap Piece.source = c :: rest := h.source_eq
    cases piece with
    | kept d =>
      obtain ⟨rfl, -⟩ := List.cons.inj hsource
      exact ⟨others, rfl, h.tail (.kept _)⟩
    | decoded reference d =>
      have href := h.sound reference d List.mem_cons_self
      exact absurd rfl (hfree ⟨[], reference, d, _, href, hsource.symm⟩)

/-- A text has one reading only. -/
theorem Reading.unique {others : List Piece} (h : Reading text pieces) (h' : Reading text others) :
    others = pieces := by
  induction text using scan_induction generalizing pieces others with
  | nil => rw [h.eq_nil, h'.eq_nil]
  | kept c rest hfree ih =>
    obtain ⟨pieces, rfl, hrest⟩ := h.exists_of_free hfree
    obtain ⟨others, rfl, hrest'⟩ := h'.exists_of_free hfree
    rw [ih hrest hrest']
  | decoded reference c rest href ih =>
    obtain ⟨pieces, rfl, hrest⟩ := h.exists_of_reference href
    obtain ⟨others, rfl, hrest'⟩ := h'.exists_of_reference href
    rw [ih hrest hrest']

/-- Decoding replaces every occurrence of a reference by its character and keeps the rest: occurrences never overlap, so that there is one way to do it; what stands around an occurrence is decoded on its own; and not scanning a text without an ampersand changes nothing. -/
theorem decode_replaces_references (text : String) :
    (∀ one other : Occurrence text.toList,
      one = other ∨ one.stop ≤ other.start ∨ other.stop ≤ one.start) ∧
    (∃ pieces, Reading text.toList pieces ∧
      (∀ others, Reading text.toList others → others = pieces) ∧
      (decode text).toList = pieces.map Piece.char) ∧
    (∀ o : Occurrence text.toList, (decode text).toList =
      (decode (String.ofList o.before)).toList ++
        o.char :: (decode (String.ofList o.after)).toList) ∧
    decode text = String.ofList (decodeChars text.toList) := by
  refine ⟨Occurrence.eq_or_disjoint, ?_, ?_, decode_eq text⟩
  · obtain ⟨pieces, hreading, hdecode⟩ := exists_reading text.toList
    refine ⟨pieces, hreading, fun others => hreading.unique, ?_⟩
    rw [decode_eq, String.toList_ofList, hdecode]
  · intro o
    simp only [decode_eq, String.toList_ofList]
    exact decodeChars_eq_of_occurrence text.toList o

end Phrasebook.Entity
