import Phrasebook.Proofs.Entity.Decoding
import Mathlib.Data.List.Basic

/-!
# Decoding a text in parts

Where a text may be cut so that its parts can be decoded one by one. `Straddles left right` says that a reference begins in one text and ends in the other, and this is all that a cut can spoil. Without it every piece that the scan of the whole text takes lies on one side of the seam. With it the two results differ in length: the whole text has one character for that reference, but neither part has both its ampersand and its semicolon, so all of its characters are kept.
-/

namespace Phrasebook.Entity

variable {left right front back rest : List Char} {c : Char}

/-- The end of one text and the beginning of another make up a reference. -/
def Straddles (left right : List Char) : Prop :=
  ∃ front back c, front <:+ left ∧ back <+: right ∧ front ≠ [] ∧ back ≠ [] ∧
    IsReference (front ++ back) c

theorem IsReference.exists_parts (h : IsReference (front ++ back) c) (hfront : front ≠ [])
    (hback : back ≠ []) :
    ∃ opening closing, front = '&' :: opening ∧ back = closing ++ [';'] ∧
      '&' ∉ opening ++ closing ∧ ';' ∉ opening ++ closing := by
  obtain ⟨body, htext, -, hdenotes⟩ := h
  obtain ⟨d, opening, rfl⟩ := List.exists_cons_of_ne_nil hfront
  obtain ⟨rfl, htail⟩ := List.cons.inj htext
  obtain rfl | ⟨closing, e, rfl⟩ := List.eq_nil_or_concat' back
  · exact absurd rfl hback
  · rw [List.append_eq, ← List.append_assoc] at htail
    obtain ⟨rfl, hlast⟩ := List.append_inj' htail rfl
    exact ⟨opening, closing, rfl, congrArg _ hlast, hdenotes.not_mem⟩

/-! ### Seams without a reference across them -/

theorem Straddles.of_suffix (h : Straddles rest right) (hsuffix : rest <:+ left) :
    Straddles left right := by
  obtain ⟨front, back, c, hfront, hstraddles⟩ := h
  exact ⟨front, back, c, hfront.trans hsuffix, hstraddles⟩

theorem Straddles.amp_mem (h : Straddles left right) : '&' ∈ left := by
  obtain ⟨front, back, c, hsuffix, -, hfront, hback, href⟩ := h
  obtain ⟨opening, closing, rfl, -⟩ := href.exists_parts hfront hback
  exact hsuffix.mem List.mem_cons_self

theorem Straddles.semicolon_mem (h : Straddles left right) : ';' ∈ right := by
  obtain ⟨front, back, c, -, hprefix, hfront, hback, href⟩ := h
  obtain ⟨opening, closing, -, rfl, -⟩ := href.exists_parts hfront hback
  exact hprefix.mem (List.mem_append_right closing List.mem_cons_self)

theorem FreeAtFront.append (hfree : FreeAtFront (c :: rest))
    (h : ¬Straddles (c :: rest) right) : FreeAtFront (c :: rest ++ right) := by
  rintro ⟨before, reference, d, after, href, htext⟩ hbefore
  obtain rfl : before = [] := hbefore
  rw [List.nil_append] at htext
  obtain ⟨back, rfl, hright⟩ | ⟨gap, hleft, -⟩ := List.append_eq_append_iff.1 htext
  · by_cases hback : back = []
    · subst hback
      exact hfree ⟨[], c :: rest ++ [], d, [], href, by simp⟩ rfl
    · exact h ⟨c :: rest, back, d, List.suffix_refl _, ⟨after, hright.symm⟩,
        List.cons_ne_nil c rest, hback, href⟩
  · exact hfree ⟨[], reference, d, gap, href, hleft⟩ rfl

theorem decodeChars_append (h : ¬Straddles left right) :
    decodeChars (left ++ right) = decodeChars left ++ decodeChars right := by
  induction left using scan_induction with
  | nil => rw [decodeChars_nil, List.nil_append, List.nil_append]
  | kept c rest hfree ih =>
    have hrest : ¬Straddles rest right :=
      fun hstraddles => h (hstraddles.of_suffix (List.suffix_cons c rest))
    have hwhole : decodeChars (c :: (rest ++ right)) = c :: decodeChars (rest ++ right) :=
      decodeChars_of_free (hfree.append h)
    rw [List.cons_append, hwhole, ih hrest, decodeChars_of_free hfree, List.cons_append]
  | decoded reference c rest href ih =>
    have hrest : ¬Straddles rest right :=
      fun hstraddles => h (hstraddles.of_suffix (List.suffix_append reference rest))
    rw [List.append_assoc, decodeChars_of_reference href, ih hrest,
      decodeChars_of_reference href, List.cons_append]

/-! ### A reference across the seam -/

/-- Decoded as a whole, the reference becomes one character; decoded in parts, it is kept. -/
theorem length_decodeChars_append_lt (h : Straddles left right) :
    (decodeChars (left ++ right)).length <
      (decodeChars left ++ decodeChars right).length := by
  obtain ⟨front, back, c, ⟨before, rfl⟩, ⟨after, rfl⟩, hfront, hback, href⟩ := h
  obtain ⟨opening, closing, rfl, rfl, hamp, hsemicolon⟩ := href.exists_parts hfront hback
  have hsemicolon' : ';' ∉ '&' :: opening := by
    rw [List.mem_append, not_or] at hsemicolon
    simp [hsemicolon.1]
  have hamp' : '&' ∉ closing ++ [';'] := by
    rw [List.mem_append, not_or] at hamp
    simp [hamp.2]
  have hleft : decodeChars (before ++ '&' :: opening) = decodeChars before ++ '&' :: opening := by
    rw [decodeChars_append fun hstraddles => hsemicolon' hstraddles.semicolon_mem,
      decodeChars_of_isEmpty ⟨fun o => hsemicolon' o.mem_delimiters.2⟩]
  have hright : decodeChars (closing ++ [';'] ++ after) =
      closing ++ [';'] ++ decodeChars after := by
    rw [decodeChars_append fun hstraddles => hamp' hstraddles.amp_mem,
      decodeChars_of_not_mem hamp']
  have hwhole : decodeChars (before ++ '&' :: opening ++ (closing ++ [';'] ++ after)) =
      decodeChars before ++ c :: decodeChars after :=
    decodeChars_eq_of_occurrence _
      ⟨before, '&' :: opening ++ (closing ++ [';']), c, after, href, by simp⟩
  rw [hleft, hright, hwhole]
  simp only [List.length_append, List.length_cons, List.length_nil]
  omega

/-- Decoding a text in two parts gives what decoding the whole gives exactly if no reference lies across the seam. -/
theorem decode_append_iff (left right : String) :
    decode (left ++ right) = decode left ++ decode right ↔
      ¬Straddles left.toList right.toList := by
  rw [decode_eq, decode_eq, decode_eq, ← String.ofList_append, String.ofList_inj,
    String.toList_append]
  refine ⟨fun heq hstraddles => ?_, decodeChars_append⟩
  have hlt := length_decodeChars_append_lt hstraddles
  rw [heq] at hlt
  exact Nat.lt_irrefl _ hlt

example : decode ("&am" ++ "p;") = "&" ∧ decode "&am" ++ decode "p;" = "&amp;" := by
  decide +kernel

end Phrasebook.Entity
