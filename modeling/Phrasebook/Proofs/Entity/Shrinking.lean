import Phrasebook.Proofs.Entity.Decoding
import Phrasebook.Proofs.Text.Bytes
import Mathlib.Logic.Function.Iterate

/-!
# Decoding shrinks a text

A reference takes more bytes than the character it stands for: it has four at least, no character has more than four, and the references of four bytes stand for characters of ASCII. So decoding a text makes it shorter exactly if a reference stands in it, and otherwise leaves it as it is. Decoding may put new references together, and then a second pass shortens the text again; since each pass that changes a text shortens it, no text bears more of them than it has bytes.
-/

namespace Phrasebook.Entity

open Phrasebook.Text

variable {text body reference : List Char} {c : Char}

/-! ### References are longer than their characters -/

theorem Denotes.utf8Size_lt (h : Denotes body c) : c.utf8Size < byteLength body + 2 := by
  -- The ampersand and the semicolon make up for what a body may lack.
  have hnames : ∀ entry ∈ names, entry.2.utf8Size < byteLength entry.1.toList + 2 := by decide
  have hfour := c.utf8Size_le_four
  cases h with
  | named mem => exact hnames _ mem
  | @decimal digits _ numeral =>
    have hhash : byteLength ('#' :: digits) = 1 + byteLength digits := rfl
    have hlength := length_le_byteLength digits
    have hpos := List.length_pos_iff.2 numeral.ne_nil
    by_cases hone : digits.length = 1
    · have hten : c.toNat < 10 := by
        have := numeral.lt_pow
        rwa [hone] at this
      have hascii : c.utf8Size = 1 := by
        rw [Char.utf8Size_eq_one_iff, UInt32.le_iff_toNat_le]
        exact Nat.le_trans (Nat.le_of_lt hten) (by decide)
      omega
    · omega
  | @hexadecimal x digits _ letter numeral =>
    have hhash : byteLength ('#' :: x :: digits) = 1 + (x.utf8Size + byteLength digits) := rfl
    have hletter := x.utf8Size_pos
    have hlength := length_le_byteLength digits
    have hpos := List.length_pos_iff.2 numeral.ne_nil
    omega

theorem IsReference.utf8Size_lt (h : IsReference reference c) :
    c.utf8Size < byteLength reference := by
  obtain ⟨body, rfl, -, hdenotes⟩ := h
  have hdelimiters : byteLength ('&' :: body ++ [';']) = 1 + byteLength body + 1 := by
    rw [byteLength_append]
    rfl
  have hbody := hdenotes.utf8Size_lt
  omega

/-! ### One pass -/

theorem byteLength_decodeChars_le (text : List Char) :
    byteLength (decodeChars text) ≤ byteLength text := by
  induction text using scan_induction with
  | nil => rw [decodeChars_nil]
  | kept c rest hfree ih =>
    rw [decodeChars_of_free hfree, byteLength_cons, byteLength_cons]
    omega
  | decoded reference c rest href ih =>
    have hlt := href.utf8Size_lt
    rw [decodeChars_of_reference href, byteLength_cons, byteLength_append]
    omega

theorem byteLength_decodeChars_lt (o : Occurrence text) :
    byteLength (decodeChars text) < byteLength text := by
  have hbefore := byteLength_decodeChars_le o.before
  have hafter := byteLength_decodeChars_le o.after
  have hlt := o.isReference.utf8Size_lt
  have htext : byteLength text =
      byteLength o.before + (byteLength o.reference + byteLength o.after) := by
    rw [← byteLength_append, ← byteLength_append, ← o.text_eq]
  rw [decodeChars_eq_of_occurrence text o, byteLength_append, byteLength_cons]
  omega

theorem utf8ByteSize_decode (text : String) :
    (decode text).utf8ByteSize = byteLength (decodeChars text.toList) := by
  rw [← byteLength_toList, decode_eq, String.toList_ofList]

theorem utf8ByteSize_decode_le (text : String) :
    (decode text).utf8ByteSize ≤ text.utf8ByteSize := by
  rw [utf8ByteSize_decode, ← byteLength_toList]
  exact byteLength_decodeChars_le text.toList

theorem utf8ByteSize_decode_lt_of_occurrence {text : String} (o : Occurrence text.toList) :
    (decode text).utf8ByteSize < text.utf8ByteSize := by
  rw [utf8ByteSize_decode, ← byteLength_toList]
  exact byteLength_decodeChars_lt o

theorem decode_of_isEmpty {text : String} (h : IsEmpty (Occurrence text.toList)) :
    decode text = text := by
  rw [decode_eq, decodeChars_of_isEmpty h, String.ofList_toList]

theorem decode_eq_self_iff {text : String} :
    decode text = text ↔ IsEmpty (Occurrence text.toList) := by
  refine ⟨fun hself => ⟨fun o => ?_⟩, decode_of_isEmpty⟩
  have hlt := utf8ByteSize_decode_lt_of_occurrence o
  rw [hself] at hlt
  exact Nat.lt_irrefl _ hlt

theorem utf8ByteSize_decode_lt_iff {text : String} :
    (decode text).utf8ByteSize < text.utf8ByteSize ↔ Nonempty (Occurrence text.toList) := by
  refine ⟨fun hlt => ?_, fun ⟨o⟩ => utf8ByteSize_decode_lt_of_occurrence o⟩
  by_contra hnone
  rw [decode_of_isEmpty (not_nonempty_iff.1 hnone)] at hlt
  exact Nat.lt_irrefl _ hlt

/-! ### Pass after pass -/

/-- A text that a pass changes has lost a byte by it, so the passes that change it are no more than its bytes. -/
theorem exists_decode_iterate_eq (text : String) :
    ∃ n ≤ text.utf8ByteSize, decode (decode^[n] text) = decode^[n] text := by
  induction hsize : text.utf8ByteSize using Nat.strongRecOn generalizing text with
  | ind size ih =>
    subst hsize
    by_cases hself : decode text = text
    · exact ⟨0, Nat.zero_le _, hself⟩
    · have hsome : Nonempty (Occurrence text.toList) := by
        rwa [decode_eq_self_iff, not_isEmpty_iff] at hself
      have hlt := utf8ByteSize_decode_lt_iff.2 hsome
      obtain ⟨n, hn, hfixed⟩ := ih _ hlt (decode text) rfl
      exact ⟨n + 1, by omega, hfixed⟩

/-- Decoding never lengthens a text, keeps it exactly if no reference stands in it and shortens it otherwise. So passes over any text come to one that decoding keeps, though one pass may not be enough. -/
theorem decode_shrinks_until_fixed :
    (∀ text : String,
      (decode text).utf8ByteSize ≤ text.utf8ByteSize ∧
      (decode text = text ↔ IsEmpty (Occurrence text.toList)) ∧
      ((decode text).utf8ByteSize < text.utf8ByteSize ↔ Nonempty (Occurrence text.toList)) ∧
      ∃ n ≤ text.utf8ByteSize, decode (decode^[n] text) = decode^[n] text) ∧
    ∃ text : String, decode (decode text) ≠ decode text := by
  refine ⟨fun text => ⟨utf8ByteSize_decode_le text, decode_eq_self_iff,
    utf8ByteSize_decode_lt_iff, exists_decode_iterate_eq text⟩, "&amp;lt;", ?_⟩
  -- The ampersand that the first pass produces opens a reference with what stood behind it.
  decide +kernel

end Phrasebook.Entity
