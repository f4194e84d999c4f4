import Phrasebook.Text.Cut
import Mathlib.Data.String.Basic
import Mathlib.Tactic.SplitIfs

/-!
# Texts and their bytes

Texts are measured and compared as lists of characters, and this module ties both to the bytes of UTF-8. The byte length of the characters is the size of the text, and the order of code points is the lexicographic order of the bytes: UTF-8 gives a larger character a form that is larger at the first byte where the two differ, so no byte behind them counts.
-/

namespace Phrasebook.Text

theorem byteLength_toList (text : String) : byteLength text.toList = text.utf8ByteSize := by
  rw [← String.utf8Len_toList]
  generalize text.toList = chars
  induction chars with
  | nil => rfl
  | cons c chars ih => rw [byteLength_cons, ih, String.utf8Len_cons, Nat.add_comm]

theorem length_le_byteLength (text : List Char) : text.length ≤ byteLength text := by
  induction text with
  | nil => exact Nat.le_refl 0
  | cons c text ih =>
    have hsize := c.utf8Size_pos
    rw [byteLength_cons, List.length_cons]
    omega

theorem eq_of_append_eq {left right leftRest rightRest : String}
    (h : left ++ leftRest = right ++ rightRest) (hsize : left.utf8ByteSize = right.utf8ByteSize) :
    left = right ∧ leftRest = rightRest := by
  have hbytes := congrArg String.toByteArray h
  rw [String.toByteArray_append, String.toByteArray_append] at hbytes
  obtain rfl : left = right := String.toByteArray_inj.1 (ByteArray.append_inj_left hbytes hsize)
  exact ⟨rfl, (String.append_right_inj left).1 h⟩

/-! ### The order of the bytes -/

/-- The bytes of a text in UTF-8. -/
def bytes (text : String) : List UInt8 := text.toUTF8.data.toList

theorem bytes_eq (text : String) : bytes text = text.toList.flatMap String.utf8EncodeChar := by
  rw [bytes, String.toUTF8_eq_toByteArray, ← String.utf8Encode_toList, List.utf8Encode,
    List.toList_data_toByteArray]

private theorem ofNat_lt_ofNat_iff {m n : Nat} (hm : m < 256) (hn : n < 256) :
    UInt8.ofNat m < UInt8.ofNat n ↔ m < n := by
  rw [UInt8.lt_iff_toNat_lt, UInt8.toNat_ofNat', UInt8.toNat_ofNat', Nat.mod_eq_of_lt hm,
    Nat.mod_eq_of_lt hn]

private theorem ofNat_eq_ofNat_iff {m n : Nat} (hm : m < 256) (hn : n < 256) :
    UInt8.ofNat m = UInt8.ofNat n ↔ m = n := by
  rw [← UInt8.toNat_inj, UInt8.toNat_ofNat', UInt8.toNat_ofNat', Nat.mod_eq_of_lt hm,
    Nat.mod_eq_of_lt hn]

private theorem toNat_lt (c : Char) : c.val.toNat < 1114112 := by
  rcases c.valid with h | ⟨-, h⟩
  · omega
  · exact h

theorem utf8EncodeChar_append_lt {c d : Char} (h : c < d) (left right : List UInt8) :
    String.utf8EncodeChar c ++ left < String.utf8EncodeChar d ++ right := by
  have hlt : c.val.toNat < d.val.toNat := UInt32.lt_iff_toNat_lt.1 (Char.lt_def.1 h)
  have hbound := toNat_lt d
  have hsix (k : Nat) : k / 4096 = k / 64 / 64 := by omega
  have htwelve (k : Nat) : k / 262144 = k / 64 / 64 / 64 := by omega
  generalize hc : c.val.toNat = m at hlt
  generalize hd : d.val.toNat = n at hlt hbound
  simp only [String.utf8EncodeChar, hc, hd, hsix, htwelve]
  -- The four sizes of either form; what follows counts for nothing, so both ways it may compare will do.
  by_cases hrest : left < right
  all_goals
    split_ifs <;>
      simp (disch := omega) only [List.cons_append, List.nil_append, List.cons_lt_cons_iff,
        ofNat_lt_ofNat_iff, ofNat_eq_ofNat_iff, hrest, and_true, and_false, or_false] <;>
      omega

theorem flatMap_utf8EncodeChar_lt {left right : List Char} (h : left < right) :
    left.flatMap String.utf8EncodeChar < right.flatMap String.utf8EncodeChar := by
  induction h with
  | @nil c rest =>
    obtain ⟨byte, more, hform⟩ := List.exists_cons_of_ne_nil (String.utf8EncodeChar_ne_nil (c := c))
    rw [List.flatMap_nil, List.flatMap_cons, hform]
    exact List.nil_lt_cons _ _
  | rel hlt => exact utf8EncodeChar_append_lt hlt _ _
  | cons _ ih => exact List.append_left_lt ih

/-- Comparing texts is comparing their bytes. -/
theorem lt_iff_bytes_lt {left right : String} : left < right ↔ bytes left < bytes right := by
  have hmono {left right : String} (h : left < right) : bytes left < bytes right := by
    rw [bytes_eq, bytes_eq]
    exact flatMap_utf8EncodeChar_lt (String.lt_iff_toList_lt.1 h)
  refine ⟨hmono, fun h => ?_⟩
  rcases lt_trichotomy left right with hlt | rfl | hgt
  · exact hlt
  · exact absurd h (List.lt_irrefl _)
  · exact absurd h (List.lt_asymm (hmono hgt))

end Phrasebook.Text
