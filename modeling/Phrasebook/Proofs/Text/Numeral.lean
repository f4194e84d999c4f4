import Phrasebook.Text.Numeral
import Mathlib.Data.Nat.Digits.Defs
import Mathlib.Tactic.Ring
import Mathlib.Tactic.Tauto

/-!
# Numerals

What it means that digits write a number. `Numeral base digits value` says it of decimal and hexadecimal digits through the positional value of a list of digits, without a bound on their number; `number?_eq_some_iff` says that reading digits finds exactly that value, and `wordFrom?_eq_some_iff` that reading them in words does too, as long as the value is a word.
-/

namespace Phrasebook.Text

/-- The value of a digit, where a letter goes on from nine. -/
def digitValue (c : Char) : Nat :=
  if c.isDigit then c.toNat - '0'.toNat
  else if c ≤ 'F' then c.toNat - 'A'.toNat + 10
  else c.toNat - 'a'.toNat + 10

/-- One or more digits of a kind, most significant first, that write a value in a base. -/
structure Numeral (isDigit : Char → Bool) (base : Nat) (digits : List Char) (value : Nat) :
    Prop where
  ne_nil : digits ≠ []
  all : ∀ c ∈ digits, isDigit c = true
  value_eq : value = Nat.ofDigits base (digits.reverse.map digitValue)

theorem Numeral.not_mem {isDigit : Char → Bool} {base value : Nat} {digits : List Char}
    (h : Numeral isDigit base digits value) {c : Char} (hc : isDigit c = false) : c ∉ digits := by
  intro hmem
  simpa [hc] using h.all c hmem

theorem Numeral.unique {isDigit : Char → Bool} {base value other : Nat} {digits : List Char}
    (h : Numeral isDigit base digits value) (h' : Numeral isDigit base digits other) :
    value = other :=
  h.value_eq.trans h'.value_eq.symm

theorem ofDigits_zeros_append (base n : Nat) (digits : List Char) :
    Nat.ofDigits base ((List.replicate n '0' ++ digits).reverse.map digitValue) =
      Nat.ofDigits base (digits.reverse.map digitValue) := by
  have hzero : digitValue '0' = 0 := rfl
  rw [List.reverse_append, List.reverse_replicate, List.map_append, List.map_replicate, hzero,
    Nat.ofDigits_append_replicate_zero]

theorem Numeral.zeros_append_iff {isDigit : Char → Bool} (hzero : isDigit '0' = true)
    {base value : Nat} (hvalue : value ≠ 0) {n : Nat} {digits : List Char} :
    Numeral isDigit base (List.replicate n '0' ++ digits) value ↔
      Numeral isDigit base digits value := by
  constructor
  · intro h
    have heq := h.value_eq
    rw [ofDigits_zeros_append] at heq
    refine ⟨?_, fun c hc => h.all c (List.mem_append_right _ hc), heq⟩
    rintro rfl
    exact hvalue heq
  · intro h
    refine ⟨List.append_ne_nil_of_right_ne_nil _ h.ne_nil, fun c hc => ?_, ?_⟩
    · rcases List.mem_append.1 hc with hmem | hmem
      · rw [List.eq_of_mem_replicate hmem, hzero]
      · exact h.all c hmem
    · rw [ofDigits_zeros_append, ← h.value_eq]

theorem le_iff_toNat_le {c d : Char} : c ≤ d ↔ c.toNat ≤ d.toNat := by
  rw [Char.le_def, UInt32.le_iff_toNat_le]
  rfl

theorem isHexDigit_iff_toNat {c : Char} :
    c.isHexDigit = true ↔ ('0'.toNat ≤ c.toNat ∧ c.toNat ≤ '9'.toNat) ∨
      ('a'.toNat ≤ c.toNat ∧ c.toNat ≤ 'f'.toNat) ∨
      ('A'.toNat ≤ c.toNat ∧ c.toNat ≤ 'F'.toNat) := by
  rw [Char.isHexDigit, Bool.or_eq_true, Bool.or_eq_true, Char.isDigit_iff_toNat, or_assoc]
  simp [UInt32.le_iff_toNat_le]

theorem digitValue_of_lower {c : Char} (h : 'a'.toNat ≤ c.toNat) :
    digitValue c = c.toNat - 'a'.toNat + 10 := by
  have : '9'.toNat < 'a'.toNat ∧ 'F'.toNat < 'a'.toNat := by decide
  have hdigit : ¬c.isDigit = true := by
    rw [Char.isDigit_iff_toNat]
    omega
  have hupper : ¬c ≤ 'F' := by
    rw [le_iff_toNat_le]
    omega
  rw [digitValue, if_neg hdigit, if_neg hupper]

theorem digitValue_of_upper {c : Char} (h : 'A'.toNat ≤ c.toNat) (hle : c.toNat ≤ 'F'.toNat) :
    digitValue c = c.toNat - 'A'.toNat + 10 := by
  have : '9'.toNat < 'A'.toNat := by decide
  have hdigit : ¬c.isDigit = true := by
    rw [Char.isDigit_iff_toNat]
    omega
  rw [digitValue, if_neg hdigit, if_pos (le_iff_toNat_le.2 hle)]

theorem digitValue_lt_ten {c : Char} (h : c.isDigit = true) : digitValue c < 10 := by
  have hrange := Char.isDigit_iff_toNat.1 h
  have hwidth : '9'.toNat = '0'.toNat + 9 := by decide
  rw [digitValue, if_pos h]
  omega

theorem Numeral.lt_pow {digits : List Char} {value : Nat}
    (h : Numeral Char.isDigit 10 digits value) : value < 10 ^ digits.length := by
  have hdigits : ∀ d ∈ digits.reverse.map digitValue, d < 10 := by
    intro d hd
    obtain ⟨c, hc, rfl⟩ := List.mem_map.1 hd
    exact digitValue_lt_ten (h.all c (List.mem_reverse.1 hc))
  have hlt := Nat.ofDigits_lt_base_pow_length (by decide) hdigits
  rwa [← h.value_eq, List.length_map, List.length_reverse] at hlt

theorem digit?_eq (base : Nat) (c : Char) :
    digit? base c =
      if c.isHexDigit = true ∧ digitValue c < base then some (digitValue c) else none := by
  unfold digit?
  simp only [le_iff_toNat_le, isHexDigit_iff_toNat]
  by_cases hdigit : '0'.toNat ≤ c.toNat ∧ c.toNat ≤ '9'.toNat
  · have hvalue : digitValue c = c.toNat - '0'.toNat := if_pos (Char.isDigit_iff_toNat.2 hdigit)
    rw [if_pos hdigit, hvalue]
    simp only [hdigit, and_self, true_or, true_and, Option.filter, decide_eq_true_eq]
  · by_cases hlower : 'a'.toNat ≤ c.toNat ∧ c.toNat ≤ 'f'.toNat
    · rw [if_neg hdigit, if_pos hlower, digitValue_of_lower hlower.1]
      simp only [hlower, and_self, true_or, or_true, true_and, Option.filter, decide_eq_true_eq]
    · by_cases hupper : 'A'.toNat ≤ c.toNat ∧ c.toNat ≤ 'F'.toNat
      · rw [if_neg hdigit, if_neg hlower, if_pos hupper, digitValue_of_upper hupper.1 hupper.2]
        simp only [hupper, and_self, or_true, true_and, Option.filter, decide_eq_true_eq]
      · rw [if_neg hdigit, if_neg hlower, if_neg hupper, if_neg (by tauto)]
        rfl

theorem digit?_ten (c : Char) :
    digit? 10 c = if c.isDigit then some (digitValue c) else none := by
  have hiff : (c.isHexDigit = true ∧ digitValue c < 10) ↔ c.isDigit = true := by
    constructor
    · rintro ⟨hhex, hlt⟩
      rw [isHexDigit_iff_toNat] at hhex
      obtain hdigit | hlower | hupper := hhex
      · exact Char.isDigit_iff_toNat.2 hdigit
      · rw [digitValue_of_lower hlower.1] at hlt
        omega
      · rw [digitValue_of_upper hupper.1 hupper.2] at hlt
        omega
    · intro hdigit
      have hrange := Char.isDigit_iff_toNat.1 hdigit
      exact ⟨isHexDigit_iff_toNat.2 (.inl hrange), digitValue_lt_ten hdigit⟩
  rw [digit?_eq, if_congr hiff rfl rfl]

theorem digit?_sixteen (c : Char) :
    digit? 16 c = if c.isHexDigit then some (digitValue c) else none := by
  have hlt (hhex : c.isHexDigit = true) : digitValue c < 16 := by
    have hwidth : '9'.toNat = '0'.toNat + 9 ∧ 'f'.toNat = 'a'.toNat + 5 ∧
        'F'.toNat = 'A'.toNat + 5 := by decide
    obtain hdigit | hlower | hupper := isHexDigit_iff_toNat.1 hhex
    · rw [digitValue, if_pos (Char.isDigit_iff_toNat.2 hdigit)]
      omega
    · rw [digitValue_of_lower hlower.1]
      omega
    · rw [digitValue_of_upper hupper.1 hupper.2]
      omega
  rw [digit?_eq, if_congr (and_iff_left_of_imp hlt) rfl rfl]

theorem digitsFrom?_eq_some_iff {isDigit : Char → Bool} {base : Nat}
    (hdigit : ∀ c, digit? base c = if isDigit c then some (digitValue c) else none)
    {start value : Nat} {digits : List Char} :
    digitsFrom? base start digits = some value ↔
      (∀ c ∈ digits, isDigit c = true) ∧
        value = start * base ^ digits.length +
          Nat.ofDigits base (digits.reverse.map digitValue) := by
  induction digits generalizing start with
  | nil => simp [digitsFrom?, eq_comm (a := start)]
  | cons c digits ih =>
    rw [digitsFrom?, hdigit]
    by_cases hc : isDigit c = true
    · rw [if_pos hc]
      simp only [ih, List.forall_mem_cons, hc, true_and]
      refine and_congr_right fun _ => ?_
      rw [List.reverse_cons, List.map_append, Nat.ofDigits_append, List.length_map,
        List.length_reverse, List.map_singleton, Nat.ofDigits_singleton, List.length_cons,
        show (start * base + digitValue c) * base ^ digits.length +
            Nat.ofDigits base (digits.reverse.map digitValue) =
          start * base ^ (digits.length + 1) +
            (Nat.ofDigits base (digits.reverse.map digitValue) +
              base ^ digits.length * digitValue c) by ring]
    · simp [hc]

/-- Reading digits finds the value that they write, and nothing else can be read. -/
theorem number?_eq_some_iff {isDigit : Char → Bool} {base : Nat}
    (hdigit : ∀ c, digit? base c = if isDigit c then some (digitValue c) else none)
    {value : Nat} {digits : List Char} :
    number? base digits = some value ↔ Numeral isDigit base digits value := by
  cases digits with
  | nil => exact ⟨fun h => by simp [number?] at h, fun h => absurd rfl h.ne_nil⟩
  | cons c digits =>
    rw [number?, digitsFrom?_eq_some_iff hdigit, Nat.zero_mul, Nat.zero_add]
    · exact ⟨fun h => ⟨by simp, h.1, h.2⟩, fun h => ⟨h.all, h.value_eq⟩⟩
    · simp

/-! ### Numerals that fit a word -/

theorem digit?_lt {base d : Nat} {c : Char} (h : digit? base c = some d) : d < base :=
  of_decide_eq_true (Option.filter_eq_some_iff.1 h).2

theorem toNat_ofNat_of_digit? {base : UInt32} {d : Nat} {c : Char}
    (h : digit? base.toNat c = some d) : (UInt32.ofNat d).toNat = d :=
  UInt32.toNat_ofNat_of_lt' (Nat.lt_trans (digit?_lt h) base.toNat_lt)

theorem le_of_digitsFrom? {base start value : Nat} (hbase : 0 < base) {digits : List Char}
    (h : digitsFrom? base start digits = some value) : start ≤ value := by
  induction digits generalizing start with
  | nil => exact Nat.le_of_eq (Option.some.inj h)
  | cons c rest ih =>
    rw [digitsFrom?] at h
    split at h
    · have hstart : start ≤ start * base := Nat.le_mul_of_pos_right start hbase
      have hrest := ih h
      omega
    · cases h

theorem pushDigit?_eq_some_iff {base word longer : UInt32} {c : Char} :
    pushDigit? base word c = some longer ↔
      ∃ d, digit? base.toNat c = some d ∧ word.toNat * base.toNat + d = longer.toNat := by
  rw [pushDigit?]
  constructor
  · intro h
    obtain ⟨d, hdigit, hrest⟩ := Option.bind_eq_some_iff.1 h
    obtain ⟨shifted, hshifted, hsum⟩ := Option.bind_eq_some_iff.1 hrest
    refine ⟨d, hdigit, ?_⟩
    rw [checkedMul?_eq_some_iff.1 hshifted, ← checkedAdd?_eq_some_iff.1 hsum,
      toNat_ofNat_of_digit? hdigit]
  · rintro ⟨d, hdigit, hvalue⟩
    have hlonger : longer.toNat < UInt32.size := longer.toNat_lt
    have hfits : word.toNat * base.toNat < UInt32.size := by omega
    have hshifted : (UInt32.ofNat (word.toNat * base.toNat)).toNat = word.toNat * base.toNat :=
      UInt32.toNat_ofNat_of_lt' hfits
    refine Option.bind_eq_some_iff.2 ⟨d, hdigit, Option.bind_eq_some_iff.2
      ⟨.ofNat (word.toNat * base.toNat), checkedMul?_eq_some_iff.2 hshifted.symm, ?_⟩⟩
    rw [checkedAdd?_eq_some_iff, hshifted, toNat_ofNat_of_digit? hdigit, hvalue]

/-- Reading in words finds the value that reading in whole numbers finds, or nothing where that is no word. -/
theorem wordFrom?_eq_some_iff {base start word : UInt32} (hbase : 0 < base.toNat)
    {digits : List Char} :
    wordFrom? base start digits = some word ↔
      digitsFrom? base.toNat start.toNat digits = some word.toNat := by
  induction digits generalizing start with
  | nil => rw [wordFrom?, digitsFrom?, Option.some.injEq, Option.some.injEq, UInt32.toNat_inj]
  | cons c rest ih =>
    rw [wordFrom?, digitsFrom?, Option.bind_eq_some_iff]
    simp only [pushDigit?_eq_some_iff, ih]
    constructor
    · rintro ⟨longer, ⟨d, hdigit, hlonger⟩, hrest⟩
      rw [← hlonger] at hrest
      rw [hdigit]
      exact hrest
    · intro h
      split at h
      · next d hdigit =>
        -- what is read so far is no more than the whole, which is a word
        have hlt := Nat.lt_of_le_of_lt (le_of_digitsFrom? hbase h) word.toNat_lt
        have hlonger : (UInt32.ofNat (start.toNat * base.toNat + d)).toNat =
            start.toNat * base.toNat + d := UInt32.toNat_ofNat_of_lt' hlt
        exact ⟨_, ⟨d, hdigit, hlonger.symm⟩, hlonger.symm ▸ h⟩
      · cases h

theorem wordOfDigits?_eq_some_iff {base word : UInt32} (hbase : 0 < base.toNat)
    {digits : List Char} :
    wordOfDigits? base digits = some word ↔ number? base.toNat digits = some word.toNat := by
  cases digits with
  | nil => simp [wordOfDigits?, number?]
  | cons c rest => exact wordFrom?_eq_some_iff hbase

theorem word?_of_not_mem {base : UInt32} {digits : List Char} (hplus : '+' ∉ digits) :
    word? base digits = wordOfDigits? base digits := by
  unfold word?
  split
  · exact absurd List.mem_cons_self hplus
  · rfl

theorem character?_eq_some_iff {value : Nat} {c : Char} :
    character? value = some c ↔ c.toNat = value := by
  rw [character?]
  constructor
  · intro h
    split at h
    · next hvalid =>
      rw [← Option.some.inj h, Char.ofNat, dif_pos hvalid]
      rfl
    · simp at h
  · rintro rfl
    rw [if_pos (by exact c.valid), Char.ofNat_toNat]

end Phrasebook.Text
