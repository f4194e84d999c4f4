import Phrasebook.Entity
import Phrasebook.Proofs.Text.Numeral

/-!
# The numbers of numeric references

`Writes` says which number the body of a numeric reference writes, with digits of either base and without a bound. A number is read in words, which hold less than that, but every number of a character is a word: so `numeric?_eq_some_iff` finds exactly the characters whose numbers are written, and a number that is no word is refused like any other number that no character has.
-/

namespace Phrasebook.Entity

open Phrasebook.Text

/-- A number that a character other than NUL has. -/
def IsScalar (value : Nat) : Prop :=
  0 < value ∧ value < 0xD800 ∨ 0xDFFF < value ∧ value < 0x110000

/-- The bodies of numeric references, without their `#`, with the numbers that they write. -/
inductive Writes : List Char → Nat → Prop
  | decimal {digits : List Char} {value : Nat} (numeral : Numeral Char.isDigit 10 digits value) :
      Writes digits value
  | hexadecimal {x : Char} {digits : List Char} {value : Nat} (letter : x = 'x' ∨ x = 'X')
      (numeral : Numeral Char.isHexDigit 16 digits value) : Writes (x :: digits) value

/-! ### Characters by their numbers -/

theorem eq_nul_iff {c : Char} : c = '\x00' ↔ c.toNat = 0 := by
  rw [← Char.toNat_inj]
  rfl

theorem scalar?_eq_some_iff {value : Nat} {c : Char} :
    scalar? value = some c ↔ c.toNat = value ∧ c ≠ '\x00' := by
  rw [scalar?, ne_eq, eq_nul_iff]
  split
  · next h => simp [h]
  · next h =>
    rw [character?_eq_some_iff]
    exact ⟨fun hc => ⟨hc, hc ▸ h⟩, And.left⟩

theorem numbered?_eq_some_iff {isDigit : Char → Bool} {base : UInt32} (hbase : 0 < base.toNat)
    (hdigit : ∀ c, digit? base.toNat c = if isDigit c then some (digitValue c) else none)
    {digits : List Char} {c : Char} :
    numbered? base digits = some c ↔ Numeral isDigit base.toNat digits c.toNat ∧ c ≠ '\x00' := by
  -- The number of a character is a word, so the words that digits are read in keep no character out.
  have hof (d : Char) : isDigitOf base.toNat d = isDigit d := by
    rw [isDigitOf, hdigit]
    cases isDigit d <;> rfl
  have hguard : (digits.isEmpty || !digits.all (isDigitOf base.toNat)) = true ↔
      ¬(digits ≠ [] ∧ ∀ d ∈ digits, isDigit d = true) := by
    simp only [Bool.or_eq_true, List.isEmpty_iff, Bool.not_eq_true', ← Bool.not_eq_true,
      List.all_eq_true, hof, ne_eq, not_and_or, not_not]
  rw [numbered?]
  split
  · next h =>
    constructor
    · intro hnone
      cases hnone
    · rintro ⟨numeral, -⟩
      exact absurd ⟨numeral.ne_nil, numeral.all⟩ (hguard.1 h)
  · next h =>
    obtain ⟨-, hall⟩ := not_not.1 (mt hguard.2 h)
    -- the sign that a word may have is no digit
    have hplus : '+' ∉ digits := by
      intro hmem
      have hsign : digit? base.toNat '+' = none := rfl
      rw [hdigit, if_pos (hall '+' hmem)] at hsign
      cases hsign
    rw [word?_of_not_mem hplus, Option.bind_eq_some_iff]
    simp only [wordOfDigits?_eq_some_iff hbase, number?_eq_some_iff hdigit, scalar?_eq_some_iff]
    constructor
    · rintro ⟨word, numeral, hword, hne⟩
      exact ⟨hword ▸ numeral, hne⟩
    · rintro ⟨numeral, hne⟩
      exact ⟨c.val, numeral, rfl, hne⟩

theorem numbered?_ten_iff {digits : List Char} {c : Char} :
    numbered? 10 digits = some c ↔ Numeral Char.isDigit 10 digits c.toNat ∧ c ≠ '\x00' :=
  @numbered?_eq_some_iff _ 10 (by decide) digit?_ten _ _

theorem numbered?_sixteen_iff {digits : List Char} {c : Char} :
    numbered? 16 digits = some c ↔ Numeral Char.isHexDigit 16 digits c.toNat ∧ c ≠ '\x00' :=
  @numbered?_eq_some_iff _ 16 (by decide) digit?_sixteen _ _

/-! ### Bodies in either base -/

variable {x : Char} {body digits : List Char} {value : Nat}

theorem numeric?_of_letter (h : x = 'x' ∨ x = 'X') (digits : List Char) :
    numeric? (x :: digits) = numbered? 16 digits := by
  rcases h with rfl | rfl
  · rfl
  · rfl

theorem numeric?_of_head (h : ∀ x ∈ body.head?, ¬(x = 'x' ∨ x = 'X')) :
    numeric? body = numbered? 10 body := by
  unfold numeric?
  split
  · exact absurd (.inl rfl) (h 'x' rfl)
  · exact absurd (.inr rfl) (h 'X' rfl)
  · rfl

theorem writes_letter_iff (h : x = 'x' ∨ x = 'X') :
    Writes (x :: digits) value ↔ Numeral Char.isHexDigit 16 digits value := by
  constructor
  · intro hwrites
    cases hwrites with
    | decimal numeral =>
      have hx : x.isDigit = true := numeral.all x List.mem_cons_self
      rcases h with rfl | rfl <;> cases hx
    | hexadecimal letter numeral => exact numeral
  · exact .hexadecimal h

theorem writes_iff_of_head (h : ∀ x ∈ body.head?, ¬(x = 'x' ∨ x = 'X')) :
    Writes body value ↔ Numeral Char.isDigit 10 body value := by
  constructor
  · intro hwrites
    cases hwrites with
    | decimal numeral => exact numeral
    | hexadecimal letter numeral => exact absurd letter (h _ rfl)
  · exact .decimal

theorem letter_cases (body : List Char) :
    (∀ x ∈ body.head?, ¬(x = 'x' ∨ x = 'X')) ∨
      ∃ x digits, (x = 'x' ∨ x = 'X') ∧ body = x :: digits := by
  cases body with
  | nil => exact .inl fun x hx => by cases hx
  | cons x digits =>
    by_cases hletter : x = 'x' ∨ x = 'X'
    · exact .inr ⟨x, digits, hletter, rfl⟩
    · refine .inl fun y hy => ?_
      rwa [← Option.some.inj hy]

/-- A numeric reference stands for the character whose number it writes, unless that is zero. -/
theorem numeric?_eq_some_iff {c : Char} :
    numeric? body = some c ↔ Writes body c.toNat ∧ c ≠ '\x00' := by
  rcases letter_cases body with hhead | ⟨x, digits, hletter, rfl⟩
  · rw [numeric?_of_head hhead, writes_iff_of_head hhead, numbered?_ten_iff]
  · rw [numeric?_of_letter hletter, writes_letter_iff hletter, numbered?_sixteen_iff]

namespace Writes

theorem unique {other : Nat} (h : Writes body value) (h' : Writes body other) : value = other := by
  rcases letter_cases body with hhead | ⟨x, digits, hletter, rfl⟩
  · rw [writes_iff_of_head hhead] at h h'
    exact h.unique h'
  · rw [writes_letter_iff hletter] at h h'
    exact h.unique h'

theorem ascii (h : Writes body value) {c : Char} (hc : c ∈ body) :
    '0'.toNat ≤ c.toNat ∧ c.toNat ≤ 'x'.toNat := by
  have hcodes : '0'.toNat = 48 ∧ '9'.toNat = 57 ∧ 'A'.toNat = 65 ∧ 'F'.toNat = 70 ∧
      'X'.toNat = 88 ∧ 'a'.toNat = 97 ∧ 'f'.toNat = 102 ∧ 'x'.toNat = 120 := by decide
  cases h with
  | decimal numeral =>
    have hdigit := Char.isDigit_iff_toNat.1 (numeral.all c hc)
    omega
  | hexadecimal letter numeral =>
    rcases List.mem_cons.1 hc with rfl | hmem
    · rcases letter with rfl | rfl
      · decide
      · decide
    · have hdigit := isHexDigit_iff_toNat.1 (numeral.all c hmem)
      omega

end Writes

/-! ### What is read -/

theorem isScalar_toNat_iff {c : Char} : IsScalar c.toNat ↔ c ≠ '\x00' := by
  have hvalid : c.toNat < 0xD800 ∨ 0xDFFF < c.toNat ∧ c.toNat < 0x110000 := c.valid
  rw [IsScalar, ne_eq, eq_nul_iff]
  omega

theorem IsScalar.toNat_ofNat (h : IsScalar value) : (Char.ofNat value).toNat = value := by
  have hvalid : value.isValidChar := by
    unfold IsScalar at h
    unfold Nat.isValidChar
    omega
  rw [Char.ofNat, dif_pos hvalid]
  rfl

theorem numeric?_eq_some_iff_exists {c : Char} :
    numeric? body = some c ↔ ∃ value, Writes body value ∧ IsScalar value ∧ c = Char.ofNat value := by
  rw [numeric?_eq_some_iff, ← isScalar_toNat_iff]
  constructor
  · intro h
    exact ⟨c.toNat, h.1, h.2, c.ofNat_toNat.symm⟩
  · rintro ⟨value, hwrites, hscalar, rfl⟩
    rw [hscalar.toNat_ofNat]
    exact ⟨hwrites, hscalar⟩

theorem numeric?_eq_none_of_wide (h : Writes body value) (hwide : 2 ^ 32 ≤ value) :
    numeric? body = none := by
  rw [Option.eq_none_iff_forall_ne_some]
  intro c hc
  have hvalue := h.unique (numeric?_eq_some_iff.1 hc).1
  have hword : c.toNat < 2 ^ 32 := c.val.toNat_lt
  omega

theorem numeric?_eq_of_writes {left right : List Char} (hleft : Writes left value)
    (hright : Writes right value) : numeric? left = numeric? right := by
  apply Option.ext
  intro c
  rw [numeric?_eq_some_iff, numeric?_eq_some_iff]
  refine and_congr_left fun _ => ?_
  constructor
  · intro h
    exact hleft.unique h ▸ hright
  · intro h
    exact hright.unique h ▸ hleft

theorem numeral_zeros_append_iff {isDigit : Char → Bool} (hzero : isDigit '0' = true)
    {base n : Nat} {c : Char} :
    Numeral isDigit base (List.replicate n '0' ++ digits) c.toNat ∧ c ≠ '\x00' ↔
      Numeral isDigit base digits c.toNat ∧ c ≠ '\x00' := by
  -- Zeros on their own write zero, which no character but NUL has.
  refine and_congr_left fun hne => Numeral.zeros_append_iff hzero ?_
  rwa [ne_eq, ← eq_nul_iff]

theorem numeric?_zeros_append (n : Nat) (h : ∀ x ∈ digits.head?, ¬(x = 'x' ∨ x = 'X')) :
    numeric? (List.replicate n '0' ++ digits) = numeric? digits := by
  have hzeros : ∀ x ∈ (List.replicate n '0' ++ digits).head?, ¬(x = 'x' ∨ x = 'X') := by
    cases n with
    | zero => exact h
    | succ n =>
      intro x hx
      obtain rfl : '0' = x := Option.some.inj hx
      decide
  rw [numeric?_of_head hzeros, numeric?_of_head h]
  apply Option.ext
  intro c
  rw [numbered?_ten_iff, numbered?_ten_iff, numeral_zeros_append_iff rfl]

theorem numeric?_letter_zeros_append (n : Nat) (h : x = 'x' ∨ x = 'X') :
    numeric? (x :: (List.replicate n '0' ++ digits)) = numeric? (x :: digits) := by
  rw [numeric?_of_letter h, numeric?_of_letter h]
  apply Option.ext
  intro c
  rw [numbered?_sixteen_iff, numbered?_sixteen_iff, numeral_zeros_append_iff rfl]

theorem numeric?_eq_none_of_mem {c : Char} (hc : c ∈ body)
    (hrefused : c = '+' ∨ c = '-' ∨ 128 ≤ c.toNat) : numeric? body = none := by
  rw [Option.eq_none_iff_forall_ne_some]
  intro d hd
  have hascii := (numeric?_eq_some_iff.1 hd).1.ascii hc
  have hcodes : '0'.toNat = 48 ∧ 'x'.toNat = 120 ∧ '+'.toNat = 43 ∧ '-'.toNat = 45 := by decide
  rcases hrefused with rfl | rfl | hwide
  · omega
  · omega
  · omega

/-- A numeric reference is read exactly if the number that it writes, which no bound is set to, is that of a character other than NUL. So a number of more than 32 bits is refused and none wraps to a character; bodies that write one number are read alike, in whichever base; leading zeros change nothing; and a sign or a digit from outside ASCII is refused. -/
theorem numeric_numbers_never_wrap :
    (∀ (body : List Char) (c : Char), numeric? body = some c ↔
      ∃ value, Writes body value ∧ IsScalar value ∧ c = Char.ofNat value) ∧
    (∀ (body : List Char) (value : Nat), Writes body value → 2 ^ 32 ≤ value →
      numeric? body = none) ∧
    (∀ (left right : List Char) (value : Nat), Writes left value → Writes right value →
      numeric? left = numeric? right) ∧
    (∀ (n : Nat) (digits : List Char), (∀ x ∈ digits.head?, ¬(x = 'x' ∨ x = 'X')) →
      numeric? (List.replicate n '0' ++ digits) = numeric? digits) ∧
    (∀ (n : Nat) (x : Char) (digits : List Char), x = 'x' ∨ x = 'X' →
      numeric? (x :: (List.replicate n '0' ++ digits)) = numeric? (x :: digits)) ∧
    (∀ body : List Char, (∃ c ∈ body, c = '+' ∨ c = '-' ∨ 128 ≤ c.toNat) →
      numeric? body = none) := by
  refine ⟨fun body c => numeric?_eq_some_iff_exists, fun body value => numeric?_eq_none_of_wide,
    fun left right value => numeric?_eq_of_writes, fun n digits => numeric?_zeros_append n,
    fun n x digits => numeric?_letter_zeros_append n, fun body h => ?_⟩
  obtain ⟨c, hc, hrefused⟩ := h
  exact numeric?_eq_none_of_mem hc hrefused

/-- A number that is 38 but for its bits above the 32nd is refused, while zeros in front of 38 are not, nor are the digits of base sixteen. -/
theorem numeric_numbers_never_wrap_at_ampersand :
    Writes "4294967334".toList (2 ^ 32 + 38) ∧ numeric? "4294967334".toList = none ∧
      numeric? (List.replicate 40 '0' ++ "38".toList) = some '&' ∧
      Writes "X26".toList 38 ∧ numeric? "X26".toList = numeric? "38".toList ∧
      numeric? "+38".toList = none := by
  obtain ⟨hiff, hwide, halike, hzeros, -, hrefused⟩ := numeric_numbers_never_wrap
  have hlong : Writes "4294967334".toList (2 ^ 32 + 38) :=
    .decimal ⟨by decide, List.all_eq_true.1 rfl, rfl⟩
  have hshort : Writes "38".toList 38 := .decimal ⟨by decide, List.all_eq_true.1 rfl, rfl⟩
  have hhex : Writes "X26".toList 38 :=
    .hexadecimal (.inr rfl) ⟨by decide, List.all_eq_true.1 rfl, rfl⟩
  have hamp : numeric? "38".toList = some '&' :=
    (hiff _ _).2 ⟨38, hshort, .inl (by decide), by decide⟩
  refine ⟨hlong, hwide _ _ hlong (by decide), ?_, hhex, halike _ _ _ hhex hshort,
    hrefused _ ⟨'+', by decide, .inl rfl⟩⟩
  exact (hzeros 40 _ (by simp)).trans hamp

end Phrasebook.Entity
