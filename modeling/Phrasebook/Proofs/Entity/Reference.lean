import Phrasebook.Proofs.Entity.Numeric

/-!
# What a character reference is

`IsReference` says which texts are references and for which character each one stands, with no mention of how a scan finds them. `reference?_eq_some_iff` says that reading the rest of a reference after its ampersand finds exactly those. `IsReference.align` compares two references in one text: they are the same one, or one ends before the other begins.
-/

namespace Phrasebook.Entity

open Phrasebook.Text

/-- The bodies of references, with the character each one stands for. -/
inductive Denotes : List Char → Char → Prop
  | named {name : String} {c : Char} (mem : (name, c) ∈ names) : Denotes name.toList c
  | decimal {digits : List Char} {c : Char} (numeral : Numeral Char.isDigit 10 digits c.toNat)
      (ne : c ≠ '\x00') : Denotes ('#' :: digits) c
  | hexadecimal {x : Char} {digits : List Char} {c : Char} (letter : x = 'x' ∨ x = 'X')
      (numeral : Numeral Char.isHexDigit 16 digits c.toNat) (ne : c ≠ '\x00') :
      Denotes ('#' :: x :: digits) c

/-- A reference is an ampersand, a body of at most 32 bytes and a semicolon. -/
def IsReference (reference : List Char) (c : Char) : Prop :=
  ∃ body, reference = '&' :: body ++ [';'] ∧ byteLength body ≤ 32 ∧ Denotes body c

/-! ### Bodies -/

theorem named?_eq_some_iff {body : List Char} {c : Char} :
    named? body = some c ↔ ∃ name : String, (name, c) ∈ names ∧ name.toList = body := by
  have hfirst : ∀ entry ∈ names,
      names.find? (fun other => other.1.toList = entry.1.toList) = some entry := by decide
  constructor
  · intro h
    obtain ⟨entry, hfind, rfl⟩ := Option.map_eq_some_iff.1 h
    exact ⟨entry.1, List.mem_of_find?_eq_some hfind, by simpa using List.find?_some hfind⟩
  · rintro ⟨name, hmem, rfl⟩
    rw [named?, hfirst _ hmem]
    rfl

theorem denotes_number_iff {body : List Char} {c : Char} :
    Denotes ('#' :: body) c ↔ Writes body c.toNat ∧ c ≠ '\x00' := by
  have hname : ∀ entry ∈ names, entry.1.toList.head? ≠ some '#' := by decide
  constructor
  · intro h
    generalize hbody : '#' :: body = whole at h
    cases h with
    | named mem => exact absurd (by rw [← hbody]; rfl) (hname _ mem)
    | decimal numeral hne =>
      obtain rfl := (List.cons.inj hbody).2
      exact ⟨.decimal numeral, hne⟩
    | hexadecimal letter numeral hne =>
      obtain rfl := (List.cons.inj hbody).2
      exact ⟨.hexadecimal letter numeral, hne⟩
  · rintro ⟨hwrites, hne⟩
    cases hwrites with
    | decimal numeral => exact .decimal numeral hne
    | hexadecimal letter numeral => exact .hexadecimal letter numeral hne

theorem resolve?_eq_some_iff {body : List Char} {c : Char} :
    resolve? body = some c ↔ Denotes body c := by
  by_cases hnumber : ∃ number, body = '#' :: number
  · obtain ⟨number, rfl⟩ := hnumber
    exact numeric?_eq_some_iff.trans denotes_number_iff.symm
  · rw [not_exists] at hnumber
    have hresolve : resolve? body = named? body := by
      unfold resolve?
      split
      · exact absurd rfl (hnumber _)
      · rfl
    rw [hresolve, named?_eq_some_iff]
    constructor
    · rintro ⟨name, mem, rfl⟩
      exact .named mem
    · intro h
      cases h with
      | named mem => exact ⟨_, mem, rfl⟩
      | decimal => exact absurd rfl (hnumber _)
      | hexadecimal => exact absurd rfl (hnumber _)

theorem isReference_iff {reference : List Char} {c : Char} :
    IsReference reference c ↔ ∃ body, reference = '&' :: body ++ [';'] ∧
      byteLength body ≤ maxBodyLength ∧ resolve? body = some c := by
  simp only [resolve?_eq_some_iff]
  rfl

theorem Denotes.not_mem {body : List Char} {c : Char} (h : Denotes body c) :
    '&' ∉ body ∧ ';' ∉ body := by
  have hnames : ∀ entry ∈ names, '&' ∉ entry.1.toList ∧ ';' ∉ entry.1.toList := by decide
  cases h with
  | named mem => exact hnames _ mem
  | @decimal digits _ numeral =>
    have hamp : '&' ∉ digits := numeral.not_mem (by decide)
    have hsemicolon : ';' ∉ digits := numeral.not_mem (by decide)
    simp [hamp, hsemicolon]
  | @hexadecimal _ digits _ letter numeral =>
    have hamp : '&' ∉ digits := numeral.not_mem (by decide)
    have hsemicolon : ';' ∉ digits := numeral.not_mem (by decide)
    obtain rfl | rfl := letter
    · simp [hamp, hsemicolon]
    · simp [hamp, hsemicolon]

/-! ### References in a text -/

variable {reference other before after rest : List Char} {c d : Char}

theorem IsReference.ne_nil (h : IsReference reference c) : reference ≠ [] := by
  obtain ⟨body, rfl, -, -⟩ := h
  simp

/-- What follows the ampersand of a text is read as the rest of the reference that the text begins with. -/
theorem reference?_eq_some_iff :
    reference? rest = some (c, after) ↔
      ∃ reference, '&' :: rest = reference ++ after ∧ IsReference reference c := by
  rw [reference?]
  constructor
  · intro h
    split at h
    · next body tail hcut =>
      obtain ⟨e, hresolve, heq⟩ := Option.map_eq_some_iff.1 h
      obtain ⟨rfl, rfl⟩ := Prod.mk.inj heq
      obtain ⟨rfl, -, hlength⟩ := cutWithin?_eq_some_iff.1 hcut
      exact ⟨'&' :: body ++ [';'], by simp, body, rfl, hlength, resolve?_eq_some_iff.1 hresolve⟩
    · simp at h
  · rintro ⟨_, htext, body, rfl, hlength, hdenotes⟩
    obtain rfl : rest = body ++ ';' :: after := by simpa using htext
    have hcut : cutWithin? ';' maxBodyLength (body ++ ';' :: after) = some (body, after) :=
      cutWithin?_append_cons hdenotes.not_mem.2 hlength after
    rw [hcut]
    simp [resolve?_eq_some_iff.2 hdenotes]

theorem IsReference.exists_tail (h : IsReference reference c) :
    ∃ tail, reference = '&' :: tail ∧ '&' ∉ tail := by
  obtain ⟨body, rfl, -, hdenotes⟩ := h
  exact ⟨body ++ [';'], rfl, by simp [hdenotes.not_mem.1]⟩

/-- A text begins with one reference at most. -/
theorem IsReference.eq_of_append_eq (h : IsReference reference c) (h' : IsReference other d)
    (heq : reference ++ after = other ++ rest) : reference = other ∧ c = d ∧ after = rest := by
  obtain ⟨tail, rfl, -⟩ := h.exists_tail
  have hread : reference? (tail ++ after) = some (c, after) :=
    reference?_eq_some_iff.2 ⟨_, rfl, h⟩
  have hread' : reference? (tail ++ after) = some (d, rest) :=
    reference?_eq_some_iff.2 ⟨_, heq, h'⟩
  obtain ⟨rfl, rfl⟩ : c = d ∧ after = rest := by simpa using hread.symm.trans hread'
  exact ⟨List.append_cancel_right heq, rfl, rfl⟩

/-- After the reference that a text begins with, the next one does not begin before its end. -/
theorem IsReference.align (h : IsReference reference c) (h' : IsReference other d)
    (heq : reference ++ after = before ++ (other ++ rest)) :
    before = [] ∨ ∃ between, before = reference ++ between ∧ after = between ++ (other ++ rest) := by
  obtain ⟨between, hbefore, hafter⟩ | ⟨shared, hreference, hshared⟩ :=
    List.append_eq_append_iff.1 heq
  · exact .inr ⟨between, hbefore, hafter⟩
  · cases shared with
    | nil => exact .inr ⟨[], by simpa using hreference.symm, hshared.symm⟩
    | cons e shared =>
      -- The shared part opens with the ampersand of `other`, so it is the ampersand of `reference`.
      obtain ⟨otherTail, rfl, -⟩ := h'.exists_tail
      obtain ⟨tail, rfl, htail⟩ := h.exists_tail
      obtain rfl : '&' = e := (List.cons.inj hshared).1
      cases before with
      | nil => exact .inl rfl
      | cons f before =>
        have : '&' ∈ tail := by
          rw [(List.cons.inj hreference).2]
          simp
        exact absurd this htail

end Phrasebook.Entity
