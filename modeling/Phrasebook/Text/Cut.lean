/-!
# Cutting text at a character

Everything that reads text here sees it as a list of characters and measures it in bytes of UTF-8. `cut?` and `cutWithin?` split at the first occurrence of a character and lose nothing else: what they return, glued together around that character, is the text they were given. `split` does so at every occurrence.
-/

namespace Phrasebook.Text

/-- The number of bytes that `text` takes in UTF-8. -/
def byteLength (text : List Char) : Nat :=
  text.foldr (fun c length => c.utf8Size + length) 0

@[simp] theorem byteLength_nil : byteLength [] = 0 := rfl

@[simp] theorem byteLength_cons (c : Char) (text : List Char) :
    byteLength (c :: text) = c.utf8Size + byteLength text := rfl

@[simp] theorem byteLength_append (left right : List Char) :
    byteLength (left ++ right) = byteLength left + byteLength right := by
  induction left with
  | nil => simp
  | cons c left ih => simp [ih, Nat.add_assoc]

/-- Splits `text` at its first `c`; that `c` belongs to neither part. -/
def cut? (c : Char) : List Char → Option (List Char × List Char)
  | [] => none
  | d :: rest =>
    if d = c then some ([], rest)
    else (cut? c rest).map fun parts => (d :: parts.1, parts.2)

/-- Splits at the first `c`, provided that at most `budget` bytes stand before it. -/
def cutWithin? (c : Char) (budget : Nat) : List Char → Option (List Char × List Char)
  | [] => none
  | d :: rest =>
    if d = c then some ([], rest)
    else if d.utf8Size ≤ budget then
      (cutWithin? c (budget - d.utf8Size) rest).map fun parts => (d :: parts.1, parts.2)
    else none

/-- The longest front of a text that takes at most `budget` bytes. -/
def takeBytes (budget : Nat) : List Char → List Char
  | [] => []
  | c :: rest =>
    if c.utf8Size ≤ budget then c :: takeBytes (budget - c.utf8Size) rest else []

/-- Splits `text` at every `c`; there is always at least one part. -/
def split (c : Char) : List Char → List (List Char)
  | [] => [[]]
  | d :: rest =>
    if d = c then [] :: split c rest
    else
      match split c rest with
      | part :: parts => (d :: part) :: parts
      | [] => [[d]]

theorem split_of_not_mem {c : Char} {text : List Char} (h : c ∉ text) : split c text = [text] := by
  induction text with
  | nil => rfl
  | cons d rest ih =>
    rw [List.mem_cons, not_or] at h
    rw [split, if_neg (Ne.symm h.1), ih h.2]

theorem cut?_append_cons {c : Char} {before : List Char} (h : c ∉ before) (after : List Char) :
    cut? c (before ++ c :: after) = some (before, after) := by
  induction before with
  | nil => simp [cut?]
  | cons d before ih =>
    rw [List.mem_cons, not_or] at h
    rw [List.cons_append, cut?, if_neg (Ne.symm h.1), ih h.2]
    rfl

theorem cut?_eq_some_iff {c : Char} {text before after : List Char} :
    cut? c text = some (before, after) ↔ text = before ++ c :: after ∧ c ∉ before := by
  refine ⟨fun h => ?_, fun ⟨htext, hmem⟩ => htext ▸ cut?_append_cons hmem after⟩
  induction text generalizing before with
  | nil => simp [cut?] at h
  | cons d rest ih =>
    rw [cut?] at h
    split at h
    · simp_all
    · next hne =>
      obtain ⟨parts, hparts, heq⟩ := Option.map_eq_some_iff.1 h
      obtain ⟨rfl, rfl⟩ := Prod.mk.inj heq
      obtain ⟨hrest, hmem⟩ := ih hparts
      exact ⟨congrArg (d :: ·) hrest, by simp [Ne.symm hne, hmem]⟩

theorem cut?_eq_none_iff {c : Char} {text : List Char} : cut? c text = none ↔ c ∉ text := by
  induction text with
  | nil => simp [cut?]
  | cons d rest ih =>
    rw [cut?, List.mem_cons, not_or, ← ih, eq_comm (a := c)]
    split
    · simp_all
    · simp_all

theorem cutWithin?_append_cons {c : Char} {budget : Nat} {before : List Char} (h : c ∉ before)
    (hlength : byteLength before ≤ budget) (after : List Char) :
    cutWithin? c budget (before ++ c :: after) = some (before, after) := by
  induction before generalizing budget with
  | nil => simp [cutWithin?]
  | cons d before ih =>
    rw [List.mem_cons, not_or] at h
    rw [byteLength_cons] at hlength
    rw [List.cons_append, cutWithin?, if_neg (Ne.symm h.1), if_pos (by omega),
      ih h.2 (by omega)]
    rfl

theorem cutWithin?_eq_some_iff {c : Char} {budget : Nat} {text before after : List Char} :
    cutWithin? c budget text = some (before, after) ↔
      text = before ++ c :: after ∧ c ∉ before ∧ byteLength before ≤ budget := by
  refine ⟨fun h => ?_, fun ⟨htext, hmem, hlength⟩ =>
    htext ▸ cutWithin?_append_cons hmem hlength after⟩
  induction text generalizing budget before with
  | nil => simp [cutWithin?] at h
  | cons d rest ih =>
    rw [cutWithin?] at h
    split at h
    · simp_all
    · next hne =>
      split at h
      · next hsize =>
        obtain ⟨parts, hparts, heq⟩ := Option.map_eq_some_iff.1 h
        obtain ⟨rfl, rfl⟩ := Prod.mk.inj heq
        obtain ⟨hrest, hmem, hlength⟩ := ih hparts
        refine ⟨congrArg (d :: ·) hrest, by simp [Ne.symm hne, hmem], ?_⟩
        rw [byteLength_cons]
        omega
      · simp at h

theorem length_lt_of_cut? {c : Char} {text before after : List Char}
    (h : cut? c text = some (before, after)) : after.length < text.length := by
  rw [(cut?_eq_some_iff.1 h).1]
  simp
  omega

theorem length_lt_of_cutWithin? {c : Char} {budget : Nat} {text before after : List Char}
    (h : cutWithin? c budget text = some (before, after)) : after.length < text.length := by
  rw [(cutWithin?_eq_some_iff.1 h).1]
  simp
  omega

end Phrasebook.Text
