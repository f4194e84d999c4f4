import Phrasebook.Proofs.Name.Fresh
import Mathlib.Data.Finset.Card
import Mathlib.Order.Bounds.Defs

/-!
# The search for a free name

`Settles` is the search for a name as it goes on for as long as names are taken: it starts with the surface name and the number zero, and each round raises the number and tries the variant of that number. Nothing bounds it. It ends all the same, after one round at most for each name that is handed out and one for the surface name itself, which may be reserved: the variants it tries are distinct, and none of them is reserved. The name it ends with is the one that is handed out.
-/

namespace Phrasebook

theorem Name.variant_eq (base : String) (k : Nat) :
    Name.variant base k = base ++ "_" ++ toString k := rfl

namespace Namer

/-- A search that tries `name`, and has raised its number to `k`, ends with `result` when it has raised the number to `n`. -/
inductive Settles (namer : Namer) (base : String) : Nat → String → Nat → String → Prop
  | free {k : Nat} {name : String} (h : namer.isTaken name = false) :
      Settles namer base k name k name
  | taken {k n : Nat} {name result : String} (h : namer.isTaken name = true)
      (next : Settles namer base (k + 1) (Name.variant base (k + 1)) n result) :
      Settles namer base k name n result

section

variable {namer : Namer} {base natural name result other : String} {k m n : Nat}

/-! ### One way for the search to end -/

theorem Settles.unique (h : namer.Settles base k name n result)
    (h' : namer.Settles base k name m other) : m = n ∧ other = result := by
  induction h generalizing m other with
  | free hfree =>
    cases h' with
    | free => exact ⟨rfl, rfl⟩
    | taken htaken => simp [hfree] at htaken
  | taken htaken _ ih =>
    cases h' with
    | free hfree => simp [hfree] at htaken
    | taken _ next => exact ih next

theorem Settles.iff (h : namer.Settles base k name n result) :
    namer.Settles base k name m other ↔ m = n ∧ other = result := by
  refine ⟨h.unique, ?_⟩
  rintro ⟨rfl, rfl⟩
  exact h

/-- The search passes the variants that are taken and ends at the first that is not. -/
theorem settles_variant (hle : k ≤ n) (hfree : namer.isTaken (Name.variant base n) = false)
    (htaken : ∀ j, k ≤ j → j < n → namer.isTaken (Name.variant base j) = true) :
    namer.Settles base k (Name.variant base k) n (Name.variant base n) := by
  -- The induction is on the number of variants that the search still has to pass.
  induction hgap : n - k generalizing k with
  | zero =>
    obtain rfl : k = n := by omega
    exact .free hfree
  | succ gap ih =>
    have hbelow : ∀ j, k + 1 ≤ j → j < n → namer.isTaken (Name.variant base j) = true := by
      intro j hj hlt
      exact htaken j (by omega) hlt
    have hnext := ih (k := k + 1) (by omega) hbelow (by omega)
    exact .taken (htaken k (Nat.le_refl k) (by omega)) hnext

theorem settles_of_free (h : namer.isTaken (Name.surface natural) = false) :
    namer.Settles (Name.surface natural) 0 (Name.surface natural) 0 (namer.nameFor natural) := by
  rw [nameFor_of_free h]
  exact .free h

theorem settles_of_taken (h : namer.isTaken (Name.surface natural) = true) :
    namer.Settles (Name.surface natural) 0 (Name.surface natural)
      (namer.freeVariant (Name.surface natural)) (namer.nameFor natural) := by
  obtain ⟨hone, -, hfree, hbelow⟩ := freeVariant_spec namer (Name.surface natural)
  rw [nameFor_of_taken h]
  exact .taken h (settles_variant hone hfree hbelow)

end

/-! ### The variant it ends with -/

theorem freeVariant_le {namer : Namer} {base : String} {k : Nat} (hk : 1 ≤ k)
    (hfree : namer.isTaken (Name.variant base k) = false) : namer.freeVariant base ≤ k := by
  obtain ⟨-, -, -, hbelow⟩ := freeVariant_spec namer base
  by_contra hlt
  have htaken := hbelow k hk (by omega)
  rw [hfree] at htaken
  cases htaken

theorem isLeast_freeVariant (namer : Namer) (base : String) :
    IsLeast {k | 1 ≤ k ∧ Name.variant base k ∉ Name.reserved ∧
      Name.variant base k ∉ namer.assigned} (namer.freeVariant base) := by
  obtain ⟨hone, -, hfree, -⟩ := freeVariant_spec namer base
  refine ⟨⟨hone, isTaken_eq_false_iff.1 hfree⟩, ?_⟩
  rintro k ⟨hk, hvariant⟩
  exact freeVariant_le hk (isTaken_eq_false_iff.2 hvariant)

/-- Only distinct names count for the bound: a namer that holds each of them once takes the same names. -/
theorem freeVariant_le_card (namer : Namer) (base : String) :
    namer.freeVariant base ≤ namer.assigned.toFinset.card + 1 := by
  obtain ⟨k, hk, hbound, hfree⟩ := exists_free_variant { assigned := namer.assigned.dedup } base
  rw [isTaken_eq_false_iff, List.mem_dedup] at hfree
  have hle := freeVariant_le hk (isTaken_eq_false_iff.2 hfree)
  rw [List.card_toFinset]
  exact Nat.le_trans hle hbound

/-- Whatever names are handed out, the search for one more ends in one way, after one round more at most than there are names handed out. It gives the surface name if that is free, and else its first free variant, by as many rounds as the number of that variant; and this name, a new one, is added to those handed out. -/
theorem assign_first_free (namer : Namer) (natural : String) :
    (∃ k ≤ namer.assigned.toFinset.card + 1,
      (∀ n name, namer.Settles (Name.surface natural) 0 (Name.surface natural) n name ↔
        n = k ∧ name = (namer.assign natural).1) ∧
      (Name.surface natural ∉ Name.reserved ∧ Name.surface natural ∉ namer.assigned →
        (namer.assign natural).1 = Name.surface natural) ∧
      (Name.surface natural ∈ Name.reserved ∨ Name.surface natural ∈ namer.assigned →
        IsLeast {j | 1 ≤ j ∧ Name.surface natural ++ "_" ++ toString j ∉ Name.reserved ∧
          Name.surface natural ++ "_" ++ toString j ∉ namer.assigned} k ∧
        (namer.assign natural).1 = Name.surface natural ++ "_" ++ toString k)) ∧
    (namer.assign natural).1 ∉ namer.assigned ∧
    (namer.assign natural).2.assigned.toFinset =
      insert (namer.assign natural).1 namer.assigned.toFinset := by
  simp only [← Name.variant_eq, fst_assign]
  have hnew := (isTaken_eq_false_iff.1 (isTaken_nameFor namer natural)).2
  refine ⟨?_, hnew, List.toFinset_cons⟩
  by_cases htaken : namer.isTaken (Name.surface natural) = true
  · refine ⟨_, freeVariant_le_card namer (Name.surface natural),
      fun n name => (settles_of_taken htaken).iff, fun hfree => ?_,
      fun _ => ⟨isLeast_freeVariant namer _, nameFor_of_taken htaken⟩⟩
    exact absurd (isTaken_iff.1 htaken) (not_or.2 hfree)
  · have hfree := (Bool.not_eq_true _).mp htaken
    exact ⟨0, Nat.zero_le _, fun n name => (settles_of_free hfree).iff,
      fun _ => nameFor_of_free hfree, fun hsome => absurd (isTaken_iff.2 hsome) htaken⟩

/-- A namer that has handed out variants with a gap between them. -/
def gapped : Namer := { assigned := ["arg_3", "arg_1", "arg"] }

theorem assign_first_free_gapped :
    (Name.surface "x" ∉ Name.reserved ∧ Name.surface "x" ∉ gapped.assigned ∧
      (gapped.assign "x").1 = "x") ∧
    (Name.surface "html" ∈ Name.reserved ∧ (gapped.assign "html").1 = "html_1") ∧
    Name.surface "_arg" ∈ gapped.assigned ∧
    ∃ k ≤ 4, IsLeast {j | 1 ≤ j ∧ Name.surface "_arg" ++ "_" ++ toString j ∉ Name.reserved ∧
      Name.surface "_arg" ++ "_" ++ toString j ∉ gapped.assigned} k ∧
      (gapped.assign "_arg").1 = Name.surface "_arg" ++ "_" ++ toString k := by
  have hx : Name.surface "x" ∉ Name.reserved ∧ Name.surface "x" ∉ gapped.assigned := by decide
  have harg : Name.surface "_arg" ∈ gapped.assigned := by decide
  obtain ⟨⟨_, -, -, hfree, -⟩, -⟩ := assign_first_free gapped "x"
  obtain ⟨⟨k, hk, -, -, htaken⟩, -⟩ := assign_first_free gapped "_arg"
  exact ⟨⟨hx.1, hx.2, hfree hx⟩, by decide, harg, k, hk, htaken (.inr harg)⟩

end Namer

end Phrasebook
