import Phrasebook.Name
import Mathlib.Data.List.Nodup

/-!
# Names that are handed out

What a namer hands out is valid as a placeholder name, not reserved and not handed out before. The search for a free variant always ends: variants with different numbers differ, so among one more of them than there are names handed out one is free (`freeVariant_spec`). Later modules reach the namer only through `isTaken_iff`, `freeVariant_spec`, the statements on `nameFor`, and the two on the names a namer has returned, `isAssigned_assign_iff_mem` and `nodup_concat_assign`.
-/

namespace Phrasebook

namespace Name

/-! ### Surface names and their variants are valid -/

theorem isContinue_or_underscore (c : Char) :
    isContinue (if isContinue c then c else '_') = true := by
  split
  · assumption
  · decide

theorem isStart_of_isContinue {c : Char} (h : isContinue c = true) (hdigit : c.isDigit = false) :
    isStart c = true := by
  simpa [isContinue, isStart, Char.isAlphanum, hdigit] using h

theorem isValid_surfaceChars (natural : List Char) : isValid (surfaceChars natural) = true := by
  unfold surfaceChars
  have hall : ∀ d ∈ (natural.dropWhile (· == '_')).map fun c => if isContinue c then c else '_',
      isContinue d = true := by
    intro d hd
    obtain ⟨c, -, rfl⟩ := List.mem_map.1 hd
    exact isContinue_or_underscore c
  split
  · decide
  · next c rest heq =>
    rw [heq] at hall
    have hrest : rest.all isContinue = true :=
      List.all_eq_true.2 fun d hd => hall d (List.mem_cons_of_mem c hd)
    have hhead : isContinue c = true := hall c List.mem_cons_self
    split
    · simp [isValid, fallback, hhead, hrest]
      decide
    · next hdigit => simp [isValid, isStart_of_isContinue hhead (by simpa using hdigit), hrest]

theorem isValid_surface (natural : String) : isValid (surface natural).toList = true := by
  rw [surface, String.toList_ofList]
  exact isValid_surfaceChars natural.toList

theorem toList_variant (base : String) (k : Nat) :
    (variant base k).toList = base.toList ++ '_' :: Nat.toDigits 10 k := by
  simp [variant]

theorem isValid_append {name tail : List Char} (h : isValid name = true)
    (htail : tail.all isContinue = true) : isValid (name ++ tail) = true := by
  cases name with
  | nil => simp [isValid] at h
  | cons c rest => simp_all [isValid]

theorem isValid_variant {base : String} (h : isValid base.toList = true) (k : Nat) :
    isValid (variant base k).toList = true := by
  rw [toList_variant]
  refine isValid_append h (List.all_eq_true.2 fun c hc => ?_)
  rcases List.mem_cons.1 hc with rfl | hdigit
  · decide
  · have := Nat.isDigit_of_mem_toDigits (by decide) (by decide) hdigit
    simp [isContinue, Char.isAlphanum, this]

/-! ### Variants are distinct and never reserved -/

theorem variant_injective (base : String) : Function.Injective (variant base) := by
  intro j k h
  have hlist := congrArg String.toList h
  rw [toList_variant, toList_variant] at hlist
  have hdigits := (List.cons.inj (List.append_cancel_left hlist)).2
  have hvalue := congrArg (Nat.ofDigitChars 10 · 0) hdigits
  simpa using hvalue

theorem variant_not_mem_reserved (base : String) (k : Nat) : variant base k ∉ reserved := by
  -- A variant ends in a digit, and no reserved name does.
  intro hmem
  have hreserved : ∀ name ∈ reserved, name.toList.getLast?.any Char.isDigit = false := by decide
  have hlast := hreserved _ hmem
  rw [toList_variant, List.getLast?_append, List.getLast?_cons_of_ne_nil Nat.toDigits_ne_nil,
    List.getLast?_eq_some_getLast Nat.toDigits_ne_nil] at hlast
  have hdigit := Nat.isDigit_of_mem_toDigits (b := 10) (by decide) (by decide)
    (List.getLast_mem (Nat.toDigits_ne_nil (n := k)))
  simp [hdigit] at hlast

end Name

namespace Namer

theorem isTaken_variant {namer : Namer} {base : String} {k : Nat} :
    namer.isTaken (Name.variant base k) = true ↔ Name.variant base k ∈ namer.assigned := by
  rw [isTaken_iff, or_iff_right (Name.variant_not_mem_reserved base k)]

/-- One of the variants that are tried is free: they are distinct, and there is one more of them than there are names handed out. -/
theorem exists_free_variant (namer : Namer) (base : String) :
    ∃ k, 1 ≤ k ∧ k ≤ namer.assigned.length + 1 ∧
      namer.isTaken (Name.variant base k) = false := by
  by_contra hnone
  push Not at hnone
  have hsub : (List.range' 1 (namer.assigned.length + 1)).map (Name.variant base) ⊆
      namer.assigned := by
    intro name hname
    obtain ⟨k, hk, rfl⟩ := List.mem_map.1 hname
    rw [List.mem_range'_1] at hk
    have htaken := hnone k hk.1 (by omega)
    exact isTaken_variant.1 (by simpa using htaken)
  have hnodup := List.Nodup.map (Name.variant_injective base)
    (List.nodup_range' (s := 1) (n := namer.assigned.length + 1) 1)
  have hlength := hnodup.length_le_of_subset hsub
  rw [List.length_map, List.length_range'] at hlength
  omega

/-- The search finds the least number of a free variant, within the bound that it keeps. -/
theorem freeVariant_spec (namer : Namer) (base : String) :
    1 ≤ namer.freeVariant base ∧ namer.freeVariant base ≤ namer.assigned.length + 1 ∧
      namer.isTaken (Name.variant base (namer.freeVariant base)) = false ∧
      ∀ k, 1 ≤ k → k < namer.freeVariant base →
        namer.isTaken (Name.variant base k) = true := by
  obtain ⟨k, hk, hbound, hfree⟩ := exists_free_variant namer base
  unfold freeVariant
  dsimp only
  cases hfind : (List.range' 1 (namer.assigned.length + 1)).find?
      fun k => !namer.isTaken (Name.variant base k) with
  | none =>
    have := List.find?_range'_eq_none.1 hfind k hk (by omega)
    simp [hfree] at this
  | some least =>
    obtain ⟨hleast, hmem, hbelow⟩ := List.find?_range'_eq_some.1 hfind
    rw [List.mem_range'_1] at hmem
    refine ⟨hmem.1, ?_, by simpa using hleast, fun j hj hlt => by simpa using hbelow j hj hlt⟩
    simp only [Option.getD_some]
    omega

/-! ### Handing out a name -/

theorem fst_assign (namer : Namer) (natural : String) :
    (namer.assign natural).1 = namer.nameFor natural := rfl

theorem nameFor_of_free {namer : Namer} {natural : String}
    (h : namer.isTaken (Name.surface natural) = false) :
    namer.nameFor natural = Name.surface natural := by
  simp [nameFor, h]

theorem nameFor_of_taken {namer : Namer} {natural : String}
    (h : namer.isTaken (Name.surface natural) = true) :
    namer.nameFor natural =
      Name.variant (Name.surface natural) (namer.freeVariant (Name.surface natural)) := by
  simp [nameFor, h]

theorem isTaken_nameFor (namer : Namer) (natural : String) :
    namer.isTaken (namer.nameFor natural) = false := by
  unfold nameFor
  dsimp only
  split
  · exact (freeVariant_spec namer _).2.2.1
  · next hfree => simpa using hfree

theorem isValid_nameFor (namer : Namer) (natural : String) :
    Name.isValid (namer.nameFor natural).toList = true := by
  unfold nameFor
  dsimp only
  split
  · exact Name.isValid_variant (Name.isValid_surface natural) _
  · exact Name.isValid_surface natural

theorem isAssigned_assign {namer : Namer} {natural name : String} :
    (namer.assign natural).2.isAssigned name = true ↔
      name = (namer.assign natural).1 ∨ namer.isAssigned name = true := by
  simp [assign, isAssigned]

/-! ### A namer and the names it returned -/

section

variable {namer : Namer} {returned : List String}

theorem isAssigned_assign_iff_mem (h : ∀ name, namer.isAssigned name = true ↔ name ∈ returned)
    (natural name : String) :
    (namer.assign natural).2.isAssigned name = true ↔
      name ∈ returned ++ [(namer.assign natural).1] := by
  rw [isAssigned_assign, h, List.mem_append, List.mem_singleton, or_comm]

theorem nodup_concat_assign (h : ∀ name, namer.isAssigned name = true ↔ name ∈ returned)
    (hnodup : returned.Nodup) (natural : String) :
    (returned ++ [(namer.assign natural).1]).Nodup := by
  have hnew : (namer.assign natural).1 ∉ namer.assigned :=
    (isTaken_eq_false_iff.1 (isTaken_nameFor namer natural)).2
  refine List.nodup_append.2 ⟨hnodup, List.nodup_singleton _, ?_⟩
  rintro name hname _ hother rfl
  rw [List.mem_singleton.1 hother, ← h, isAssigned_iff] at hname
  exact hnew hname

end

end Namer

end Phrasebook
