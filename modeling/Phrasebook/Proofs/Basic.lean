import Mathlib.Data.List.Forall2

/-!
# General facts

How a computation in `Except` that succeeds comes apart into the steps that succeeded; later modules take `do` blocks apart through these statements only. And what holds of all elements of a list of which one is changed.
-/

namespace Phrasebook

variable {ε α β : Type}

/-! ### Outcomes -/

theorem map_eq_ok_iff {f : α → β} {x : Except ε α} {b : β} :
    f <$> x = .ok b ↔ ∃ a, x = .ok a ∧ f a = b := by
  cases x <;> simp [Functor.map, Except.map]

theorem map_eq_error_iff {f : α → β} {x : Except ε α} {e : ε} :
    f <$> x = .error e ↔ x = .error e := by
  cases x <;> simp [Functor.map, Except.map]

theorem bind_eq_ok_iff {f : α → Except ε β} {x : Except ε α} {b : β} :
    x >>= f = .ok b ↔ ∃ a, x = .ok a ∧ f a = .ok b := by
  cases x <;> simp [bind, Except.bind]

theorem bind_eq_error_iff {f : α → Except ε β} {x : Except ε α} {e : ε} :
    x >>= f = .error e ↔ x = .error e ∨ ∃ a, x = .ok a ∧ f a = .error e := by
  cases x <;> simp [bind, Except.bind]

theorem mapError_eq_ok_iff {δ : Type} {f : ε → δ} {x : Except ε α} {a : α} :
    x.mapError f = .ok a ↔ x = .ok a := by
  cases x <;> simp [Except.mapError]

theorem mapError_eq_error_iff {δ : Type} {f : ε → δ} {x : Except ε α} {e : δ} :
    x.mapError f = .error e ↔ ∃ error, x = .error error ∧ f error = e := by
  cases x <;> simp [Except.mapError]

theorem mapM_congr {f g : α → Except ε β} {as : List α} (h : ∀ a ∈ as, f a = g a) :
    as.mapM f = as.mapM g := by
  induction as with
  | nil => rfl
  | cons a as ih =>
    rw [List.mapM_cons, List.mapM_cons, h a List.mem_cons_self,
      ih fun b hb => h b (List.mem_cons_of_mem _ hb)]

theorem mapM_eq_ok_iff {f : α → Except ε β} {as : List α} {bs : List β} :
    as.mapM f = .ok bs ↔ List.Forall₂ (fun a b => f a = .ok b) as bs := by
  induction as generalizing bs with
  | nil =>
    rw [List.mapM_nil, List.forall₂_nil_left_iff]
    exact ⟨fun h => (Except.ok.inj h).symm, fun h => congrArg Except.ok h.symm⟩
  | cons a as ih =>
    rw [List.mapM_cons, bind_eq_ok_iff, List.forall₂_cons_left_iff]
    refine exists_congr fun b => ?_
    rw [bind_pure_comp, map_eq_ok_iff]
    constructor
    · rintro ⟨ha, tail, htail, rfl⟩
      exact ⟨tail, ha, ih.1 htail, rfl⟩
    · rintro ⟨tail, ha, htail, rfl⟩
      exact ⟨ha, tail, ih.2 htail, rfl⟩

/-! ### Lists -/

theorem forall_mem_modify {P : α → Prop} {elements : List α} (h : ∀ element ∈ elements, P element)
    {f : α → α} (hf : ∀ element, P element → P (f element)) (i : Nat) :
    ∀ element ∈ elements.modify i f, P element := by
  intro element helement
  obtain ⟨j, hj⟩ := List.mem_iff_getElem?.1 helement
  rw [List.getElem?_modify] at hj
  obtain ⟨before, hbefore, rfl⟩ := Option.map_eq_some_iff.1 hj
  have hkept := h before (List.mem_of_getElem? hbefore)
  split
  · exact hf before hkept
  · exact hkept

end Phrasebook
