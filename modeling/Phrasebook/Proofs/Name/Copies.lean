import Phrasebook.Proofs.Name.Fresh
import Phrasebook.Proofs.Template.RoundTrip

/-!
# Names from copies of a namer

A namer may be copied at any time, and a copy may later be put in place of any other. Each namer of such a run is kept with the names it has returned, and a copy starts with those of the namer it was taken from. `HasReturned` is what a namer owes to these names; handing out one more name keeps it, and copying concerns no namer but whole pairs, so it holds throughout every run.
-/

namespace Phrasebook.Namer

/-- What a namer guarantees of the names it has returned: they are distinct, none is reserved, each stands for itself between the marks of a placeholder, and the namer knows these names and no others. -/
structure HasReturned (namer : Namer) (returned : List String) : Prop where
  nodup : returned.Nodup
  not_reserved : ∀ name ∈ returned, name ∉ Name.reserved
  isValid : ∀ name ∈ returned, Name.isValid name.toList = true
  parse : ∀ name ∈ returned,
    Template.parse ("\x7b$" ++ name ++ "\x7d") = .ok ⟨[.placeholder name]⟩
  isAssigned_iff : ∀ name, namer.isAssigned name = true ↔ name ∈ returned

theorem hasReturned_empty : empty.HasReturned [] where
  nodup := List.nodup_nil
  not_reserved := by simp
  isValid := by simp
  parse := by simp
  isAssigned_iff := by simp [Namer.isAssigned_iff, empty]

namespace HasReturned

variable {namer : Namer} {returned : List String}

theorem assign (h : namer.HasReturned returned) (natural : String) :
    (namer.assign natural).2.HasReturned (returned ++ [(namer.assign natural).1]) := by
  have hvalid := isValid_nameFor namer natural
  have hfree := (isTaken_eq_false_iff.1 (isTaken_nameFor namer natural)).1
  refine ⟨nodup_concat_assign h.isAssigned_iff h.nodup natural, ?_, ?_, ?_,
    isAssigned_assign_iff_mem h.isAssigned_iff natural⟩
  · exact List.forall_mem_append.2 ⟨h.not_reserved, List.forall_mem_singleton.2 hfree⟩
  · exact List.forall_mem_append.2 ⟨h.isValid, List.forall_mem_singleton.2 hvalid⟩
  · exact List.forall_mem_append.2
      ⟨h.parse, List.forall_mem_singleton.2 (Template.parse_placeholder hvalid)⟩

theorem assignAll (h : namer.HasReturned returned) (naturals : List String) :
    (namer.assignAll naturals).2.HasReturned (returned ++ (namer.assignAll naturals).1) := by
  induction naturals generalizing namer returned with
  | nil => simpa [Namer.assignAll] using h
  | cons natural rest ih =>
    have hrest := ih (h.assign natural)
    rw [List.append_assoc] at hrest
    exact hrest

end HasReturned

/-! ### Copies, saved and restored -/

/-- A namer of a run, with the names returned by it and, before it was copied, by the one it was copied from. -/
structure Copy where
  namer : Namer := empty
  returned : List String := []

def Copy.assign (copy : Copy) (natural : String) : Copy :=
  { namer := (copy.namer.assign natural).2
    returned := copy.returned ++ [(copy.namer.assign natural).1] }

/-- One step of a run. Namers are meant by their numbers. -/
inductive Step where
  | assign (copy : Nat) (natural : String)
  | save (copy : Nat)
  /-- Puts a copy in the place of another. -/
  | restore (copy saved : Nat)

def step (copies : List Copy) : Step → List Copy
  | .assign i natural => copies.modify i (·.assign natural)
  | .save i => copies ++ copies[i]?.toList
  | .restore i j =>
    match copies[j]? with
    | some saved => copies.set i saved
    | none => copies

/-- The namers after some steps, where there is one new namer at first. -/
def run (steps : List Step) : List Copy := steps.foldl step [{}]

theorem hasReturned_of_mem_step {copies : List Copy}
    (h : ∀ copy ∈ copies, copy.namer.HasReturned copy.returned) (s : Step) :
    ∀ copy ∈ step copies s, copy.namer.HasReturned copy.returned := by
  cases s with
  | assign i natural => exact forall_mem_modify h (fun copy hkept => hkept.assign natural) i
  | save i =>
    refine List.forall_mem_append.2 ⟨h, ?_⟩
    intro copy hsaved
    exact h copy (List.mem_of_getElem? (Option.mem_toList.1 hsaved))
  | restore i j =>
    intro copy hcopy
    rw [step] at hcopy
    split at hcopy
    · next saved hsaved =>
      rcases List.mem_or_eq_of_mem_set hcopy with hmem | rfl
      · exact h copy hmem
      · exact h copy (List.mem_of_getElem? hsaved)
    · exact h copy hcopy

theorem hasReturned_of_mem_foldl {copies : List Copy}
    (h : ∀ copy ∈ copies, copy.namer.HasReturned copy.returned) (steps : List Step) :
    ∀ copy ∈ steps.foldl step copies, copy.namer.HasReturned copy.returned := by
  induction steps generalizing copies with
  | nil => exact h
  | cons s steps ih => exact ih (hasReturned_of_mem_step h s)

/-! ### Names handed out in order -/

/-- The namer that has handed out names for these natural names, and nothing else. -/
def after (naturals : List String) : Namer :=
  naturals.foldl (fun namer natural => (namer.assign natural).2) empty

theorem assignAll_snd (namer : Namer) (naturals : List String) :
    (namer.assignAll naturals).2 =
      naturals.foldl (fun namer natural => (namer.assign natural).2) namer := by
  induction naturals generalizing namer with
  | nil => rfl
  | cons natural rest ih => exact ih (namer.assign natural).2

theorem length_assignAll (namer : Namer) (naturals : List String) :
    (namer.assignAll naturals).1.length = naturals.length := by
  induction naturals generalizing namer with
  | nil => rfl
  | cons natural rest ih => exact congrArg (· + 1) (ih (namer.assign natural).2)

theorem getElem?_assignAll (namer : Namer) {naturals : List String} {i : Nat} {natural : String}
    (h : naturals[i]? = some natural) :
    (namer.assignAll naturals).1[i]? =
      some (((naturals.take i).foldl (fun namer natural => (namer.assign natural).2) namer).assign
        natural).1 := by
  induction naturals generalizing namer i with
  | nil => simp at h
  | cons first rest ih =>
    cases i with
    | zero =>
      obtain rfl : first = natural := by simpa using h
      rfl
    | succ i => exact ih (namer.assign first).2 (by simpa using h)

theorem hasReturned_canonicalNames (naturals : List String) :
    (after naturals).HasReturned (canonicalNames naturals) := by
  have hall := hasReturned_empty.assignAll naturals
  rwa [assignAll_snd, List.nil_append] at hall

/-- However a namer is used, copied and restored, each copy guarantees what `HasReturned` says of the names of its own history. Canonical names are such names, one for each natural name in order, and each is the one that a single namer gives after the natural names before. -/
theorem hasReturned_of_run :
    (∀ steps, ∀ copy ∈ run steps, copy.namer.HasReturned copy.returned) ∧
    (∀ naturals, (after naturals).HasReturned (canonicalNames naturals) ∧
      (canonicalNames naturals).length = naturals.length ∧
      ∀ (i : Nat) (natural : String), naturals[i]? = some natural →
        (canonicalNames naturals)[i]? = some ((after (naturals.take i)).assign natural).1) := by
  refine ⟨fun steps => ?_, fun naturals => ⟨hasReturned_canonicalNames naturals,
    length_assignAll empty naturals, fun i natural => getElem?_assignAll empty⟩⟩
  refine hasReturned_of_mem_foldl (fun copy hcopy => ?_) steps
  rw [List.mem_singleton.1 hcopy]
  exact hasReturned_empty

/-- A copy goes its own way, and is then put in the place of the namer it was taken from. -/
def restoring : List Step :=
  [.assign 0 "arg", .save 0, .assign 0 "arg_1", .assign 1 "_arg", .assign 1 "_arg", .restore 0 1,
    .assign 0 "html"]

theorem hasReturned_of_run_restoring :
    (∃ copy ∈ run restoring, copy.returned = ["arg", "arg_1", "arg_2", "html_1"] ∧
      copy.namer.HasReturned copy.returned) ∧
    (canonicalNames ["arg", "arg_1", "_arg"])[2]? =
      some ((after ["arg", "arg_1"]).assign "_arg").1 ∧
    (canonicalNames ["arg", "arg_1", "_arg"])[2]? = some "arg_2" := by
  have hcopy : 0 < (run restoring).length := by decide
  have hmem := List.getElem_mem hcopy
  have hreturned : (run restoring)[0].returned = ["arg", "arg_1", "arg_2", "html_1"] := rfl
  obtain ⟨hrun, hcanonical⟩ := hasReturned_of_run
  exact ⟨⟨_, hmem, hreturned, hrun restoring _ hmem⟩,
    (hcanonical ["arg", "arg_1", "_arg"]).2.2 2 "_arg" rfl, by decide⟩

end Phrasebook.Namer
