import Phrasebook.FileTree
import Mathlib.Tactic.Common

/-!
# Paths that lead to files

`Leads` says where the parts of a path lead through the directories of a tree, and `NamesFile` that a path leads to a directory and then names a regular file in it. `disk_eq_none_iff` says that nothing is found at a path exactly if it names no file. So a path that leads to a directory finds nothing, and neither does one that goes on behind a file.
-/

namespace Phrasebook

open Phrasebook.Text

namespace FileTree

variable {tree : FileTree} {here there : List String} {part name : String} {parts rest : List String}

/-- A part of a path that names what it leads to. -/
def IsName (part : String) : Prop := isIdlePart part = false ∧ part ≠ ".."

instance (part : String) : Decidable (IsName part) := inferInstanceAs (Decidable (_ ∧ _))

/-- A part of a path leads from a directory to a directory. Places are held in reverse. -/
inductive Step (tree : FileTree) : List String → String → List String → Prop
  | idle {here : List String} {part : String} (idle : isIdlePart part = true) : Step tree here part here
  | up {name : String} {above : List String} : Step tree (name :: above) ".." above
  | down {here : List String} {part : String} (isName : IsName part)
      (folder : tree.isFolder (part :: here).reverse = true) : Step tree here part (part :: here)

/-- Parts of a path lead from a directory to a directory, one after the other. -/
inductive Leads (tree : FileTree) : List String → List String → List String → Prop
  | here {here : List String} : Leads tree here [] here
  | step {here next there : List String} {part : String} {rest : List String}
      (first : Step tree here part next) (others : Leads tree next rest there) :
      Leads tree here (part :: rest) there

/-- A path that starts at the top and takes no more bytes than a path may. -/
def IsPath (path : String) : Prop :=
  path.toList.head? ≠ some '/' ∧ byteLength path.toList ≤ longestPath

/-- A path leads to a directory of the tree. -/
def NamesFolder (tree : FileTree) (path : String) : Prop :=
  IsPath path ∧ ∃ there, Leads tree [] (pathParts path) there

/-- A path leads to a directory but for its last part, which names a regular file in it. -/
def NamesFile (tree : FileTree) (path : String) : Prop :=
  IsPath path ∧ ∃ before name there, pathParts path = before ++ [name] ∧
    Leads tree [] before there ∧ IsName name ∧ tree.isFolder (name :: there).reverse = false ∧
    ∃ contents, ((name :: there).reverse, contents) ∈ tree.files

/-! ### Following parts -/

theorem follow_of_step (h : Step tree here part there) (rest : List String) :
    tree.follow here (part :: rest) = tree.follow there rest := by
  rw [follow.eq_def]
  cases h with
  | idle hidle => exact if_pos hidle
  | up => rfl
  | down hname hfolder =>
    have hidle : ¬isIdlePart part = true := by simp [hname.1]
    have hup : ¬(part == "..") = true := by simp [hname.2]
    exact (if_neg hidle).trans ((if_neg hup).trans (if_pos hfolder))

theorem follow_of_leads (h : Leads tree here parts there) (rest : List String) :
    tree.follow here (parts ++ rest) = tree.follow there rest := by
  induction h with
  | here => rfl
  | step first others ih => rw [List.cons_append, follow_of_step first, ih]

theorem follow_name (hname : IsName name) (hfolder : tree.isFolder (name :: here).reverse = false) :
    tree.follow here [name] = tree.file? (name :: here).reverse := by
  have hidle : ¬isIdlePart name = true := by simp [hname.1]
  have hup : ¬(name == "..") = true := by simp [hname.2]
  have hnot : ¬tree.isFolder (name :: here).reverse = true := Bool.eq_false_iff.1 hfolder
  rw [follow.eq_def]
  exact (if_neg hidle).trans ((if_neg hup).trans ((if_neg hnot).trans (if_pos rfl)))

theorem exists_of_follow {contents : String} (h : tree.follow here parts = some contents) :
    ∃ before name there, parts = before ++ [name] ∧ Leads tree here before there ∧ IsName name ∧
      tree.isFolder (name :: there).reverse = false ∧
      tree.file? (name :: there).reverse = some contents := by
  induction parts generalizing here with
  | nil => cases h
  | cons part rest ih =>
    by_cases hstep : ∃ next, Step tree here part next
    · obtain ⟨next, first⟩ := hstep
      rw [follow_of_step first] at h
      obtain ⟨before, name, there, rfl, hleads, hlast⟩ := ih h
      exact ⟨part :: before, name, there, rfl, .step first hleads, hlast⟩
    · rw [not_exists] at hstep
      have hidle : isIdlePart part = false := by
        by_contra hidle
        exact hstep here (.idle (by simpa using hidle))
      rw [follow.eq_def] at h
      simp only [hidle, Bool.false_eq_true, if_false] at h
      split at h
      · next hup =>
        obtain rfl : part = ".." := by simpa using hup
        cases here with
        | nil => cases h
        | cons last above => exact absurd .up (hstep above)
      · next hup =>
        have hname : IsName part := ⟨hidle, by simpa using hup⟩
        have hfolder : tree.isFolder (part :: here).reverse = false := by
          by_contra hfolder
          exact hstep (part :: here) (.down hname (by simpa using hfolder))
        simp only [hfolder, Bool.false_eq_true, if_false] at h
        split at h
        · next hrest =>
          obtain rfl := List.isEmpty_iff.1 hrest
          exact ⟨[], part, here, rfl, .here, hname, hfolder, h⟩
        · cases h

/-! ### What is found at a path -/

theorem isSome_file?_iff {place : List String} :
    (tree.file? place).isSome = true ↔ ∃ contents, (place, contents) ∈ tree.files := by
  rw [file?, Option.isSome_map, List.find?_isSome]
  constructor
  · rintro ⟨file, hmem, heq⟩
    exact ⟨file.2, by simpa [← beq_iff_eq.1 heq] using hmem⟩
  · rintro ⟨contents, hmem⟩
    exact ⟨(place, contents), hmem, beq_self_eq_true place⟩

theorem isSome_disk_iff {path : String} :
    (tree.disk path).isSome = true ↔
      IsPath path ∧ (tree.follow [] (pathParts path)).isSome = true := by
  rw [disk, IsPath]
  split
  · next h =>
    simp only [Option.isSome_none, Bool.false_eq_true, false_iff]
    rintro ⟨⟨hhead, hlength⟩, -⟩
    rcases h with hroot | hlong
    · exact hhead hroot
    · omega
  · next h =>
    rw [not_or, Nat.not_lt] at h
    rw [Option.isSome_map]
    exact (and_iff_right h).symm

/-- Something is found exactly at the paths of regular files. -/
theorem disk_eq_none_iff {path : String} : tree.disk path = none ↔ ¬tree.NamesFile path := by
  rw [← Option.not_isSome_iff_eq_none, not_iff_not, isSome_disk_iff, NamesFile]
  refine and_congr_right fun _ => ?_
  constructor
  · intro h
    obtain ⟨contents, hfollow⟩ := Option.isSome_iff_exists.1 h
    obtain ⟨before, name, there, hparts, hleads, hname, hfolder, hfile⟩ := exists_of_follow hfollow
    exact ⟨before, name, there, hparts, hleads, hname, hfolder,
      isSome_file?_iff.1 (Option.isSome_iff_exists.2 ⟨contents, hfile⟩)⟩
  · rintro ⟨before, name, there, hparts, hleads, hname, hfolder, hfile⟩
    rw [hparts, follow_of_leads hleads, follow_name hname hfolder]
    exact isSome_file?_iff.2 hfile

theorem NamesFolder.not_namesFile {path : String} (h : tree.NamesFolder path) :
    ¬tree.NamesFile path := by
  obtain ⟨-, there, hleads⟩ := h
  rw [← disk_eq_none_iff, ← Option.not_isSome_iff_eq_none, isSome_disk_iff]
  rintro ⟨-, hfollow⟩
  have hnone := follow_of_leads hleads []
  rw [List.append_nil] at hnone
  rw [hnone] at hfollow
  cases hfollow

end FileTree

end Phrasebook
