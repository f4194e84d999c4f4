import Phrasebook.Proofs.FileTree
import Phrasebook.Proofs.Basic
import Phrasebook.Settings.Load

/-!
# Where settings are looked for

A file that is asked for must be there, and nothing else is looked at if it is not; one that the environment names may be missing, and then the settings are loaded without a file. The variable that names the file has the stem that sets keys, but its key is reserved, so it sets nothing: the layers are the same with it and without it, and only the choice of the file depends on it.
-/

namespace Phrasebook.Settings

/-- The environment in which a variable is not set. -/
def Environment.unset (environment : Environment) (name : String) : Environment :=
  ⟨environment.entries.filter fun entry => entry.1 != name,
    environment.nodup.sublist (List.filter_sublist.map _)⟩

variable {disk : Disk} {environment : Environment} {file? : Option String}
  {path name value key : String} {error : Error}

/-! ### A variable that sets nothing -/

theorem lookup_filter (hname : key ≠ name) (entries : List (String × String)) :
    Entries.lookup key (entries.filter fun entry => entry.1 != name) =
      Entries.lookup key entries := by
  induction entries with
  | nil => rfl
  | cons entry rest ih =>
    by_cases hentry : entry.1 = name
    · have hkey : entry.1 ≠ key := fun heq => hname (heq.symm.trans hentry)
      rw [List.filter_cons_of_neg (by simp [hentry]), ih, Entries.lookup, if_neg hkey]
    · rw [List.filter_cons_of_pos (by simp [hentry]), Entries.lookup, Entries.lookup, ih]

theorem filter_setIn (name value : String) (entries : List (String × String)) :
    (setIn name value entries).filter (fun entry => entry.1 != name) =
      entries.filter fun entry => entry.1 != name := by
  induction entries with
  | nil => simp [setIn]
  | cons entry rest ih =>
    rw [setIn]
    split
    · next heq => simp [heq]
    · next hne => rw [List.filter_cons, List.filter_cons, ih]

theorem Environment.unset_set (environment : Environment) (name value : String) :
    (environment.set name value).unset name = environment.unset name := by
  unfold unset set
  simp only [filter_setIn]

theorem Layer.ofVariables_unset (hkeys : keysOfVariable? name = none) :
    ofVariables (environment.unset name) = ofVariables environment := by
  have hstep : (fun (layer : Layer) (entry : String × String) =>
      if entry.1 != name then setVariable layer entry else layer) = setVariable := by
    funext layer entry
    by_cases hentry : entry.1 = name
    · rw [if_neg (by simp [hentry]), setVariable, hentry, hkeys]
    · rw [if_pos (by simp [hentry])]
  unfold ofVariables Environment.unset
  rw [List.foldl_filter, hstep]

theorem Layer.ofDefaultService_unset (hname : defaultServiceVariable ≠ name) :
    ofDefaultService (environment.unset name) = ofDefaultService environment := by
  unfold ofDefaultService Environment.get? Environment.unset
  rw [lookup_filter hname]

/-- The variable that names the file sets no key, so loading from a file is the same without it. -/
theorem loadFrom_unset (disk : Disk) (environment : Environment) (file? : Option String) :
    loadFrom disk (environment.unset pathVariable) file? = loadFrom disk environment file? := by
  have hjoined (file : Layer) : joined (environment.unset pathVariable) file =
      joined environment file := by
    unfold joined
    rw [Layer.ofVariables_unset (by decide), Layer.ofDefaultService_unset (by decide)]
  have hlayers : layers (environment.unset pathVariable) = layers environment := by
    funext source
    unfold layers
    simp only [hjoined]
  unfold loadFrom
  rw [hlayers]

theorem loadFrom_set (disk : Disk) (environment : Environment) (value : String)
    (file? : Option String) :
    loadFrom disk (environment.set pathVariable value) file? =
      loadFrom disk environment file? := by
  rw [← loadFrom_unset, Environment.unset_set, loadFrom_unset]

/-! ### Files that are there and files that are not -/

theorem loadFrom_of_missing (h : disk path = none) :
    loadFrom disk environment (some path) = .error (.missingFile path) := by
  rw [loadFrom, h]

theorem exists_fault_of_error (hfile : ∀ path, file? = some path → disk path ≠ none)
    (h : loadFrom disk environment file? = .error error) : ∃ fault, error = .settings fault := by
  unfold loadFrom at h
  split at h
  · obtain ⟨fault, -, rfl⟩ := mapError_eq_error_iff.1 h
    exact ⟨fault, rfl⟩
  · next path =>
    split at h
    · next hmissing => exact absurd hmissing (hfile path rfl)
    · obtain ⟨fault, -, rfl⟩ := mapError_eq_error_iff.1 h
      exact ⟨fault, rfl⟩

theorem loadFrom_eq_missing_iff :
    loadFrom disk environment (some path) = .error (.missingFile name) ↔
      name = path ∧ disk path = none := by
  constructor
  · intro h
    by_cases hmissing : disk path = none
    · rw [loadFrom_of_missing hmissing] at h
      exact ⟨(Error.missingFile.inj (Except.error.inj h)).symm, hmissing⟩
    · have hfile : ∀ other, some path = some other → disk other ≠ none := by
        intro other heq
        exact Option.some.inj heq ▸ hmissing
      obtain ⟨fault, heq⟩ := exists_fault_of_error hfile h
      cases heq
  · rintro ⟨rfl, hmissing⟩
    exact loadFrom_of_missing hmissing

theorem discover_eq_some_iff :
    discover disk environment = some path ↔
      environment.get? pathVariable = some path ∧ disk path ≠ none := by
  rw [discover, Option.filter_eq_some_iff, Option.isSome_iff_ne_none]

theorem discover_eq_none_iff :
    discover disk environment = none ↔
      ∀ path, environment.get? pathVariable = some path → disk path = none := by
  rw [Option.eq_none_iff_forall_ne_some]
  simp only [ne_eq, discover_eq_some_iff, not_and, not_not]

theorem load_ne_missing (name : String) : load disk environment ≠ .error (.missingFile name) := by
  intro h
  have hfile : ∀ path, discover disk environment = some path → disk path ≠ none :=
    fun path hpath => (discover_eq_some_iff.1 hpath).2
  obtain ⟨fault, heq⟩ := exists_fault_of_error hfile h
  cases heq

/-- A file that is asked for must be a regular file, whatever the environment; without that demand no file is ever missing, since only a regular file that the environment names is asked for. In a tree the regular files are those that paths lead to, and directories are none. What the variable of the file says has no effect on loading from a file. -/
theorem file_required_or_discovered (disk : Disk) (environment : Environment) :
    (∀ path name : String, loadFrom disk environment (some path) = .error (.missingFile name) ↔
      name = path ∧ disk path = none) ∧
    (∀ name : String, loadFrom disk environment none ≠ .error (.missingFile name) ∧
      load disk environment ≠ .error (.missingFile name)) ∧
    (∀ path : String, environment.get? pathVariable = some path → disk path ≠ none →
      load disk environment = loadFrom disk environment (some path)) ∧
    ((∀ path : String, environment.get? pathVariable = some path → disk path = none) →
      load disk environment = loadFrom disk environment none) ∧
    (∀ (file? : Option String) (value : String),
      loadFrom disk (environment.set pathVariable value) file? =
        loadFrom disk environment file? ∧
      loadFrom disk (environment.unset pathVariable) file? =
        loadFrom disk environment file?) ∧
    (∀ (tree : FileTree) (path : String), (tree.disk path = none ↔ ¬tree.NamesFile path) ∧
      (tree.NamesFolder path →
        loadFrom tree.disk environment (some path) = .error (.missingFile path))) := by
  refine ⟨fun path name => loadFrom_eq_missing_iff, fun name => ⟨?_, load_ne_missing name⟩,
    ?_, ?_, fun file? value => ⟨loadFrom_set disk environment value file?,
      loadFrom_unset disk environment file?⟩,
    fun tree path => ⟨FileTree.disk_eq_none_iff, fun hfolder => ?_⟩⟩
  · intro h
    obtain ⟨fault, heq⟩ := exists_fault_of_error (fun path hpath => by cases hpath) h
    cases heq
  · intro path hvariable hthere
    rw [load, discover_eq_some_iff.2 ⟨hvariable, hthere⟩]
  · intro hmissing
    rw [load, discover_eq_none_iff.2 hmissing]
  · exact loadFrom_of_missing (FileTree.disk_eq_none_iff.2 hfolder.not_namesFile)

/-- A tree with a settings file in a directory. -/
def nestedTree : FileTree :=
  .ofLists ["conf"] [("conf/a.toml", "default_service = \"go\"\n")]

/-- An environment that names the directory for the file. -/
def misledEnvironment : Environment := ⟨[("SVCMSG_CONFIG_PATH", "conf")], by decide⟩

theorem file_required_or_discovered_in_folder :
    nestedTree.NamesFolder "conf" ∧
      loadFrom nestedTree.disk misledEnvironment (some "conf") = .error (.missingFile "conf") ∧
      load nestedTree.disk misledEnvironment = loadFrom nestedTree.disk misledEnvironment none ∧
      load nestedTree.disk (misledEnvironment.set pathVariable "./conf/a.toml") =
        .ok { defaultService := "go" } := by
  obtain ⟨hmissing, -, -, hnone, -, htree⟩ :=
    file_required_or_discovered nestedTree.disk misledEnvironment
  obtain ⟨-, -, hsome, -, -, -⟩ := file_required_or_discovered nestedTree.disk
    (misledEnvironment.set pathVariable "./conf/a.toml")
  have hfolder : nestedTree.NamesFolder "conf" :=
    ⟨⟨by decide, by decide⟩, ["conf"], .step (.down (by decide) (by decide)) .here⟩
  have hfails := (htree nestedTree "conf").2 hfolder
  refine ⟨hfolder, hfails, hnone ?_, ?_⟩
  · intro path hpath
    obtain rfl : "conf" = path := Option.some.inj hpath
    exact ((hmissing "conf" "conf").1 hfails).2
  · rw [hsome "./conf/a.toml" rfl (by decide)]
    decide +kernel

end Phrasebook.Settings
