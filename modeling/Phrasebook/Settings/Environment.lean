import Phrasebook.Error
import Phrasebook.Settings.Value

/-!
# Environments

An environment is a list of variables, none of which is set twice. Two variables are read under their exact names: the path of the settings file, and the default namespace, whose value is taken as it is. All others count when their names begin with the stem in any case; what follows, in lower case and cut at dots, is the key that they set.
-/

namespace Phrasebook.Settings

open Phrasebook.Text

/-- The variable that names the settings file. -/
def pathVariable : String := "SVCMSG_CONFIG_PATH"

/-- The variable that chooses the default namespace. -/
def defaultServiceVariable : String := "SVCMSG_DEFAULT_SERVICE"

/-- Keys that variables do not set through the stem. -/
def reservedKeys : List String := ["config_path", "default_service"]

/-- Sets a variable, in place where its name is already set. -/
def setIn (name value : String) : List (String × String) → List (String × String)
  | [] => [(name, value)]
  | (other, old) :: rest =>
    if other = name then (name, value) :: rest else (other, old) :: setIn name value rest

theorem mem_names_setIn {name value other : String} {entries : List (String × String)} :
    other ∈ (setIn name value entries).map (·.1) ↔ other = name ∨ other ∈ entries.map (·.1) := by
  induction entries with
  | nil => simp [setIn]
  | cons entry rest ih =>
    rw [setIn]
    split
    · next heq => simp [heq]
    · rw [List.map_cons, List.map_cons, List.mem_cons, List.mem_cons, ih]
      exact or_left_comm

theorem nodup_names_setIn {entries : List (String × String)} (h : (entries.map (·.1)).Nodup)
    (name value : String) : ((setIn name value entries).map (·.1)).Nodup := by
  induction entries with
  | nil => simp [setIn]
  | cons entry rest ih =>
    rw [List.map_cons, List.nodup_cons] at h
    rw [setIn]
    split
    · next heq => exact List.nodup_cons.2 ⟨heq ▸ h.1, h.2⟩
    · next hne =>
      refine List.nodup_cons.2 ⟨fun hmem => ?_, ih h.2⟩
      rcases mem_names_setIn.1 hmem with heq | hrest
      · exact hne heq
      · exact h.1 hrest

/-- The variables of a process, in order. -/
structure Environment where
  entries : List (String × String) := []
  /-- No name is set twice. -/
  nodup : (entries.map (·.1)).Nodup := by exact List.nodup_nil
  deriving DecidableEq, Repr

namespace Environment

instance : Inhabited Environment := ⟨{}⟩

/-- Sets a variable. -/
def set (environment : Environment) (name value : String) : Environment :=
  ⟨setIn name value environment.entries, nodup_names_setIn environment.nodup name value⟩

/-- The environment in which variables are set one after the other. -/
def ofList (settings : List (String × String)) : Environment :=
  settings.foldl (fun environment entry => environment.set entry.1 entry.2) {}

/-- The environment that a process hands on to one it starts, in the order of the names. -/
def inherited (settings : List (String × String)) : Environment :=
  ⟨(Dictionary.ofList settings).toList, (Dictionary.ofList settings).nodup_names⟩

def get? (environment : Environment) (name : String) : Option String :=
  Entries.lookup name environment.entries

end Environment

/-- A text in lower case; only ASCII letters have one. -/
def lower (text : List Char) : List Char := text.map Char.toLower

/-- The keys that lead to what a variable sets, if it sets anything. -/
def keysOfVariable? (name : String) : Option (List String) :=
  let name := lower (Notation.trim name.toList)
  let stem := lower variableStem.toList
  if stem.isPrefixOf name then
    let key := Notation.trim (name.drop stem.length)
    let keys := split '.' key
    if reservedKeys.contains (String.ofList (name.drop stem.length)) || keys.any List.isEmpty then none
    else some (keys.map String.ofList)
  else none

end Phrasebook.Settings
