import Phrasebook.Proofs.Settings.Variables

/-!
# Which value is chosen

Where the variables have plain names, each setting is read from one value: that of the highest layer that sets it. For the default namespace the variable of that name is taken as it is, so no variable makes it anything but a text; for the escape mode it is what the notation of variables reads. Loading succeeds exactly if both chosen values can be read, and nothing else in the file or the environment, nor what a chosen value covers, has an effect on the outcome.
-/

namespace Phrasebook.Settings

/-- The value that the default namespace is read from. -/
def chosenService (environment : Environment) (file : Layer) : Node :=
  match environment.get? defaultServiceVariable with
  | some space => .leaf .environment (.text space)
  | none => (Entries.lookup defaultServiceKey file).getD builtinService

/-- The value that the escape mode is read from. -/
def chosenMode (environment : Environment) (file : Layer) : Node :=
  match environment.get? escapeModeVariable with
  | some text => .ofValue .environment (Notation.read text)
  | none => (Entries.lookup escapeModeKey file).getD builtinMode

/-- The variable of the escape mode is no table, which would be joined with one in the file. -/
def Environment.SetsNoModeTable (environment : Environment) : Prop :=
  ∀ text, environment.get? escapeModeVariable = some text →
    ∀ entries, Notation.read text ≠ .table entries

theorem Node.ofValue_eq_leaf {value : Value} (h : ∀ entries, value ≠ .table entries)
    (origin : Origin) : ofValue origin value = leaf origin value := by
  cases value with
  | table entries => exact absurd rfl (h entries)
  | _ => rw [ofValue]

/-- Reads the settings from two values. -/
def readChosen (service mode : Node) : Except Fault Settings := do
  let defaultService ← readDefaultService service
  let escapeMode ← readEscapeMode mode
  return { defaultService, escapeMode }

theorem readChosen_eq_ok_iff {service mode : Node} {settings : Settings} :
    readChosen service mode = .ok settings ↔
      service.text? = some settings.defaultService ∧
        mode.text? = some settings.escapeMode.keyword := by
  rw [← readDefaultService_eq_ok_iff, ← readEscapeMode_eq_ok_iff, readChosen, bind_eq_ok_iff]
  constructor
  · rintro ⟨space, hspace, hmode⟩
    obtain ⟨found, hfound, heq⟩ := bind_eq_ok_iff.1 hmode
    obtain rfl := Except.ok.inj heq
    exact ⟨hspace, hfound⟩
  · rintro ⟨hspace, hmode⟩
    exact ⟨_, hspace, bind_eq_ok_iff.2 ⟨_, hmode, rfl⟩⟩

theorem exists_readChosen_eq_error_iff {service mode : Node} :
    (∃ fault, readChosen service mode = .error fault) ↔
      service.text? = none ∨ ∀ other : EscapeMode, mode.text? ≠ some other.keyword := by
  constructor
  · rintro ⟨fault, hfault⟩
    by_contra h
    rw [not_or, not_forall] at h
    obtain ⟨hservice, found, hfound⟩ := h
    obtain ⟨space, hspace⟩ := Option.ne_none_iff_exists'.1 hservice
    have hread : readChosen service mode = .ok { defaultService := space, escapeMode := found } :=
      readChosen_eq_ok_iff.2 ⟨hspace, not_not.1 hfound⟩
    rw [hread] at hfault
    cases hfault
  · intro h
    cases hread : readChosen service mode with
    | error fault => exact ⟨fault, rfl⟩
    | ok settings =>
      obtain ⟨hservice, hmode⟩ := readChosen_eq_ok_iff.1 hread
      rcases h with hnone | hother
      · rw [hnone] at hservice
        cases hservice
      · exact absurd hmode (hother settings.escapeMode)

theorem ofLayer_eq_readChosen {layer : Layer} {service mode : Node}
    (hservice : Entries.lookup defaultServiceKey layer = some service)
    (hmode : Entries.lookup escapeModeKey layer = some mode) :
    ofLayer layer = readChosen service mode := by
  rw [ofLayer, readKey, readKey, hservice, hmode]
  rfl

section

variable {environment : Environment} (hplain : environment.IsPlain) {file : Layer}
  (hfile : Entries.Sorted file)

include hplain hfile

theorem lookup_joined_service :
    Entries.lookup defaultServiceKey (joined environment file) =
      some (chosenService environment file) := by
  have hbelow : Entries.lookup defaultServiceKey
      ((Layer.defaults.overlay file).overlay (.ofVariables environment)) =
        some ((Entries.lookup defaultServiceKey file).getD builtinService) := by
    rw [Layer.lookup_overlay_of_none (Layer.sorted_ofVariables environment) _
      hplain.lookup_service_ofVariables]
    exact Layer.lookup_overlay_over_leaf hfile rfl
  have hsorted := Layer.sorted_ofDefaultService environment
  rw [joined, chosenService]
  cases hset : environment.get? defaultServiceVariable with
  | none =>
    have hnone : Entries.lookup defaultServiceKey (Layer.ofDefaultService environment) = none := by
      rw [Layer.ofDefaultService, hset]
      rfl
    rw [Layer.lookup_overlay_of_none hsorted _ hnone, hbelow]
  | some space =>
    have hleaf : Entries.lookup defaultServiceKey (Layer.ofDefaultService environment) =
        some (.leaf .environment (.text space)) := by
      rw [Layer.ofDefaultService, hset]
      rfl
    rw [Layer.lookup_overlay_of_leaf hsorted _ hleaf]

theorem lookup_joined_mode_of_isPlain (htable : environment.SetsNoModeTable) :
    Entries.lookup escapeModeKey (joined environment file) =
      some (chosenMode environment file) := by
  rw [lookup_joined_mode hfile, hplain.lookup_mode_ofVariables, chosenMode]
  cases hset : environment.get? escapeModeVariable with
  | none => rfl
  | some text =>
    have hleaf := Node.ofValue_eq_leaf (htable text hset) .environment
    simp only [Option.map_some, Option.getD_some, hleaf, Node.overlay_leaf]

omit hfile in
theorem topmostMode_eq_chosenMode : topmostMode environment file = chosenMode environment file := by
  rw [topmostMode, hplain.lookup_mode_ofVariables, chosenMode]
  cases environment.get? escapeModeVariable <;> rfl

theorem loadFrom_eq_readChosen (htable : environment.SetsNoModeTable) {disk : Disk}
    {file? : Option String} (h : IsFileLayer disk file? file) :
    loadFrom disk environment file? =
      (readChosen (chosenService environment file) (chosenMode environment file)).mapError
        .settings := by
  rw [loadFrom_eq h, ofLayer_eq_readChosen (lookup_joined_service hplain hfile)
    (lookup_joined_mode_of_isPlain hplain hfile htable)]

end

/-- The settings are read field by field from the chosen values. Loading succeeds exactly if the one is a text and the other the keyword of a mode; where it fails the fault is one in settings; and any other file and environment with the same chosen values have the same outcome. -/
theorem loadFrom_chosen {disk : Disk} {environment : Environment} (hplain : environment.IsPlain)
    (htable : environment.SetsNoModeTable) {file? : Option String} {file : Layer}
    (hfile : IsFileLayer disk file? file) :
    (∀ settings, loadFrom disk environment file? = .ok settings ↔
      (chosenService environment file).text? = some settings.defaultService ∧
        (chosenMode environment file).text? = some settings.escapeMode.keyword) ∧
    ((∃ fault, loadFrom disk environment file? = .error (.settings fault)) ↔
      (chosenService environment file).text? = none ∨
        ∀ mode : EscapeMode, (chosenMode environment file).text? ≠ some mode.keyword) ∧
    (∀ error, loadFrom disk environment file? = .error error → ∃ fault, error = .settings fault) ∧
    (∀ (disk' : Disk) (environment' : Environment) (file?' : Option String) (file' : Layer),
      environment'.IsPlain → environment'.SetsNoModeTable → IsFileLayer disk' file?' file' →
      chosenService environment' file' = chosenService environment file →
      chosenMode environment' file' = chosenMode environment file →
        loadFrom disk' environment' file?' = loadFrom disk environment file?) := by
  have hload := loadFrom_eq_readChosen hplain hfile.sorted htable hfile
  refine ⟨fun settings => ?_, ?_, fun error h => ?_, ?_⟩
  · rw [hload, mapError_eq_ok_iff, readChosen_eq_ok_iff]
  · rw [hload, ← exists_readChosen_eq_error_iff]
    refine exists_congr fun fault => mapError_eq_error_iff.trans ⟨?_, fun h => ⟨fault, h, rfl⟩⟩
    rintro ⟨other, hother, heq⟩
    exact Error.settings.inj heq ▸ hother
  · rw [hload, mapError_eq_error_iff] at h
    obtain ⟨fault, -, rfl⟩ := h
    exact ⟨fault, rfl⟩
  · intro disk' environment' file?' file' hplain' htable' hfile' hservice hmode
    rw [loadFrom_eq_readChosen hplain' hfile'.sorted htable' hfile', hservice, hmode, hload]

/-- A disk with a file whose values are of the wrong kinds. -/
def maskedDisk : Disk := fun path =>
  if path = "a.toml" then some "default_service = 5\nescape_mode = [1]\nextra = true\n" else none

def maskingEnvironment : Environment :=
  ⟨[("SVCMSG_DEFAULT_SERVICE", "42"), ("SVCMSG_EXTRA", "\x7ba=1\x7d"),
    ("SVCMSG_ESCAPE_MODE", "UNESCAPE_ENTITIES"), ("PATH", "/bin")], by decide⟩

theorem loadFrom_chosen_masked :
    maskingEnvironment.IsPlain ∧ maskingEnvironment.SetsNoModeTable ∧
      (∃ file, IsFileLayer maskedDisk (some "a.toml") file) ∧
      loadFrom maskedDisk maskingEnvironment (some "a.toml") =
        .ok { defaultService := "42", escapeMode := .unescape } := by
  have hplain : maskingEnvironment.IsPlain := by
    refine List.forall_mem_cons.2 ⟨fun _ => ⟨"DEFAULT_SERVICE".toList, by decide, by decide⟩,
      List.forall_mem_cons.2 ⟨fun _ => ⟨"EXTRA".toList, by decide, by decide⟩,
      List.forall_mem_cons.2 ⟨fun _ => ⟨"ESCAPE_MODE".toList, by decide, by decide⟩, ?_⟩⟩⟩
    exact List.forall_mem_singleton.2 fun hstem => absurd hstem (by decide)
  have htable : maskingEnvironment.SetsNoModeTable := by
    intro text htext entries
    obtain rfl : "UNESCAPE_ENTITIES" = text := Option.some.inj htext
    have hread : Notation.read "UNESCAPE_ENTITIES" = .text "UNESCAPE_ENTITIES" := rfl
    rw [hread]
    exact Value.noConfusion
  have hcontents : (Layer.ofFile "a.toml"
      "default_service = 5\nescape_mode = [1]\nextra = true\n").toBool = true := by decide +kernel
  cases hlayer : Layer.ofFile "a.toml"
      "default_service = 5\nescape_mode = [1]\nextra = true\n" with
  | error fault =>
    rw [hlayer] at hcontents
    cases hcontents
  | ok file =>
    have hfile : IsFileLayer maskedDisk (some "a.toml") file := .read (if_pos rfl) hlayer
    exact ⟨hplain, htable, ⟨file, hfile⟩,
      ((loadFrom_chosen hplain htable hfile).1 _).2 ⟨rfl, rfl⟩⟩

/-- White space behind the stem does not count, so such a variable sets the escape mode too, whatever is under its plain name. -/
theorem loadFrom_blank_behind_stem :
    ∃ environment : Environment,
      environment.entries = [("SVCMSG_ ESCAPE_MODE", "UNESCAPE_ENTITIES")] ∧
      (∀ entry ∈ environment.entries, variableStem.toList <+: entry.1.toList ∧
        (∀ c ∈ entry.1.toList, c.isLower = false) ∧ '.' ∉ entry.1.toList) ∧
      environment.get? escapeModeVariable = none ∧
      (chosenMode environment []).text? = some EscapeMode.preserve.keyword ∧
      loadFrom (fun _ => none) environment none =
        .ok { defaultService := "python", escapeMode := .unescape } := by
  refine ⟨⟨[("SVCMSG_ ESCAPE_MODE", "UNESCAPE_ENTITIES")], by decide⟩, rfl, ?_, rfl, rfl, ?_⟩
  · have hupper : ("SVCMSG_ ESCAPE_MODE".toList.all fun c => !c.isLower) = true := by decide
    exact List.forall_mem_singleton.2
      ⟨by decide, fun c hc => by simpa using List.all_eq_true.1 hupper c hc, by decide⟩
  · decide +kernel

end Phrasebook.Settings
