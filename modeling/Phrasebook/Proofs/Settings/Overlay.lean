import Phrasebook.Proofs.Basic
import Phrasebook.Proofs.Toml.Keys
import Phrasebook.Settings.Load

/-!
# Layers over layers

What the joined layers hold under a key. A layer over another holds what the upper one sets, joined with what it covers only where both are tables, and otherwise what the lower one sets (`lookup_overlay`). This needs that no layer sets a key twice, which holds of files and of variables. Both settings are read from values that are texts, so a table is never what is read, and nothing that is joined is.
-/

namespace Phrasebook

theorem EscapeMode.ofKeyword?_eq_some_iff {text : String} {mode : EscapeMode} :
    ofKeyword? text = some mode ↔ text = mode.keyword := by
  constructor
  · intro h
    rw [ofKeyword?] at h
    have hkeyword := List.find?_some h
    exact (beq_iff_eq.1 hkeyword).symm
  · rintro rfl
    cases mode <;> decide

namespace Settings

namespace Node

@[simp] theorem overlay_leaf (older : Node) (origin : Origin) (value : Value) :
    older.overlay (leaf origin value) = leaf origin value := by
  rw [overlay]

@[simp] theorem leaf_overlay (origin : Origin) (value : Value) (newer : Node) :
    (leaf origin value).overlay newer = newer := by
  cases newer <;> rw [overlay]

theorem overlay_eq_leaf_iff {older newer : Node} {origin : Origin} {value : Value} :
    older.overlay newer = leaf origin value ↔ newer = leaf origin value := by
  cases newer with
  | leaf => rw [overlay]
  | table => cases older <;> simp [overlay]

theorem overlayEntries_cons (older : List (String × Node)) (key : String) (node : Node)
    (rest : List (String × Node)) :
    overlayEntries older ((key, node) :: rest) =
      overlayEntries (Entries.insert key
        (((Entries.lookup key older).map (·.overlay node)).getD node) older) rest := by
  rw [overlayEntries]
  cases Entries.lookup key older <;> rfl

end Node

namespace Layer

theorem sorted_overlay {older : Layer} (h : Entries.Sorted older) (newer : Layer) :
    Entries.Sorted (older.overlay newer) := by
  unfold overlay
  induction newer generalizing older with
  | nil => exact h
  | cons entry rest ih =>
    obtain ⟨key, node⟩ := entry
    rw [Node.overlayEntries_cons]
    exact ih (h.insert key _)

/-- Under a key the joined layers hold what the upper one sets, over what the lower one sets. -/
theorem lookup_overlay {newer : Layer} (h : Entries.Sorted newer) (older : Layer) (key : String) :
    Entries.lookup key (older.overlay newer) =
      ((Entries.lookup key newer).map fun node =>
        ((Entries.lookup key older).map (·.overlay node)).getD node).or
          (Entries.lookup key older) := by
  unfold overlay
  induction newer generalizing older with
  | nil => rfl
  | cons entry rest ih =>
    obtain ⟨first, node⟩ := entry
    obtain ⟨hfirst, hrest⟩ := List.pairwise_cons.1 h
    rw [Node.overlayEntries_cons, ih hrest, Entries.lookup_insert]
    by_cases heq : first = key
    · subst heq
      -- the other entries have greater keys, so what is joined here stays
      rw [Entries.lookup_eq_none_of_lt hfirst]
      simp [Entries.lookup]
    · simp [Entries.lookup, heq]

theorem lookup_overlay_of_none {newer : Layer} (h : Entries.Sorted newer) (older : Layer)
    {key : String} (hkey : Entries.lookup key newer = none) :
    Entries.lookup key (older.overlay newer) = Entries.lookup key older := by
  rw [lookup_overlay h, hkey]
  rfl

theorem lookup_overlay_of_leaf {newer : Layer} (h : Entries.Sorted newer) (older : Layer)
    {key : String} {origin : Origin} {value : Value}
    (hkey : Entries.lookup key newer = some (.leaf origin value)) :
    Entries.lookup key (older.overlay newer) = some (.leaf origin value) := by
  rw [lookup_overlay h, hkey]
  cases Entries.lookup key older <;> simp

theorem lookup_overlay_over_leaf {newer : Layer} (h : Entries.Sorted newer) {older : Layer}
    {key : String} {origin : Origin} {value : Value}
    (hkey : Entries.lookup key older = some (.leaf origin value)) :
    Entries.lookup key (older.overlay newer) =
      some ((Entries.lookup key newer).getD (.leaf origin value)) := by
  rw [lookup_overlay h, hkey]
  cases Entries.lookup key newer <;> simp

/-! ### Layers that set no key twice -/

theorem map_fst_ofTomlEntries? {document : List (String × Toml.Value)}
    {entries : List (String × Value)} (h : Value.ofTomlEntries? document = some entries) :
    entries.map (·.1) = document.map (·.1) := by
  induction document generalizing entries with
  | nil =>
    obtain rfl : [] = entries := by simpa [Value.ofTomlEntries?] using h
    rfl
  | cons entry rest ih =>
    obtain ⟨key, value⟩ := entry
    rw [Value.ofTomlEntries?] at h
    obtain ⟨first, -, hrest⟩ := Option.bind_eq_some_iff.1 h
    obtain ⟨others, hothers, heq⟩ := Option.bind_eq_some_iff.1 hrest
    obtain rfl := Option.some.inj heq
    rw [List.map_cons, List.map_cons, ih hothers]

theorem map_fst_ofEntries (origin : Origin) (entries : List (String × Value)) :
    (Node.ofEntries origin entries).map (·.1) = entries.map (·.1) := by
  induction entries with
  | nil => rfl
  | cons entry rest ih => rw [Node.ofEntries, List.map_cons, List.map_cons, ih]

theorem sorted_ofFile {path contents : String} {layer : Layer}
    (h : ofFile path contents = .ok layer) : Entries.Sorted layer := by
  unfold ofFile at h
  split at h
  · next entries hentries =>
    obtain rfl := Except.ok.inj h
    obtain ⟨document, hdocument, hvalues⟩ := Option.bind_eq_some_iff.1 hentries
    have hkeys := (Toml.sorted_of_read? hdocument).of_names_eq (map_fst_ofTomlEntries? hvalues)
    exact hkeys.of_names_eq (map_fst_ofEntries (.file path) entries)
  · cases h

theorem sorted_setVariable {layer : Layer} (h : Entries.Sorted layer) (entry : String × String) :
    Entries.Sorted (setVariable layer entry) := by
  unfold setVariable
  split
  · exact sorted_overlay h _
  · exact h

theorem sorted_ofVariables (environment : Environment) :
    Entries.Sorted (ofVariables environment) :=
  List.foldlRecOn environment.entries setVariable List.Pairwise.nil
    fun _ hlayer entry _ => sorted_setVariable hlayer entry

theorem sorted_ofDefaultService (environment : Environment) :
    Entries.Sorted (ofDefaultService environment) := by
  unfold ofDefaultService
  split
  · exact List.pairwise_singleton _ _
  · exact List.Pairwise.nil

end Layer

/-! ### Reading -/

/-- The text that a value is, if it is one. A character is a text too. -/
def Node.text? : Node → Option String
  | leaf _ (.text content) => some content
  | leaf _ (.character c) => some (String.singleton c)
  | _ => none

theorem readDefaultService_eq_ok_iff {node : Node} {space : String} :
    readDefaultService node = .ok space ↔ node.text? = some space := by
  cases node with
  | table => simp [readDefaultService, Node.text?]
  | leaf origin value => cases value <;> simp [readDefaultService, Node.text?]

theorem Node.text?_eq_keyword_iff {node : Node} {mode : EscapeMode} :
    node.text? = some mode.keyword ↔ ∃ origin, node = leaf origin (.text mode.keyword) := by
  have hlength : ∀ c, String.singleton c ≠ mode.keyword := by
    intro c hc
    have hchars := congrArg (·.toList.length) hc
    cases mode <;> simp [EscapeMode.keyword] at hchars
  cases node with
  | table => simp [text?]
  | leaf origin value => cases value <;> simp [text?, hlength]

theorem readEscapeMode_eq_ok_iff {node : Node} {mode : EscapeMode} :
    readEscapeMode node = .ok mode ↔ node.text? = some mode.keyword := by
  rw [Node.text?_eq_keyword_iff]
  constructor
  · intro h
    unfold readEscapeMode at h
    split at h
    · next origin keyword =>
      split at h
      · next found hfound =>
        obtain rfl := Except.ok.inj h
        exact ⟨origin, by rw [EscapeMode.ofKeyword?_eq_some_iff.1 hfound]⟩
      · cases h
    · split at h <;> cases h
    · cases h
    · cases h
  · rintro ⟨origin, rfl⟩
    rw [readEscapeMode, EscapeMode.ofKeyword?_eq_some_iff.2 rfl]

/-! ### The joined layers -/

/-- What a file contributes, which is nothing where no file is asked for. -/
inductive IsFileLayer (disk : Disk) : Option String → Layer → Prop
  | absent : IsFileLayer disk none []
  | read {path contents : String} {layer : Layer} (hdisk : disk path = some contents)
      (hlayer : Layer.ofFile path contents = .ok layer) : IsFileLayer disk (some path) layer

theorem IsFileLayer.sorted {disk : Disk} {file? : Option String} {file : Layer}
    (h : IsFileLayer disk file? file) : Entries.Sorted file := by
  cases h with
  | absent => exact List.Pairwise.nil
  | read hdisk hlayer => exact Layer.sorted_ofFile hlayer

theorem loadFrom_eq {disk : Disk} {file? : Option String} {file : Layer}
    (h : IsFileLayer disk file? file) (environment : Environment) :
    loadFrom disk environment file? = (ofLayer (joined environment file)).mapError .settings := by
  cases h with
  | absent => rfl
  | read hdisk hlayer =>
    rw [loadFrom, hdisk]
    simp only [layers, hlayer]
    rfl

/-- The built-in default namespace, as a value of the lowest layer. -/
def builtinService : Node := .leaf .builtin (.text Service.builtinDefault)

/-- The built-in escape mode, as a value of the lowest layer. -/
def builtinMode : Node := .leaf .builtin (.text EscapeMode.preserve.keyword)

theorem lookup_joined_mode {file : Layer} (hfile : Entries.Sorted file)
    (environment : Environment) :
    Entries.lookup escapeModeKey (joined environment file) =
      some (((Entries.lookup escapeModeKey (Layer.ofVariables environment)).map
        (((Entries.lookup escapeModeKey file).getD builtinMode).overlay ·)).getD
          ((Entries.lookup escapeModeKey file).getD builtinMode)) := by
  have hservice : Entries.lookup escapeModeKey (Layer.ofDefaultService environment) = none := by
    unfold Layer.ofDefaultService
    split <;> rfl
  have hfirst : Entries.lookup escapeModeKey (Layer.defaults.overlay file) =
      some ((Entries.lookup escapeModeKey file).getD builtinMode) :=
    Layer.lookup_overlay_over_leaf hfile rfl
  rw [joined, Layer.lookup_overlay_of_none (Layer.sorted_ofDefaultService environment) _ hservice,
    Layer.lookup_overlay (Layer.sorted_ofVariables environment), hfirst]
  cases Entries.lookup escapeModeKey (Layer.ofVariables environment) <;> rfl

/-! ### Settings that were loaded -/

variable {disk : Disk} {environment : Environment} {file? : Option String} {settings : Settings}

theorem exists_isFileLayer (h : loadFrom disk environment file? = .ok settings) :
    ∃ file, IsFileLayer disk file? file ∧ ofLayer (joined environment file) = .ok settings := by
  cases file? with
  | none => exact ⟨[], .absent, mapError_eq_ok_iff.1 h⟩
  | some path =>
    rw [loadFrom] at h
    split at h
    · cases h
    · next contents hdisk =>
      obtain ⟨layer, hlayers, hlayer⟩ := bind_eq_ok_iff.1 (mapError_eq_ok_iff.1 h)
      obtain ⟨file, hfile, heq⟩ := bind_eq_ok_iff.1 hlayers
      obtain rfl := Except.ok.inj heq
      exact ⟨file, .read hdisk hfile, hlayer⟩

/-- The mode that the variables set, or else the file, or else the built-in one. -/
def topmostMode (environment : Environment) (file : Layer) : Node :=
  ((Entries.lookup escapeModeKey (Layer.ofVariables environment)).or
    (Entries.lookup escapeModeKey file)).getD builtinMode

/-- Settings that were loaded have the topmost mode. A table that is joined with the one below it is no mode, so this needs no condition on the variables. -/
theorem text?_topmostMode {file : Layer} (hfile : Entries.Sorted file)
    (h : ofLayer (joined environment file) = .ok settings) :
    (topmostMode environment file).text? = some settings.escapeMode.keyword := by
  obtain ⟨space, -, hrest⟩ := bind_eq_ok_iff.1 h
  obtain ⟨mode, hmode, heq⟩ := bind_eq_ok_iff.1 hrest
  obtain rfl := Except.ok.inj heq
  rw [readKey, lookup_joined_mode hfile] at hmode
  obtain ⟨origin, hleaf⟩ := Node.text?_eq_keyword_iff.1 (readEscapeMode_eq_ok_iff.1 hmode)
  refine Node.text?_eq_keyword_iff.2 ⟨origin, ?_⟩
  rw [topmostMode]
  cases hset : Entries.lookup escapeModeKey (Layer.ofVariables environment) with
  | none =>
    rw [hset] at hleaf
    exact hleaf
  | some node =>
    rw [hset, Option.map_some, Option.getD_some, Node.overlay_eq_leaf_iff] at hleaf
    exact hleaf

end Settings

end Phrasebook
