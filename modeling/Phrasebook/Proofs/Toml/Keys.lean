import Phrasebook.Proofs.Dictionary
import Phrasebook.Toml.Document

/-!
# Keys of a TOML document

No key of a document is set twice: the keys at its top strictly increase. While the lines are read every change of the open tables sets one key at the top (`Item.setsOneKey_change`), so `line` and `lines` keep the order, and closing the tables leaves the keys as they are. What a scan reads is spoken of through `Scan.Gives`, without regard to how much text it takes.
-/

namespace Phrasebook.Text.Scan

variable {α β : Type}

/-- Whatever the text is, a value that the scan reads has a property. -/
def Gives (scan : Scan α) (P : α → Prop) : Prop :=
  ∀ text value rest, scan text = some (value, rest) → P value

theorem gives_pure {P : α → Prop} {value : α} (h : P value) : Gives (pure value) P := by
  intro text other rest hscan
  obtain ⟨rfl, -⟩ := Prod.mk.inj (Option.some.inj hscan)
  exact h

theorem gives_failure {P : α → Prop} : Gives (failure : Scan α) P := by
  intro text value rest hscan
  cases hscan

theorem Gives.bind {P : α → Prop} {Q : β → Prop} {scan : Scan α} {next : α → Scan β}
    (hscan : Gives scan P) (hnext : ∀ value, P value → Gives (next value) Q) :
    Gives (scan >>= next) Q := by
  intro text result rest h
  obtain ⟨⟨value, after⟩, hvalue, hresult⟩ := Option.bind_eq_some_iff.1 h
  exact hnext value (hscan text value after hvalue) after result rest hresult

theorem gives_bind {Q : β → Prop} {scan : Scan α} {next : α → Scan β}
    (h : ∀ value, Gives (next value) Q) : Gives (scan >>= next) Q :=
  Gives.bind (P := fun _ => True) (fun _ _ _ _ => trivial) fun value _ => h value

theorem Gives.of_readAll {P : α → Prop} {scan : Scan α} (h : Gives scan P) {text : List Char}
    {value : α} (hread : readAll scan text = some value) : P value := by
  unfold readAll at hread
  split at hread
  · next other hscan =>
    obtain rfl := Option.some.inj hread
    exact h text other [] hscan
  · cases hread

end Phrasebook.Text.Scan

namespace Phrasebook.Toml

open Phrasebook.Text

namespace Item

/-- One key of a table is set, and the others stay as they are. -/
def SetsOneKey (before after : List Entry) : Prop :=
  ∃ key item, after = Entries.insert key item before

theorem SetsOneKey.sorted {before after : List Entry} (h : SetsOneKey before after)
    (hbefore : Entries.Sorted before) : Entries.Sorted after := by
  obtain ⟨key, item, rfl⟩ := h
  exact hbefore.insert key item

theorem setsOneKey_change {opening : Opening} {f : Opening → List Entry → Option (List Entry)}
    (hf : ∀ here before after, f here before = some after → SetsOneKey before after)
    {path : List String} {here : Opening} {before after : List Entry}
    (h : change opening f path here before = some after) : SetsOneKey before after := by
  cases path with
  | nil => exact hf here before after h
  | cons key path =>
    rw [change] at h
    split at h
    · obtain ⟨inner, -, hafter⟩ := Option.bind_eq_some_iff.1 h
      exact ⟨key, _, (Option.some.inj hafter).symm⟩
    · cases h
    · cases h
    · obtain ⟨inner, -, hafter⟩ := Option.bind_eq_some_iff.1 h
      exact ⟨key, _, (Option.some.inj hafter).symm⟩
    · split at h
      · cases h
      · obtain ⟨inner, -, hafter⟩ := Option.bind_eq_some_iff.1 h
        exact ⟨key, _, (Option.some.inj hafter).symm⟩

theorem setsOneKey_setNew {key : String} {item : Item} {before after : List Entry}
    (h : setNew key item before = some after) : SetsOneKey before after := by
  unfold setNew at h
  split at h
  · exact ⟨key, item, (Option.some.inj h).symm⟩
  · cases h

theorem setsOneKey_assign {path : List String} {key : String} {value : Value}
    {before after : List Entry} (h : assign path key value before = some after) :
    SetsOneKey before after := by
  refine setsOneKey_change (fun here inner result hresult => ?_) h
  split at hresult
  · exact setsOneKey_setNew hresult
  · cases hresult

theorem setsOneKey_openTable {path : List String} {key : String} {before after : List Entry}
    (h : openTable path key before = some after) : SetsOneKey before after := by
  refine setsOneKey_change (fun here inner result hresult => ?_) h
  split at hresult
  · exact ⟨key, _, (Option.some.inj hresult).symm⟩
  · exact ⟨key, _, (Option.some.inj hresult).symm⟩
  · cases hresult

theorem setsOneKey_openElement {path : List String} {key : String} {before after : List Entry}
    (h : openElement path key before = some after) : SetsOneKey before after := by
  refine setsOneKey_change (fun here inner result hresult => ?_) h
  split at hresult
  · exact ⟨key, _, (Option.some.inj hresult).symm⟩
  · exact ⟨key, _, (Option.some.inj hresult).symm⟩
  · cases hresult

theorem map_fst_closeEntries (entries : List Entry) :
    (closeEntries entries).map (·.1) = entries.map (·.1) := by
  induction entries with
  | nil => rfl
  | cons entry rest ih => rw [closeEntries, List.map_cons, List.map_cons, ih]

end Item

/-! ### Lines -/

theorem Progress.gives_with {progress : Progress} {root? : Option (List Entry)}
    (hprogress : Entries.Sorted progress.root)
    (hroot : ∀ root, root? = some root → Item.SetsOneKey progress.root root) :
    Scan.Gives (progress.with root?) fun after => Entries.Sorted after.root := by
  cases root? with
  | none => exact Scan.gives_failure
  | some root => exact Scan.gives_pure ((hroot root rfl).sorted hprogress)

theorem gives_line {progress : Progress} (h : Entries.Sorted progress.root) :
    Scan.Gives (line progress) fun after => Entries.Sorted after.root := by
  refine Scan.gives_bind fun text => ?_
  split
  · refine Scan.gives_bind fun _ => Scan.gives_bind fun parts => Scan.gives_bind fun _ =>
      Scan.gives_bind fun _ => Scan.gives_bind fun (path, key) => ?_
    exact Progress.gives_with h fun root => Item.setsOneKey_openElement
  · refine Scan.gives_bind fun _ => Scan.gives_bind fun parts => Scan.gives_bind fun _ =>
      Scan.gives_bind fun _ => Scan.gives_bind fun (path, key) => ?_
    exact Progress.gives_with h fun root => Item.setsOneKey_openTable
  · refine Scan.gives_bind fun (parts, v) => Scan.gives_bind fun _ =>
      Scan.gives_bind fun (path, key) => ?_
    refine Progress.gives_with h fun root => Item.setsOneKey_change ?_
    exact fun _ before after => Item.setsOneKey_assign

theorem gives_lines (bound : Nat) {progress : Progress} (h : Entries.Sorted progress.root) :
    Scan.Gives (lines bound progress) fun after => Entries.Sorted after.root := by
  induction bound generalizing progress with
  | zero => exact Scan.gives_failure
  | succ bound ih =>
    refine Scan.gives_bind fun _ => Scan.gives_bind fun next => ?_
    split
    · exact Scan.gives_pure h
    · exact Scan.gives_bind fun _ => ih h
    · exact Scan.gives_bind fun _ => ih h
    · exact Scan.gives_bind fun _ => ih h
    · exact (gives_line h).bind fun after hafter => ih hafter

theorem sorted_of_read? {source : String} {entries : List (String × Value)}
    (h : read? source = some entries) : Entries.Sorted entries := by
  obtain ⟨progress, hread, rfl⟩ := Option.map_eq_some_iff.1 h
  have hempty : Entries.Sorted ({} : Progress).root := List.Pairwise.nil
  have hroot := (gives_lines _ hempty).of_readAll hread
  exact hroot.of_names_eq (Item.map_fst_closeEntries progress.root)

end Phrasebook.Toml
