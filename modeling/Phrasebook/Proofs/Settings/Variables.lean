import Phrasebook.Proofs.Settings.Overlay
import Mathlib.Data.List.DropRight

/-!
# Variables with plain names

A variable is plain if what follows the stem in its name holds no lower-case letter and no dot, and neither begins nor ends with white space. Such a variable sets one key at most, its name behind the stem in lower case. So where all variables with the stem are plain the escape mode is set by one variable only, and the default namespace by none of them.
-/

namespace Phrasebook.Settings

open Phrasebook.Text

/-- The variable that chooses the escape mode. -/
def escapeModeVariable : String := "SVCMSG_ESCAPE_MODE"

/-- What may follow the stem in the name of a plain variable. -/
structure IsPlainKey (key : List Char) : Prop where
  upper : ∀ c ∈ key, c.isLower = false
  undotted : '.' ∉ key
  head : ∀ c ∈ key.head?, Notation.isSpace c = false
  last : ∀ c ∈ key.getLast?, Notation.isSpace c = false

instance (key : List Char) : Decidable (IsPlainKey key) :=
  decidable_of_iff ((key.all fun c => !c.isLower && c != '.') = true ∧
      key.head?.all (fun c => !Notation.isSpace c) = true ∧
      key.getLast?.all (fun c => !Notation.isSpace c) = true) <| by
    simp only [List.all_eq_true, Option.all_eq_true, Bool.and_eq_true, Bool.not_eq_true',
      bne_iff_ne]
    constructor
    · rintro ⟨hchars, hhead, hlast⟩
      exact ⟨fun c hc => (hchars c hc).1, fun hdot => (hchars '.' hdot).2 rfl, hhead, hlast⟩
    · rintro ⟨hupper, hundotted, hhead, hlast⟩
      exact ⟨fun c hc => ⟨hupper c hc, fun hdot => hundotted (hdot ▸ hc)⟩, hhead, hlast⟩

/-- A name that is plain if it has the stem. White space around a name and the case of the stem do not keep a variable from counting. -/
def IsPlainName (name : String) : Prop :=
  lower variableStem.toList <+: lower (Notation.trim name.toList) →
    ∃ key, IsPlainKey key ∧ name = variableStem ++ String.ofList key

/-! ### Lower case and white space -/

theorem toLower_eq_self {c : Char} (h : c.isUpper = false) : c.toLower = c := by
  have hupper : ¬('A'.val ≤ c.val ∧ c.val ≤ 'Z'.val) := of_decide_eq_false h
  exact dif_neg hupper

theorem toUpper_eq_self {c : Char} (h : c.isLower = false) : c.toUpper = c := by
  have hlower : ¬('a'.val ≤ c.val ∧ c.val ≤ 'z'.val) := by
    rintro ⟨hfirst, hlast⟩
    have hletter : c.isLower = true :=
      Bool.and_eq_true_iff.2 ⟨decide_eq_true hfirst, decide_eq_true hlast⟩
    rw [hletter] at h
    cases h
  exact dif_neg hlower

theorem toLower_of_isUpper {c : Char} (h : c.isUpper = true) :
    c.toLower.toUpper = c ∧ Notation.isSpace c.toLower = Notation.isSpace c := by
  -- only ASCII letters have another case, so these 26 are all there is to check
  have hletters : ∀ n < 91, 65 ≤ n → (Char.ofNat n).toLower.toUpper = Char.ofNat n ∧
      Notation.isSpace (Char.ofNat n).toLower = Notation.isSpace (Char.ofNat n) := by decide
  have hbounds : 'A'.val ≤ c.val ∧ c.val ≤ 'Z'.val := of_decide_eq_true h
  have hfirst : 65 ≤ c.toNat := UInt32.le_iff_toNat_le.1 hbounds.1
  have hlast : c.toNat ≤ 90 := UInt32.le_iff_toNat_le.1 hbounds.2
  have hletter := hletters c.toNat (by omega) hfirst
  rwa [Char.ofNat_toNat] at hletter

theorem toUpper_toLower {c : Char} (h : c.isLower = false) : c.toLower.toUpper = c := by
  cases hupper : c.isUpper with
  | true => exact (toLower_of_isUpper hupper).1
  | false => rw [toLower_eq_self hupper, toUpper_eq_self h]

theorem isSpace_toLower (c : Char) : Notation.isSpace c.toLower = Notation.isSpace c := by
  cases hupper : c.isUpper with
  | true => exact (toLower_of_isUpper hupper).2
  | false => rw [toLower_eq_self hupper]

theorem map_toUpper_lower {text : List Char} (h : ∀ c ∈ text, c.isLower = false) :
    (lower text).map Char.toUpper = text := by
  rw [lower, List.map_map]
  exact (List.map_congr_left fun c hc => toUpper_toLower (h c hc)).trans (List.map_id text)

theorem trim_eq_self {text : List Char} (hhead : ∀ c ∈ text.head?, Notation.isSpace c = false)
    (hlast : ∀ c ∈ text.getLast?, Notation.isSpace c = false) : Notation.trim text = text := by
  have hdrop : text.dropWhile Notation.isSpace = text := by
    cases text with
    | nil => rfl
    | cons c rest => rw [List.dropWhile_cons_of_neg (by simp [hhead c rfl])]
  rw [Notation.trim, hdrop]
  refine List.rdropWhile_eq_self_iff.2 fun hne => ?_
  simp [hlast _ (List.getLast?_eq_some_getLast hne)]

/-! ### The key that a plain variable sets -/

namespace IsPlainKey

variable {key : List Char}

theorem trim_lower (h : IsPlainKey key) : Notation.trim (lower key) = lower key := by
  refine trim_eq_self (fun c hc => ?_) (fun c hc => ?_)
  · rw [lower, List.head?_map] at hc
    obtain ⟨d, hd, rfl⟩ := Option.map_eq_some_iff.1 hc
    exact (isSpace_toLower d).trans (h.head d hd)
  · rw [lower, List.getLast?_map] at hc
    obtain ⟨d, hd, rfl⟩ := Option.map_eq_some_iff.1 hc
    exact (isSpace_toLower d).trans (h.last d hd)

theorem undotted_lower (h : IsPlainKey key) : '.' ∉ lower key := by
  intro hmem
  obtain ⟨c, hc, hdot⟩ := List.mem_map.1 hmem
  have hupper := toUpper_toLower (h.upper c hc)
  rw [hdot] at hupper
  obtain rfl : '.' = c := hupper
  exact h.undotted hc

theorem trim_stem_append (h : IsPlainKey key) :
    Notation.trim (variableStem.toList ++ key) = variableStem.toList ++ key := by
  refine trim_eq_self (fun c hc => ?_) (fun c hc => ?_)
  · obtain rfl : 'S' = c := by simpa [variableStem] using hc
    decide
  · rw [List.getLast?_append, Option.mem_def, Option.or_eq_some_iff] at hc
    rcases hc with hkey | ⟨-, hstem⟩
    · exact h.last c hkey
    · obtain rfl : '_' = c := by simpa [variableStem] using hstem
      decide

theorem keysOfVariable? (h : IsPlainKey key) :
    keysOfVariable? (variableStem ++ String.ofList key) =
      if key = [] ∨ String.ofList (lower key) ∈ reservedKeys then none
      else some [String.ofList (lower key)] := by
  have hname : (variableStem ++ String.ofList key).toList = variableStem.toList ++ key := by simp
  have hlower : lower (variableStem.toList ++ key) = lower variableStem.toList ++ lower key :=
    List.map_append
  have hstem : (lower variableStem.toList).isPrefixOf
      (lower variableStem.toList ++ lower key) = true :=
    List.isPrefixOf_iff_prefix.2 (List.prefix_append _ _)
  have hempty : ([lower key].any List.isEmpty = true) ↔ key = [] := by simp [lower]
  rw [Settings.keysOfVariable?, hname, h.trim_stem_append, hlower]
  simp only [List.drop_left, h.trim_lower, split_of_not_mem h.undotted_lower, if_pos hstem]
  refine if_congr ?_ rfl rfl
  rw [Bool.or_eq_true, hempty, List.contains_iff_mem, or_comm]

theorem eq_of_lower_eq (h : IsPlainKey key) (hkey : String.ofList (lower key) = escapeModeKey) :
    variableStem ++ String.ofList key = escapeModeVariable := by
  have hchars : lower key = escapeModeKey.toList := by rw [← hkey, String.toList_ofList]
  rw [← map_toUpper_lower h.upper, hchars]
  decide

end IsPlainKey

/-- What a variable with a plain name can do: it sets nothing, or one key, which is not the default namespace, and is the escape mode only for the variable of that name. -/
theorem keysOfVariable?_of_isPlainName {name : String} (h : IsPlainName name) :
    (keysOfVariable? name = none ∧ name ≠ escapeModeVariable) ∨
      ∃ key, keysOfVariable? name = some [key] ∧ key ≠ defaultServiceKey ∧
        (key = escapeModeKey ↔ name = escapeModeVariable) := by
  have hmode : keysOfVariable? escapeModeVariable = some [escapeModeKey] := by decide
  cases hkeys : keysOfVariable? name with
  | none =>
    refine .inl ⟨rfl, ?_⟩
    rintro rfl
    rw [hmode] at hkeys
    cases hkeys
  | some keys =>
    have hstem : lower variableStem.toList <+: lower (Notation.trim name.toList) := by
      by_contra hstem
      rw [keysOfVariable?] at hkeys
      simp [List.isPrefixOf_iff_prefix, hstem] at hkeys
    obtain ⟨key, hkey, rfl⟩ := h hstem
    have hset := hkey.keysOfVariable?
    rw [hkeys] at hset
    split at hset
    · cases hset
    · next hfree =>
      obtain rfl := Option.some.inj hset
      have hservice : String.ofList (lower key) ≠ defaultServiceKey := by
        intro heq
        exact hfree (.inr (heq ▸ by decide))
      refine .inr ⟨_, rfl, hservice, hkey.eq_of_lower_eq, fun hname => ?_⟩
      rw [hname, hmode] at hkeys
      simpa using hkeys.symm

/-! ### What the variables set -/

namespace Layer

theorem lookup_setVariable {entry : String × String} {other : String}
    (h : keysOfVariable? entry.1 = some [other]) (layer : Layer) (key : String) :
    Entries.lookup key (layer.setVariable entry) =
      if other = key then
        some (((Entries.lookup key layer).map
          (·.overlay (Node.ofValue .environment (Notation.read entry.2)))).getD
            (Node.ofValue .environment (Notation.read entry.2)))
      else Entries.lookup key layer := by
  rw [setVariable, h]
  simp only [Node.nest]
  rw [lookup_overlay (List.pairwise_singleton _ _), Entries.lookup, Entries.lookup]
  split <;> simp

theorem lookup_setVariable_of_isPlainName {entry : String × String} (h : IsPlainName entry.1)
    (layer : Layer) :
    Entries.lookup defaultServiceKey (layer.setVariable entry) =
        Entries.lookup defaultServiceKey layer ∧
      (entry.1 ≠ escapeModeVariable → Entries.lookup escapeModeKey (layer.setVariable entry) =
        Entries.lookup escapeModeKey layer) := by
  rcases keysOfVariable?_of_isPlainName h with ⟨hnone, -⟩ | ⟨key, hkey, hservice, hmode⟩
  · rw [setVariable, hnone]
    exact ⟨rfl, fun _ => rfl⟩
  · rw [lookup_setVariable hkey, lookup_setVariable hkey, if_neg hservice]
    exact ⟨rfl, fun hname => if_neg fun heq => hname (hmode.1 heq)⟩

theorem lookup_mode_foldl_of_not_mem {entries : List (String × String)}
    (hplain : ∀ entry ∈ entries, IsPlainName entry.1)
    (h : escapeModeVariable ∉ entries.map (·.1)) (layer : Layer) :
    Entries.lookup escapeModeKey (entries.foldl setVariable layer) =
      Entries.lookup escapeModeKey layer := by
  induction entries generalizing layer with
  | nil => rfl
  | cons entry rest ih =>
    obtain ⟨hentry, hrest⟩ := List.forall_mem_cons.1 hplain
    rw [List.map_cons, List.mem_cons, not_or] at h
    rw [List.foldl_cons, ih hrest h.2]
    exact (lookup_setVariable_of_isPlainName hentry layer).2 (Ne.symm h.1)

theorem lookup_mode_foldl {entries : List (String × String)}
    (hplain : ∀ entry ∈ entries, IsPlainName entry.1) (hnodup : (entries.map (·.1)).Nodup)
    {layer : Layer} (hlayer : Entries.lookup escapeModeKey layer = none) :
    Entries.lookup escapeModeKey (entries.foldl setVariable layer) =
      (Entries.lookup escapeModeVariable entries).map fun text =>
        Node.ofValue .environment (Notation.read text) := by
  induction entries generalizing layer with
  | nil => exact hlayer
  | cons entry rest ih =>
    obtain ⟨hentry, hrest⟩ := List.forall_mem_cons.1 hplain
    obtain ⟨hfresh, hnodup⟩ := List.nodup_cons.1 hnodup
    rw [List.foldl_cons, Entries.lookup]
    by_cases hname : entry.1 = escapeModeVariable
    · -- no variable behind it has the name, and none before it has set the key
      rw [if_pos hname, lookup_mode_foldl_of_not_mem hrest (hname ▸ hfresh)]
      have hkeys : keysOfVariable? entry.1 = some [escapeModeKey] := by
        rw [hname]
        decide
      rw [lookup_setVariable hkeys, if_pos rfl, hlayer]
      rfl
    · rw [if_neg hname]
      exact ih hrest hnodup
        (((lookup_setVariable_of_isPlainName hentry layer).2 hname).trans hlayer)

end Layer

/-- An environment in which the variables with the stem are plain. -/
def Environment.IsPlain (environment : Environment) : Prop :=
  ∀ entry ∈ environment.entries, IsPlainName entry.1

namespace Environment.IsPlain

variable {environment : Environment} (h : environment.IsPlain)

include h

theorem lookup_service_ofVariables :
    Entries.lookup defaultServiceKey (Layer.ofVariables environment) = none :=
  List.foldlRecOn (motive := fun layer => Entries.lookup defaultServiceKey layer = none)
    environment.entries Layer.setVariable rfl fun layer hlayer entry hentry =>
      (Layer.lookup_setVariable_of_isPlainName (h entry hentry) layer).1.trans hlayer

theorem lookup_mode_ofVariables :
    Entries.lookup escapeModeKey (Layer.ofVariables environment) =
      (environment.get? escapeModeVariable).map fun text =>
        Node.ofValue .environment (Notation.read text) :=
  Layer.lookup_mode_foldl h environment.nodup rfl

end Environment.IsPlain

end Phrasebook.Settings
