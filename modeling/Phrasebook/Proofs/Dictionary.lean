import Phrasebook.Dictionary
import Mathlib.Data.List.Dedup
import Mathlib.Data.List.Sort
import Mathlib.Data.String.Basic

/-!
# Dictionaries made of pairs

What is bound after pairs were written one after the other: each name to the value of its last pair, and as many names as differ. When the names of the pairs are distinct no pair is lost, so binding by position keeps every value at its name.
-/

namespace Phrasebook

universe u

variable {α : Type u}

theorem Entries.lookup_isSome_iff {name : String} {entries : List (String × α)} :
    (lookup name entries).isSome = true ↔ name ∈ entries.map (·.1) := by
  induction entries with
  | nil => simp [lookup]
  | cons entry rest ih =>
    rw [lookup, List.map_cons, List.mem_cons, ← ih]
    by_cases h : entry.1 = name
    · simp [h]
    · simp [h, Ne.symm h]

theorem Entries.Sorted.lookup_eq_some_iff {entries : List (String × α)} (h : Sorted entries)
    {name : String} {value : α} : lookup name entries = some value ↔ (name, value) ∈ entries := by
  induction entries with
  | nil => simp [lookup]
  | cons entry rest ih =>
    obtain ⟨other, old⟩ := entry
    obtain ⟨hother, hrest⟩ := List.pairwise_cons.1 h
    rw [lookup, List.mem_cons, Prod.mk.injEq]
    by_cases heq : other = name
    · subst heq
      have hmem : (other, value) ∉ rest := fun hmem =>
        String.lt_irrefl other (hother (other, value) hmem)
      simp [hmem, eq_comm (a := value)]
    · rw [if_neg heq, ih hrest]
      simp [Ne.symm heq]

theorem Entries.sorted_iff_pairwise_names {entries : List (String × α)} :
    Sorted entries ↔ (entries.map (·.1)).Pairwise (· < ·) :=
  List.pairwise_map.symm

theorem Entries.Sorted.of_names_eq {β : Type u} {left : List (String × α)}
    {right : List (String × β)} (h : Sorted left) (hnames : right.map (·.1) = left.map (·.1)) :
    Sorted right := by
  rw [sorted_iff_pairwise_names, hnames]
  exact sorted_iff_pairwise_names.1 h

namespace Dictionary

theorem get?_isSome_iff {d : Dictionary α} {name : String} :
    (d.get? name).isSome = true ↔ name ∈ d.names :=
  Entries.lookup_isSome_iff

theorem get?_eq_some_iff {d : Dictionary α} {name : String} {value : α} :
    d.get? name = some value ↔ (name, value) ∈ d.toList :=
  d.sorted.lookup_eq_some_iff

theorem isEmpty_iff_size {d : Dictionary α} : d.isEmpty = true ↔ d.size = 0 := by
  rw [isEmpty, size, List.isEmpty_iff, List.length_eq_zero_iff]

theorem isEmpty_eq (d : Dictionary α) : d.isEmpty = d.names.isEmpty :=
  List.isEmpty_map.symm

theorem names_eq_of_isSome_eq {β : Type u} {left : Dictionary α} {right : Dictionary β}
    (h : ∀ name, (left.get? name).isSome = (right.get? name).isSome) :
    left.names = right.names := by
  -- The names are sorted, so which names are bound tells the list of them.
  refine (Entries.sorted_iff_pairwise_names.1 left.sorted).eq_of_mem_iff
    (Entries.sorted_iff_pairwise_names.1 right.sorted) fun name => ?_
  exact get?_isSome_iff.symm.trans (h name ▸ get?_isSome_iff)

@[simp] theorem insertMany_nil (d : Dictionary α) : d.insertMany [] = d := rfl

theorem insertMany_cons (d : Dictionary α) (pair : String × α) (pairs : List (String × α)) :
    d.insertMany (pair :: pairs) = (d.insert pair.1 pair.2).insertMany pairs := rfl

theorem insertMany_append (d : Dictionary α) (pairs more : List (String × α)) :
    d.insertMany (pairs ++ more) = (d.insertMany pairs).insertMany more :=
  List.foldl_append

/-- A name is bound to the value of its last pair, or else to what it was bound to before. -/
theorem get?_insertMany (d : Dictionary α) (pairs : List (String × α)) (name : String) :
    (d.insertMany pairs).get? name = (pairs.reverse.lookup name).or (d.get? name) := by
  induction pairs generalizing d with
  | nil => simp
  | cons pair pairs ih =>
    obtain ⟨key, value⟩ := pair
    rw [insertMany_cons, ih, get?_insert, List.reverse_cons, List.lookup_append, Option.or_assoc,
      List.lookup_cons, List.lookup_nil]
    by_cases h : key = name
    · simp [h]
    · have hne : (name == key) = false := by simpa using Ne.symm h
      simp [h, hne]

theorem get?_ofList (pairs : List (String × α)) (name : String) :
    (ofList pairs).get? name = pairs.reverse.lookup name := by
  simp [ofList, get?_insertMany]

theorem names_ofList_perm (pairs : List (String × α)) :
    (ofList pairs).names.Perm (pairs.map (·.1)).dedup := by
  rw [List.perm_ext_iff_of_nodup (nodup_names _) (List.nodup_dedup _)]
  intro name
  rw [← get?_isSome_iff, get?_ofList, List.lookup_isSome_iff, List.mem_dedup, List.mem_map]
  refine exists_congr fun pair => ?_
  rw [List.mem_reverse, beq_iff_eq, eq_comm (a := name)]

theorem size_ofList (pairs : List (String × α)) :
    (ofList pairs).size = (pairs.map (·.1)).dedup.length := by
  rw [← (names_ofList_perm pairs).length_eq, names, List.length_map, size]

/-! ### Pairs with distinct names -/

theorem get?_ofList_of_nodup {pairs : List (String × α)} (h : (pairs.map (·.1)).Nodup)
    {name : String} {value : α} (hmem : (name, value) ∈ pairs) :
    (ofList pairs).get? name = some value := by
  obtain ⟨before, after, rfl⟩ := List.append_of_mem hmem
  rw [get?_ofList, List.lookup_eq_some_iff]
  refine ⟨after.reverse, before.reverse, by simp, fun pair hpair => ?_⟩
  rw [List.map_append, List.map_cons] at h
  have hafter := (List.nodup_cons.1 (List.nodup_append.1 h).2.1).1
  rw [bne_iff_ne]
  rintro rfl
  exact hafter (List.mem_map.2 ⟨pair, List.mem_reverse.1 hpair, rfl⟩)

theorem size_ofList_of_nodup {pairs : List (String × α)} (h : (pairs.map (·.1)).Nodup) :
    (ofList pairs).size = pairs.length := by
  rw [size_ofList, h.dedup, List.length_map]

end Dictionary

/-! ### Binding by position -/

namespace Arguments

variable {names values : List String}

theorem size_zip (hnodup : names.Nodup) (hlength : values.length = names.length) :
    (Arguments.zip names values).size = names.length := by
  have hfst : (names.zip values).map (·.1) = names := List.map_fst_zip (by omega)
  rw [Arguments.zip, Dictionary.size_ofList_of_nodup (hfst.symm ▸ hnodup), List.length_zip]
  omega

theorem get?_zip (hnodup : names.Nodup) (hlength : values.length = names.length) {i : Nat}
    {name value : String} (hname : names[i]? = some name) (hvalue : values[i]? = some value) :
    (Arguments.zip names values).get? name = some value := by
  have hfst : (names.zip values).map (·.1) = names := List.map_fst_zip (by omega)
  refine Dictionary.get?_ofList_of_nodup (hfst.symm ▸ hnodup) ?_
  exact List.mem_of_getElem? (List.getElem?_zip_eq_some.2 ⟨hname, hvalue⟩)

theorem map_get?_zip (hnodup : names.Nodup) (hlength : values.length = names.length) :
    names.map (Arguments.zip names values).get? = values.map some := by
  refine List.ext_getElem (by simp [hlength]) fun i hname hvalue => ?_
  rw [List.length_map] at hname hvalue
  rw [List.getElem_map, List.getElem_map]
  exact get?_zip hnodup hlength (List.getElem?_eq_getElem hname) (List.getElem?_eq_getElem hvalue)

end Arguments

end Phrasebook
