/-!
# Dictionaries

A dictionary binds names to values and keeps its entries strictly increasing by name, in the order of code points. The order is part of the type, so two dictionaries with the same bindings are equal and no history of insertions can be told from another. `get?_insert` and `ext_get?` are what the rest relies on.

`Arguments` are the dictionary of texts that templates take their values from. Names that no placeholder uses are allowed in it and have no effect.
-/

namespace Phrasebook

universe u

namespace Entries

variable {α : Type u}

/-- The value bound to `name` in a list of entries. -/
def lookup (name : String) : List (String × α) → Option α
  | [] => none
  | (other, value) :: rest => if other = name then some value else lookup name rest

/-- Binds `name` in a sorted list of entries; a value it was bound to is replaced. -/
def insert (name : String) (value : α) : List (String × α) → List (String × α)
  | [] => [(name, value)]
  | (other, old) :: rest =>
    if name < other then (name, value) :: (other, old) :: rest
    else if name = other then (name, value) :: rest
    else (other, old) :: insert name value rest

/-- Binds `name` like `insert`, and gives the value that it was bound to where it stands. -/
def exchange (name : String) (value : α) :
    List (String × α) → Option α × List (String × α)
  | [] => (none, [(name, value)])
  | (other, old) :: rest =>
    if name < other then (none, (name, value) :: (other, old) :: rest)
    else if name = other then (some old, (name, value) :: rest)
    else
      let (before, entries) := exchange name value rest
      (before, (other, old) :: entries)

/-- The names of the entries strictly increase. -/
def Sorted (entries : List (String × α)) : Prop :=
  entries.Pairwise fun left right => left.1 < right.1

theorem mem_of_mem_insert {name : String} {value : α} {entries : List (String × α)}
    {entry : String × α} (h : entry ∈ insert name value entries) :
    entry = (name, value) ∨ entry ∈ entries := by
  induction entries with
  | nil => simpa [insert] using h
  | cons head rest ih =>
    rw [insert] at h
    split at h
    · simpa using h
    · split at h
      · grind
      · grind

private theorem lt_of_not_lt_of_ne {left right : String} (hlt : ¬left < right)
    (hne : left ≠ right) : right < left := by
  rw [String.not_lt] at hlt
  exact Classical.byContradiction fun h =>
    hne (String.le_antisymm (String.not_lt.1 h) hlt)

theorem Sorted.insert {entries : List (String × α)} (h : Sorted entries)
    (name : String) (value : α) : Sorted (insert name value entries) := by
  induction entries with
  | nil => simp [Entries.insert, Sorted]
  | cons head rest ih =>
    obtain ⟨other, old⟩ := head
    obtain ⟨hhead, hrest⟩ := List.pairwise_cons.1 h
    rw [Entries.insert]
    split
    · next hlt =>
      refine List.pairwise_cons.2 ⟨fun entry hentry => ?_, h⟩
      rcases List.mem_cons.1 hentry with rfl | hmem
      · exact hlt
      · exact String.lt_trans hlt (hhead entry hmem)
    · next hlt =>
      split
      · next heq => exact List.pairwise_cons.2 ⟨heq ▸ hhead, hrest⟩
      · next hne =>
        refine List.pairwise_cons.2 ⟨fun entry hentry => ?_, ih hrest⟩
        rcases mem_of_mem_insert hentry with rfl | hmem
        · exact lt_of_not_lt_of_ne hlt hne
        · exact hhead entry hmem

theorem lookup_insert (name other : String) (value : α) (entries : List (String × α)) :
    lookup other (insert name value entries) =
      if name = other then some value else lookup other entries := by
  induction entries with
  | nil => simp [insert, lookup]
  | cons head rest ih =>
    obtain ⟨first, old⟩ := head
    rw [insert]
    split
    · simp [lookup]
    · split
      · next heq => subst heq; simp only [lookup]; split <;> rfl
      · next hne =>
        simp only [lookup, ih]
        by_cases h : first = other
        · subst h; simp [hne]
        · simp [h]

theorem lookup_eq_none_of_lt {name : String} {entries : List (String × α)}
    (h : ∀ entry ∈ entries, name < entry.1) : lookup name entries = none := by
  induction entries with
  | nil => rfl
  | cons head rest ih =>
    have hne : head.1 ≠ name := fun heq =>
      String.lt_irrefl name (heq ▸ h head (List.mem_cons_self ..))
    rw [lookup, if_neg hne]
    exact ih fun entry hentry => h entry (List.mem_cons_of_mem _ hentry)

theorem Sorted.lookup_eq_none_of_lt {name : String} {head : String × α}
    {rest : List (String × α)} (h : Sorted (head :: rest)) (hlt : name < head.1) :
    lookup name (head :: rest) = none :=
  Entries.lookup_eq_none_of_lt fun entry hentry => by
    rcases List.mem_cons.1 hentry with rfl | hmem
    · exact hlt
    · exact String.lt_trans hlt ((List.pairwise_cons.1 h).1 entry hmem)

theorem snd_exchange (name : String) (value : α) (entries : List (String × α)) :
    (exchange name value entries).2 = insert name value entries := by
  induction entries with
  | nil => rfl
  | cons head rest ih =>
    rw [exchange, insert]
    split
    · rfl
    · split
      · rfl
      · rw [← ih]

theorem Sorted.fst_exchange {entries : List (String × α)} (h : Sorted entries) (name : String)
    (value : α) : (exchange name value entries).1 = lookup name entries := by
  -- The walk ends at the first name that is not smaller; the names increase, so it misses none.
  induction entries with
  | nil => rfl
  | cons head rest ih =>
    obtain ⟨other, old⟩ := head
    rw [exchange]
    split
    · next hlt => exact (h.lookup_eq_none_of_lt hlt).symm
    · split
      · next heq => rw [lookup, if_pos heq.symm]
      · next hne =>
        rw [lookup, if_neg (Ne.symm hne)]
        exact ih (List.pairwise_cons.1 h).2

theorem Sorted.eq_of_lookup_eq {left right : List (String × α)} (hleft : Sorted left)
    (hright : Sorted right) (h : ∀ name, lookup name left = lookup name right) :
    left = right := by
  induction left generalizing right with
  | nil =>
    match right with
    | [] => rfl
    | (name, value) :: rest => simpa [lookup] using h name
  | cons head rest ih =>
    obtain ⟨name, value⟩ := head
    match right with
    | [] => simpa [lookup] using h name
    | (other, value') :: rest' =>
      obtain ⟨hname, hrest⟩ := List.pairwise_cons.1 hleft
      obtain ⟨hother, hrest'⟩ := List.pairwise_cons.1 hright
      have heq : name = other := by
        refine String.le_antisymm ?_ ?_
        · refine String.not_lt.1 fun hlt => ?_
          simpa [lookup] using (hleft.lookup_eq_none_of_lt hlt).symm.trans (h other)
        · refine String.not_lt.1 fun hlt => ?_
          simpa [lookup] using (h name).trans (hright.lookup_eq_none_of_lt hlt)
      subst heq
      have hvalue : value = value' := by simpa [lookup] using h name
      subst hvalue
      rw [ih hrest hrest' fun key => ?_]
      by_cases hkey : name = key
      · subst hkey
        rw [Entries.lookup_eq_none_of_lt hname, Entries.lookup_eq_none_of_lt hother]
      · simpa [lookup, hkey] using h key

end Entries

/-- Bindings of names to values, in increasing order of the names. -/
structure Dictionary (α : Type u) where
  /-- The bindings, each name once. -/
  toList : List (String × α)
  /-- The names strictly increase. -/
  sorted : Entries.Sorted toList

namespace Dictionary

variable {α : Type u}

/-- The dictionary that binds nothing. -/
def empty : Dictionary α := ⟨[], List.Pairwise.nil⟩

instance : EmptyCollection (Dictionary α) := ⟨empty⟩

instance : Inhabited (Dictionary α) := ⟨empty⟩

/-- The value bound to `name`. -/
def get? (d : Dictionary α) (name : String) : Option α :=
  Entries.lookup name d.toList

/-- Whether `name` is bound. -/
def contains (d : Dictionary α) (name : String) : Bool :=
  (d.get? name).isSome

/-- Binds `name` to `value`, in place of what it was bound to. -/
def insert (d : Dictionary α) (name : String) (value : α) : Dictionary α :=
  ⟨Entries.insert name value d.toList, d.sorted.insert name value⟩

/-- Binds `name` to `value`, and gives what it was bound to. -/
def exchange (d : Dictionary α) (name : String) (value : α) : Option α × Dictionary α :=
  ((Entries.exchange name value d.toList).1,
    ⟨(Entries.exchange name value d.toList).2,
      Entries.snd_exchange name value d.toList ▸ d.sorted.insert name value⟩)

/-- Binds the names of `pairs` one after the other, so that the last value of a name stays. -/
def insertMany (d : Dictionary α) (pairs : List (String × α)) : Dictionary α :=
  pairs.foldl (fun d pair => d.insert pair.1 pair.2) d

/-- The dictionary of a list of pairs, in which a later pair replaces an earlier one of the same name. -/
def ofList (pairs : List (String × α)) : Dictionary α :=
  empty.insertMany pairs

/-- The number of bound names. -/
def size (d : Dictionary α) : Nat := d.toList.length

/-- Whether nothing is bound. -/
def isEmpty (d : Dictionary α) : Bool := d.toList.isEmpty

/-- The bound names, in increasing order. -/
def names (d : Dictionary α) : List String := d.toList.map (·.1)

@[ext] theorem ext {left right : Dictionary α} (h : left.toList = right.toList) :
    left = right := by
  cases left
  cases right
  simp_all

instance [DecidableEq α] : DecidableEq (Dictionary α) := fun left right =>
  if h : left.toList = right.toList then isTrue (ext h)
  else isFalse fun heq => h (congrArg toList heq)

@[simp] theorem get?_empty (name : String) : (empty : Dictionary α).get? name = none := rfl

@[simp] theorem toList_empty : (empty : Dictionary α).toList = [] := rfl

theorem nodup_names (d : Dictionary α) : d.names.Nodup := by
  refine List.Pairwise.map _ (fun left right hlt => ?_) d.sorted
  exact fun heq => String.lt_irrefl left.1 (heq ▸ hlt)

/-- Insertion changes exactly one binding. -/
theorem get?_insert (d : Dictionary α) (name other : String) (value : α) :
    (d.insert name value).get? other = if name = other then some value else d.get? other :=
  Entries.lookup_insert name other value d.toList

theorem fst_exchange (d : Dictionary α) (name : String) (value : α) :
    (d.exchange name value).1 = d.get? name :=
  d.sorted.fst_exchange name value

theorem snd_exchange (d : Dictionary α) (name : String) (value : α) :
    (d.exchange name value).2 = d.insert name value :=
  ext (Entries.snd_exchange name value d.toList)

/-- Dictionaries that bind the same names to the same values are equal. -/
theorem ext_get? {left right : Dictionary α} (h : ∀ name, left.get? name = right.get? name) :
    left = right :=
  ext (left.sorted.eq_of_lookup_eq right.sorted h)

end Dictionary

/-! ### Arguments -/

/-- The texts that are put in place of placeholders, by name. -/
abbrev Arguments := Dictionary String

/-- Binds `names` to `values` by position; what is left over on either side is not bound. -/
def Arguments.zip (names values : List String) : Arguments :=
  Dictionary.ofList (names.zip values)

end Phrasebook
