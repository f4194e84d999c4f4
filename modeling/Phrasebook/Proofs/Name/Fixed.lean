import Phrasebook.Proofs.Name.Copies

/-!
# Names that are canonical already

Which names are handed out unchanged when they are natural names themselves. A valid name is its own surface name unless it begins with underscores, which are dropped: `-a` becomes `_a`, and `_a` becomes `a`. A name that begins with one never comes back, since nothing puts an underscore in front of a valid name, neither what is put before a digit nor the number of a variant.
-/

namespace Phrasebook

namespace Name

theorem isContinue_of_isStart {c : Char} (h : isStart c = true) : isContinue c = true := by
  rw [isStart, Bool.or_eq_true] at h
  rw [isContinue, Char.isAlphanum, Bool.or_eq_true, Bool.or_eq_true]
  tauto

theorem not_isDigit_of_isStart {c : Char} (h : isStart c = true) : c.isDigit = false := by
  have hdigits : ∀ n ≤ '9'.toNat, '0'.toNat ≤ n → isStart (Char.ofNat n) = false := by decide
  by_contra hdigit
  rw [Bool.not_eq_false, Char.isDigit_iff_toNat] at hdigit
  have hnone := hdigits c.toNat hdigit.2 hdigit.1
  rw [Char.ofNat_toNat, h] at hnone
  cases hnone

theorem isContinue_of_isValid {name : List Char} (h : isValid name = true) :
    ∀ c ∈ name, isContinue c = true := by
  cases name with
  | nil => simp
  | cons first rest =>
    rw [isValid, Bool.and_eq_true, List.all_eq_true] at h
    exact List.forall_mem_cons.2 ⟨isContinue_of_isStart h.1, h.2⟩

theorem map_dropWhile_of_isValid {name : List Char} (h : isValid name = true) :
    ((name.dropWhile (· == '_')).map fun c => if isContinue c then c else '_') =
      name.dropWhile (· == '_') := by
  have hkept : ∀ c ∈ name.dropWhile (· == '_'), (if isContinue c then c else '_') = c := by
    intro c hc
    exact if_pos (isContinue_of_isValid h c (List.dropWhile_subset _ hc))
  rw [List.map_congr_left hkept, List.map_id']

theorem head?_surface_ne {name : String} (h : isValid name.toList = true) :
    (surface name).toList.head? ≠ some '_' := by
  have hdropped := List.head?_dropWhile_not (· == '_') name.toList
  rw [surface, String.toList_ofList, surfaceChars, map_dropWhile_of_isValid h]
  split
  · decide
  · next c rest hrest =>
    rw [hrest] at hdropped
    split
    · simp [fallback]
    · simpa using hdropped

theorem surfaceChars_eq_self {name : List Char} (h : isValid name = true)
    (hhead : name.head? ≠ some '_') : surfaceChars name = name := by
  cases name with
  | nil => simp [isValid] at h
  | cons first rest =>
    have hstart : isStart first = true := by
      rw [isValid, Bool.and_eq_true] at h
      exact h.1
    have hdropped : (first :: rest).dropWhile (· == '_') = first :: rest :=
      List.dropWhile_cons_of_neg (by simpa using hhead)
    rw [surfaceChars, map_dropWhile_of_isValid h, hdropped]
    simp [not_isDigit_of_isStart hstart]

theorem surface_eq_self_iff {name : String} :
    surface name = name ↔ isValid name.toList = true ∧ name.toList.head? ≠ some '_' := by
  constructor
  · intro h
    have hvalid := isValid_surface name
    rw [h] at hvalid
    have hhead := head?_surface_ne hvalid
    rw [h] at hhead
    exact ⟨hvalid, hhead⟩
  · rintro ⟨hvalid, hhead⟩
    rw [surface, surfaceChars_eq_self hvalid hhead, String.ofList_toList]

end Name

namespace Namer

variable {namer : Namer} {name other : String} {names : List String}

theorem head?_nameFor (namer : Namer) (natural : String) :
    (namer.nameFor natural).toList.head? = (Name.surface natural).toList.head? := by
  by_cases htaken : namer.isTaken (Name.surface natural) = true
  · have hvalid := Name.isValid_surface natural
    rw [nameFor_of_taken htaken, Name.toList_variant]
    cases hchars : (Name.surface natural).toList with
    | nil => simp [hchars, Name.isValid] at hvalid
    | cons first rest => rfl
  · rw [nameFor_of_free ((Bool.not_eq_true _).mp htaken)]

theorem nameFor_eq_self_iff :
    namer.nameFor name = name ↔ namer.isTaken name = false ∧ Name.surface name = name := by
  constructor
  · intro h
    have hfree := isTaken_nameFor namer name
    have hvalid := isValid_nameFor namer name
    have hhead := head?_nameFor namer name
    rw [h] at hfree hvalid hhead
    exact ⟨hfree, Name.surface_eq_self_iff.2 ⟨hvalid, hhead ▸ Name.head?_surface_ne hvalid⟩⟩
  · rintro ⟨hfree, hself⟩
    rw [nameFor_of_free (by rwa [hself]), hself]

theorem isTaken_assign_eq_false_iff :
    (namer.assign name).2.isTaken other = false ↔
      namer.isTaken other = false ∧ other ≠ namer.nameFor name := by
  have hassigned : other ∈ (namer.assign name).2.assigned ↔
      other = namer.nameFor name ∨ other ∈ namer.assigned := List.mem_cons
  rw [isTaken_eq_false_iff, isTaken_eq_false_iff, hassigned, not_or]
  tauto

/-- What each name has to be is asked of the namer at the start, but for being other than the names in front. -/
theorem assignAll_eq_self_iff :
    (namer.assignAll names).1 = names ↔
      names.Nodup ∧ ∀ name ∈ names, namer.isTaken name = false ∧ Name.surface name = name := by
  induction names generalizing namer with
  | nil => simp [assignAll]
  | cons name rest ih =>
    have hcons : (namer.assignAll (name :: rest)).1 =
        namer.nameFor name :: ((namer.assign name).2.assignAll rest).1 := rfl
    -- The names behind are judged by a namer that has handed out `name` too, so they have to differ from it.
    rw [hcons, List.cons.injEq, ih, List.nodup_cons, List.forall_mem_cons]
    constructor
    · rintro ⟨hname, hnodup, hrest⟩
      have hleft : ∀ other ∈ rest, namer.isTaken other = false ∧ other ≠ name := by
        intro other hother
        have hfree := isTaken_assign_eq_false_iff.1 (hrest other hother).1
        rwa [hname] at hfree
      exact ⟨⟨fun hmem => (hleft name hmem).2 rfl, hnodup⟩, nameFor_eq_self_iff.1 hname,
        fun other hother => ⟨(hleft other hother).1, (hrest other hother).2⟩⟩
    · rintro ⟨⟨hnew, hnodup⟩, hself, hrest⟩
      have hname := nameFor_eq_self_iff.2 hself
      refine ⟨hname, hnodup, fun other hother => ⟨?_, (hrest other hother).2⟩⟩
      have hne : other ≠ name := fun heq => hnew (heq ▸ hother)
      exact isTaken_assign_eq_false_iff.2 ⟨(hrest other hother).1, by rwa [hname]⟩

theorem canonicalNames_eq_self_iff {names : List String} :
    canonicalNames names = names ↔ names.Nodup ∧ ∀ name ∈ names,
      Name.isValid name.toList = true ∧ name ∉ Name.reserved ∧
        name.toList.head? ≠ some '_' := by
  have hempty (name : String) : empty.isTaken name = false ↔ name ∉ Name.reserved := by
    simp [isTaken_eq_false_iff, empty]
  rw [canonicalNames, assignAll_eq_self_iff]
  simp only [hempty, Name.surface_eq_self_iff, and_left_comm]

/-- Names are handed out as they are exactly if they are distinct and each is valid, not reserved and without an underscore in front. Canonical names miss at most the last of these, so making them canonical once more changes nothing exactly if none begins with an underscore. -/
theorem canonicalNames_fixed_iff :
    (∀ names, canonicalNames names = names ↔ names.Nodup ∧ ∀ name ∈ names,
      Name.isValid name.toList = true ∧ name ∉ Name.reserved ∧
        name.toList.head? ≠ some '_') ∧
    (∀ naturals, canonicalNames (canonicalNames naturals) = canonicalNames naturals ↔
      ∀ name ∈ canonicalNames naturals, name.toList.head? ≠ some '_') := by
  refine ⟨fun names => canonicalNames_eq_self_iff, fun naturals => ?_⟩
  have hreturned := hasReturned_canonicalNames naturals
  rw [canonicalNames_eq_self_iff]
  constructor
  · intro h name hname
    exact (h.2 name hname).2.2
  · intro h
    exact ⟨hreturned.nodup, fun name hname => ⟨hreturned.isValid name hname,
      hreturned.not_reserved name hname, h name hname⟩⟩

example : canonicalNames ["-a", "html"] = ["_a", "html_1"] ∧
    canonicalNames ["_a", "html_1"] = ["a", "html_1"] := by decide

end Namer

end Phrasebook
