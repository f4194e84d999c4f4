import Phrasebook.Proofs.Dictionary
import Phrasebook.Proofs.Text.Bytes
import Phrasebook.Template

/-!
# Arguments and what was written into them

Arguments come from a list of pairs and from the writes that follow, each of which is worth some pairs of its own. All these pairs in order are the history of the arguments. One write adds its pairs to the end of the history, so after any of them the arguments are those of the whole history: each name has the value of its last pair, and nothing else of the history is left, not the order in which the names came nor the ways in which they were written.
-/

namespace Phrasebook.Arguments

open Phrasebook.Text

/-- A step that writes into arguments. -/
inductive Write where
  /-- Binds a name, and answers what it was bound to. -/
  | insert (name value : String)
  /-- Binds a name. -/
  | add (name value : String)
  /-- Binds the names of pairs one after the other. -/
  | extend (pairs : List (String × String))
  deriving DecidableEq, Repr

/-- The pairs that a step writes. -/
def Write.pairs : Write → List (String × String)
  | insert name value => [(name, value)]
  | add name value => [(name, value)]
  | extend pairs => pairs

def Write.perform (arguments : Arguments) : Write → Arguments
  | insert name value => (arguments.exchange name value).2
  | add name value => Dictionary.insert arguments name value
  | extend pairs => arguments.insertMany pairs

/-- The arguments collected from pairs, after some writes. -/
def written (initial : List (String × String)) (writes : List Write) : Arguments :=
  writes.foldl Write.perform (Dictionary.ofList initial)

/-- All pairs that were written, the latest at the end. -/
def history (initial : List (String × String)) (writes : List Write) : List (String × String) :=
  initial ++ writes.flatMap Write.pairs

/-- The last of the pairs with this name has this value. -/
def LastValue (pairs : List (String × String)) (name value : String) : Prop :=
  ∃ before after, pairs = before ++ (name, value) :: after ∧ name ∉ after.map (·.1)

/-- Arguments that hold the last values of a history of pairs and nothing else. -/
structure Records (pairs : List (String × String)) (arguments : Arguments) : Prop where
  get?_eq_some_iff (name value : String) :
    arguments.get? name = some value ↔ LastValue pairs name value
  get?_eq_none_iff (name : String) : arguments.get? name = none ↔ name ∉ pairs.map (·.1)
  contains_iff (name : String) :
    arguments.contains name = true ↔ ∃ value, arguments.get? name = some value
  size_eq : arguments.size = (pairs.map (·.1)).dedup.length
  isEmpty_iff : arguments.isEmpty = true ↔ arguments.size = 0
  mem_toList_iff (name value : String) :
    (name, value) ∈ arguments.toList ↔ arguments.get? name = some value
  nodup : (arguments.toList.map (·.1)).Nodup
  increasing : arguments.toList.Pairwise fun left right => bytes left.1 < bytes right.1

/-! ### The last pair with a name -/

theorem lookup_reverse_eq_some_iff {pairs : List (String × String)} {name value : String} :
    pairs.reverse.lookup name = some value ↔ LastValue pairs name value := by
  rw [List.lookup_eq_some_iff, LastValue]
  constructor
  · rintro ⟨after, before, hpairs, hafter⟩
    refine ⟨before.reverse, after.reverse, by simpa using congrArg List.reverse hpairs, ?_⟩
    intro hmem
    obtain ⟨pair, hpair, rfl⟩ := List.mem_map.1 hmem
    simpa using hafter pair (List.mem_reverse.1 hpair)
  · rintro ⟨before, after, rfl, hafter⟩
    refine ⟨after.reverse, before.reverse, by simp, ?_⟩
    intro pair hpair
    rw [bne_iff_ne]
    rintro rfl
    exact hafter (List.mem_map.2 ⟨pair, List.mem_reverse.1 hpair, rfl⟩)

theorem get?_ofList_eq_some_iff {pairs : List (String × String)} {name value : String} :
    (Dictionary.ofList pairs).get? name = some value ↔ LastValue pairs name value := by
  rw [Dictionary.get?_ofList, lookup_reverse_eq_some_iff]

theorem get?_ofList_eq_none_iff {pairs : List (String × String)} {name : String} :
    (Dictionary.ofList pairs).get? name = none ↔ name ∉ pairs.map (·.1) := by
  rw [Dictionary.get?_ofList, List.lookup_eq_none_iff]
  simp only [List.mem_reverse, bne_iff_ne, List.mem_map, not_exists, not_and]
  exact forall₂_congr fun pair _ => ne_comm

theorem records_ofList (pairs : List (String × String)) :
    Records pairs (Dictionary.ofList pairs) where
  get?_eq_some_iff _ _ := get?_ofList_eq_some_iff
  get?_eq_none_iff _ := get?_ofList_eq_none_iff
  contains_iff _ := Option.isSome_iff_exists
  size_eq := Dictionary.size_ofList pairs
  isEmpty_iff := Dictionary.isEmpty_iff_size
  mem_toList_iff _ _ := Dictionary.get?_eq_some_iff.symm
  nodup := Dictionary.nodup_names _
  increasing := (Dictionary.ofList pairs).sorted.imp lt_iff_bytes_lt.1

/-! ### Writing -/

theorem perform_eq_insertMany (arguments : Arguments) (write : Write) :
    write.perform arguments = arguments.insertMany write.pairs := by
  cases write with
  | insert name value => exact Dictionary.snd_exchange arguments name value
  | add name value => rfl
  | extend pairs => rfl

theorem written_eq_ofList (initial : List (String × String)) (writes : List Write) :
    written initial writes = Dictionary.ofList (history initial writes) := by
  unfold written history
  induction writes generalizing initial with
  | nil => rw [List.foldl_nil, List.flatMap_nil, List.append_nil]
  | cons write writes ih =>
    have hstep : write.perform (Dictionary.ofList initial) =
        Dictionary.ofList (initial ++ write.pairs) := by
      rw [perform_eq_insertMany, Dictionary.ofList, ← Dictionary.insertMany_append]
      rfl
    rw [List.foldl_cons, hstep, ih, List.flatMap_cons, List.append_assoc]

/-- Arguments hold the last value of each name that was written, in the order of the names; an insertion answers what its name was bound to just before; and two histories with the same last values leave the same arguments, with which every template renders alike. -/
theorem written_last_wins (initial : List (String × String)) (writes : List Write) :
    Records (history initial writes) (written initial writes) ∧
    (∀ name value : String,
      ((written initial writes).exchange name value).1 = (written initial writes).get? name ∧
      ((written initial writes).exchange name value).2 =
        written initial (writes ++ [.insert name value])) ∧
    (∀ (initial' : List (String × String)) (writes' : List Write),
      (∀ name value : String, LastValue (history initial' writes') name value ↔
        LastValue (history initial writes) name value) →
      written initial' writes' = written initial writes ∧
      ∀ (template : Template) (mode : EscapeMode),
        template.render (written initial' writes') mode =
          template.render (written initial writes) mode) := by
  refine ⟨?_, fun name value => ⟨Dictionary.fst_exchange _ name value, ?_⟩, ?_⟩
  · rw [written_eq_ofList]
    exact records_ofList _
  · unfold written
    rw [List.foldl_append]
    rfl
  · intro initial' writes' hlast
    have heq : written initial' writes' = written initial writes := by
      apply Dictionary.ext_get?
      intro name
      apply Option.ext
      intro value
      rw [written_eq_ofList, written_eq_ofList, get?_ofList_eq_some_iff, get?_ofList_eq_some_iff]
      exact hlast name value
    refine ⟨heq, fun template mode => ?_⟩
    rw [heq]

theorem written_last_wins_reordered :
    (∀ name value : String,
      LastValue (history [("b", "2")] [.extend [("a", "0"), ("a", "1")]]) name value ↔
        LastValue (history [("a", "3")] [.insert "b" "2", .add "a" "1"]) name value) ∧
    written [("b", "2")] [.extend [("a", "0"), ("a", "1")]] =
      written [("a", "3")] [.insert "b" "2", .add "a" "1"] ∧
    ((written [("a", "3")] [.insert "b" "2"]).exchange "a" "1").1 = some "3" := by
  have hlast : ∀ name value : String,
      LastValue (history [("b", "2")] [.extend [("a", "0"), ("a", "1")]]) name value ↔
        LastValue (history [("a", "3")] [.insert "b" "2", .add "a" "1"]) name value := by
    intro name value
    rw [← lookup_reverse_eq_some_iff, ← lookup_reverse_eq_some_iff]
    by_cases ha : name = "a"
    · subst ha
      rfl
    · by_cases hb : name = "b"
      · subst hb
        rfl
      · have hnot : (name == "a") = false ∧ (name == "b") = false := by simp [ha, hb]
        simp [history, Write.pairs, List.lookup_cons, hnot]
  refine ⟨hlast, ((written_last_wins [("a", "3")] [.insert "b" "2", .add "a" "1"]).2.2 _ _
    hlast).1, ?_⟩
  rw [((written_last_wins [("a", "3")] [.insert "b" "2"]).2.1 "a" "1").1]
  decide

end Phrasebook.Arguments
