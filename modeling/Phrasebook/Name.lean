/-!
# Placeholder names

A placeholder name is an ASCII letter or underscore followed by ASCII letters, digits and underscores. A natural name, as a call site writes it, may be any text; `surface` brings it into that form. Two natural names may share a surface name, and a few names are reserved.

A namer remembers the names it has handed out and never hands out one twice, nor a reserved one. It answers a natural name by its surface name when that is free, and otherwise by the first free variant `name_1`, `name_2` and so on.
-/

namespace Phrasebook

namespace Name

/-- Names that no placeholder may take. -/
def reserved : List String :=
  ["html", "unescapeHtmlEntities", "example", "original_code"]

/-- A character that may open a name. -/
def isStart (c : Char) : Bool := c.isAlpha || c == '_'

/-- A character that may follow in a name. -/
def isContinue (c : Char) : Bool := c.isAlphanum || c == '_'

/-- Whether a list of characters can stand between the marks of a placeholder. -/
def isValid : List Char → Bool
  | [] => false
  | c :: rest => isStart c && rest.all isContinue

/-- The name used where a natural name leaves nothing. -/
def fallback : List Char := ['a', 'r', 'g']

/-- Drops leading underscores, replaces every character that no name holds by an underscore, and puts `arg_` before a leading digit. -/
def surfaceChars (natural : List Char) : List Char :=
  match (natural.dropWhile (· == '_')).map fun c => if isContinue c then c else '_' with
  | [] => fallback
  | c :: rest => if c.isDigit then fallback ++ '_' :: c :: rest else c :: rest

/-- The name that a natural name asks for. -/
def surface (natural : String) : String :=
  String.ofList (surfaceChars natural.toList)

/-- The `k`-th variant of a name that is taken. -/
def variant (base : String) (k : Nat) : String :=
  base ++ "_" ++ String.ofList (Nat.toDigits 10 k)

end Name

/-! ### Handing out names -/

/-- The names handed out so far, the latest first. -/
structure Namer where
  assigned : List String := []
  deriving DecidableEq, Repr, Inhabited

namespace Namer

/-- A namer that has handed out nothing. -/
def empty : Namer := {}

/-- Whether `name` has been handed out. -/
def isAssigned (namer : Namer) (name : String) : Bool :=
  namer.assigned.contains name

/-- Whether `name` may not be handed out. -/
def isTaken (namer : Namer) (name : String) : Bool :=
  Name.reserved.contains name || namer.isAssigned name

section

variable {namer : Namer} {name : String}

theorem isAssigned_iff : namer.isAssigned name = true ↔ name ∈ namer.assigned := by
  simp [isAssigned]

theorem isTaken_iff : namer.isTaken name = true ↔ name ∈ Name.reserved ∨ name ∈ namer.assigned := by
  simp [isTaken, isAssigned]

theorem isTaken_eq_false_iff :
    namer.isTaken name = false ↔ name ∉ Name.reserved ∧ name ∉ namer.assigned := by
  rw [← Bool.not_eq_true, isTaken_iff, not_or]

end

/-- The number of the first free variant of `base`. One more variant is tried than there are names handed out, and no reserved name is a variant, so one of them is free. -/
def freeVariant (namer : Namer) (base : String) : Nat :=
  let tried := namer.assigned.length + 1
  ((List.range' 1 tried).find? fun k => !namer.isTaken (Name.variant base k)).getD tried

/-- The name that `natural` would be given. -/
def nameFor (namer : Namer) (natural : String) : String :=
  let base := Name.surface natural
  if namer.isTaken base then Name.variant base (namer.freeVariant base) else base

/-- Hands out a name for `natural`. -/
def assign (namer : Namer) (natural : String) : String × Namer :=
  let name := namer.nameFor natural
  (name, { assigned := name :: namer.assigned })

/-- Hands out names for natural names in order. -/
def assignAll (namer : Namer) : List String → List String × Namer
  | [] => ([], namer)
  | natural :: rest =>
    let (name, namer) := namer.assign natural
    let (names, namer) := namer.assignAll rest
    (name :: names, namer)

end Namer

/-- One canonical name for each natural name, in order, handed out by one fresh namer. -/
def canonicalNames (naturals : List String) : List String :=
  (Namer.empty.assignAll naturals).1

end Phrasebook
