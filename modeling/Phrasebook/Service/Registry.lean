import Phrasebook.Dictionary
import Phrasebook.Text.Quoted

/-!
# Service registries

A registry keeps one factory for each namespace, the one registered last, and the namespace of a default service. The default may change until the first lookup begins; from then on it is sealed. A factory is stored under a key derived from its namespace. Every key ends in the same suffix, and only `Key.derive` makes keys, so no namespace can be mistaken for the key of another.

A factory is a program that makes a service. While it runs it may use the very registry it is registered in: look services up, register others, try to change the default, and see what is registered. It may also count: cells are numbered, start at zero, and keep their count from one run to the next. A program says what it does next for every answer it may get, so its meaning depends on nothing but the answers. Nothing here runs a factory: that is what `Service.State` is for.
-/

namespace Phrasebook.Service

/-! ### Storage keys -/

def keySuffix : String := "$j2cl$service$loader$key"

structure Key where
  /-- The full text, suffix included. -/
  text : String
  deriving DecidableEq, Repr, Inhabited

namespace Key

def derive (space : String) : Key := ⟨space ++ keySuffix⟩

/-- A list of characters without `ending`, if it ends so. -/
def dropEnding? (ending text : List Char) : Option (List Char) :=
  if ending.isSuffixOf text then some (text.take (text.length - ending.length)) else none

/-- The namespace that a key was derived from; the suffix is taken off once. -/
def space (key : Key) : String :=
  match dropEnding? keySuffix.toList key.text.toList with
  | some chars => String.ofList chars
  | none => key.text

end Key

/-! ### Factory programs -/

inductive Refusal where
  | unregistered (space : String)
  /-- The default was to become `requested` after a lookup had resolved `current`. -/
  | defaultSealed (requested current : String)
  deriving DecidableEq, Repr, Inhabited

/-- The wording of a refusal. Namespaces are inserted as they are. -/
def Refusal.message : Refusal → String
  | unregistered space => "no service registered for namespace '" ++ space ++ "'"
  | defaultSealed requested current =>
    "cannot select '" ++ requested ++ "' as the default service: lookups already resolved '" ++
      current ++ "'"

/-- What the read-only queries of a registry tell. -/
structure Overview where
  spaces : List String
  default : String
  isSealed : Bool
  deriving DecidableEq, Repr, Inhabited

/-- A program that makes a service of type `S`. -/
inductive Program (S : Type) : Type where
  /-- Answers with a service. -/
  | done (service : S)
  | lookup (space : String) (next : Except Refusal S → Program S)
  | lookupDefault (next : Except Refusal S → Program S)
  | overrideDefault (space : String) (next : Except Refusal Unit → Program S)
  | register (space : String) (factory : Program S) (next : Program S)
  | inspect (next : Overview → Program S)
  /-- Counts on a cell, and is told how often it was counted on before. -/
  | count (cell : Nat) (next : Nat → Program S)

/-! ### Registries -/

open Phrasebook.Text

/-- The default namespace where nobody chooses another. -/
def builtinDefault : String := "python"

/-- The factories by key, and the default namespace. -/
structure Registry (S : Type) where
  factories : Dictionary (Program S)
  default : String
  isSealed : Bool

namespace Registry

variable {S : Type}

/-- An empty registry with this default namespace. -/
def withDefault (space : String) : Registry S := ⟨.empty, space, false⟩

/-- An empty registry with the built-in default namespace. -/
def new : Registry S := withDefault builtinDefault

instance : Inhabited (Registry S) := ⟨new⟩

/-- The factory registered for a namespace. -/
def factory? (registry : Registry S) (space : String) : Option (Program S) :=
  registry.factories.get? (Key.derive space).text

/-- Registers a factory in place of the one that the namespace had. -/
def register (registry : Registry S) (space : String) (factory : Program S) : Registry S :=
  { registry with factories := registry.factories.insert (Key.derive space).text factory }

/-- Marks that a lookup has begun. -/
def sealDefault (registry : Registry S) : Registry S := { registry with isSealed := true }

@[simp] theorem default_sealDefault (registry : Registry S) :
    registry.sealDefault.default = registry.default := rfl

@[simp] theorem factory?_sealDefault (registry : Registry S) (space : String) :
    registry.sealDefault.factory? space = registry.factory? space := rfl

/-- Changes the default namespace, unless a lookup has begun. -/
def overrideDefault (registry : Registry S) (space : String) : Except Refusal (Registry S) :=
  if registry.isSealed then .error (.defaultSealed space registry.default)
  else .ok { registry with default := space }

/-- Whether a factory is registered for a namespace. -/
def isRegistered (registry : Registry S) (space : String) : Bool :=
  registry.factories.contains (Key.derive space).text

/-- The registered namespaces, in increasing order. -/
def spaces (registry : Registry S) : List String :=
  (registry.factories.names.map fun text => (Key.mk text).space).mergeSort fun a b => a ≤ b

def size (registry : Registry S) : Nat := registry.factories.size

def isEmpty (registry : Registry S) : Bool := registry.factories.isEmpty

def overview (registry : Registry S) : Overview :=
  ⟨registry.spaces, registry.default, registry.isSealed⟩

end Registry

def diagnosticSpace (space : String) : String := "Namespace(" ++ quoted space ++ ")"

/-- The diagnostic text of a registry. -/
def Overview.diagnostic (overview : Overview) : String :=
  "ServiceRegistry \x7b namespaces: [" ++
    ", ".intercalate (overview.spaces.map diagnosticSpace) ++
    "], default: DefaultSelector \x7b namespace: " ++ diagnosticSpace overview.default ++
    ", sealed: " ++ (if overview.isSealed then "true" else "false") ++ " \x7d \x7d"

end Phrasebook.Service
