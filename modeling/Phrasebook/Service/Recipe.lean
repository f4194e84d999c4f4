import Phrasebook.Service.State

/-!
# Recipes

Recipes are ready-made factories of services that are texts. Every factory made from one counts its calls on the cell `callCell`. A recipe that counts on a cell of its own is told which, so that no two share one.
-/

namespace Phrasebook.Service

/-- What a factory does on each call. -/
inductive Recipe where
  | constant (text : String)
  /-- Gives one number of 64 bits after the other, from the first one on; after the largest comes the least. -/
  | counter (first : Int)
  /-- Looks a namespace up and gives the answer with something appended. -/
  | lookup (space ending : String)
  /-- Looks the default namespace up and gives the answer with something appended. -/
  | lookupDefault (ending : String)
  | overrideDefault (space : String)
  /-- Registers a factory that gives the same text always. -/
  | register (space text : String)
  | size
  deriving DecidableEq, Repr, Inhabited

namespace Recipe

def refused (refusal : Refusal) : String := "!" ++ refusal.message

/-- The answer to a lookup as a service. -/
def answered (ending : String) : Except Refusal String → String
  | .ok service => service ++ ending
  | .error refusal => refused refusal

/-- How many numbers 64 bits hold. -/
def counterRange : Nat := 18446744073709551616

/-- The program of a recipe that may count on `cell`. -/
def program (cell : Nat) : Recipe → Program String
  | constant text => .done text
  | counter first =>
    .count cell fun before => .done (toString ((first + before).bmod counterRange))
  | lookup space ending => .lookup space fun answer => .done (answered ending answer)
  | lookupDefault ending => .lookupDefault fun answer => .done (answered ending answer)
  | overrideDefault space =>
    .overrideDefault space fun
      | .ok () => .done "ok"
      | .error refusal => .done (refused refusal)
  | register space text => .register space (.done text) (.done ("registered " ++ space))
  | size => .inspect fun overview => .done (toString overview.spaces.length)

/-- The cell on which all factories made from recipes count their calls. -/
def callCell : Nat := 0

/-- The factory of a recipe: it counts the call and then follows the recipe. -/
def factory (cell : Nat) (recipe : Recipe) : Program String :=
  .count callCell fun _ => recipe.program cell

end Recipe

end Phrasebook.Service
