import EnumBindings.GenerateError

/-!
# Names declared at the top of an artifact

Generated identifiers are pasted together (`FlexDirection` and `Row`), so entries of the table
that differ can give one name. Every identifier is claimed in a scope before anything is
written; each has the owner that claimed it first.
-/

namespace EnumBindings

/-- The claimed identifiers of one artifact with their owners. -/
structure Scope where
  language : Language
  owners : List (String × String)
deriving Repr, DecidableEq

namespace Scope

/-- The scope in which nothing is claimed. -/
def empty (language : Language) : Scope := ⟨language, []⟩

/-- The owner of an identifier. -/
def owner? (scope : Scope) (identifier : String) : Option String :=
  scope.owners.lookup identifier

/-- Gives an identifier an owner behind all others. -/
def add (scope : Scope) (identifier owner : String) : Scope :=
  { scope with owners := scope.owners ++ [(identifier, owner)] }

/-- Claims a name that generated code depends on; a name keeps the owner it has. -/
def reserveName (owner : String) (scope : Scope) (name : String) : Scope :=
  if (scope.owner? name).isSome then scope else scope.add name owner

/-- Claims names that generated code depends on, such as keywords and imported items. -/
def reserve (scope : Scope) (names : List String) (owner : String) : Scope :=
  names.foldl (reserveName owner) scope

/-- Claims an identifier that generated code declares, unless it is claimed already. -/
def declare (scope : Scope) (identifier owner : String) : Except GenerateError Scope :=
  match scope.owner? identifier with
  | some first => .error (.identifierCollision scope.language identifier first owner)
  | none => .ok (scope.add identifier owner)

/-- Claims identifiers one after the other. -/
def declareAll (scope : Scope) : List (String × String) → Except GenerateError Scope
  | [] => .ok scope
  | (identifier, owner) :: rest => do
    let next ← scope.declare identifier owner
    next.declareAll rest

end Scope

end EnumBindings
