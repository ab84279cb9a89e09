import EnumBindings.Representation

/-!
# Enum types

An enum type whose members carry their values and both rendered names, ready to be written in
any language. `stringify` and `parse` say what the functions of the generated code answer.
-/

namespace EnumBindings

/-- A member with its value and its rendered names. -/
structure Member where
  /-- The name in the table, `FlexStart`. -/
  name : String
  /-- The name of constants, `FLEX_START`. -/
  constantName : String
  /-- The name outside the program, `flex-start`. -/
  externalName : String
  value : Int
deriving Repr, DecidableEq, Inhabited

/-- An enum type ready to be written. -/
structure EnumType where
  name : String
  representation : Representation
  /-- Every constant must survive the removal of unused code. -/
  preserve : Bool
  /-- Every value follows from the position of its member. -/
  positional : Bool
  /-- In declaration order. -/
  members : List Member
deriving Repr, DecidableEq, Inhabited

/-- A text that names no member of an enum type. -/
structure UnrecognizedValue where
  typeName : String
  value : String
deriving Repr, DecidableEq, Inhabited

/-- What is said about a text that names no member. -/
def UnrecognizedValue.message (e : UnrecognizedValue) : String :=
  "unknown " ++ e.typeName ++ ": " ++ e.value

namespace EnumType

/-- The external name of every value without a member. -/
def unknownName : String := "unknown"

/-- Flag sets are exactly the unsigned enum types. -/
def isBitset (e : EnumType) : Bool := e.representation == .u32

/-- Number of members. -/
def count (e : EnumType) : Nat := e.members.length

/-- The member of a symbolic name. -/
def member? (e : EnumType) (name : String) : Option Member :=
  e.members.find? (·.name == name)

/-- The external name of a value: that of its member, else `unknownName`. -/
def stringify (e : EnumType) (value : Int) : String :=
  match e.members.find? (·.value == value) with
  | some member => member.externalName
  | none => unknownName

/-- The value of an external name, which has to match exactly. -/
def parse (e : EnumType) (input : String) : Except UnrecognizedValue Int :=
  match e.members.find? (·.externalName == input) with
  | some member => .ok member.value
  | none => .error ⟨e.name, input⟩

end EnumType

end EnumBindings
