/-!
# Enum definitions

The table that bindings are made from is data: one definition per enum type. A member is a bare
name, numbered by its position, or a name with a value.
-/

namespace EnumBindings

/-- A member as the table states it. -/
inductive MemberSpec where
  /-- The value follows from the position. -/
  | named (name : String)
  /-- The value is given, a signed 64-bit number. -/
  | explicit (name : String) (value : Int)
deriving Repr, DecidableEq, Inhabited

/-- The symbolic name of a member. -/
def MemberSpec.name : MemberSpec → String
  | named name => name
  | explicit name _ => name

/-- Whether the value of a member follows from its position. -/
def MemberSpec.isNamed : MemberSpec → Bool
  | named _ => true
  | explicit _ _ => false

/-- One enum type. -/
structure Definition where
  name : String
  /-- In declaration order. -/
  members : List MemberSpec
  /-- A set of bit flags, whose values are unsigned and always given. -/
  bitset : Bool
  /-- Every constant must survive the removal of unused code. -/
  preserve : Bool
deriving Repr, DecidableEq, Inhabited

/-- Enum types in table order. -/
structure EnumTable where
  definitions : List Definition
deriving Repr, DecidableEq, Inhabited

/-- The first definition of a name. -/
def EnumTable.get? (table : EnumTable) (name : String) : Option Definition :=
  table.definitions.find? (·.name == name)

/-- Number of enum types. -/
def EnumTable.size (table : EnumTable) : Nat := table.definitions.length

/-- Whether there are no enum types. -/
def EnumTable.isEmpty (table : EnumTable) : Bool := table.definitions.isEmpty

end EnumBindings
