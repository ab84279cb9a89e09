import EnumBindings.EnumType
import EnumBindings.GenerateError
import EnumBindings.Name.Identifier
import EnumBindings.Name.Words
import EnumBindings.Table.Definition

/-!
# From definitions to enum types

A definition is checked and its members are numbered. The type name comes first, then whether
there are members at all, then every member in declaration order (its name, the form of its
value, the range), and last that no two members share a rendered name or a value. A table is
checked in its own order and its enum types are sorted by name.
-/

namespace EnumBindings

namespace Resolve

/-- Refuses a name that cannot stand in source text. -/
def checkIdentifier (enumName name : String) : Except GenerateError Unit :=
  if Name.isIdentifier name then .ok () else .error (.invalidIdentifier enumName name)

/-- Every member is a bare name. -/
def isPositional (d : Definition) : Bool := d.members.all MemberSpec.isNamed

/-- The representation of a definition: unsigned for flag sets. -/
def representation (d : Definition) : Representation := if d.bitset then .u32 else .i32

/-- The value of the member at a position. Bare names have values only among bare names, and
never in a flag set; an explicit value counts only where a member is no bare name, which every
explicit member sees to by itself. -/
def memberValue (d : Definition) (index : Nat) : MemberSpec → Except GenerateError Int
  | .named name =>
    if d.bitset then .error (.namedBitsetMember d.name name)
    else if isPositional d then .ok index
    else .error (.mixedMembers d.name name)
  | .explicit name value =>
    if isPositional d then .error (.mixedMembers d.name name) else .ok value

/-- A member with its value and rendered names. -/
def member (d : Definition) (spec : MemberSpec) (index : Nat) : Except GenerateError Member := do
  checkIdentifier d.name spec.name
  let value ← memberValue d index spec
  unless (representation d).contains value do
    throw (.valueOutOfRange d.name spec.name value (representation d))
  return {
    name := spec.name
    constantName := Name.upperSnake spec.name
    externalName := Name.lowerHyphen spec.name
    value }

/-- The members from a position on. -/
def membersFrom (d : Definition) : Nat → List MemberSpec → Except GenerateError (List Member)
  | _, [] => .ok []
  | index, spec :: rest => do
    let first ← member d spec index
    let others ← membersFrom d (index + 1) rest
    return first :: others

/-- The clash of a member with the members before it, if any. External names count before
constant names and these before values. -/
def clash? (enumName : String) (earlier : List Member) (m : Member) : Option GenerateError :=
  match earlier.find? (·.externalName == m.externalName) with
  | some first => some (.ambiguousExternalName enumName first.name m.name m.externalName)
  | none =>
    match earlier.find? (·.constantName == m.constantName) with
    | some first => some (.constantNameCollision enumName first.name m.name m.constantName)
    | none =>
      match earlier.find? (·.value == m.value) with
      | some first => some (.duplicateValue enumName first.name m.name m.value)
      | none => none

/-- Refuses a member that clashes with one before it. -/
def checkUnique (enumName : String) (earlier : List Member) :
    List Member → Except GenerateError Unit
  | [] => .ok ()
  | m :: rest =>
    match clash? enumName earlier m with
    | some error => .error error
    | none => checkUnique enumName (earlier ++ [m]) rest

end Resolve

/-- Checks a definition and gives its members their values. -/
def Definition.resolve (d : Definition) : Except GenerateError EnumType := do
  Resolve.checkIdentifier d.name d.name
  if d.members.isEmpty then throw (.emptyEnum d.name)
  let members ← Resolve.membersFrom d 0 d.members
  Resolve.checkUnique d.name [] members
  return {
    name := d.name
    representation := Resolve.representation d
    preserve := d.preserve
    positional := Resolve.isPositional d
    members }

namespace Resolve

/-- Resolves definitions in order, given the enum types before them. A repeated type name is
found before the definition that repeats it is looked at. -/
def definitions (earlier : List EnumType) :
    List Definition → Except GenerateError (List EnumType)
  | [] => .ok earlier
  | d :: rest => do
    if earlier.any (·.name == d.name) then throw (.duplicateEnum d.name)
    let resolved ← d.resolve
    definitions (earlier ++ [resolved]) rest

/-- The order of enum types in generated text. -/
def precedes (a b : EnumType) : Bool := a.name ≤ b.name

end Resolve

/-- Checks a whole table. The enum types are sorted by name. -/
def EnumTable.resolve (table : EnumTable) : Except GenerateError (List EnumType) := do
  let resolved ← Resolve.definitions [] table.definitions
  return resolved.mergeSort Resolve.precedes

end EnumBindings
