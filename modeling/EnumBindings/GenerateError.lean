import EnumBindings.Language
import EnumBindings.Representation

/-!
# Why bindings cannot be made

Each way in which a table is refused, with the names a user needs to mend it. All of them are
found before anything is written.
-/

namespace EnumBindings

/-- A reason to refuse a table. -/
inductive GenerateError where
  | duplicateEnum (name : String)
  | emptyEnum (name : String)
  | invalidIdentifier (enumName name : String)
  /-- A bare name in a flag set, whose values are never guessed. -/
  | namedBitsetMember (enumName member : String)
  /-- A bare name beside members with values. -/
  | mixedMembers (enumName member : String)
  | valueOutOfRange (enumName member : String) (value : Int) (representation : Representation)
  | ambiguousExternalName (enumName first second external : String)
  | constantNameCollision (enumName first second constant : String)
  /-- Two declarations of one name in generated code, each described by its owner. -/
  | identifierCollision (language : Language) (identifier first second : String)
  | duplicateValue (enumName first second : String) (value : Int)
  /-- Writing the text failed. -/
  | format
deriving Repr, DecidableEq

namespace GenerateError

/-- One line that names the item and the rule it broke. -/
def message : GenerateError → String
  | duplicateEnum name => "enum type `" ++ name ++ "` is defined more than once"
  | emptyEnum name => "enum type `" ++ name ++ "` has no members"
  | invalidIdentifier enumName name =>
    "`" ++ name ++ "` in `" ++ enumName ++ "` is not a valid identifier"
  | namedBitsetMember enumName member =>
    "bitset enum `" ++ enumName ++ "` has member `" ++ member ++ "` without an explicit value"
  | mixedMembers enumName member =>
    "enum `" ++ enumName ++ "` mixes positional and explicit members (at `" ++ member ++ "`)"
  | valueOutOfRange enumName member value representation =>
    "value " ++ toString value ++ " of `" ++ enumName ++ "." ++ member ++ "` does not fit in "
      ++ representation.name
  | ambiguousExternalName enumName first second external =>
    "`" ++ enumName ++ "." ++ first ++ "` and `" ++ enumName ++ "." ++ second
      ++ "` both render as `" ++ external ++ "`"
  | constantNameCollision enumName first second constant =>
    "`" ++ enumName ++ "." ++ first ++ "` and `" ++ enumName ++ "." ++ second
      ++ "` both become the constant `" ++ constant ++ "`"
  | identifierCollision language identifier first second =>
    "`" ++ identifier ++ "` from " ++ second ++ " clashes with " ++ first ++ " in generated "
      ++ language.name ++ " code"
  | duplicateValue enumName first second value =>
    "`" ++ enumName ++ "." ++ first ++ "` and `" ++ enumName ++ "." ++ second
      ++ "` share the value " ++ toString value
  | format => "failed to format generated code"

/-- The texts of the causes below an error, outermost first. -/
def causes : GenerateError → List String
  | format => ["an error occurred when formatting an argument"]
  | _ => []

/-- A stable name of the rule that was broken. -/
def code : GenerateError → Option String
  | duplicateEnum .. => some "flexgen::generate::duplicate_enum"
  | emptyEnum .. => some "flexgen::generate::empty_enum"
  | invalidIdentifier .. => some "flexgen::generate::invalid_identifier"
  | namedBitsetMember .. => some "flexgen::generate::named_bitset_member"
  | mixedMembers .. => some "flexgen::generate::mixed_members"
  | valueOutOfRange .. => some "flexgen::generate::value_out_of_range"
  | ambiguousExternalName .. => some "flexgen::generate::ambiguous_name"
  | constantNameCollision .. => some "flexgen::generate::constant_collision"
  | identifierCollision .. => some "flexgen::generate::identifier_collision"
  | duplicateValue .. => some "flexgen::generate::duplicate_value"
  | format => none

/-- General advice on the rule that was broken. -/
def help : GenerateError → Option String
  | invalidIdentifier .. =>
    some "names must start with an ASCII letter and contain only letters, digits and `_`"
  | namedBitsetMember .. => some "give every bitset member a value, e.g. [\"Flag\", 0x8]"
  | mixedMembers .. =>
    some "use bare names for every member, or give every member an explicit value"
  | ambiguousExternalName .. => some "rename one member so the parse table stays unambiguous"
  | constantNameCollision .. => some "rename one member so every constant name is distinct"
  | identifierCollision .. =>
    some "rename the enum type or member so generated names stay distinct"
  | _ => none

end GenerateError

end EnumBindings
