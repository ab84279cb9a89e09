import EnumBindings.Number.Shortest
import EnumBindings.Text.Quoted
import EnumBindings.Toml.Value

/-!
# What is wrong with a document

A text is no document at all, or it is one but says something else than was asked for.
-/

namespace EnumBindings.Toml

open EnumBindings.Text

/-- What stands where something else was wanted. -/
inductive Found where
  | string (text : String)
  | integer (value : Int)
  | real (value : Real)
  | boolean (value : Bool)
  | sequence
  | map
deriving Repr, DecidableEq

/-- The text of a floating point number. -/
def Real.text : Real → String
  | finite negative magnitude =>
    let (digits, k) := magnitude.shortest .up
    (if negative then "-" else "") ++ Binary64.positional digits k
  | infinite negative => if negative then "-inf" else "inf"
  | undefined => "NaN"

/-- What was found as text. -/
def Found.text : Found → String
  | string text => "string " ++ quote text
  | integer value => "integer `" ++ toString value ++ "`"
  | real value => "floating point `" ++ value.text ++ "`"
  | boolean value => "boolean `" ++ toString value ++ "`"
  | sequence => "sequence"
  | map => "map"

/-- A value as what was found. Dates and times count as maps. -/
def Value.found : Value → Found
  | .string text => .string text
  | .integer value => .integer value
  | .real value => .real value
  | .boolean value => .boolean value
  | .date _ => .map
  | .array _ => .sequence
  | .tables _ => .sequence
  | .table .. => .map

/-- A value that is not what was asked for. -/
inductive Mismatch where
  | type (found : Found) (wanted : String)
  | unknownField (name : String) (fields : List String)
  | missingField (name : String)
  | unknownVariant (name : String) (variants : List String)
  /-- An array that stands for a record and ends too early. -/
  | tooShort (length : Nat) (wanted : String) (size : Nat)
  /-- A member that is neither a name nor a pair of a name and an integer. -/
  | member
  /-- A choice that is neither a word nor a table. -/
  | notChoice
  /-- A choice that is a table without an entry. -/
  | noChoice
  /-- A choice that is a table with several entries. -/
  | severalChoices
  /-- A choice with something in its entry: a table, or tables in an array. -/
  | choiceContents (array : Bool)
  /-- A choice whose entry is no table. -/
  | choiceType (found : String)
deriving Repr, DecidableEq

/-- Names that were expected, in words. -/
def expectedNames : List String → String
  | [] => "there are no fields"
  | [a] => "expected `" ++ a ++ "`"
  | [a, b] => "expected `" ++ a ++ "` or `" ++ b ++ "`"
  | names => "expected one of " ++ ", ".intercalate (names.map fun n => "`" ++ n ++ "`")

/-- One line about a mismatch. -/
def Mismatch.message : Mismatch → String
  | type found wanted => "invalid type: " ++ found.text ++ ", expected " ++ wanted
  | unknownField name fields => "unknown field `" ++ name ++ "`, " ++ expectedNames fields
  | missingField name => "missing field `" ++ name ++ "`"
  | unknownVariant name variants => "unknown variant `" ++ name ++ "`, " ++ expectedNames variants
  | tooShort length wanted size =>
    "invalid length " ++ toString length ++ ", expected " ++ wanted ++ " with " ++ toString size
      ++ " elements"
  | member => "data did not match any variant of untagged enum MemberSpec"
  | notChoice => "wanted string or table"
  | noChoice => "wanted exactly 1 element, found 0 elements"
  | severalChoices => "wanted exactly 1 element, more than 1 element"
  | choiceContents true => "expected empty array"
  | choiceContents false => "expected empty table"
  | choiceType found => "expected table, found " ++ found

/-- What is wrong with a text that should be a certain document. -/
inductive Error where
  /-- The text is no document. -/
  | malformed
  | mismatch (reason : Mismatch)
deriving Repr, DecidableEq

/-- What every message about a document starts with. -/
def errorTitle : String := "TOML parse error"

/-- A message about a document. -/
def Error.message : Error → String
  | malformed => errorTitle ++ ": the text is malformed"
  | mismatch reason => errorTitle ++ ": " ++ reason.message

end EnumBindings.Toml
