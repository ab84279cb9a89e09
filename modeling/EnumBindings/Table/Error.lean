import EnumBindings.Disk.Error
import EnumBindings.Table.Document

/-!
# Why a table cannot be loaded
-/

namespace EnumBindings

/-- A reason why there is no table. -/
inductive TableError where
  | read (path : Path) (cause : DiskError)
  | parse (origin : String) (cause : Toml.Error)
  | reference (cause : ReferenceError)
deriving Repr, DecidableEq

/-- One line about a reference that cannot stand. -/
def ReferenceError.message : ReferenceError → String
  | unknown list name =>
    "`" ++ list.name ++ "` refers to unknown enum type `" ++ name ++ "`"
  | duplicate list name =>
    "enum type `" ++ name ++ "` appears more than once in `" ++ list.name ++ "`"

namespace TableError

/-- The error of a text from a named origin. -/
def ofFault (origin : String) : TableFault → TableError
  | .document cause => parse origin cause
  | .reference cause => reference cause

/-- One line about the error, without its cause. -/
def message : TableError → String
  | read path _ => "failed to read enum table `" ++ path.shown ++ "`"
  | parse origin _ => "failed to parse enum table `" ++ origin ++ "`"
  | reference cause => cause.message

/-- The texts of the causes below an error, outermost first. -/
def causes : TableError → List String
  | read _ cause => [cause.message]
  | parse _ cause => [cause.message]
  | reference _ => []

/-- A stable name of the error. -/
def code : TableError → String
  | read .. => "flexgen::table::read"
  | parse .. => "flexgen::table::parse"
  | reference (.unknown ..) => "flexgen::table::unknown_reference"
  | reference (.duplicate ..) => "flexgen::table::duplicate_reference"

/-- General advice. -/
def help : TableError → Option String
  | parse .. => some "members are either \"Name\" or [\"Name\", value]"
  | _ => none

end TableError

/-- The table of a text from a named origin. -/
def EnumTable.parse (text origin : String) : Except TableError EnumTable :=
  (EnumTable.ofText text).mapError (TableError.ofFault origin)

end EnumBindings
