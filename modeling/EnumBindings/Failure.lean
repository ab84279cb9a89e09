import EnumBindings.Diagnostic
import EnumBindings.GenerateError
import EnumBindings.Platform
import EnumBindings.Table.Error

/-!
# Failures

What a run ends with when it does not succeed: the cause, and what was being done at the time,
from the outside in. The line of a failure names everything; a diagnostic explains the cause,
whatever was being done.
-/

namespace EnumBindings

/-- A problem that the settings or the state of the project give by themselves. -/
inductive Complaint where
  | noOutputs
  /-- The same with a hint for the command line. -/
  | noOutputsGiven
  | duplicateOutput (path : Path)
  | staleOutputs (paths : List Path)
  | enumNotFound (name : String)
  /-- Anything else, as it is said. -/
  | other (text : String)
deriving Repr, DecidableEq

/-- What is said about a complaint. A hint stands on a line of its own. -/
def Complaint.message : Complaint → String
  | noOutputs => "no outputs configured"
  | noOutputsGiven =>
    "no outputs configured\n"
      ++ "help: Add an [[output]] section to Flexgen.toml, or pass --lang and --out"
  | duplicateOutput path => "output path " ++ path.shown ++ " is configured more than once"
  | staleOutputs paths =>
    "generated files are out of date: " ++ ", ".intercalate (paths.map Path.shown) ++ "\n"
      ++ "help: Run `flexgen generate` to refresh generated files"
  | enumNotFound name =>
    "enum type `" ++ name ++ "` not found in the table\n"
      ++ "help: Run `flexgen table` to list every enum type"
  | other text => text

/-- What went wrong. -/
inductive Cause where
  | generate (error : GenerateError)
  | table (error : TableError)
  | platform (error : PlatformError)
  /-- The settings are not as they should be. -/
  | document (error : Toml.Error)
  | disk (error : DiskError)
  | complaint (complaint : Complaint)
deriving Repr, DecidableEq

/-- One line about a cause. -/
def Cause.message : Cause → String
  | generate error => error.message
  | table error => error.message
  | platform error => error.message
  | document error => error.message
  | disk error => error.message
  | complaint c => c.message

/-- The texts of what lies below a cause, outermost first. -/
def Cause.causes : Cause → List String
  | generate error => error.causes
  | table error => error.causes
  | platform _ | document _ | disk _ | complaint _ => []

/-- The texts of a cause, outermost first. -/
def Cause.texts (cause : Cause) : List String := cause.message :: cause.causes

/-- One place in the chain of a failure. -/
inductive Link where
  /-- What was being done. -/
  | context (text : String)
  | cause (cause : Cause)
  /-- Something below the cause, of which there is only the text. -/
  | below (text : String)
deriving Repr, DecidableEq

/-- The text of a link. -/
def Link.text : Link → String
  | context text | below text => text
  | cause c => c.message

/-- A cause with what was being done. -/
structure Failure where
  /-- Outermost first. -/
  contexts : List String
  cause : Cause
deriving Repr, DecidableEq

namespace Failure

/-- A cause by itself. -/
def of (cause : Cause) : Failure := ⟨[], cause⟩

/-- A failure while something else was being done. -/
def during (text : String) (failure : Failure) : Failure :=
  { failure with contexts := text :: failure.contexts }

/-- The chain of a failure, outermost first. -/
def links (failure : Failure) : List Link :=
  failure.contexts.map .context ++ .cause failure.cause :: failure.cause.causes.map .below

/-- All texts of a failure, outermost first. -/
def chain (failure : Failure) : List String := failure.links.map Link.text

theorem chain_eq (failure : Failure) :
    failure.chain = failure.contexts ++ failure.cause.texts := by
  simp [chain, links, Cause.texts, Link.text, Function.comp_def]

/-- A failure on one line. -/
def line (failure : Failure) : String := ": ".intercalate failure.chain

end Failure

/-! ## Explanations -/

/-- An explanation of a refused table. -/
def GenerateError.diagnostic (error : GenerateError) : Diagnostic :=
  let explain (context suggestions : List String) : Diagnostic :=
    { Diagnostic.ofMessage error.message with context, suggestions }
  match error with
  | namedBitsetMember _ member =>
    explain ["bitset enums are unsigned flag sets; positions are never guessed"]
      ["declare it as [\"" ++ member ++ "\", <value>]"]
  | mixedMembers .. =>
    explain ["the numbering of bare names after an explicit value is undefined"]
      ["use bare names for every member", "or give every member an explicit value"]
  | valueOutOfRange _ _ _ r =>
    explain [r.name ++ " holds values from " ++ toString r.least ++ " to " ++ toString r.greatest]
      []
  | ambiguousExternalName .. =>
    explain ["generated parse functions match on the lower-hyphen name"]
      ["rename one of the members"]
  | constantNameCollision .. =>
    explain ["constant names are the member name in UPPER_SNAKE form"]
      ["rename one of the members"]
  | identifierCollision language .. =>
    explain ["every type, constant and function in the " ++ language.name
        ++ " output shares one namespace"]
      ["rename the enum type or the member"]
  | duplicateValue .. =>
    explain ["generated stringify functions switch on the value"]
      ["give each member a distinct value"]
  | invalidIdentifier .. => explain [] ["use capitalized words, e.g. `FlexStart`"]
  | duplicateEnum _ | emptyEnum _ | format => explain [] []

/-- An explanation of a table that cannot be loaded. -/
def TableError.diagnostic (error : TableError) : Diagnostic :=
  .ofCauses error.message error.causes error.help

/-- An explanation of a target that is not there. -/
def PlatformError.diagnostic (error : PlatformError) : Diagnostic :=
  .ofCauses error.message [] error.help

/-- An explanation of a cause, where there is one. A table that cannot be read is located. -/
def Cause.diagnostic? : Cause → Option Diagnostic
  | generate error => some error.diagnostic
  | table error =>
    match error with
    | .read path _ => some { error.diagnostic with location := some path }
    | _ => some error.diagnostic
  | platform error => some error.diagnostic
  | document _ | disk _ | complaint _ => none

/-- An explanation of a link. Texts alone have none. -/
def Link.diagnostic? : Link → Option Diagnostic
  | cause c => c.diagnostic?
  | context _ | below _ => none

/-- An explanation of a failure, which is that of the first link that has one. -/
def Failure.diagnostic? (failure : Failure) : Option Diagnostic :=
  failure.links.findSome? Link.diagnostic?

end EnumBindings
