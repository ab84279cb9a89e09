import EnumBindings.Artifact.Go
import EnumBindings.Artifact.Rust
import EnumBindings.EnumType.Resolve

/-!
# Artifacts

An artifact is one generated file. It opens with a header of comments that says where it came
from, then what the language needs before the first enum type, then one block per enum type.
A table is checked as a whole first, so an artifact is complete or not made at all.
-/

namespace EnumBindings

open EnumBindings.Text

/-- How an artifact is written: the language and, where files have one, the package. -/
inductive Style where
  | go (package : String)
  | rust
deriving Repr, DecidableEq

namespace Style

/-- The style of a language. A package is only heard where the language has packages. -/
def ofLanguage (language : Language) (package : Option String) : Style :=
  match language with
  | .go => go (package.getD Go.defaultPackage)
  | .rust => rust

/-- The language of a style. -/
def language : Style → Language
  | go _ => .go
  | rust => .rust

/-- Refuses enum types whose declarations would clash in the language. -/
def checkNames : Style → List EnumType → Except GenerateError Unit
  | go _ => Go.checkNames
  | rust => Rust.checkNames

/-- The lines between the header and the first enum type. -/
def preludeLines : Style → List String
  | go package => Go.preludeLines package
  | rust => Rust.preludeLines

/-- The lines of one enum type. -/
def enumLines : Style → EnumType → List String
  | go _ => Go.enumLines
  | rust => Rust.enumLines

end Style

/-- What is said above the generated code. -/
structure Header where
  /-- Written as comments before everything else. -/
  license : List String
deriving Repr, DecidableEq, Inhabited

/-- The tool that made an artifact. -/
def generatorName : String := "flexgen"

/-- A license line as a comment; an empty one leaves no blank behind the token. -/
def commentLine (token line : String) : String :=
  if line.isEmpty then token else token ++ " " ++ line

/-- The header: the license, if there is one, and the two marks of generated files. -/
def Header.lines (header : Header) (token : String) : List String :=
  header.license.map (commentLine token)
    ++ (if header.license.isEmpty then [] else [token])
    ++ [token ++ " Code generated by " ++ generatorName ++ "; DO NOT EDIT.",
        token ++ " @generated"]

/-- The lines of an artifact over enum types that passed every check. -/
def Style.fileLines (style : Style) (header : Header) (enums : List EnumType) : List String :=
  header.lines style.language.lineComment
    ++ style.preludeLines
    ++ enums.flatMap (fun e => "" :: style.enumLines e)

/-- A finished artifact with the enum types in it. -/
structure Artifact where
  enums : List EnumType
  text : String

/-- Makes an artifact, or says why the table is refused. -/
def EnumTable.generate (table : EnumTable) (style : Style) (header : Header) :
    Except GenerateError Artifact := do
  let enums ← table.resolve
  style.checkNames enums
  return ⟨enums, unlines (style.fileLines header enums)⟩

end EnumBindings
