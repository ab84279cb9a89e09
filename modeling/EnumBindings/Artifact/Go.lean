import EnumBindings.Artifact.Scope
import EnumBindings.EnumType
import EnumBindings.Text.Lines

/-!
# Go source

An enum type becomes a named integer type with a block of constants, a `String` method and an
`XFromString` function. All names share the package scope. Lines are indented by tabs and
explicit constants stand in columns, as the language's formatter would leave them.
-/

namespace EnumBindings.Go

open EnumBindings.Text

/-- The package of a file for which none is given. -/
def defaultPackage : String := "yoga"

/-! ## Names -/

/-- Words of the language that cannot be names. -/
def keywords : List String :=
  ["break", "case", "chan", "const", "continue", "default", "defer", "else", "fallthrough",
   "for", "func", "go", "goto", "if", "import", "interface", "map", "package", "range",
   "return", "select", "struct", "switch", "type", "var"]

/-- Predeclared names that the generated file refers to. -/
def predeclared : List String := ["int", "uint32", "string", "error", "nil"]

/-- The name of the shared error type. -/
def errorType : String := "UnrecognizedEnumValueError"

/-- The names that are taken before any enum type is declared. -/
def reservedScope : Scope :=
  (((Scope.empty .go).reserve keywords "a Go keyword").reserve predeclared
    "a predeclared Go identifier").reserve ["fmt"] "the `fmt` import"
    |>.reserve [errorType] "the shared error type"

/-- The constant of a member. -/
def constantName (e : EnumType) (m : Member) : String := e.name ++ m.name

/-- The constant that holds the number of members. -/
def countName (e : EnumType) : String := e.name ++ "Count"

/-- The parse function. -/
def parseName (e : EnumType) : String := e.name ++ "FromString"

/-- What an enum type declares at the top of the file, with a description of each owner. -/
def declarations (e : EnumType) : List (String × String) :=
  [(e.name, "enum type `" ++ e.name ++ "`")]
    ++ e.members.map (fun m => (constantName e m, "`" ++ e.name ++ "." ++ m.name ++ "`"))
    ++ (if e.isBitset then []
        else [(countName e, "the count constant of `" ++ e.name ++ "`")])
    ++ [(parseName e, "the parse function of `" ++ e.name ++ "`")]

/-- Refuses enum types of which two declarations, or one and a reserved name, coincide. -/
def checkNames (enums : List EnumType) : Except GenerateError Unit := do
  let _ ← reservedScope.declareAll (enums.flatMap declarations)
  return ()

/-! ## Text -/

/-- The integer type behind an enum type. -/
def integerType : Representation → String
  | .i32 => "int"
  | .u32 => "uint32"

/-- Constants numbered by position: the first line counts, the others repeat it. -/
def positionalLines (e : EnumType) : List String :=
  match e.members with
  | [] => []
  | first :: rest =>
    ("\t" ++ constantName e first ++ " " ++ e.name ++ " = iota")
      :: rest.map fun m => "\t" ++ constantName e m

/-- Width of the column of constant names, in bytes. -/
def nameWidth (e : EnumType) : Nat :=
  widest (e.members.map fun m => e.name.utf8ByteSize + m.name.utf8ByteSize)

/-- Constants with their values, the types in one column. -/
def explicitLines (e : EnumType) : List String :=
  e.members.map fun m =>
    "\t" ++ alignLeft (nameWidth e) (constantName e m) ++ " " ++ e.name ++ " = "
      ++ e.representation.literal m.value

/-- The block of constants. -/
def constantLines (e : EnumType) : List String :=
  ["const ("] ++ (if e.positional then positionalLines e else explicitLines e) ++ [")"]

/-- The number of members, for enum types that are not flag sets. -/
def countLines (e : EnumType) : List String :=
  if e.isBitset then []
  else
    ["",
     "// " ++ countName e ++ " is the number of " ++ e.name ++ " values.",
     "const " ++ countName e ++ " = " ++ toString e.count]

/-- The method that gives the external name of a value. -/
def stringLines (e : EnumType) : List String :=
  ["// String returns the canonical name of e, or \"" ++ EnumType.unknownName ++ "\".",
   "func (e " ++ e.name ++ ") String() string \x7b",
   "\tswitch e \x7b"]
    ++ e.members.flatMap (fun m =>
      ["\tcase " ++ constantName e m ++ ":",
       "\t\treturn \"" ++ m.externalName ++ "\""])
    ++ ["\tdefault:",
        "\t\treturn \"" ++ EnumType.unknownName ++ "\"",
        "\t\x7d",
        "\x7d"]

/-- The function that gives the value of an external name. -/
def parseLines (e : EnumType) : List String :=
  ["// " ++ parseName e ++ " parses the canonical name of a " ++ e.name ++ " value.",
   "func " ++ parseName e ++ "(s string) (" ++ e.name ++ ", error) \x7b",
   "\tswitch s \x7b"]
    ++ e.members.flatMap (fun m =>
      ["\tcase \"" ++ m.externalName ++ "\":",
       "\t\treturn " ++ constantName e m ++ ", nil"])
    ++ ["\tdefault:",
        "\t\treturn 0, &" ++ errorType ++ "\x7bType: \"" ++ e.name ++ "\", Value: s\x7d",
        "\t\x7d",
        "\x7d"]

/-- An array that refers to every constant. -/
def keepAliveLines (e : EnumType) : List String :=
  ["// Every " ++ e.name ++ " value is referenced so none is stripped from the build.",
   "var _ = [...]" ++ e.name ++ "\x7b"]
    ++ e.members.map (fun m => "\t" ++ constantName e m ++ ",")
    ++ ["\x7d"]

/-- Everything about one enum type. -/
def enumLines (e : EnumType) : List String :=
  ["// " ++ e.name ++ " is a generated enum type.",
   "type " ++ e.name ++ " " ++ integerType e.representation,
   ""]
    ++ constantLines e
    ++ countLines e
    ++ [""] ++ stringLines e
    ++ [""] ++ parseLines e
    ++ (if e.preserve then [""] ++ keepAliveLines e else [])

/-- Package clause, import and the shared error type. -/
def preludeLines (package : String) : List String :=
  ["",
   "package " ++ package,
   "",
   "import \"fmt\"",
   "",
   "// " ++ errorType ++ " is returned when a string names no member of an enum type.",
   "type " ++ errorType ++ " struct \x7b",
   "\tType  string",
   "\tValue string",
   "\x7d",
   "",
   "func (e *" ++ errorType ++ ") Error() string \x7b",
   "\treturn fmt.Sprintf(\"unknown %s: %s\", e.Type, e.Value)",
   "\x7d"]

end EnumBindings.Go
