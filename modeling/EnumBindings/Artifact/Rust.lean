import EnumBindings.Artifact.Scope
import EnumBindings.EnumType
import EnumBindings.Name.Words
import EnumBindings.Text.Lines

/-!
# Rust source

An enum type becomes a transparent newtype over its integer with one associated constant per
member, so that flag combinations and values of a newer library stay representable. Helper
items are lower-case functions and never meet a constant. Only types and keep-alive statics
share the module scope.
-/

namespace EnumBindings.Rust

open EnumBindings.Text

/-! ## Names -/

/-- Words of the language that cannot be names. -/
def keywords : List String :=
  ["as", "async", "await", "break", "const", "continue", "crate", "dyn", "else", "enum",
   "extern", "false", "fn", "for", "gen", "if", "impl", "in", "let", "loop", "match", "mod",
   "move", "mut", "pub", "ref", "return", "self", "Self", "static", "struct", "super", "trait",
   "true", "type", "unsafe", "use", "where", "while", "abstract", "become", "box", "do",
   "final", "macro", "override", "priv", "try", "typeof", "unsized", "virtual", "yield"]

/-- Items and bindings that the generated module refers to by bare name. -/
def referenced : List String :=
  ["std", "fmt", "FromStr", "String", "Result", "Ok", "Err", "f", "s", "other", "rhs"]

/-- The name of the shared error type. -/
def errorType : String := "UnrecognizedEnumValue"

/-- The names that are taken before any enum type is declared. -/
def reservedScope : Scope :=
  ((Scope.empty .rust).reserve keywords "a Rust keyword").reserve referenced
    "a name the generated code refers to"
    |>.reserve [errorType] "the shared error type"

/-- The static that keeps every constant of an enum type alive. -/
def keepAliveName (e : EnumType) : String := "KEEP_" ++ Name.upperSnake e.name

/-- What an enum type declares in the module, with a description of each owner. -/
def declarations (e : EnumType) : List (String × String) :=
  [(e.name, "enum type `" ++ e.name ++ "`")]
    ++ (if e.preserve then
          [(keepAliveName e, "the keep-alive static of `" ++ e.name ++ "`")]
        else [])

/-- Refuses enum types of which two declarations, or one and a reserved name, coincide. -/
def checkNames (enums : List EnumType) : Except GenerateError Unit := do
  let _ ← reservedScope.declareAll (enums.flatMap declarations)
  return ()

/-! ## Text -/

/-- The integer type behind an enum type. -/
def integerType : Representation → String
  | .i32 => "i32"
  | .u32 => "u32"

/-- A constant by its path. -/
def constantPath (e : EnumType) (m : Member) : String := e.name ++ "::" ++ m.constantName

/-- The associated constants. -/
def constantLines (e : EnumType) : List String :=
  e.members.map fun m =>
    "    pub const " ++ m.constantName ++ ": " ++ e.name ++ " = " ++ e.name ++ "("
      ++ e.representation.literal m.value ++ ");"

/-- The function that lists every value. -/
def valuesLines (e : EnumType) : List String :=
  ["",
   "    /// Every named value, in declaration order.",
   "    pub fn values() -> &'static [" ++ e.name ++ "] \x7b",
   "        static VALUES: [" ++ e.name ++ "; " ++ toString e.count ++ "] = ["]
    ++ e.members.map (fun m => "            " ++ constantPath e m ++ ",")
    ++ ["        ];",
        "        &VALUES",
        "    \x7d"]

/-- Inclusion of flags, or the number of members for enum types that are not flag sets. -/
def sizeLines (e : EnumType) : List String :=
  if e.isBitset then
    ["",
     "    /// Whether every flag set in `other` is also set in `self`.",
     "    pub const fn contains(self, other: " ++ e.name ++ ") -> bool \x7b",
     "        self.0 & other.0 == other.0",
     "    \x7d"]
  else
    ["",
     "    /// Number of named values.",
     "    pub const fn count() -> usize \x7b",
     "        " ++ toString e.count,
     "    \x7d"]

/-- The function that gives the external name of a value. -/
def nameLines (e : EnumType) : List String :=
  ["",
   "    /// Canonical name of this value, or `\"" ++ EnumType.unknownName ++ "\"`.",
   "    pub fn as_str(self) -> &'static str \x7b",
   "        match self \x7b"]
    ++ e.members.map (fun m =>
      "            " ++ constantPath e m ++ " => \"" ++ m.externalName ++ "\",")
    ++ ["            _ => \"" ++ EnumType.unknownName ++ "\",",
        "        \x7d",
        "    \x7d"]

/-- The inherent implementation. -/
def inherentLines (e : EnumType) : List String :=
  ["impl " ++ e.name ++ " \x7b"]
    ++ constantLines e ++ valuesLines e ++ sizeLines e ++ nameLines e
    ++ ["\x7d"]

/-- Showing a value by its external name. -/
def displayLines (typeName : String) : List String :=
  ["impl fmt::Display for " ++ typeName ++ " \x7b",
   "    fn fmt(&self, f: &mut fmt::Formatter<'_>) -> fmt::Result \x7b"]

/-- Reading a value from its external name. -/
def parseLines (e : EnumType) : List String :=
  ["impl FromStr for " ++ e.name ++ " \x7b",
   "    type Err = " ++ errorType ++ ";",
   "",
   "    fn from_str(s: &str) -> Result<Self, Self::Err> \x7b",
   "        match s \x7b"]
    ++ e.members.map (fun m =>
      "            \"" ++ m.externalName ++ "\" => Ok(" ++ constantPath e m ++ "),")
    ++ ["            _ => Err(" ++ errorType ++ " \x7b",
        "                type_name: \"" ++ e.name ++ "\",",
        "                value: s.to_string(),",
        "            \x7d),",
        "        \x7d",
        "    \x7d",
        "\x7d"]

/-- One operation on the flags of two values. -/
def bitOperationLines (e : EnumType) (trait method operator : String) : List String :=
  ["",
   "impl std::ops::" ++ trait ++ " for " ++ e.name ++ " \x7b",
   "    type Output = " ++ e.name ++ ";",
   "",
   "    fn " ++ method ++ "(self, rhs: " ++ e.name ++ ") -> " ++ e.name ++ " \x7b",
   "        " ++ e.name ++ "(self.0 " ++ operator ++ " rhs.0)",
   "    \x7d",
   "\x7d"]

/-- Union and intersection of flags. -/
def bitOperationsLines (e : EnumType) : List String :=
  bitOperationLines e "BitOr" "bitor" "|" ++ bitOperationLines e "BitAnd" "bitand" "&"

/-- A static that refers to every constant. -/
def keepAliveLines (e : EnumType) : List String :=
  ["#[used]",
   "static " ++ keepAliveName e ++ ": [" ++ e.name ++ "; " ++ toString e.count ++ "] = ["]
    ++ e.members.map (fun m => "    " ++ constantPath e m ++ ",")
    ++ ["];"]

/-- Everything about one enum type. -/
def enumLines (e : EnumType) : List String :=
  ["/// Generated `" ++ e.name ++ "` enum type.",
   "#[derive(Debug, Clone, Copy, PartialEq, Eq, Hash)]",
   "#[repr(transparent)]",
   "pub struct " ++ e.name ++ "(pub " ++ integerType e.representation ++ ");",
   ""]
    ++ inherentLines e
    ++ [""] ++ displayLines e.name
    ++ ["        f.write_str(self.as_str())", "    \x7d", "\x7d"]
    ++ [""] ++ parseLines e
    ++ (if e.isBitset then bitOperationsLines e else [])
    ++ (if e.preserve then [""] ++ keepAliveLines e else [])

/-- Imports and the shared error type. -/
def preludeLines : List String :=
  ["",
   "use std::fmt;",
   "use std::str::FromStr;",
   "",
   "/// Returned when a string names no member of an enum type.",
   "#[derive(Debug, Clone, PartialEq, Eq)]",
   "pub struct " ++ errorType ++ " \x7b",
   "    pub type_name: &'static str,",
   "    pub value: String,",
   "\x7d",
   ""]
    ++ displayLines errorType
    ++ ["        write!(f, \"unknown \x7b\x7d: \x7b\x7d\", self.type_name, self.value)",
        "    \x7d",
        "\x7d",
        "",
        "impl std::error::Error for " ++ errorType ++ " \x7b\x7d"]

end EnumBindings.Rust
