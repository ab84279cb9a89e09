import EnumBindings.Language
import EnumBindings.Platform
import EnumBindings.Toml.Decode

/-!
# Project settings

A project says in one document which artifacts it wants: the table to read, the license above
every artifact, one entry for each output, and where the native library is installed. Relative
paths mean paths below the directory of the document.
-/

namespace EnumBindings

open EnumBindings.Toml

/-- One output that is asked for. -/
structure Output where
  language : Language
  path : Path
  /-- Only heard where the language has packages. -/
  package : Option String
deriving Repr, DecidableEq, Inhabited

/-- The settings of a project. -/
structure Config where
  /-- The table to read instead of the built-in one. -/
  table : Option Path
  license : List String
  outputs : List Output
  libraries : Option Path
  headers : Option Path
deriving Repr, DecidableEq, Inhabited

namespace Config

/-- The name of the document. -/
def fileName : String := "Flexgen.toml"

/-- Settings that say nothing. -/
def blank : Config := ⟨none, [], [], none, none⟩

/-! ## Reading -/

/-- Reads a path. -/
def decodePath (value : Value) : Decoded Path := return .ofText (← decodeString "path string" value)

/-- The words for languages in settings. -/
def languageWords : List String := ["go", "rust"]

/-- The language of a word, which has to match exactly. -/
def languageOf (word : String) : Decoded Language :=
  if word = "go" then .ok .go
  else if word = "rust" then .ok .rust
  else .error (.unknownVariant word languageWords)

/-- Refuses anything that says something. -/
def checkNothing : Value → Decoded Unit
  | .array [] => .ok ()
  | .array _ => .error (.choiceContents false)
  | .tables _ => .error (.choiceContents true)
  | .table _ [] => .ok ()
  | .table .. => .error (.choiceContents false)
  | .string _ => .error (.choiceType "string")
  | .integer _ => .error (.choiceType "integer")
  | .real _ => .error (.choiceType "float")
  | .boolean _ => .error (.choiceType "boolean")
  | .date _ => .error (.choiceType "datetime")

/-- Reads a language: a word, or a table whose only key is the word. -/
def decodeLanguage : Value → Decoded Language
  | .string word => languageOf word
  | .table _ [] => .error .noChoice
  | .table _ [(word, value)] => do
    let language ← languageOf word
    checkNothing value
    return language
  | .table .. => .error .severalChoices
  | _ => .error .notChoice

/-- An output as far as it was read. -/
structure Draft where
  language : Option Language
  path : Option Path
  package : Option String

/-- Reads one entry of an output. -/
def outputField (draft : Draft) (key : String) (value : Value) : Decoded Draft :=
  if key = "language" then do return { draft with language := some (← decodeLanguage value) }
  else if key = "path" then do return { draft with path := some (← decodePath value) }
  else if key = "package" then do return { draft with package := some (← decodeText value) }
  else .error (.unknownField key ["language", "path", "package"])

/-- What is said about an output of which the field at an index is missing. -/
def missing (value : Value) (name : String) (index : Nat) : Mismatch :=
  if value.elements?.isSome then .tooShort index "struct OutputConfig" 3 else .missingField name

/-- Reads an output. -/
def decodeOutput (value : Value) : Decoded Output := do
  let draft ← decodeRecord "struct OutputConfig" outputField ["language", "path", "package"]
    ⟨none, none, none⟩ value
  match draft.language, draft.path with
  | none, _ => .error (missing value "language" 0)
  | some _, none => .error (missing value "path" 1)
  | some language, some path => .ok ⟨language, path, draft.package⟩

/-- Reads one entry of the header. -/
def headerField (_ : List String) (key : String) (value : Value) : Decoded (List String) :=
  if key = "license" then decodeList decodeText value
  else .error (.unknownField key ["license"])

/-- Reads one entry of the install layout. -/
def layoutField (config : Config) (key : String) (value : Value) : Decoded Config :=
  if key = "libs_dir" then do return { config with libraries := some (← decodePath value) }
  else if key = "include_dir" then do return { config with headers := some (← decodePath value) }
  else .error (.unknownField key ["libs_dir", "include_dir"])

/-- Reads one entry of the settings. -/
def field (config : Config) (key : String) (value : Value) : Decoded Config :=
  if key = "table" then do return { config with table := some (← decodePath value) }
  else if key = "header" then do
    return { config with
      license := ← decodeRecord "struct HeaderConfig" headerField ["license"] [] value }
  else if key = "output" then do
    return { config with outputs := ← decodeList decodeOutput value }
  else if key = "layout" then
    decodeRecord "struct LayoutConfig" layoutField ["libs_dir", "include_dir"] config value
  else .error (.unknownField key ["table", "header", "output", "layout"])

/-- The settings of the entries of a document, paths as written. -/
def ofEntries (entries : Entries) : Decoded Config := decodeEntries field blank entries

/-- The settings that a text writes down, paths as written. -/
def ofText (text : String) : Except Toml.Error Config :=
  match parse? text with
  | none => .error .malformed
  | some entries => (ofEntries entries).mapError .mismatch

/-! ## Paths -/

/-- Settings whose relative paths mean paths below a directory. -/
def below (config : Config) (root : Path) : Config :=
  { config with
    table := config.table.map root.join
    outputs := config.outputs.map fun o => { o with path := root.join o.path }
    libraries := config.libraries.map root.join
    headers := config.headers.map root.join }

/-- The install layout, below a directory where nothing else is said. -/
def layout (config : Config) (root : Path) : InstallLayout :=
  { libraries := config.libraries.getD (InstallLayout.below root).libraries
    headers := config.headers.getD (InstallLayout.below root).headers }

end Config

end EnumBindings
