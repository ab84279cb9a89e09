import EnumBindings.Text.Casing

/-!
# Target languages

The languages that bindings are written in, and the words a user may call them by.
-/

namespace EnumBindings

open EnumBindings.Text

/-- A language that bindings are written in. -/
inductive Language where
  | go
  | rust
deriving Repr, DecidableEq, Inhabited

/-- The name of a language in messages, settings and reports. -/
def Language.name : Language → String
  | go => "go"
  | rust => "rust"

/-- A language by its name or short name, in any case. -/
def Language.parse? (text : String) : Option Language :=
  let word := lowercase text
  if word = "go" || word = "golang" then some .go
  else if word = "rust" || word = "rs" then some .rust
  else none

/-- What is said about a word that names no language. -/
def Language.unknownMessage (text : String) : String :=
  "unknown language '" ++ text ++ "'; expected 'go' or 'rust'"

/-- The token that opens a line comment; it is the same in every language so far. -/
def Language.lineComment : Language → String
  | go => "//"
  | rust => "//"

end EnumBindings
