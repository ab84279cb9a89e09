import EnumBindings.Toml.Text

/-!
# Keys of a document

A key is a sequence of parts with points between them. A part is a bare word or a string on one
line.
-/

namespace EnumBindings.Toml

/-- A key: the tables it leads through and the entry it names. -/
structure Key where
  path : List String
  last : String
deriving Repr, DecidableEq, Inhabited

/-- A key with one more table in front. -/
def Key.within (table : String) (key : Key) : Key := { key with path := table :: key.path }

/-- Characters of a bare word. -/
def isBareChar (c : Char) : Bool := c.isAlphanum || c == '_' || c == '-'

/-- One part of a key. -/
def keyPart? (chars : List Char) : Option (String × List Char) :=
  match lineText? chars with
  | some (text, rest) => some (String.ofList text, rest)
  | none =>
    match chars.takeWhile isBareChar with
    | [] => none
    | word => some (String.ofList word, chars.dropWhile isBareChar)

/-- The greatest number of parts in a key. -/
def maxKeyParts : Nat := 79

/-- A key of at most `parts` parts, with the blanks behind it skipped. -/
def keyOf? : (parts : Nat) → List Char → Option (Key × List Char)
  | 0, _ => none
  | parts + 1, chars => do
    let (first, rest) ← keyPart? chars
    match skipBlanks rest with
    | '.' :: more => do
      let (key, rest) ← keyOf? parts (skipBlanks more)
      some (key.within first, rest)
    | rest => some (⟨[], first⟩, rest)

/-- A key, with the blanks around it skipped. -/
def key? (chars : List Char) : Option (Key × List Char) := keyOf? maxKeyParts (skipBlanks chars)

end EnumBindings.Toml
