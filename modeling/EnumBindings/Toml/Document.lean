import EnumBindings.Toml.Reader

/-!
# Documents

A document is a sequence of statements, one on a line: a value under a key, the header of a
table, or the header of one more table in an array. Headers say where the keys below them go.
-/

namespace EnumBindings.Toml

/-- One statement of a document. -/
inductive Statement where
  | value (key : Key) (value : Value)
  | table (key : Key)
  | element (key : Key)
deriving Repr, Inhabited

/-- A statement, with the blanks behind it skipped. -/
def statement? : List Char → Option (Statement × List Char)
  | '[' :: '[' :: chars => do
    match ← key? chars with
    | (key, ']' :: ']' :: rest) => some (.element key, skipBlanks rest)
    | _ => none
  | '[' :: chars => do
    match ← key? chars with
    | (key, ']' :: rest) => some (.table key, skipBlanks rest)
    | _ => none
  | chars => (keyValue? value? chars).map fun ((key, value), rest) => (.value key value, rest)

/-- All statements; every one takes at least one character, so `count` may be their number. -/
def statements? : (count : Nat) → List Char → Option (List Statement)
  | 0, _ => none
  | count + 1, chars => do
    match ← skipFiller false chars with
    | [] => some []
    | chars =>
      let (statement, rest) ← statement? chars
      if isLineDone rest then (statements? count rest).map (statement :: ·) else none

/-- A document as far as it was read: its entries and where the next key goes. -/
structure Draft where
  entries : Entries
  current : List String
deriving Repr, Inhabited

/-- What a statement does to a document. -/
def Draft.take (draft : Draft) : Statement → Option Draft
  | .value key value =>
    (changeWithin (assign false key.path key.last value) draft.current draft.entries).map
      fun entries => { draft with entries }
  | .table key =>
    (changeWithin (openTable key.last) key.path draft.entries).map
      fun entries => ⟨entries, key.path ++ [key.last]⟩
  | .element key =>
    (changeWithin (openElement key.last) key.path draft.entries).map
      fun entries => ⟨entries, key.path ++ [key.last]⟩

/-- Characters without a mark of the byte order in front. -/
def skipByteOrderMark : List Char → List Char
  | '\ufeff' :: rest => rest
  | chars => chars

/-- The entries of a document, if the text is one. -/
def parse? (text : String) : Option Entries := do
  let chars := skipByteOrderMark text.toList
  let statements ← statements? (chars.length + 1) chars
  let draft ← statements.foldlM Draft.take ⟨[], []⟩
  some draft.entries

end EnumBindings.Toml
