import EnumBindings.Table.Definition
import EnumBindings.Toml.Decode

/-!
# Tables as documents

A table is written as a document with three entries: `enums` gives the members of every enum
type, `bitset` lists the flag sets and `preserve` the enum types of which nothing may be removed.
Both lists name enum types of the table, each of them once.
-/

namespace EnumBindings

open EnumBindings.Toml

/-- A list of references to enum types. -/
inductive ReferenceList where
  | preserve
  | bitset
deriving Repr, DecidableEq

/-- The key of a list. -/
def ReferenceList.name : ReferenceList → String
  | preserve => "preserve"
  | bitset => "bitset"

/-- A reference that cannot stand. -/
inductive ReferenceError where
  | unknown (list : ReferenceList) (name : String)
  | duplicate (list : ReferenceList) (name : String)
deriving Repr, DecidableEq

/-- What is wrong with the text of a table. -/
inductive TableFault where
  | document (error : Toml.Error)
  | reference (error : ReferenceError)
deriving Repr, DecidableEq

namespace TableDocument

/-- The three entries as they were written. -/
structure Contents where
  preserve : List String
  bitset : List String
  enums : Option (List (String × List MemberSpec))

/-- The entries of a document without any. -/
def blank : Contents := ⟨[], [], none⟩

/-- Reads a member. -/
def member : Value → Decoded MemberSpec
  | .string name => .ok (.named name)
  | .array [.string name, .integer value] => .ok (.explicit name value)
  | _ => .error .member

/-- Reads one entry. -/
def field (contents : Contents) (key : String) (value : Value) : Decoded Contents :=
  if key = "preserve" then do
    return { contents with preserve := ← decodeList decodeText value }
  else if key = "bitset" then do
    return { contents with bitset := ← decodeList decodeText value }
  else if key = "enums" then do
    return { contents with enums := some (← decodeMap (decodeList member) value) }
  else .error (.unknownField key ["preserve", "bitset", "enums"])

/-- The entries of a document, `enums` among them. -/
def decode (entries : Entries) : Decoded (Contents × List (String × List MemberSpec)) := do
  let contents ← decodeEntries field blank entries
  match contents.enums with
  | some enums => return (contents, enums)
  | none => .error (.missingField "enums")

/-- Refuses a list with a name that is not a key of the table, or that stands in it before. -/
def checkReferences (list : ReferenceList) (keys : List String) :
    (earlier names : List String) → Except ReferenceError Unit
  | _, [] => .ok ()
  | earlier, name :: names =>
    if !keys.contains name then .error (.unknown list name)
    else if earlier.contains name then .error (.duplicate list name)
    else checkReferences list keys (earlier ++ [name]) names

/-- The table of checked contents, sorted by name. -/
def table (contents : Contents) (enums : List (String × List MemberSpec)) : EnumTable :=
  ⟨(enums.mergeSort fun a b => a.1 ≤ b.1).map fun (name, members) =>
    { name, members
      bitset := contents.bitset.contains name
      preserve := contents.preserve.contains name }⟩

end TableDocument

open TableDocument in
/-- The table of the entries of a document. -/
def EnumTable.ofEntries (entries : Entries) : Except TableFault EnumTable := do
  let (contents, enums) ← (decode entries).mapError (.document ∘ .mismatch)
  let keys := enums.map (·.1)
  (checkReferences .preserve keys [] contents.preserve).mapError .reference
  (checkReferences .bitset keys [] contents.bitset).mapError .reference
  return table contents enums

/-- The table that a text writes down. -/
def EnumTable.ofText (text : String) : Except TableFault EnumTable :=
  match parse? text with
  | none => .error (.document .malformed)
  | some entries => EnumTable.ofEntries entries

end EnumBindings
