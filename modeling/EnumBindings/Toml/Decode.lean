import EnumBindings.Toml.Document
import EnumBindings.Toml.Error

/-!
# Decoding values

Readers from values to the data that they stand for. A reader walks its value in the order in
which it was written and stops at the first mismatch.
-/

namespace EnumBindings.Toml

/-- The result of a reader. -/
abbrev Decoded := Except Mismatch

/-- A value where something else was wanted. -/
def mismatched {α : Type} (value : Value) (wanted : String) : Decoded α :=
  .error (.type value.found wanted)

/-- The elements of an array, however it was written. -/
def Value.elements? : Value → Option (List Value)
  | .array elements => some elements
  | .tables elements => some elements
  | _ => none

/-- The key under which a date is seen where a map is read. -/
def dateKey : String := "$__toml_private_datetime"

/-- The entries of a table. A date is a map with its text as the only entry. -/
def Value.entries? : Value → Option Entries
  | .table _ entries => some entries
  | .date text => some [(dateKey, .string text)]
  | _ => none

/-- Reads a string. -/
def decodeString (wanted : String) : Value → Decoded String
  | .string text => .ok text
  | value => mismatched value wanted

/-- Reads a string for a text. -/
def decodeText : Value → Decoded String := decodeString "a string"

/-- Reads all elements of an array. -/
def decodeList {α : Type} (decode : Value → Decoded α) (value : Value) : Decoded (List α) :=
  match value.elements? with
  | some elements => elements.mapM decode
  | none => mismatched value "a sequence"

/-- Reads all entries of a table, whose keys are free. -/
def decodeMap {α : Type} (decode : Value → Decoded α) (value : Value) :
    Decoded (List (String × α)) :=
  match value.entries? with
  | some entries => entries.mapM fun (key, v) => do return (key, ← decode v)
  | none => mismatched value "a map"

/-- Reads the entries of a record into it, one after the other. -/
def decodeEntries {α : Type} (field : α → String → Value → Decoded α) (blank : α)
    (entries : Entries) : Decoded α :=
  entries.foldlM (fun record (key, value) => field record key value) blank

/-- Reads a record from a table, or from an array with the values of its fields in order. Values
behind the last field do not count. -/
def decodeRecord {α : Type} (wanted : String) (field : α → String → Value → Decoded α)
    (fields : List String) (blank : α) (value : Value) : Decoded α :=
  match value.elements? with
  | some elements => decodeEntries field blank (fields.zip elements)
  | none =>
    match value.entries? with
    | some entries => decodeEntries field blank entries
    | none => mismatched value wanted

end EnumBindings.Toml
