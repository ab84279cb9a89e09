import EnumBindings.Number.Binary64

/-!
# TOML values

What a TOML document says, once its keys and headers are put together. Tables keep the order of
their entries, and every table knows how it was written, because that decides what may still be
added to it.
-/

namespace EnumBindings.Toml

/-- A floating point number. -/
inductive Real where
  | finite (negative : Bool) (magnitude : Binary64)
  | infinite (negative : Bool)
  | undefined
deriving Repr, DecidableEq, Inhabited

/-- How a table was written. -/
inductive Origin where
  /-- Between braces. Nothing can be added. -/
  | braces
  /-- By a header of its own. -/
  | header
  /-- By a header of a table inside it. -/
  | implied
  /-- By a dotted key, which may itself stand between braces. -/
  | dotted (braced : Bool)
deriving Repr, DecidableEq, Inhabited

/-- Whether a table is part of a value between braces. -/
def Origin.isBraced : Origin → Bool
  | braces => true
  | dotted braced => braced
  | header | implied => false

/-- A value of a document. -/
inductive Value where
  | string (text : String)
  | integer (value : Int)
  | real (value : Real)
  | boolean (value : Bool)
  /-- A date, a time or both, in normal form. -/
  | date (text : String)
  /-- An array between brackets. -/
  | array (elements : List Value)
  /-- An array of tables, one for each of its headers. -/
  | tables (elements : List Value)
  | table (origin : Origin) (entries : List (String × Value))
deriving Repr, Inhabited

/-- The entries of a table in order. -/
abbrev Entries := List (String × Value)

/-- Entries with the value of a key exchanged in its place. -/
def Entries.replace (key : String) (value : Value) (entries : Entries) : Entries :=
  entries.map fun (k, v) => if k = key then (k, value) else (k, v)

/-- Entries with one more behind all others. -/
def Entries.add (key : String) (value : Value) (entries : Entries) : Entries :=
  entries ++ [(key, value)]

end EnumBindings.Toml
