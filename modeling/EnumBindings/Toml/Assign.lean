import EnumBindings.Toml.Key
import EnumBindings.Toml.Value

/-!
# Putting values into tables

A dotted key makes the tables it leads through, and only adds to tables that dotted keys made. A
header makes the tables above its own where they are missing, and may itself fill in a table
that another header implied. Every entry is written once.
-/

namespace EnumBindings.Toml

/-- Changes the last table of an array of tables. -/
def changeLast (change : Entries → Option Entries) (elements : List Value) :
    Option (List Value) :=
  match elements.getLast? with
  | some (.table origin entries) =>
    (change entries).map fun entries => elements.dropLast ++ [.table origin entries]
  | _ => none

/-- Puts a value under a dotted key; `braced` says that the key stands between braces. The last
table on the way must be one that a dotted key made. -/
def assign (braced : Bool) : (path : List String) → (last : String) → Value → Entries →
    Option Entries
  | [], last, value, entries =>
    if (entries.lookup last).isSome then none else some (entries.add last value)
  | table :: path, last, value, entries =>
    let change := assign braced path last value
    match entries.lookup table with
    | none => (change []).map fun inner => entries.add table (.table (.dotted braced) inner)
    | some (.table (.dotted b) inner) =>
      if b = braced then
        (change inner).map fun inner => entries.replace table (.table (.dotted b) inner)
      else none
    | some (.table .implied inner) =>
      if path.isEmpty then none
      else (change inner).map fun inner => entries.replace table (.table .implied inner)
    | some (.tables elements) =>
      if path.isEmpty then none
      else (changeLast change elements).map fun els => entries.replace table (.tables els)
    | some _ => none

/-- Changes the table that a path of headers leads to; tables that are missing are implied. -/
def changeWithin (change : Entries → Option Entries) : List String → Entries → Option Entries
  | [], entries => change entries
  | table :: path, entries =>
    match entries.lookup table with
    | none =>
      (changeWithin change path []).map fun inner => entries.add table (.table .implied inner)
    | some (.table origin inner) =>
      if origin.isBraced then none
      else (changeWithin change path inner).map fun inner =>
        entries.replace table (.table origin inner)
    | some (.tables elements) =>
      (changeLast (changeWithin change path) elements).map fun els =>
        entries.replace table (.tables els)
    | some _ => none

/-- Opens the table of a header. One that was only implied so far moves behind its siblings. -/
def openTable (name : String) (entries : Entries) : Option Entries :=
  match entries.lookup name with
  | none => some (entries.add name (.table .header []))
  | some (.table .implied inner) =>
    some (Entries.add name (.table .header inner) (entries.filter (·.1 != name)))
  | some _ => none

/-- Opens one more table in the array of a header. -/
def openElement (name : String) (entries : Entries) : Option Entries :=
  match entries.lookup name with
  | none => some (entries.add name (.tables [.table .header []]))
  | some (.tables elements) =>
    some (entries.replace name (.tables (elements ++ [.table .header []])))
  | some _ => none

end EnumBindings.Toml
