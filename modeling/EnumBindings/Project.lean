import EnumBindings.Config
import EnumBindings.Files
import EnumBindings.Terminal

/-!
# Projects

A project is the directory that holds its settings. They are found from the current directory
upwards, unless their path is given; where there are none, nothing is set.
-/

namespace EnumBindings

open EnumBindings.Files

/-- Settings and where they were found. Their paths mean places below the root. -/
structure Project where
  config : Config
  root : Option Path
deriving Repr, DecidableEq, Inhabited

namespace Project

variable {m : Type → Type} [Monad m] [Disk m]

/-- The project without settings. -/
def blank : Project := ⟨Config.blank, none⟩

/-- The project whose settings are in a file. -/
def load [Journal m] (p : Path) : Task m Project := do
  let text ← request ("failed to read config file: " ++ p.shown) (readText p)
  match Config.ofText text with
  | .error error => throw ⟨["failed to parse config file: " ++ p.shown], .document error⟩
  | .ok config =>
    liftM (Journal.log .debug ("loaded config from " ++ p.shown) : m Unit)
    return ⟨config.below p.directory, some p.directory⟩

/-- The first of some paths that is a file. -/
def firstFile : List Path → m (Option Path)
  | [] => return none
  | p :: rest => do
    if (← Disk.kind? p) = some .file then return some p
    firstFile rest

/-- The settings of the nearest directory, upwards from a path. -/
def find? (start : Path) : m (Option Path) :=
  firstFile (start.ancestors.map fun directory => directory.join ⟨Config.fileName⟩)

/-- The current directory. -/
def currentDirectory : Task m Path :=
  request "failed to determine the current directory" Disk.currentDirectory

/-- The project of a given file, or the nearest one, or the one without settings. -/
def choose [Journal m] (given : Option Path) : Task m Project := do
  match given with
  | some p => load p
  | none =>
    let here ← currentDirectory
    match ← liftM (find? here : m (Option Path)) with
    | some p => load p
    | none =>
      liftM (Journal.log .debug "no Flexgen.toml found; using defaults" : m Unit)
      return blank

end Project

end EnumBindings
