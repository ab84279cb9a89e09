import EnumBindings.Disk
import EnumBindings.Failure

/-!
# Files

How the program reads and replaces files. A file is replaced in one step: its new contents go to
a temporary file beside it, which then takes its name. Readers see the old contents or the new
ones, and a failure leaves no temporary file.
-/

namespace EnumBindings.Files

variable {m : Type → Type} [Monad m] [Disk m]

/-- The result of an operation that may fail. -/
abbrev Task (m : Type → Type) := ExceptT Failure m

/-- A request to the disk as a task; a failure says what was being done. -/
def request {α : Type} (context : String) (answer : m (Except DiskError α)) : Task m α := do
  match ← liftM answer with
  | .ok value => return value
  | .error error => throw ⟨[context], .disk error⟩

/-- A file as text. -/
def readText (p : Path) : m (Except DiskError String) := do
  match ← Disk.read p with
  | .ok bytes =>
    match String.fromUTF8? bytes with
    | some text => return .ok text
    | none => return .error .notText
  | .error error => return .error error

/-- A file as text, if it is there. -/
def readIfExists (p : Path) : Task m (Option String) := do
  match ← liftM (readText p : m (Except DiskError String)) with
  | .ok text => return some text
  | .error .notFound => return none
  | .error error => throw ⟨["failed to read file: " ++ p.shown], .disk error⟩

/-! ## Directories -/

/-- Makes the first directory of a list that can be made, if none of them is there already. Gives
the directories in front of it, which were missing. -/
def makeNearest : List Path → m (Except DiskError (List Path))
  | [] => return .ok []
  | p :: above => do
    if p.isEmpty then return .ok []
    match ← Disk.makeDirectory p with
    | .ok () => return .ok []
    | .error .notFound =>
      match ← makeNearest above with
      | .ok missing => return .ok (p :: missing)
      | .error error => return .error error
    | .error .alreadyExists =>
      if (← Disk.kind? p) = some .directory then return .ok []
      return .error .alreadyExists
    | .error error => return .error error

/-- Makes directories one after the other; one that is there counts as made. -/
def makeAll : List Path → m (Except DiskError Unit)
  | [] => return .ok ()
  | p :: rest => do
    match ← Disk.makeDirectory p with
    | .ok () => makeAll rest
    | .error error =>
      if error = .alreadyExists && (← Disk.kind? p) = some .directory then makeAll rest
      else return .error error

/-- Makes a directory with all the directories above it. -/
def makeDirectories (p : Path) : m (Except DiskError Unit) := do
  match ← makeNearest p.ancestors with
  | .ok missing => makeAll missing.reverse
  | .error error => return .error error

/-- Makes a directory unless something is there. -/
def ensureDirectory (p : Path) : Task m Unit := do
  if (← liftM (Disk.kind? p : m (Option EntryKind))).isNone then
    request ("failed to create directory: " ++ p.shown) (makeDirectories p)

/-! ## Replacing -/

/-- A request about a temporary file, which is removed if the request fails. -/
def requestOrRemove (temporary : Path) (context : String) (answer : m (Except DiskError Unit)) :
    Task m Unit := do
  match ← liftM answer with
  | .ok () => return ()
  | .error error =>
    liftM (Disk.remove temporary : m Unit)
    throw ⟨[context], .disk error⟩

/-- Gives a file its contents in one step. -/
def replace (p : Path) (text : String) : Task m Unit := do
  let directory := p.directory
  ensureDirectory directory
  let temporary ← request ("failed to create temporary file in " ++ directory.shown)
    (Disk.createTemporary directory)
  requestOrRemove temporary ("failed to write temporary file for " ++ p.shown)
    (Disk.write temporary text.toUTF8)
  requestOrRemove temporary ("failed to flush temporary file for " ++ p.shown)
    (Disk.flush temporary)
  requestOrRemove temporary ("failed to write file: " ++ p.shown)
    (Disk.rename temporary p)

end EnumBindings.Files
