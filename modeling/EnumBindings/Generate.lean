import EnumBindings.Artifact
import EnumBindings.Digest.Sha256
import EnumBindings.Path.Normal
import EnumBindings.Project
import EnumBindings.Table.BuiltIn

/-!
# Generating outputs

All artifacts are made before any file is touched, so a table that is refused for one of them
leaves every file as it was. Then the outputs are taken in order: each is replaced where it
differs, or, when a run only checks, compared.
-/

namespace EnumBindings

open EnumBindings.Files

/-- What a run is asked for. -/
structure GenerateOptions where
  /-- The table to read instead of the built-in one. -/
  table : Option Path
  header : Header
  outputs : List Output
  /-- Files are compared and not written. -/
  check : Bool
deriving Repr, DecidableEq

/-- What the settings of a project ask for. -/
def GenerateOptions.ofConfig (config : Config) : GenerateOptions :=
  ⟨config.table, ⟨config.license⟩, config.outputs, false⟩

/-- What became of an output. -/
inductive OutputState where
  /-- The file was made or replaced. -/
  | written
  /-- The file was left as it was, because it had the right contents. -/
  | unchanged
  /-- A check found the right contents. -/
  | fresh
  /-- A check found other contents, or no file. -/
  | stale
deriving Repr, DecidableEq, Inhabited

/-- A state in reports. -/
def OutputState.name : OutputState → String
  | written => "written"
  | unchanged => "unchanged"
  | fresh => "fresh"
  | stale => "stale"

/-- What is reported about one output. -/
structure OutputReport where
  language : Language
  path : Path
  /-- The checksum of what was generated. -/
  checksum : String
  state : OutputState
deriving Repr, DecidableEq, Inhabited

/-- What is reported about a run. -/
structure GenerateReport where
  /-- Number of enum types in every output. -/
  enums : Nat
  outputs : List OutputReport
deriving Repr, DecidableEq, Inhabited

/-- The outputs that a check found different. -/
def GenerateReport.stale (report : GenerateReport) : List OutputReport :=
  report.outputs.filter (·.state == .stale)

/-- Whether every output is as it should be. -/
def GenerateReport.isFresh (report : GenerateReport) : Bool := report.stale.isEmpty

namespace Generate

variable {m : Type → Type} [Monad m] [Disk m] [Journal m]

/-- Notes something in the log. -/
def note (level : LogLevel) (message : String) : Task m Unit :=
  liftM (Journal.log level message : m Unit)

/-- The table of a file. -/
def readTable (p : Path) : Task m EnumTable := do
  match ← liftM (readText p : m (Except DiskError String)) with
  | .error cause => throw (.of (.table (.read p cause)))
  | .ok text =>
    match EnumTable.parse text p.shown with
    | .error error => throw (.of (.table error))
    | .ok table =>
      note .debug ("loaded enum table from " ++ p.shown)
      return table

/-- The table of a file, or the built-in one. -/
def loadTable : Option Path → Task m EnumTable
  | some p =>
    tryCatch (readTable p) fun failure =>
      throw (failure.during ("failed to load enum table from " ++ p.shown))
  | none => do
    note .debug ("loaded enum table from " ++ EnumTable.builtInOrigin)
    return EnumTable.builtIn

/-- The place of an output as far as text can tell. -/
def placeOf (here : Path) (output : Output) : Path := (here.join output.path).normalize

/-- Refuses an output with the place of one before it. -/
def checkDistinct (here : Path) : (earlier : List Path) → List Output → Except Failure Unit
  | _, [] => .ok ()
  | earlier, output :: rest =>
    let place := placeOf here output
    if earlier.contains place then .error (.of (.complaint (.duplicateOutput output.path)))
    else checkDistinct here (earlier ++ [place]) rest

/-- The artifact of an output. -/
def artifact (table : EnumTable) (header : Header) (output : Output) :
    Except Failure Artifact :=
  (table.generate (Style.ofLanguage output.language output.package) header).mapError fun error =>
    ⟨["failed to generate " ++ output.path.shown], .generate error⟩

/-- Notes the enum types of an artifact. -/
def noteEnums (language : Language) : List EnumType → Task m Unit
  | [] => return ()
  | e :: rest => do
    note .debug ("rendering " ++ language.name ++ " enum `" ++ e.name ++ "` ("
      ++ toString e.count ++ " members)")
    noteEnums language rest

/-- The artifacts of all outputs. -/
def artifacts (table : EnumTable) (header : Header) :
    List Output → Task m (List (Output × Artifact))
  | [] => return []
  | output :: rest => do
    let made ← liftExcept (artifact table header output)
    noteEnums output.language made.enums
    return (output, made) :: (← artifacts table header rest)
where
  /-- A result as a task. -/
  liftExcept {α : Type} (result : Except Failure α) : Task m α := ExceptT.mk (pure result)

/-- Compares an output with its file and replaces the file if that is asked for. -/
def settle (check : Bool) (output : Output) (text : String) : Task m OutputReport := do
  let current ← readIfExists output.path
  let report (state : OutputState) : OutputReport :=
    ⟨output.language, output.path, Sha256.ofText text, state⟩
  if current = some text then
    if check then return report .fresh
    note .debug (output.path.shown ++ " is up to date")
    return report .unchanged
  if check then return report .stale
  replace output.path text
  note .info ("wrote " ++ output.path.shown ++ " (" ++ toString text.utf8ByteSize ++ " bytes)")
  return report .written

/-- Settles outputs in order. -/
def settleAll (check : Bool) : List (Output × Artifact) → Task m (List OutputReport)
  | [] => return []
  | (output, made) :: rest => do
    let report ← settle check output made.text
    return report :: (← settleAll check rest)

/-- Makes all outputs. -/
def run (options : GenerateOptions) : Task m GenerateReport := do
  if options.outputs.isEmpty then throw (.of (.complaint .noOutputs))
  let here ← Project.currentDirectory
  ExceptT.mk (pure (checkDistinct here [] options.outputs))
  let table ← loadTable options.table
  let made ← artifacts table options.header options.outputs
  return ⟨table.size, ← settleAll options.check made⟩

end Generate

end EnumBindings
