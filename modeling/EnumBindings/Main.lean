import EnumBindings.Command.Execute

/-!
# The program

The disk and the terminal of the computer that the program runs on, and its entry.
-/

namespace EnumBindings.Program

/-- What a run on this computer carries along: how the log is written. -/
abbrev Computer := StateT LogStyle IO

/-- An error of the system. -/
def diskError (error : IO.Error) : DiskError :=
  match error with
  | .noFileOrDirectory .. => .notFound
  | .alreadyExists .. => .alreadyExists
  | .inappropriateType _ 20 _ => .notDirectory
  | .inappropriateType _ 21 _ => .isDirectory
  | .resourceBusy .. => .busy
  | other => .other (toString other)

/-- An action with its error as a result. -/
def attempt {α : Type} (action : IO α) : Computer (Except DiskError α) := do
  match ← (action.toBaseIO : BaseIO (Except IO.Error α)) with
  | .ok value => return .ok value
  | .error error => return .error (diskError error)

/-- An action at a path that could be a name. Here only texts are names. -/
def attemptAt {α : Type} (p : Path) (action : String → IO α) : Computer (Except DiskError α) :=
  if p.holdsNul then return .error .invalidName
  else
    match p.text? with
    | some text => attempt (action text)
    | none => return .error (.other "file name is not text")

/-- What stands at a path. Only the first byte of a file is asked for, which a directory does not
have. -/
def kindAt (p : Path) : Computer (Option EntryKind) := do
  match ← attemptAt p (IO.FS.Handle.mk · .read) with
  | .error _ => return none
  | .ok handle =>
    match ← attempt (handle.read 1) with
    | .ok _ => return some .file
    | .error _ => return some .directory

/-- Makes an empty file with a random name. -/
def createTemporary (directory : Path) : Computer (Except DiskError Path) := do
  let here := Path.ofText (toString (← IO.currentDir))
  let p := (here.join directory).join ⟨".tmp" ++ toString (← IO.rand 0 999999999999)⟩
  match ← attemptAt p (IO.FS.Handle.mk · .writeNew) with
  | .ok _ => return .ok p
  | .error error => return .error (.located error p)

instance : Disk Computer where
  currentDirectory := attempt do return .ofText (toString (← IO.currentDir))
  kind? := kindAt
  read p := attemptAt p (IO.FS.readBinFile ·)
  makeDirectory p := attemptAt p (IO.FS.createDir ·)
  createTemporary := createTemporary
  write p bytes := attemptAt p (IO.FS.writeBinFile · bytes)
  flush p := attemptAt p fun text => do (← IO.FS.Handle.mk text .append).flush
  rename source target :=
    if target.holdsNul then return .error .invalidArgument
    else
      match source.text?, target.text? with
      | some source, some target => attempt (IO.FS.rename source target)
      | _, _ => return .error (.other "file name is not text")
  remove p := discard (attemptAt p (IO.FS.removeFile ·))

instance : Terminal Computer where
  log level message := do IO.eprint ((← get).line level message)
  startLog := set
  print text := do
    IO.print text
    (← IO.getStdout).flush
  printError text := IO.eprint text
  isInteractive := do (← IO.getStderr).isTty
  now := IO.monoNanosNow

/-- The variables that the program looks at. -/
def knownVariables : List String := ["FLEXGEN_CONFIG", "FLEXGEN_COLOR", "NO_COLOR"]

/-- The values of the variables that are set. -/
def environment : IO Command.Environment :=
  knownVariables.filterMapM fun name => do
    return (← IO.getEnv name).map fun value => (name, Utf8.encode value)

end EnumBindings.Program

/-- Runs the command line of the program. -/
def main (arguments : List String) : IO UInt32 := do
  let environment ← EnumBindings.Program.environment
  let run : EnumBindings.Program.Computer UInt32 :=
    EnumBindings.Command.run environment (arguments.map EnumBindings.Utf8.encode)
  return (← StateT.run run .off).1
