import EnumBindings.Store
import EnumBindings.Terminal

/-!
# Machines

All that a run can see and change, as data: a store with a current directory, what was written so
far, and a clock that stands still. A run on a machine is a function.
-/

namespace EnumBindings

/-- A machine. -/
structure Machine where
  store : Store
  /-- The current directory. -/
  directory : Location
  /-- What the names of temporary files are made from. -/
  temporaryStem : ByteString
  logStyle : LogStyle
  stdout : String
  stderr : String
deriving Inhabited

namespace Machine

/-- A machine on which nothing has run. -/
def boot (store : Store) (directory : Location) (temporaryStem : ByteString) : Machine :=
  ⟨store, directory, temporaryStem, .off, "", ""⟩

/-- The path of a place. -/
def pathOf (location : Location) : Path := ⟨"/" ++ "/".intercalate location⟩

/-- A request that answers from the store. -/
def ask {α : Type} (answer : Store → Location → α) : StateM Machine α := do
  let machine ← get
  return answer machine.store machine.directory

/-- A request that changes the store unless it fails. -/
def change (request : Store → Location → Except DiskError Store) :
    StateM Machine (Except DiskError Unit) := do
  let machine ← get
  match request machine.store machine.directory with
  | .ok store =>
    set { machine with store }
    return .ok ()
  | .error error => return .error error

/-- Makes a temporary file. Its path starts at the root, and an error tells the path. -/
def createTemporary (p : Path) : StateM Machine (Except DiskError Path) := do
  let machine ← get
  let absolute := (pathOf machine.directory).join p
  match machine.store.createAt machine.directory machine.temporaryStem absolute with
  | .ok (path, store) =>
    set { machine with store }
    return .ok path
  | .error error => return .error (.located error (absolute.join ⟨machine.temporaryStem⟩))

instance : Disk (StateM Machine) where
  currentDirectory := ask fun store here =>
    if store.isDirectory here then .ok (pathOf here) else .error .notFound
  kind? p := ask fun store here => store.kindAt here p
  read p := ask fun store here => store.readAt here p
  makeDirectory p := change fun store here => store.makeDirectoryAt here p
  createTemporary := createTemporary
  write p bytes := change fun store here => store.writeAt here p bytes
  flush p := change fun store here => (store.readAt here p).map fun _ => store
  rename source target := change fun store here => store.renameAt here source target
  remove p := modify fun machine =>
    { machine with store := machine.store.removeAt machine.directory p }

instance : Terminal (StateM Machine) where
  log level message := modify fun machine =>
    { machine with stderr := machine.stderr ++ machine.logStyle.line level message }
  startLog style := modify fun machine => { machine with logStyle := style }
  print text := modify fun machine => { machine with stdout := machine.stdout ++ text }
  printError text := modify fun machine => { machine with stderr := machine.stderr ++ text }
  isInteractive := return false
  now := return 0

end Machine

end EnumBindings
