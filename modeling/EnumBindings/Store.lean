import EnumBindings.Disk

/-!
# Stores

A disk as data: a tree of directories and files without links, in which the current directory and
a path lead to a place as they do on a real disk. Every name on the way must be one of a
directory, `..` leaves the directory it stands in, and a trailing `/` asks for a directory.
-/

namespace EnumBindings

/-- The names that lead from the root to a place. -/
abbrev Location := List ByteString

/-- What stands at a place. -/
inductive Entry where
  | directory
  | file (bytes : ByteArray)
deriving Inhabited

/-- The kind of an entry. -/
def Entry.kind : Entry → EntryKind
  | directory => .directory
  | file _ => .file

/-- The places in use, apart from the root. -/
structure Store where
  entries : List (Location × Entry)
deriving Inhabited

namespace Store

/-- The store with nothing in it. -/
def empty : Store := ⟨[]⟩

/-- What stands at a place. -/
def find? (store : Store) (location : Location) : Option Entry :=
  if location.isEmpty then some .directory else store.entries.lookup location

/-- Takes away what stands at a place. -/
def erase (store : Store) (location : Location) : Store :=
  ⟨store.entries.filter (·.1 != location)⟩

/-- Puts an entry at a place instead of what stands there. -/
def put (store : Store) (location : Location) (entry : Entry) : Store :=
  ⟨(location, entry) :: (store.erase location).entries⟩

/-- Takes away what stands at a place and below. -/
def eraseTree (store : Store) (location : Location) : Store :=
  ⟨store.entries.filter (!location.isPrefixOf ·.1)⟩

/-- Whether a directory stands at a place. -/
def isDirectory (store : Store) (location : Location) : Bool :=
  match store.find? location with
  | some .directory => true
  | _ => false

/-! ## From paths to places -/

/-- The greatest size of a name in bytes. -/
def maxNameSize : Nat := 255

/-- The size of a path in bytes that is too long. -/
def pathLimit : Nat := 4096

/-- The segments of a path. -/
def segments (p : Path) : List ByteString := (p.bytes.toList.splitOn '/').map String.ofList

/-- Refuses a path that can stand for nothing, whatever is on the disk. -/
def checkPath (p : Path) : Except DiskError Unit :=
  if p.holdsNul then .error .invalidName
  else if p.isEmpty then .error .notFound
  else if pathLimit ≤ p.bytes.length then .error .nameTooLong
  else .ok ()

/-- Where one segment leads. -/
def step (store : Store) (here : Location) (segment : ByteString) : Except DiskError Location :=
  if !store.isDirectory here then .error .notDirectory
  else if segment = "" || segment = "." then .ok here
  else if segment = ".." then .ok here.dropLast
  else if maxNameSize < segment.length then .error .nameTooLong
  else if (store.find? (here ++ [segment])).isSome then .ok (here ++ [segment])
  else .error .notFound

/-- Where the first segment starts. -/
def start (current : Location) (p : Path) : Location := if p.isAbsolute then [] else current

/-- The place of a path at which something stands. -/
def locate (store : Store) (current : Location) (p : Path) : Except DiskError Location := do
  checkPath p
  (segments p).foldlM store.step (start current p)

/-- Where a path would put something new. -/
structure Slot where
  directory : Location
  name : ByteString
  /-- The path asks for a directory. -/
  slash : Bool

/-- The slot that a path leads to. There is none if the last segment is no name: such a path means
a directory that is there. -/
def slot? (store : Store) (current : Location) (p : Path) : Except DiskError (Option Slot) := do
  checkPath p
  let all := segments p
  let kept := (all.reverse.dropWhile (· == "")).reverse
  match kept.getLast? with
  | none => return none
  | some name =>
    let directory ← kept.dropLast.foldlM store.step (start current p)
    if !store.isDirectory directory then throw .notDirectory
    if name = "." || name = ".." then return none
    if maxNameSize < name.length then throw .nameTooLong
    return some ⟨directory, name, kept.length < all.length⟩

/-- The place of a slot. -/
def Slot.location (s : Slot) : Location := s.directory ++ [s.name]

/-! ## Requests -/

/-- What stands at a path, if it can be reached. -/
def kindAt (store : Store) (current : Location) (p : Path) : Option EntryKind :=
  match store.locate current p with
  | .ok location => (store.find? location).map Entry.kind
  | .error _ => none

/-- The bytes of a file. -/
def readAt (store : Store) (current : Location) (p : Path) : Except DiskError ByteArray := do
  let location ← store.locate current p
  match store.find? location with
  | some (.file bytes) => .ok bytes
  | some .directory => .error .isDirectory
  | none => .error .notFound

/-- The store with one more directory. -/
def makeDirectoryAt (store : Store) (current : Location) (p : Path) : Except DiskError Store := do
  match ← store.slot? current p with
  | none => .error .alreadyExists
  | some s =>
    if (store.find? s.location).isSome then .error .alreadyExists
    else .ok (store.put s.location .directory)

/-- A name that is not in use in a directory, made from a stem. -/
def freshName (store : Store) (directory : Location) (stem : ByteString) : ByteString :=
  let candidates :=
    (List.range (store.entries.length + 1)).map fun n =>
      stem ++ String.ofList (List.replicate n '_')
  (candidates.find? fun name => (store.find? (directory ++ [name])).isNone).getD stem

/-- The store with an empty file of a new name in a directory. -/
def createAt (store : Store) (current : Location) (stem : ByteString) (directory : Path) :
    Except DiskError (Path × Store) := do
  let here ← store.locate current directory
  let p := directory.join ⟨store.freshName here stem⟩
  match ← store.slot? current p with
  | none => .error .alreadyExists
  | some s =>
    if s.slash then .error .isDirectory
    else if (store.find? s.location).isSome then .error .alreadyExists
    else .ok (p, store.put s.location (.file .empty))

/-- The store in which the file at a path has other bytes. -/
def writeAt (store : Store) (current : Location) (p : Path) (bytes : ByteArray) :
    Except DiskError Store := do
  let location ← store.locate current p
  match store.find? location with
  | some (.file _) => .ok (store.put location (.file bytes))
  | some .directory => .error .isDirectory
  | none => .error .notFound

/-- The store in which the file at a path stands at another one. -/
def renameAt (store : Store) (current : Location) (source target : Path) :
    Except DiskError Store := do
  if target.holdsNul then throw .invalidArgument
  let location ← store.locate current source
  match ← store.slot? current target with
  | none => .error .busy
  | some s =>
    match store.find? location with
    | some (.file bytes) =>
      if s.slash then .error .notDirectory
      else if store.isDirectory s.location then .error .isDirectory
      else .ok ((store.erase location).put s.location (.file bytes))
    | some .directory => .error .isDirectory
    | none => .error .notFound

/-- The store without the file at a path. -/
def removeAt (store : Store) (current : Location) (p : Path) : Store :=
  match store.locate current p with
  | .ok location => if store.isDirectory location then store else store.erase location
  | .error _ => store

end Store

end EnumBindings
