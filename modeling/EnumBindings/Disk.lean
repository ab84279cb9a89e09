import EnumBindings.Disk.Error

/-!
# Disks

What the program asks of the disk it works on. Every request may fail, and a request that fails
changes nothing, except that a write may leave a part of its bytes behind. Files are replaced by
writing a temporary file and renaming it.
-/

namespace EnumBindings

/-- What stands at a path. -/
inductive EntryKind where
  | directory
  | file
deriving Repr, DecidableEq, Inhabited

/-- A disk with a current directory. -/
class Disk (m : Type → Type) where
  currentDirectory : m (Except DiskError Path)
  /-- What stands at a path, if it can be reached. -/
  kind? : Path → m (Option EntryKind)
  read : Path → m (Except DiskError ByteArray)
  /-- Makes a directory in one that exists. -/
  makeDirectory : Path → m (Except DiskError Unit)
  /-- Makes an empty file with a new name in a directory and gives its path. -/
  createTemporary : Path → m (Except DiskError Path)
  /-- Gives a file its bytes. -/
  write : Path → ByteArray → m (Except DiskError Unit)
  /-- Makes sure that the bytes of a file have reached the disk. -/
  flush : Path → m (Except DiskError Unit)
  /-- Gives a file another path; a file that was there is no more. -/
  rename : (source target : Path) → m (Except DiskError Unit)
  /-- Removes a file. -/
  remove : Path → m Unit

end EnumBindings
