import EnumBindings.Path

/-!
# What can go wrong on a disk
-/

namespace EnumBindings

/-- Why an operation on a disk failed. -/
inductive DiskError where
  | notFound
  | alreadyExists
  | notDirectory
  | isDirectory
  /-- The name is in use by the system. -/
  | busy
  | nameTooLong
  /-- A path holds a character that no name may hold. -/
  | invalidName
  /-- The same, where a file should get its name. -/
  | invalidArgument
  /-- A file that should be text is none. -/
  | notText
  /-- Another error with the path it is about. -/
  | located (error : DiskError) (path : Path)
  /-- Any other error, in the words of the system. -/
  | other (text : String)
deriving Repr, DecidableEq, Inhabited

/-- One line about the error. -/
def DiskError.message : DiskError → String
  | notFound => "No such file or directory (os error 2)"
  | alreadyExists => "File exists (os error 17)"
  | notDirectory => "Not a directory (os error 20)"
  | isDirectory => "Is a directory (os error 21)"
  | busy => "Device or resource busy (os error 16)"
  | nameTooLong => "File name too long (os error 36)"
  | invalidName => "file name contained an unexpected NUL byte"
  | invalidArgument => "Invalid argument (os error 22)"
  | notText => "stream did not contain valid UTF-8"
  | located error path => error.message ++ " at path " ++ Utf8.quote path.bytes
  | other text => text

end EnumBindings
