import EnumBindings.Text.Utf8

/-!
# File paths

A path is bytes in which `/` divides segments. Empty segments and `.` say nothing, a leading `/`
makes a path absolute, and only a leading `.` of a relative path counts as a component of its
own. Most paths are text; one that is not is shown with replacements, and has no text. Nothing here
looks at a disk.
-/

namespace EnumBindings

/-- A path as it was spelled. -/
structure Path where
  bytes : ByteString
deriving Repr, DecidableEq, Inhabited

namespace Path

/-- The path that a text spells. -/
def ofText (text : String) : Path := ⟨Utf8.encode text⟩

/-- A path as it is shown. -/
def shown (p : Path) : String := Utf8.shown p.bytes

/-- The text of a path, if it has one. -/
def text? (p : Path) : Option String := Utf8.text? p.bytes

/-- Whether a path holds the byte that no name may hold. -/
def holdsNul (p : Path) : Bool := p.bytes.toList.contains '\x00'

/-- One step of a path. -/
inductive Component where
  /-- The leading `/` of an absolute path. -/
  | root
  /-- The leading `.` of a relative path. -/
  | here
  | up
  | name (bytes : ByteString)
deriving Repr, DecidableEq, Inhabited

/-- A component as it is spelled. -/
def Component.bytes : Component → ByteString
  | root => "/"
  | here => "."
  | up => ".."
  | name bytes => bytes

/-! ## Taking apart -/

/-- What a path starts with. -/
inductive Lead where
  | root
  | here
  | none
deriving Repr, DecidableEq

/-- The characters of a lead. -/
def Lead.chars : Lead → List Char
  | root => ['/']
  | here => ['.']
  | none => []

/-- The components of a lead. -/
def Lead.components : Lead → List Component
  | root => [.root]
  | here => [.here]
  | none => []

/-- A path as its lead and the characters behind it. -/
def splitLead : List Char → Lead × List Char
  | '/' :: rest => (.root, rest)
  | ['.'] => (.here, [])
  | '.' :: '/' :: rest => (.here, '/' :: rest)
  | chars => (.none, chars)

/-- Whether a segment says nothing. -/
def isSilent (segment : List Char) : Bool := segment == [] || segment == ['.']

/-- The component of a segment that says something. -/
def componentOf (segment : List Char) : Component :=
  if segment = ['.', '.'] then .up else .name (String.ofList segment)

/-- Whether a path is absolute. -/
def isAbsolute (p : Path) : Bool := p.bytes.toList.head? == some '/'

/-- Whether nothing was written. -/
def isEmpty (p : Path) : Bool := p.bytes.isEmpty

/-- The components of a path in order. -/
def components (p : Path) : List Component :=
  let (lead, rest) := splitLead p.bytes.toList
  lead.components ++ ((rest.splitOn '/').filter (!isSilent ·)).map componentOf

/-- Segments without the silent ones at the end. -/
def dropSilent (segments : List (List Char)) : List (List Char) :=
  (segments.reverse.dropWhile isSilent).reverse

/-- The directory that holds a path: what stands before its last component. A root and an empty path
have none. -/
def parent? (p : Path) : Option Path :=
  let (lead, rest) := splitLead p.bytes.toList
  match dropSilent (rest.splitOn '/') with
  | [] => if lead = .here then some ⟨""⟩ else none
  | segments =>
    let before := dropSilent segments.dropLast
    some ⟨String.ofList (lead.chars ++ ['/'].intercalate before)⟩

/-- A path with the directories above it, at most `fuel` of them. -/
def ancestorsFrom : Nat → Path → List Path
  | 0, p => [p]
  | fuel + 1, p =>
    match p.parent? with
    | some q => p :: ancestorsFrom fuel q
    | none => [p]

/-- A path, the directory that holds it, and so on up. A parent is shorter than its path, so the
number of its bytes bounds theirs. -/
def ancestors (p : Path) : List Path := ancestorsFrom p.bytes.length p

/-- The directory that holds a path, `.` for a bare name. -/
def directory (p : Path) : Path :=
  match p.parent? with
  | some q => if q.isEmpty then ⟨"."⟩ else q
  | none => ⟨"."⟩

/-! ## Putting together -/

/-- A path below another one. An absolute path stands for itself. -/
def join (base p : Path) : Path :=
  if p.isAbsolute then p
  else if base.isEmpty || base.bytes.toList.getLast? == some '/' then ⟨base.bytes ++ p.bytes⟩
  else ⟨base.bytes ++ "/" ++ p.bytes⟩

/-- The path of some components. -/
def ofComponents (components : List Component) : Path :=
  components.foldl (fun p c => p.join ⟨c.bytes⟩) ⟨""⟩

end Path

end EnumBindings
