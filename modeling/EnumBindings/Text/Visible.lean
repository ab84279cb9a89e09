/-!
# Visible text

What is left of a text when everything that steers a terminal is taken out: control sequences,
device strings, commands, and all control characters but white space. The text goes through the
phases of a terminal that reads it. White space inside an unfinished escape or control sequence is
visible, and so is what follows it up to the next control character, which the terminal then
takes for a part of the sequence again.
-/

namespace EnumBindings.Text

/-- What a terminal is reading. -/
inductive Phase where
  | text
  /-- Behind an escape character. -/
  | escape
  /-- An escape of several characters. -/
  | escapeTail
  /-- A control sequence. -/
  | control
  /-- The start of a device string. -/
  | deviceHead
  /-- The parameters of a device string. -/
  | deviceParameters
  /-- What stands between the parameters of a device string and its body. -/
  | deviceTail
  /-- The body of a string, which a terminator ends. -/
  | body
  /-- A command of the operating system, which a bell ends. -/
  | command
deriving Repr, DecidableEq, Inhabited

/-- Whether a character lies between two code points. -/
def within (first last : Nat) (c : Char) : Bool := first ≤ c.toNat && c.toNat ≤ last

/-- The byte of the terminator of a string. -/
def terminator : UInt8 := 0x9C

/-- The phase behind a character that is not visible, or that is visible where it is read. Escape,
cancel and substitute end every phase; the terminator of a string is looked for in the bytes of
its characters. -/
def Phase.next (phase : Phase) (c : Char) : Phase :=
  if c = '\x1b' then escape
  else if c = '\x18' || c = '\x1a' then text
  else
    match phase with
    | text => text
    | escape =>
      if c = '[' then control
      else if c = ']' then command
      else if c = 'P' then deviceHead
      else if c = 'X' || c = '^' || c = '_' then body
      else if within 0x20 0x2F c then escapeTail
      else if within 0x30 0x7E c then text
      else escape
    | escapeTail => if within 0x30 0x7E c then text else escapeTail
    | control => if within 0x40 0x7E c then text else control
    | deviceHead =>
      if within 0x20 0x2F c then deviceTail
      else if within 0x30 0x3F c then deviceParameters
      else if within 0x40 0x7E c then body
      else deviceHead
    | deviceParameters =>
      if within 0x20 0x2F c then deviceTail
      else if within 0x3C 0x7E c then body
      else deviceParameters
    | deviceTail => if within 0x30 0x7E c then body else deviceTail
    | body => if (String.utf8EncodeChar c).contains terminator then text else body
    | command => if c = '\x07' then text else command

/-- The control characters that are visible as white space. -/
def isLayout (c : Char) : Bool := ['\t', '\n', '\x0c', '\r'].contains c

/-- Whether a character is visible in plain text. -/
def isVisible (c : Char) : Bool := isLayout c || within 0x20 0x7E c || 0x80 ≤ c.toNat

/-- Whether white space is visible in the middle of a phase. -/
def Phase.keepsLayout : Phase → Bool
  | escape | escapeTail | control => true
  | _ => false

/-- How far a text was read. -/
structure Cursor where
  phase : Phase
  /-- The last character was visible. -/
  shown : Bool
deriving Repr, DecidableEq, Inhabited

namespace Cursor

/-- The start of a text. -/
def start : Cursor := ⟨.text, true⟩

/-- Whether what comes next is read as plain text. -/
def inText (s : Cursor) : Bool := s.shown || s.phase == .text

/-- Whether a character that comes next is visible. -/
def shows (s : Cursor) (c : Char) : Bool :=
  if s.inText then isVisible c else s.phase.keepsLayout && isLayout c

/-- The cursor behind a character. A character outside ASCII that is visible ends every phase. -/
def after (s : Cursor) (c : Char) : Cursor :=
  if s.inText && isVisible c then ⟨if c.toNat < 0x80 then s.phase else .text, true⟩
  else ⟨s.phase.next c, s.shows c⟩

end Cursor

/-- The visible ones of characters. -/
def visibleFrom (s : Cursor) : List Char → List Char
  | [] => []
  | c :: rest => (if s.shows c then [c] else []) ++ visibleFrom (s.after c) rest

/-- The visible part of a text. -/
def visible (s : String) : String := String.ofList (visibleFrom .start s.toList)

end EnumBindings.Text
