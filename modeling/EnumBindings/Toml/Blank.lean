/-!
# What stands between the words of a document

Blanks, line ends and comments. A line ends in a line feed, with or without a carriage return
before it; a carriage return anywhere else is not allowed.
-/

namespace EnumBindings.Toml

/-- Blanks within a line. -/
def isBlank (c : Char) : Bool := c == ' ' || c == '\t'

/-- Characters without a control among them, tabs apart. -/
def isPlain (c : Char) : Bool := c == '\t' || (' ' ≤ c && c ≠ '\x7f')

/-- The characters behind blanks. -/
def skipBlanks (chars : List Char) : List Char := chars.dropWhile isBlank

/-- The characters behind a line end, if there is one. -/
def lineEnd? : List Char → Option (List Char)
  | '\n' :: rest => some rest
  | '\r' :: '\n' :: rest => some rest
  | _ => none

/-- Whether nothing but a comment is left on the line. -/
def isLineDone : List Char → Bool
  | [] => true
  | '#' :: _ => true
  | chars => (lineEnd? chars).isSome

/-- The characters behind blanks, line ends and comments, if the comments are well formed;
`inside` says that a comment has begun. -/
def skipFiller : (inside : Bool) → List Char → Option (List Char)
  | _, [] => some []
  | _, '\n' :: rest => skipFiller false rest
  | _, '\r' :: '\n' :: rest => skipFiller false rest
  | true, c :: rest => if isPlain c then skipFiller true rest else none
  | false, c :: rest =>
    if isBlank c then skipFiller false rest
    else if c = '#' then skipFiller true rest
    else some (c :: rest)

end EnumBindings.Toml
