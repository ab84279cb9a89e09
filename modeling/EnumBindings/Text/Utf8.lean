import EnumBindings.Text.Quoted

/-!
# Text as bytes

Paths and the words of a command line are bytes. They are kept as strings in which each byte is
the character of its number, so bytes that are ASCII read as they stand. A text becomes bytes by
UTF-8, but not all bytes come from a text: where they are shown, a part that belongs to no
character is replaced by `U+FFFD`, and where a text is needed there is none.
-/

namespace EnumBindings

/-- Bytes, each as the character of its number. Characters above 255 stand for no byte. -/
abbrev ByteString := String

namespace Utf8

/-- The bytes of a character. -/
def encodeChar (c : Char) : List Char :=
  let n := c.toNat
  if n < 0x80 then [c]
  else if n < 0x800 then [Char.ofNat (0xC0 + n / 64), Char.ofNat (0x80 + n % 64)]
  else if n < 0x10000 then
    [Char.ofNat (0xE0 + n / 4096), Char.ofNat (0x80 + n / 64 % 64), Char.ofNat (0x80 + n % 64)]
  else
    [Char.ofNat (0xF0 + n / 262144), Char.ofNat (0x80 + n / 4096 % 64),
     Char.ofNat (0x80 + n / 64 % 64), Char.ofNat (0x80 + n % 64)]

/-- The bytes of a text. -/
def encode (text : String) : ByteString := String.ofList (text.toList.flatMap encodeChar)

/-! ## Reading bytes -/

/-- A part of some bytes. -/
inductive Piece where
  | char (c : Char)
  /-- Bytes that belong to no character. -/
  | stray (bytes : List Char)
deriving Repr, DecidableEq

/-- A character of which some bytes were read. -/
structure Opened where
  /-- The bytes so far. -/
  bytes : List Char
  /-- The number that they spell. -/
  number : Nat
  /-- How many bytes stand behind the next one. -/
  more : Nat
  /-- The next byte lies between these. -/
  least : Nat
  greatest : Nat
deriving Repr, DecidableEq

/-- The character that a byte opens. The byte behind it is bounded more closely where the number
would have a shorter spelling, is no character, or is too great for one. -/
def open? (b : Char) : Option Opened :=
  let n := b.toNat
  if n < 0xC2 then none
  else if n < 0xE0 then some ⟨[b], n - 0xC0, 0, 0x80, 0xBF⟩
  else if n = 0xE0 then some ⟨[b], 0, 1, 0xA0, 0xBF⟩
  else if n = 0xED then some ⟨[b], 0xD, 1, 0x80, 0x9F⟩
  else if n < 0xF0 then some ⟨[b], n - 0xE0, 1, 0x80, 0xBF⟩
  else if n = 0xF0 then some ⟨[b], 0, 2, 0x90, 0xBF⟩
  else if n < 0xF4 then some ⟨[b], n - 0xF0, 2, 0x80, 0xBF⟩
  else if n = 0xF4 then some ⟨[b], 4, 2, 0x80, 0x8F⟩
  else none

/-- Reads a byte where no character is open. -/
def begin (b : Char) : List Piece × Option Opened :=
  if b.toNat < 0x80 then ([.char b], none)
  else
    match open? b with
    | some opened => ([], some opened)
    | none => ([.stray [b]], none)

/-- Reads a byte. A character that it does not continue is astray as far as it was read. -/
def advance : Option Opened → Char → List Piece × Option Opened
  | none, b => begin b
  | some opened, b =>
    if opened.least ≤ b.toNat && b.toNat ≤ opened.greatest then
      let number := opened.number * 64 + (b.toNat - 0x80)
      match opened.more with
      | 0 => ([.char (Char.ofNat number)], none)
      | more + 1 => ([], some ⟨opened.bytes ++ [b], number, more, 0x80, 0xBF⟩)
    else (.stray opened.bytes :: (begin b).1, (begin b).2)

/-- The pieces of bytes behind a character that may be open. -/
def decodeFrom : Option Opened → List Char → List Piece
  | none, [] => []
  | some opened, [] => [.stray opened.bytes]
  | opened, b :: rest => (advance opened b).1 ++ decodeFrom (advance opened b).2 rest

/-- The pieces of bytes. -/
def decode (bytes : ByteString) : List Piece := decodeFrom none bytes.toList

/-! ## Showing bytes -/

/-- A piece as it is shown. -/
def Piece.shown : Piece → Char
  | char c => c
  | stray _ => Char.ofNat 0xFFFD

/-- Pieces as they are shown. -/
def shownPieces (pieces : List Piece) : String := String.ofList (pieces.map Piece.shown)

/-- Bytes as they are shown. -/
def shown (bytes : ByteString) : String := shownPieces (decode bytes)

/-- The text that bytes spell, if they spell one. -/
def text? (bytes : ByteString) : Option String :=
  if encode (shown bytes) = bytes then some (shown bytes) else none

/-- A byte that belongs to no character, by its number. -/
def strayByte (b : Char) : List Char :=
  ['\\', 'x', (Nat.digitChar (b.toNat / 16)).toUpper, (Nat.digitChar (b.toNat % 16)).toUpper]

/-- A piece of quoted bytes. -/
def Piece.quoted : Piece → List Char
  | char c => Text.escaped c
  | stray bytes => bytes.flatMap strayByte

/-- Bytes between double quotes. -/
def quote (bytes : ByteString) : String :=
  "\"" ++ String.ofList ((decode bytes).flatMap Piece.quoted) ++ "\""

end Utf8

end EnumBindings
