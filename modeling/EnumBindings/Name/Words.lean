import EnumBindings.Text.Casing

/-!
# Words of a name

A member is written in capitalised words, `FlexStart`. Its two rendered forms are derived from
its words: `FLEX_START` names constants and `flex-start` is what a value is called outside the
program. A run of capitals is one word (`UseRTL` is `Use` and `RTL`), digits and underscores
never open a word.

One pass over the characters finds the words. It remembers where the word it is in begins, in
bytes, and cuts in front of a capital behind a character that is none.
-/

namespace EnumBindings.Name

open EnumBindings.Text

/-! ## Places in a name -/

/-- The number of bytes of some characters. -/
def byteSize : List Char → Nat
  | [] => 0
  | c :: rest => c.utf8Size + byteSize rest

/-- Characters with the number of bytes in front of them, which is `offset` for the first. -/
def withOffsets (offset : Nat) : List Char → List (Nat × Char)
  | [] => []
  | c :: rest => (offset, c) :: withOffsets (offset + c.utf8Size) rest

/-- Characters without the first ones, which take up some bytes. -/
def dropBytes : Nat → List Char → List Char
  | 0, chars => chars
  | _ + 1, [] => []
  | size + 1, c :: rest => dropBytes (size + 1 - c.utf8Size) rest

/-- The first characters, as many as take up some bytes. -/
def takeBytes : Nat → List Char → List Char
  | 0, _ => []
  | _ + 1, [] => []
  | size + 1, c :: rest => c :: takeBytes (size + 1 - c.utf8Size) rest

/-- The characters between two places. -/
def slice (name : List Char) (start stop : Nat) : List Char :=
  takeBytes (stop - start) (dropBytes start name)

/-! ## Words -/

/-- How far a name was cut. -/
structure Cut where
  words : List (List Char)
  /-- Where the word that was not cut off yet begins. -/
  start : Nat
  /-- The last character was a capital. -/
  previous : Bool
deriving Repr, DecidableEq

namespace Cut

/-- Nothing was read. -/
def blank : Cut := ⟨[], 0, false⟩

/-- Reads one character, given with its place and its number. -/
def step (name : List Char) (cut : Cut) : (Nat × Char) × Nat → Cut
  | ((offset, c), i) =>
    if i != 0 && isUppercase c && !cut.previous then
      ⟨cut.words ++ [slice name cut.start offset], offset, isUppercase c⟩
    else { cut with previous := isUppercase c }

/-- The words, when everything was read. Nothing stands behind the last one to cut it off. -/
def finish (name : List Char) (cut : Cut) : List (List Char) :=
  if cut.start < byteSize name then cut.words ++ [slice name cut.start (byteSize name)]
  else cut.words

end Cut

/-- The words of a name, which together give the name back. -/
def words (name : List Char) : List (List Char) :=
  ((withOffsets 0 name).zipIdx.foldl (Cut.step name) .blank).finish name

/-! ## Rendered forms -/

/-- The words of a name, each character in another form, with a delimiter between words. -/
def render (delimiter : Char) (form : Char → List Char) (name : List Char) : List Char :=
  [delimiter].intercalate ((words name).map (·.flatMap form))

/-- The form used for constants, `FLEX_START`. -/
def upperSnake (name : String) : String := String.ofList (render '_' upper name.toList)

/-- The form used outside the program, `flex-start`. -/
def lowerHyphen (name : String) : String := String.ofList (render '-' lower name.toList)

end EnumBindings.Name
