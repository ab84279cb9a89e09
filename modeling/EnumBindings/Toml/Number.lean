import EnumBindings.Toml.Text
import EnumBindings.Toml.Value

/-!
# Numbers of a document

A number is read from all the characters of one word. Underscores may stand between digits.
Integers are signed with 64 bits; the base may be 16, 8 or 2.
-/

namespace EnumBindings.Toml

/-- Digits without the underscores between them; there is at least one digit. -/
def digits? (isDigit : Char → Bool) : List Char → Option (List Char)
  | [] => none
  | [c] => if isDigit c then some [c] else none
  | c :: '_' :: rest => if isDigit c then (digits? isDigit rest).map (c :: ·) else none
  | c :: rest => if isDigit c then (digits? isDigit rest).map (c :: ·) else none

/-- Digits of base 16 in either case. -/
def isHexDigit (c : Char) : Bool := c.isDigit || ('a' ≤ c && c ≤ 'f') || ('A' ≤ c && c ≤ 'F')

/-- Digits of base 8. -/
def isOctalDigit (c : Char) : Bool := '0' ≤ c && c ≤ '7'

/-- Digits of base 2. -/
def isBinaryDigit (c : Char) : Bool := c == '0' || c == '1'

/-- The number of a digit. -/
def digitValue (c : Char) : Nat :=
  if c.isDigit then c.toNat - 48 else if 'a' ≤ c then c.toNat - 87 else c.toNat - 55

/-- The number of some digits. -/
def digitsValue (base : Nat) (digits : List Char) : Nat :=
  digits.foldl (fun n c => base * n + digitValue c) 0

/-- An integer that fits 64 bits. -/
def bounded? (n : Int) : Option Value :=
  if -9223372036854775808 ≤ n && n ≤ 9223372036854775807 then some (.integer n) else none

/-- A sign and what it stands before. -/
def splitSign : List Char → Bool × List Char
  | '-' :: rest => (true, rest)
  | '+' :: rest => (false, rest)
  | chars => (false, chars)

/-- Decimal digits of a whole number, which has no zero in front. -/
def wholeDigits? (chars : List Char) : Option (List Char) :=
  match chars with
  | '0' :: _ :: _ => none
  | _ => digits? Char.isDigit chars

/-- A decimal integer. -/
def decimal? (chars : List Char) : Option Value := do
  let (negative, rest) := splitSign chars
  let n := digitsValue 10 (← wholeDigits? rest)
  bounded? (if negative then -(n : Int) else n)

/-- An integer with its base in front. -/
def based? : List Char → Option Value
  | '0' :: 'x' :: rest => (digits? isHexDigit rest).bind fun ds => bounded? (digitsValue 16 ds)
  | '0' :: 'o' :: rest => (digits? isOctalDigit rest).bind fun ds => bounded? (digitsValue 8 ds)
  | '0' :: 'b' :: rest => (digits? isBinaryDigit rest).bind fun ds => bounded? (digitsValue 2 ds)
  | _ => none

/-- An exponent of ten behind its letter. -/
def exponent? : List Char → Option Int
  | [] => none
  | c :: rest =>
    if c = 'e' || c = 'E' then do
      let (negative, rest) := splitSign rest
      let n := digitsValue 10 (← digits? Char.isDigit rest)
      some (if negative then -(n : Int) else n)
    else none

/-- The digits behind the point and the exponent; one of them may be missing. -/
def fraction? : List Char → Option (List Char × Int)
  | '.' :: rest => do
    let inside (c : Char) : Bool := c.isDigit || c == '_'
    let places ← digits? Char.isDigit (rest.takeWhile inside)
    match rest.dropWhile inside with
    | [] => some (places, 0)
    | other => (exponent? other).map (places, ·)
  | chars => (exponent? chars).map ([], ·)

/-- A decimal number with a point or an exponent. It is refused if it is too large, while one
that is too small to have a finite value is taken as minus infinity. -/
def pointed? (chars : List Char) : Option Value := do
  let (negative, rest) := splitSign chars
  let inside (c : Char) : Bool := c.isDigit || c == '_'
  let whole ← wholeDigits? (rest.takeWhile inside)
  let (places, exponent) ← fraction? (rest.dropWhile inside)
  match Binary64.ofDecimal? (digitsValue 10 (whole ++ places)) (exponent - places.length) with
  | some magnitude => some (.real (.finite negative magnitude))
  | none => if negative then some (.real (.infinite true)) else none

/-- The numbers that are words. -/
def named? (chars : List Char) : Option Value :=
  let (negative, rest) := splitSign chars
  if rest = ['i', 'n', 'f'] then some (.real (.infinite negative))
  else if rest = ['n', 'a', 'n'] then some (.real .undefined)
  else none

/-- A number. -/
def number? (chars : List Char) : Option Value :=
  based? chars <|> decimal? chars <|> pointed? chars <|> named? chars

end EnumBindings.Toml
