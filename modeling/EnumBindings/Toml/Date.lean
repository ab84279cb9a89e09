import EnumBindings.Text.Lines

/-!
# Dates and times of a document

A date, a time of day, or both with an optional distance from universal time. What is read is
written again in normal form: `T` between date and time, and no more places of a second than it
needs.
-/

namespace EnumBindings.Toml

open EnumBindings.Text

/-- The number of decimal digits, all of which have to be digits. -/
def decimalDigits? (chars : List Char) : Option Nat :=
  if chars.all Char.isDigit then some (chars.foldl (fun n c => 10 * n + (c.toNat - 48)) 0) else none

/-- A number of decimal digits within bounds. -/
def field? (chars : List Char) (least greatest : Nat) : Option Nat := do
  let n ← decimalDigits? chars
  if least ≤ n && n ≤ greatest then some n else none

/-- Whether a year has a leap day. -/
def isLeapYear (year : Nat) : Bool := year % 4 == 0 && (year % 100 != 0 || year % 400 == 0)

/-- Days of a month. -/
def daysOfMonth (year month : Nat) : Nat :=
  if month = 2 then (if isLeapYear year then 29 else 28)
  else if month = 4 || month = 6 || month = 9 || month = 11 then 30
  else 31

/-- A calendar date in front of other characters. -/
def calendarDate? : List Char → Option (List Char × List Char)
  | a :: b :: c :: d :: '-' :: e :: f :: '-' :: g :: h :: rest => do
    let year ← field? [a, b, c, d] 0 9999
    let month ← field? [e, f] 1 12
    let _ ← field? [g, h] 1 (daysOfMonth year month)
    some ([a, b, c, d, '-', e, f, '-', g, h], rest)
  | _ => none

/-- The digits of a part of a second: at most nine, no zeros at the end. -/
def secondPart (digits : List Char) : List Char :=
  match ((digits.take 9).reverse.dropWhile (· == '0')).reverse with
  | [] => []
  | kept => '.' :: kept

/-- A time of day in front of other characters. -/
def dayTime? : List Char → Option (List Char × List Char)
  | a :: b :: ':' :: c :: d :: ':' :: e :: f :: rest => do
    let _ ← field? [a, b] 0 23
    let _ ← field? [c, d] 0 59
    let _ ← field? [e, f] 0 60
    let whole := [a, b, ':', c, d, ':', e, f]
    match rest with
    | '.' :: more =>
      match more.takeWhile Char.isDigit with
      | [] => none
      | digits => some (whole ++ secondPart digits, more.dropWhile Char.isDigit)
    | _ => some (whole, rest)
  | _ => none

/-- A distance from universal time, which may be missing. A distance of nothing has no sign. -/
def distance? : List Char → Option (List Char)
  | [] => some []
  | [c] => if c = 'Z' || c = 'z' then some ['Z'] else none
  | [s, a, b, ':', c, d] => do
    let hours ← field? [a, b] 0 23
    let minutes ← field? [c, d] 0 59
    if s = '+' || s = '-' then
      some ((if hours = 0 && minutes = 0 then '+' else s) :: [a, b, ':', c, d])
    else none
  | _ => none

/-- Whether a character may stand between date and time. -/
def isTimeMark (c : Char) : Bool := c == 'T' || c == 't' || c == ' '

/-- A date, a time or both, in normal form. -/
def date? (chars : List Char) : Option String :=
  match calendarDate? chars with
  | some (date, []) => some (String.ofList date)
  | some (date, mark :: rest) =>
    if isTimeMark mark then do
      let (time, rest) ← dayTime? rest
      let distance ← distance? rest
      some (String.ofList (date ++ 'T' :: time ++ distance))
    else none
  | none =>
    match dayTime? chars with
    | some (time, []) => some (String.ofList time)
    | _ => none

end EnumBindings.Toml
