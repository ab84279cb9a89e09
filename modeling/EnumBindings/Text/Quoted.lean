import EnumBindings.Text.ShapeTable

/-!
# Quoted text

A text between double quotes, as a message shows it. Quote marks and backslashes are escaped,
common controls have letters, and a character without a shape of its own is shown by number.
-/

namespace EnumBindings.Text

/-- Digits of a number in base 16, most significant first, without leading zeros. -/
def hexDigits (n : Nat) : List Char := Nat.toDigits 16 n

/-- Whether a character is shown by number. -/
def isShapeless (c : Char) : Bool :=
  if c.toNat < 0x80 then c.toNat < 0x20 || c.toNat == 0x7F
  else shapelessRanges.any fun (first, last) => first ≤ c.toNat && c.toNat ≤ last

/-- A character by its number. -/
def byNumber (c : Char) : List Char := ['\\', 'u', '\x7b'] ++ hexDigits c.toNat ++ ['\x7d']

/-- One character of a quoted text. -/
def escaped (c : Char) : List Char :=
  if c = '\x00' then ['\\', '0']
  else if c = '\t' then ['\\', 't']
  else if c = '\r' then ['\\', 'r']
  else if c = '\n' then ['\\', 'n']
  else if c = '"' || c = '\\' then ['\\', c]
  else if isShapeless c then byNumber c
  else [c]

/-- A text between double quotes. -/
def quote (s : String) : String :=
  "\"" ++ String.ofList (s.toList.flatMap escaped) ++ "\""

end EnumBindings.Text
