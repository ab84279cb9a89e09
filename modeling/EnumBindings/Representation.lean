/-!
# Integer representations

An enum type is a signed or an unsigned 32-bit integer in every target language. Values are kept
as mathematical integers; a representation says which of them fit, and how one is written.
-/

namespace EnumBindings

/-- The integer type behind an enum type. -/
inductive Representation where
  /-- Sequential enum types. -/
  | i32
  /-- Bit-flag sets. -/
  | u32
deriving Repr, DecidableEq, Inhabited

namespace Representation

/-- The name of a representation. -/
def name : Representation → String
  | i32 => "i32"
  | u32 => "u32"

/-- The least value that fits. -/
def least : Representation → Int
  | i32 => -2147483648
  | u32 => 0

/-- The greatest value that fits. -/
def greatest : Representation → Int
  | i32 => 2147483647
  | u32 => 4294967295

/-- Whether a value fits. -/
def contains (r : Representation) (value : Int) : Bool :=
  r.least ≤ value && value ≤ r.greatest

/-- Digits of a number in base 16 with capital letters. -/
def hexText (n : Nat) : String :=
  String.ofList ((Nat.toDigits 16 n).map Char.toUpper)

/-- The literal of a value. Flags are written in base 16, a negative one as its 64-bit pattern. -/
def literal : Representation → Int → String
  | i32, value => toString value
  | u32, value => "0x" ++ hexText (value % 18446744073709551616).toNat

end Representation

end EnumBindings
