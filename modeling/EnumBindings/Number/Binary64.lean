/-!
# Binary floating point with 64 bits

Finite numbers `m · 2^e` with a mantissa below `2^53`, as exact data. Every operation is the
exact one followed by rounding to the nearest such number, a tie going to the even mantissa, so
all arithmetic happens on natural numbers.
-/

namespace EnumBindings

/-- A finite number that is not negative, `mantissa · 2^exponent`. -/
structure Binary64 where
  mantissa : Nat
  exponent : Int
deriving Repr, DecidableEq, Inhabited

/-- The whole number nearest to a quotient; a tie goes to the even one. -/
def roundQuotient (num den : Nat) : Nat :=
  let q := num / den
  let r := num % den
  if 2 * r < den then q
  else if den < 2 * r then q + 1
  else if q % 2 = 0 then q else q + 1

namespace Binary64

/-- The exponent of the smallest numbers. -/
def leastExponent : Int := -1074

/-- The exponent of the largest numbers. -/
def greatestExponent : Int := 971

/-- Zero. -/
def zero : Binary64 := ⟨0, leastExponent⟩

/-- `2^e` as a quotient of whole numbers. -/
def powerOfTwo (e : Int) : Nat × Nat :=
  if e < 0 then (1, Nat.pow 2 (-e).toNat) else (Nat.pow 2 e.toNat, 1)

/-- A number as a quotient of whole numbers. -/
def toRatio (x : Binary64) : Nat × Nat :=
  let (p, q) := powerOfTwo x.exponent
  (x.mantissa * p, q)

/-- The exponent at which a positive quotient has a mantissa of 53 bits. -/
def fittingExponent (num den : Nat) : Int :=
  let e : Int := (Nat.log2 num : Int) - Nat.log2 den
  let (p, q) := powerOfTwo e
  if num * q < den * p then e - 53 else e - 52

/-- The number nearest to a quotient, if there is one below the overflow limit. -/
def ofRatio? (num den : Nat) : Option Binary64 :=
  if num = 0 then some zero
  else
    let e := max leastExponent (fittingExponent num den)
    let (p, q) := powerOfTwo e
    let m := roundQuotient (num * q) (den * p)
    let x : Binary64 := if m = Nat.pow 2 53 then ⟨Nat.pow 2 52, e + 1⟩ else ⟨m, e⟩
    if greatestExponent < x.exponent then none else some x

/-- The number nearest to a quotient that is known to be small. -/
def ofRatio (num den : Nat) : Binary64 := (ofRatio? num den).getD zero

/-- The number nearest to `digits · 10^e`, if there is one below the overflow limit. Far away
exponents are decided by the count of digits alone. -/
def ofDecimal? (digits : Nat) (e : Int) : Option Binary64 :=
  let size : Int := (Nat.toDigits 10 digits).length
  if digits = 0 then some zero
  else if size + e < -400 then some zero
  else if 400 < size + e then none
  else if e < 0 then ofRatio? digits (Nat.pow 10 (-e).toNat)
  else ofRatio? (digits * Nat.pow 10 e.toNat) 1

/-- Addition. -/
def add (x y : Binary64) : Binary64 :=
  let (a, b) := x.toRatio
  let (c, d) := y.toRatio
  ofRatio (a * d + c * b) (b * d)

/-- Division by a positive whole number that needs no rounding itself. -/
def divNat (x : Binary64) (n : Nat) : Binary64 :=
  let (a, b) := x.toRatio
  ofRatio a (b * n)

/-- Whether a number is below a whole number. -/
def ltNat (x : Binary64) (n : Nat) : Bool :=
  let (a, b) := x.toRatio
  a < n * b

/-- A whole number with `places` digits behind the point. -/
def pointed (places n : Nat) : String :=
  let digits := Nat.toDigits 10 n
  let padded := List.replicate (places + 1 - digits.length) '0' ++ digits
  let whole := padded.length - places
  String.ofList (padded.take whole ++ '.' :: padded.drop whole)

/-- A number with a fixed count of places; a tie of the exact value goes to the even digit. -/
def fixed (places : Nat) (x : Binary64) : String :=
  let (a, b) := x.toRatio
  pointed places (roundQuotient (a * Nat.pow 10 places) b)

end Binary64

end EnumBindings
