import EnumBindings.Number.Binary64

/-!
# The shortest digits that read back

A number is shown by the fewest decimal digits from which reading gives the same number again,
and of those by the ones nearest to it.
-/

namespace EnumBindings

/-- Which of two decimals is taken when both are as near. -/
inductive Tie where
  | up
  /-- The one with an even last digit. -/
  | even
deriving Repr, DecidableEq, Inhabited

/-- Whether of a decimal and the next one the next one is taken. -/
def Tie.favorsNext (tie : Tie) (n : Nat) : Bool :=
  match tie with
  | up => true
  | even => n % 2 == 1

namespace Binary64

/-- The reals that are rounded to a number, as multiples of `unit`: from `low` to `high`, the
ends included if `closed`. The number itself is `middle`. -/
structure Basin where
  low : Nat
  middle : Nat
  high : Nat
  closed : Bool
  /-- The unit as a quotient of whole numbers. -/
  unit : Nat × Nat

/-- The basin of a number. Below a power of two the neighbour is half as far away. -/
def basin (x : Binary64) : Basin :=
  let narrow := x.mantissa == Nat.pow 2 52 && leastExponent < x.exponent
  { low := 4 * x.mantissa - (if narrow then 1 else 2)
    middle := 4 * x.mantissa
    high := 4 * x.mantissa + 2
    closed := x.mantissa % 2 == 0
    unit := powerOfTwo (x.exponent - 2) }

/-- Whether `n · 10^k` lies in a basin. -/
def Basin.holds (b : Basin) (n : Nat) (k : Int) : Bool :=
  let (p, q) := b.unit
  let (n', ten) := if k < 0 then (n, Nat.pow 10 (-k).toNat) else (n * Nat.pow 10 k.toNat, 1)
  let value := n' * q
  let scale := p * ten
  if b.closed then b.low * scale ≤ value && value ≤ b.high * scale
  else b.low * scale < value && value < b.high * scale

/-- The numbers of digits before the point of `num / den`; not positive for small quotients. -/
def decimalSize (num den : Nat) : Int :=
  if den ≤ num then (Nat.toDigits 10 (num / den)).length
  else 1 - (Nat.toDigits 10 ((den - 1) / num)).length

/-- The decimal with a count of digits that lies nearest to a number in its basin, as digits and
an exponent of ten. One that has grown by a digit loses its last zero. -/
def nearest? (tie : Tie) (x : Binary64) (count : Nat) : Option (Nat × Int) :=
  let b := x.basin
  let (num, den) := x.toRatio
  let k := decimalSize num den - count
  let (num', den') :=
    if k < 0 then (num * Nat.pow 10 (-k).toNat, den) else (num, den * Nat.pow 10 k.toNat)
  let below := num' / den'
  let twice := 2 * (num' % den')
  let upFirst := den' < twice || (den' = twice && tie.favorsNext below)
  let order := if upFirst then [below + 1, below] else [below, below + 1]
  (order.find? (b.holds · k)).map fun n => if n = Nat.pow 10 count then (n / 10, k + 1) else (n, k)

/-- The fewest digits with an exponent of ten. -/
def shortest (tie : Tie) (x : Binary64) : Nat × Int :=
  if x.mantissa = 0 then (0, 0)
  else ((List.range 17).findSome? fun i => x.nearest? tie (i + 1)).getD (0, 0)

/-- `digits · 10^k` in positional notation with at least one digit behind the point. -/
def positional (digits : Nat) (k : Int) : String :=
  if 0 ≤ k then toString (digits * Nat.pow 10 k.toNat) ++ ".0" else pointed (-k).toNat digits

end Binary64

end EnumBindings
