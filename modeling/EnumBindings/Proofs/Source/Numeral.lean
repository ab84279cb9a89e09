import EnumBindings.Representation
import Mathlib.Tactic.IntervalCases

/-!
# Numerals in source text

A numeral is read in base 10, or in base 16 behind `0x`. A leading zero is refused in base 10,
where some languages switch to base 8. What the printers of numbers write reads back as the
number (`numeral?_toString`, `numeral?_hexText`).
-/

namespace EnumBindings.Source

/-- The value of a digit in bases up to 16. -/
def digitValue? (c : Char) : Option Nat :=
  if '0' ≤ c ∧ c ≤ '9' then some (c.toNat - '0'.toNat)
  else if 'A' ≤ c ∧ c ≤ 'F' then some (c.toNat - 'A'.toNat + 10)
  else if 'a' ≤ c ∧ c ≤ 'f' then some (c.toNat - 'a'.toNat + 10)
  else none

/-- The number of some digits behind a number that was read before. -/
def digits? (base : Nat) : Nat → List Char → Option Nat
  | read, [] => some read
  | read, c :: rest =>
    match digitValue? c with
    | some digit => if digit < base then digits? base (read * base + digit) rest else none
    | none => none

/-- The number that a word spells. -/
def numeral? (letters : String) : Option Nat :=
  match letters.toList with
  | [] => none
  | '0' :: 'x' :: digit :: rest => digits? 16 0 (digit :: rest)
  | ['0'] => some 0
  | '0' :: _ => none
  | digit :: rest => digits? 10 0 (digit :: rest)

/-- Printed digits, each in a spelling that keeps its value, read back as the number. -/
theorem digits?_toDigits {base : Nat} (hbase : 1 < base) (spell : Char → Char)
    (hspell : ∀ d < base, digitValue? (spell (Nat.digitChar d)) = some d)
    (n : Nat) (rest : List Char) :
    digits? base 0 ((Nat.toDigits base n).map spell ++ rest) = digits? base n rest := by
  induction n using Nat.strongRecOn generalizing rest with
  | ind n ih =>
      by_cases hlt : n < base
      · rw [Nat.toDigits_of_lt_base hlt, List.map_singleton, List.singleton_append, digits?,
          hspell n hlt]
        simp [hlt]
      · have hle : base ≤ n := Nat.le_of_not_lt hlt
        have hmod : n % base < base := Nat.mod_lt n (by omega)
        have hdiv : n / base < n := Nat.div_lt_self (by omega) hbase
        -- all digits but the last are those of `n / base`
        rw [Nat.toDigits_of_base_le hbase hle, List.map_append, List.append_assoc,
          ih (n / base) hdiv, List.map_singleton, List.singleton_append, digits?,
          hspell _ hmod]
        simp [hmod, Nat.div_add_mod']

theorem digitValue?_digitChar (d : Nat) (h : d < 10) :
    digitValue? (Nat.digitChar d) = some d := by
  interval_cases d <;> rfl

theorem digitValue?_toUpper_digitChar (d : Nat) (h : d < 16) :
    digitValue? (Nat.digitChar d).toUpper = some d := by
  interval_cases d <;> rfl

/-- Printed digits of a positive number start with a digit other than zero. -/
theorem toDigits_eq_cons {n : Nat} (hn : 0 < n) :
    ∃ c rest, Nat.toDigits 10 n = c :: rest ∧ c ≠ '0' := by
  induction n using Nat.strongRecOn with
  | ind n ih =>
      by_cases hlt : n < 10
      · refine ⟨Nat.digitChar n, [], Nat.toDigits_of_lt_base hlt, ?_⟩
        interval_cases n <;> decide
      · obtain ⟨c, rest, heq, hc⟩ := ih (n / 10) (by omega) (by omega)
        rw [Nat.toDigits_of_base_le (by omega) (by omega), heq]
        exact ⟨c, rest ++ [Nat.digitChar (n % 10)], rfl, hc⟩

theorem numeral?_toString (n : Nat) : numeral? (toString n) = some n := by
  have hlist : (toString n).toList = Nat.toDigits 10 n := Nat.toList_repr
  have hread := digits?_toDigits (by omega) id digitValue?_digitChar n []
  rw [List.map_id, List.append_nil] at hread
  rw [numeral?, hlist]
  rcases Nat.eq_zero_or_pos n with rfl | hpos
  · rfl
  -- a leading zero would make the text a prefix of another base
  · obtain ⟨c, rest, heq, hc⟩ := toDigits_eq_cons hpos
    rw [heq] at hread ⊢
    split
    · contradiction
    · rename_i h
      cases h
      exact absurd rfl hc
    · rename_i h
      cases h
      exact absurd rfl hc
    · rename_i h
      cases h
      exact absurd rfl hc
    · rename_i h
      cases h
      exact hread

theorem numeral?_hexText (n : Nat) :
    numeral? ("0x" ++ Representation.hexText n) = some n := by
  have hread := digits?_toDigits (by omega) Char.toUpper digitValue?_toUpper_digitChar n []
  rw [List.append_nil] at hread
  rw [numeral?, String.toList_append, Representation.hexText, String.toList_ofList]
  cases hdigits : (Nat.toDigits 16 n).map Char.toUpper with
  | nil => exact absurd (List.map_eq_nil_iff.mp hdigits) Nat.toDigits_ne_nil
  | cons c rest =>
      rw [hdigits] at hread
      rw [String.toList_ofList]
      exact hread

end EnumBindings.Source
