import EnumBindings.Proofs.RoundTrip
import EnumBindings.Proofs.Source.Line
import EnumBindings.Proofs.Source.Numeral
import EnumBindings.Proofs.Source.Tree
import EnumBindings.Proofs.Words

/-!
# How names and values are spelled

The parts that generated lines are pasted together from: identifiers, constant names and
numerals are words, external names need no escapes between quotes, and the literal of a value
that fits its representation scans to the trees of `valueTrees`.
-/

namespace EnumBindings.Source

open EnumBindings.Name (IsIdentifier isIdentifierRest_iff)

/-! ## Words and plain texts -/

theorem IsWord.append {a b : String} (ha : IsWord a) (hb : IsWord b) : IsWord (a ++ b) := by
  refine ⟨?_, fun c hc => ?_⟩
  · rw [String.toList_append]
    exact List.append_ne_nil_of_left_ne_nil ha.nonempty _
  · rw [String.toList_append] at hc
    rcases List.mem_append.mp hc with hc | hc
    · exact ha.letters c hc
    · exact hb.letters c hc

theorem isWord_of_isIdentifier {name : String} (h : IsIdentifier name) : IsWord name := by
  refine ⟨?_, h.isIdentifierRest⟩
  obtain ⟨first, rest, heq, -⟩ := h
  simp [heq]

theorem isWord_upperSnake {name : String} (h : IsIdentifier name) :
    IsWord (Name.upperSnake name) :=
  isWord_of_isIdentifier (Name.isIdentifier_upperSnake h)

theorem isPlain_lowerHyphen {name : String} (h : IsIdentifier name) :
    IsPlain (Name.lowerHyphen name) := by
  intro c hc
  have hclass := Name.mem_lowerHyphen_toList h hc
  refine ⟨?_, ?_, ?_⟩ <;> rintro rfl <;> revert hclass <;> decide

/-- The external names that resolution gives need no escapes. -/
theorem isPlain_externalName {e : EnumType} (wf : e.WellFormed) {m : Member}
    (hm : m ∈ e.members) : IsPlain m.externalName := by
  rw [wf.externalName m hm]
  exact isPlain_lowerHyphen (wf.memberNames m hm)

theorem isPlain_of_isWord {content : String} (h : IsWord content) : IsPlain content := by
  intro c hc
  have hclass := h.letters c hc
  refine ⟨?_, ?_, ?_⟩ <;> rintro rfl <;> revert hclass <;> decide

/-! ## Numerals -/

theorem isWord_toString (n : Nat) : IsWord (toString n) := by
  have hlist : (toString n).toList = Nat.toDigits 10 n := Nat.toList_repr
  refine ⟨?_, fun c hc => ?_⟩
  · rw [hlist]
    exact Nat.toDigits_ne_nil
  · rw [hlist] at hc
    have hdigit := Nat.isDigit_of_mem_toDigits (by decide) (by decide) hc
    simp [Name.isIdentifierRest, Char.isAlphanum, hdigit]

theorem isIdentifierRest_toUpper_digitChar (d : Nat) (h : d < 16) :
    Name.isIdentifierRest (Nat.digitChar d).toUpper = true := by
  interval_cases d <;> rfl

theorem isIdentifierRest_of_mem_hexDigits (n : Nat) :
    ∀ c ∈ (Nat.toDigits 16 n).map Char.toUpper, Name.isIdentifierRest c = true := by
  induction n using Nat.strongRecOn with
  | ind n ih =>
      intro c hc
      by_cases hlt : n < 16
      · rw [Nat.toDigits_of_lt_base hlt, List.map_singleton, List.mem_singleton] at hc
        rw [hc]
        exact isIdentifierRest_toUpper_digitChar n hlt
      -- the last digit stands behind those of `n / 16`
      · have hle : 16 ≤ n := Nat.le_of_not_lt hlt
        rw [Nat.toDigits_of_base_le (by decide) hle, List.map_append, List.mem_append,
          List.map_singleton, List.mem_singleton] at hc
        rcases hc with hc | rfl
        · exact ih (n / 16) (by omega) c hc
        · exact isIdentifierRest_toUpper_digitChar _ (Nat.mod_lt n (by decide))

theorem isWord_hexText (n : Nat) : IsWord ("0x" ++ Representation.hexText n) := by
  refine ⟨by simp, fun c hc => ?_⟩
  rw [String.toList_append, List.mem_append] at hc
  rcases hc with hc | hc
  · have hmarks : c = '0' ∨ c = 'x' := by simpa using hc
    rcases hmarks with rfl | rfl <;> rfl
  · rw [Representation.hexText, String.toList_ofList] at hc
    exact isIdentifierRest_of_mem_hexDigits n c hc

/-- A numeral opens with a digit, as no name does. -/
theorem toString_toList_eq_cons (n : Nat) :
    ∃ c rest, (toString n).toList = c :: rest ∧ c.isDigit = true := by
  have hlist : (toString n).toList = Nat.toDigits 10 n := Nat.toList_repr
  rw [hlist]
  cases hdigits : Nat.toDigits 10 n with
  | nil => exact absurd hdigits Nat.toDigits_ne_nil
  | cons c rest =>
      have hmem : c ∈ Nat.toDigits 10 n := by simp [hdigits]
      exact ⟨c, rest, rfl, Nat.isDigit_of_mem_toDigits (by decide) (by decide) hmem⟩

/-! ## Values -/

/-- The trees of the literal of a value. -/
def valueTrees : Representation → Int → List Tree
  | .i32, .ofNat n => [.word (toString n)]
  | .i32, .negSucc n => [.mark '-', .word (toString (n + 1))]
  | .u32, v => [.word ("0x" ++ Representation.hexText (v % 18446744073709551616).toNat)]

theorem allProper_valueTrees (r : Representation) (v : Int) : AllProper (valueTrees r v) := by
  cases r with
  | i32 =>
      cases v with
      | ofNat n => exact ⟨trivial, trivial⟩
      | negSucc n => exact ⟨⟨rfl, rfl⟩, trivial, trivial⟩
  | u32 => exact ⟨trivial, trivial⟩

theorem isMark_of_mem_valueTrees {r : Representation} {v : Int} {separator : Char}
    (h : separator ≠ '-') : ∀ t ∈ valueTrees r v, t.isMark separator = false := by
  cases r with
  | i32 =>
      cases v with
      | ofNat n => simp [valueTrees, Tree.isMark]
      | negSucc n => simp [valueTrees, Tree.isMark, h.symm]
  | u32 => simp [valueTrees, Tree.isMark]

theorem scans_value (r : Representation) (v : Int) {cs : List Char} {q : Phase}
    {ts : List Token} (hstops : stops cs = true) (tail : Scans .between cs q ts) :
    Scans .between ((r.literal v).toList ++ cs) q (flat (valueTrees r v) ++ ts) := by
  cases r with
  | i32 =>
      cases v with
      | ofNat n => exact Scans.word (isWord_toString n) hstops tail
      | negSucc n =>
          have hliteral : Representation.literal .i32 (.negSucc n) = "-" ++ toString (n + 1) :=
            rfl
          rw [hliteral, String.toList_append, List.append_assoc]
          exact Scans.literal [.mark '-'] rfl
            (Scans.word (isWord_toString (n + 1)) hstops tail)
  | u32 => exact Scans.word (isWord_hexText _) hstops tail

theorem contains_iff (r : Representation) (v : Int) :
    r.contains v = true ↔ r.least ≤ v ∧ v ≤ r.greatest := by
  rw [Representation.contains, Bool.and_eq_true, decide_eq_true_eq, decide_eq_true_eq]

theorem contains_i32_iff (v : Int) :
    Representation.contains .i32 v = true ↔ -2 ^ 31 ≤ v ∧ v < 2 ^ 31 := by
  rw [contains_iff, Representation.least, Representation.greatest]
  omega

theorem contains_u32_iff (v : Int) :
    Representation.contains .u32 v = true ↔ 0 ≤ v ∧ v < 2 ^ 32 := by
  rw [contains_iff, Representation.least, Representation.greatest]
  omega

/-- A value of an unsigned representation is its own 64-bit pattern. -/
theorem emod_of_contains {v : Int} (h : Representation.contains .u32 v = true) :
    ((v % 18446744073709551616).toNat : Int) = v := by
  have hrange := (contains_u32_iff v).mp h
  omega

end EnumBindings.Source
