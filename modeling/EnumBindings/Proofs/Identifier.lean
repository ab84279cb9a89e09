import EnumBindings.Name.Identifier
import Mathlib.Data.List.Basic

/-!
# Identifiers, as a set of texts

`Name.IsIdentifier` says which texts are names: an ASCII letter, then ASCII letters, digits and
underscores. The classes are given by their ranges of code points, and `isIdentifier_iff` ties
the check that resolution runs to them.
-/

namespace EnumBindings.Name

/-- `a` to `z` and `A` to `Z`. -/
def IsLetter (c : Char) : Prop := ('a' ≤ c ∧ c ≤ 'z') ∨ ('A' ≤ c ∧ c ≤ 'Z')

/-- `0` to `9`. -/
def IsDigit (c : Char) : Prop := '0' ≤ c ∧ c ≤ '9'

theorem IsLetter.not_isDigit {c : Char} (h : IsLetter c) : ¬IsDigit c := by
  rintro ⟨-, hhigh⟩
  rcases h with ⟨hlow, -⟩ | ⟨hlow, -⟩
  · exact absurd (Char.le_trans hlow hhigh) (by decide)
  · exact absurd (Char.le_trans hlow hhigh) (by decide)

/-- An ASCII letter followed by ASCII letters, digits and underscores. -/
def IsIdentifier (name : String) : Prop :=
  ∃ first rest, name.toList = first :: rest ∧ IsLetter first ∧
    ∀ c ∈ rest, IsLetter c ∨ IsDigit c ∨ c = '_'

theorem isUpper_iff (c : Char) : c.isUpper = true ↔ 'A' ≤ c ∧ c ≤ 'Z' :=
  decide_eq_true_iff

theorem isLower_iff (c : Char) : c.isLower = true ↔ 'a' ≤ c ∧ c ≤ 'z' := by
  have hboth : c.isLower = (decide ('a' ≤ c) && decide (c ≤ 'z')) := rfl
  rw [hboth, Bool.and_eq_true, decide_eq_true_eq, decide_eq_true_eq]

theorem isAlpha_iff (c : Char) : c.isAlpha = true ↔ IsLetter c := by
  have heither : c.isAlpha = (c.isUpper || c.isLower) := rfl
  rw [heither, Bool.or_eq_true, isUpper_iff, isLower_iff, IsLetter, or_comm]

theorem isDigit_iff (c : Char) : c.isDigit = true ↔ IsDigit c := by
  simp only [Char.isDigit, IsDigit, Bool.and_eq_true, decide_eq_true_eq, Char.le_def]

theorem IsLetter.isDigit_eq_false {c : Char} (h : IsLetter c) : c.isDigit = false := by
  rw [← Bool.not_eq_true, isDigit_iff]
  exact h.not_isDigit

theorem isIdentifierRest_iff (c : Char) :
    isIdentifierRest c = true ↔ IsLetter c ∨ IsDigit c ∨ c = '_' := by
  rw [isIdentifierRest, Char.isAlphanum, Bool.or_eq_true, Bool.or_eq_true, isAlpha_iff,
    isDigit_iff, beq_iff_eq, or_assoc]

theorem IsIdentifier.append {a b : String} (ha : IsIdentifier a)
    (hb : ∀ c ∈ b.toList, IsLetter c ∨ IsDigit c ∨ c = '_') : IsIdentifier (a ++ b) := by
  obtain ⟨first, rest, heq, hfirst, hrest⟩ := ha
  refine ⟨first, rest ++ b.toList, by rw [String.toList_append, heq]; rfl, hfirst, ?_⟩
  intro c hc
  rcases List.mem_append.mp hc with hc | hc
  · exact hrest c hc
  · exact hb c hc

theorem IsIdentifier.letters {name : String} (h : IsIdentifier name) :
    ∀ c ∈ name.toList, IsLetter c ∨ IsDigit c ∨ c = '_' := by
  obtain ⟨first, rest, heq, hfirst, hrest⟩ := h
  rw [heq]
  intro c hc
  rcases List.mem_cons.mp hc with rfl | hc
  · exact .inl hfirst
  · exact hrest c hc

/-- The check accepts exactly the identifiers. -/
theorem isIdentifier_iff (name : String) : isIdentifier name = true ↔ IsIdentifier name := by
  rw [isIdentifier, IsIdentifier]
  cases name.toList with
  | nil => simp [isIdentifierChars]
  | cons c rest =>
      rw [isIdentifierChars, Bool.and_eq_true, isAlpha_iff, List.all_eq_true]
      constructor
      · rintro ⟨hfirst, hrest⟩
        exact ⟨c, rest, rfl, hfirst, fun d hd => (isIdentifierRest_iff d).mp (hrest d hd)⟩
      · rintro ⟨first, tail, heq, hfirst, htail⟩
        cases heq
        exact ⟨hfirst, fun d hd => (isIdentifierRest_iff d).mpr (htail d hd)⟩

end EnumBindings.Name
