import EnumBindings.Proofs.Cutting
import EnumBindings.Proofs.Identifier

/-!
# The alphabet of rendered names

What a rendered name is made of, for names that are identifiers: `mem_upperSnake_toList` for
constant names and `mem_lowerHyphen_toList` for external names. Both open with the form of the
name's first character (`upperSnake_toList_eq_cons`).
-/

namespace EnumBindings.Name

open EnumBindings.Text

theorem mem_intercalate {d c : Char} (parts : List (List Char))
    (h : c ∈ [d].intercalate parts) : c = d ∨ ∃ part ∈ parts, c ∈ part := by
  induction parts with
  | nil => simp [List.intercalate] at h
  | cons part rest ih =>
      cases rest with
      | nil =>
          right
          exact ⟨part, List.mem_cons_self, by simpa [List.intercalate] using h⟩
      | cons next rest =>
          rw [List.intercalate_cons_cons, List.append_assoc, List.mem_append,
            List.mem_append] at h
          rcases h with hpart | hd | hrest
          · exact .inr ⟨part, List.mem_cons_self, hpart⟩
          · exact .inl (by simpa using hd)
          · rcases ih hrest with rfl | ⟨p, hp, hc⟩
            · exact .inl rfl
            · exact .inr ⟨p, List.mem_cons_of_mem _ hp, hc⟩

/-- A rendered name consists of delimiters and of the forms of the name's characters. -/
theorem mem_render {delimiter c : Char} {form : Char → List Char} {name : List Char}
    (h : c ∈ render delimiter form name) : c = delimiter ∨ ∃ x ∈ name, c ∈ form x := by
  rcases mem_intercalate _ h with heq | ⟨part, hpart, hc⟩
  · exact .inl heq
  · obtain ⟨word, hword, rfl⟩ := List.mem_map.mp hpart
    obtain ⟨x, hx, hcx⟩ := List.mem_flatMap.mp hc
    -- cutting a name into words loses no character
    have hflat : x ∈ (words name).flatten := List.mem_flatten.mpr ⟨word, hword, hx⟩
    rw [flatten_words] at hflat
    exact .inr ⟨x, hflat, hcx⟩

/-- The form of the first character stands first. -/
theorem render_cons (delimiter : Char) (form : Char → List Char) (c : Char) (rest : List Char) :
    ∃ tail, render delimiter form (c :: rest) = form c ++ tail := by
  have hflat := flatten_words (c :: rest)
  have hfull : ∀ word ∈ words (c :: rest), word ≠ [] := fun _ => ne_nil_of_mem_words
  rw [render]
  cases hwords : words (c :: rest) with
  | nil => simp [hwords] at hflat
  | cons word others =>
      cases word with
      | nil => exact absurd rfl (hfull [] (by simp [hwords]))
      | cons x xs =>
          have hx : x = c := by
            rw [hwords] at hflat
            simp only [List.flatten_cons, List.cons_append, List.cons.injEq] at hflat
            exact hflat.1
          rw [hx, List.map_cons, List.flatMap_cons]
          cases others with
          | nil => exact ⟨xs.flatMap form, by simp [List.intercalate]⟩
          | cons next others =>
              rw [List.map_cons, List.intercalate_cons_cons, List.append_assoc,
                List.append_assoc]
              exact ⟨_, rfl⟩

/-! ## Characters of identifiers -/

theorem IsLetter.toNat_lt {c : Char} (h : IsLetter c) : c.toNat < 0x80 := by
  rcases h with ⟨-, hle⟩ | ⟨-, hle⟩
  · exact Nat.lt_of_le_of_lt (Char.le_def.mp hle) (by decide)
  · exact Nat.lt_of_le_of_lt (Char.le_def.mp hle) (by decide)

theorem IsDigit.toNat_lt {c : Char} (h : IsDigit c) : c.toNat < 0x80 :=
  Nat.lt_of_le_of_lt (Char.le_def.mp h.2) (by decide)

/-- Characters of identifiers are ASCII. -/
theorem toNat_lt_of_isIdentifierRest {c : Char} (h : isIdentifierRest c = true) :
    c.toNat < 0x80 := by
  rcases (isIdentifierRest_iff c).mp h with hletter | hdigit | rfl
  · exact hletter.toNat_lt
  · exact hdigit.toNat_lt
  · decide

theorem IsIdentifier.isIdentifierRest {name : String} (h : IsIdentifier name) :
    ∀ c ∈ name.toList, isIdentifierRest c = true := fun c hc =>
  (isIdentifierRest_iff c).mpr (h.letters c hc)

theorem upper_of_isIdentifierRest {c : Char} (h : isIdentifierRest c = true) :
    upper c = [c.toUpper] := by
  rw [upper, if_pos (toNat_lt_of_isIdentifierRest h)]

theorem lower_of_isIdentifierRest {c : Char} (h : isIdentifierRest c = true) :
    lower c = [c.toLower] := by
  rw [lower, if_pos (toNat_lt_of_isIdentifierRest h)]

/-- Characters of constant names. -/
def isConstantChar (c : Char) : Bool := c.isUpper || c.isDigit || c == '_'

/-- Characters of external names. -/
def isExternalChar (c : Char) : Bool := c.isLower || c.isDigit || c == '_' || c == '-'

/-- What holds for all codes below a bound holds for the characters with these codes. -/
theorem forall_of_codes {bound : Nat} {p : Char → Prop} (h : ∀ n < bound, p (Char.ofNat n))
    {c : Char} (hc : c.toNat < bound) : p c := by
  have hcode := h c.toNat hc
  rwa [Char.ofNat_toNat] at hcode

/-- Identifiers are ASCII, so the codes below 0x80 are all cases. -/
theorem isConstantChar_toUpper {c : Char} (h : isIdentifierRest c = true) :
    isConstantChar c.toUpper = true :=
  forall_of_codes (p := fun c => isIdentifierRest c = true → isConstantChar c.toUpper = true)
    (by decide) (toNat_lt_of_isIdentifierRest h) h

theorem isExternalChar_toLower {c : Char} (h : isIdentifierRest c = true) :
    isExternalChar c.toLower = true :=
  forall_of_codes (p := fun c => isIdentifierRest c = true → isExternalChar c.toLower = true)
    (by decide) (toNat_lt_of_isIdentifierRest h) h

theorem isUpper_toUpper {c : Char} (h : IsLetter c) : c.toUpper.isUpper = true :=
  forall_of_codes (p := fun c => c.isAlpha = true → c.toUpper.isUpper = true) (by decide)
    h.toNat_lt ((isAlpha_iff c).mpr h)

/-! ## Rendered names -/

theorem mem_upperSnake_toList {name : String} (h : IsIdentifier name) {c : Char}
    (hc : c ∈ (upperSnake name).toList) : isConstantChar c = true := by
  rw [upperSnake, String.toList_ofList] at hc
  rcases mem_render hc with rfl | ⟨x, hx, hcx⟩
  · rfl
  · have hrest := h.isIdentifierRest x hx
    rw [upper_of_isIdentifierRest hrest, List.mem_singleton] at hcx
    rw [hcx]
    exact isConstantChar_toUpper hrest

theorem mem_lowerHyphen_toList {name : String} (h : IsIdentifier name) {c : Char}
    (hc : c ∈ (lowerHyphen name).toList) : isExternalChar c = true := by
  rw [lowerHyphen, String.toList_ofList] at hc
  rcases mem_render hc with rfl | ⟨x, hx, hcx⟩
  · rfl
  · have hrest := h.isIdentifierRest x hx
    rw [lower_of_isIdentifierRest hrest, List.mem_singleton] at hcx
    rw [hcx]
    exact isExternalChar_toLower hrest

/-- A constant name opens with a capital letter. -/
theorem upperSnake_toList_eq_cons {name : String} (h : IsIdentifier name) :
    ∃ c tail, (upperSnake name).toList = c :: tail ∧ c.isUpper = true := by
  obtain ⟨first, rest, heq, hfirst, -⟩ := h
  obtain ⟨tail, hrender⟩ := render_cons '_' upper first rest
  have hrest : isIdentifierRest first = true := (isIdentifierRest_iff first).mpr (.inl hfirst)
  refine ⟨first.toUpper, tail, ?_, ?_⟩
  · rw [upperSnake, String.toList_ofList, heq, hrender, upper_of_isIdentifierRest hrest]
    rfl
  · exact isUpper_toUpper hfirst

/-- A constant name is an identifier again. -/
theorem isIdentifier_upperSnake {name : String} (h : IsIdentifier name) :
    IsIdentifier (upperSnake name) := by
  obtain ⟨c, tail, heq, hupper⟩ := upperSnake_toList_eq_cons h
  refine ⟨c, tail, heq, .inr ((isUpper_iff c).mp hupper), fun d hd => ?_⟩
  have hmem : d ∈ (upperSnake name).toList := heq ▸ List.mem_cons_of_mem c hd
  have hclass := mem_upperSnake_toList h hmem
  simp only [isConstantChar, Bool.or_eq_true, beq_iff_eq] at hclass
  rcases hclass with (hcapital | hdigit) | hunderscore
  · exact .inl (.inr ((isUpper_iff d).mp hcapital))
  · exact .inr (.inl ((isDigit_iff d).mp hdigit))
  · exact .inr (.inr hunderscore)

end EnumBindings.Name
