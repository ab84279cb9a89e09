import EnumBindings.Proofs.ExternalName
import EnumBindings.Proofs.FirstFault

/-!
# Constant names and external names

The two rendered names of an identifier are made from the same words, so the constant name can be
read off the external name (`upperSnake_eq_map`): every hyphen gives an underscore and every letter
its capital. The way back is lost, since an underscore can also be one of the name itself. So of the
two checks on rendered names the one on constant names decides, and a clash of constant names is
reported only where the external names differ (`constant_names_from_external_names`).
-/

namespace EnumBindings.Name

open EnumBindings.Text

/-! ## From external names to constant names -/

/-- What a character of an external name becomes in the constant name. -/
def constantForm (c : Char) : Char := if c = '-' then '_' else c.toUpper

theorem constantForm_toLower {c : Char} (h : isIdentifierRest c = true) :
    constantForm c.toLower = c.toUpper :=
  forall_of_codes (p := fun c => isIdentifierRest c = true → constantForm c.toLower = c.toUpper)
    (by decide) (toNat_lt_of_isIdentifierRest h) h

/-- Characters of identifiers have one character as their capital form. -/
theorem flatMap_upper {chars : List Char} (h : ∀ c ∈ chars, isIdentifierRest c = true) :
    chars.flatMap upper = chars.map Char.toUpper := by
  induction chars with
  | nil => rfl
  | cons c rest ih =>
      obtain ⟨hc, hrest⟩ := List.forall_mem_cons.mp h
      rw [List.flatMap_cons, List.map_cons, upper_of_isIdentifierRest hc, ih hrest]
      rfl

/-- Joined parts are mapped part by part. -/
theorem map_intercalate {α β : Type} (f : α → β) (delimiter : List α) (parts : List (List α)) :
    (delimiter.intercalate parts).map f =
      (delimiter.map f).intercalate (parts.map (·.map f)) := by
  induction parts with
  | nil => rfl
  | cons part rest ih =>
      cases rest with
      | nil => simp
      | cons next others =>
          rw [List.intercalate_cons_cons, List.map_append, List.map_append, ih]
          exact List.intercalate_cons_cons.symm

/-- The constant name of an identifier, read off its external name. -/
theorem upperSnake_eq_map {name : String} (h : IsIdentifier name) :
    upperSnake name = (lowerHyphen name).map constantForm := by
  have hwords : (words name.toList).map (·.flatMap upper) =
      ((words name.toList).map (·.map Char.toLower)).map (·.map constantForm) := by
    rw [List.map_map]
    refine List.map_congr_left fun word hword => ?_
    have hchars := isIdentifierRest_of_mem_words h hword
    simp only [Function.comp_apply, flatMap_upper hchars, List.map_map]
    exact List.map_congr_left fun c hc => (constantForm_toLower (hchars c hc)).symm
  have hdelimiter : ['-'].map constantForm = ['_'] := rfl
  rw [← String.toList_inj, String.toList_map, (spelled_lowerHyphen h).joined, map_intercalate,
    hdelimiter, ← hwords, upperSnake, String.toList_ofList, render]

/-- Equal external names come with equal constant names. -/
theorem upperSnake_eq_of_lowerHyphen_eq {a b : String} (ha : IsIdentifier a) (hb : IsIdentifier b)
    (same : lowerHyphen a = lowerHyphen b) : upperSnake a = upperSnake b := by
  rw [upperSnake_eq_map ha, upperSnake_eq_map hb, same]

/-- There are no small letters in a constant name. -/
theorem not_isSmall_of_mem_upperSnake {name : String} (h : IsIdentifier name) {c : Char}
    (hc : c ∈ (upperSnake name).toList) : ¬IsSmall c := by
  rintro ⟨hlow, hhigh⟩
  have hclass := mem_upperSnake_toList h hc
  simp only [isConstantChar, Bool.or_eq_true, isUpper_iff, isDigit_iff, beq_iff_eq, IsDigit]
    at hclass
  rcases hclass with (⟨-, hupper⟩ | ⟨-, hdigit⟩) | rfl
  · exact absurd (Char.le_trans hlow hupper) (by decide)
  · exact absurd (Char.le_trans hlow hdigit) (by decide)
  · exact absurd hlow (by decide)

/-- Where no constant name comes back, no external name does. -/
theorem nodup_lowerHyphen_of_nodup_upperSnake {specs : List MemberSpec}
    (identifiers : ∀ spec ∈ specs, IsIdentifier spec.name)
    (distinct : (specs.map fun spec => upperSnake spec.name).Nodup) :
    (specs.map fun spec => lowerHyphen spec.name).Nodup := by
  have hread : specs.map (fun spec => upperSnake spec.name) =
      (specs.map fun spec => lowerHyphen spec.name).map (·.map constantForm) := by
    rw [List.map_map]
    exact List.map_congr_left fun spec hspec => upperSnake_eq_map (identifiers spec hspec)
  rw [hread] at distinct
  exact distinct.of_map _

/-- Two names with one constant name, in which an underscore and a border take the same place. -/
theorem upperSnake_eq_and_lowerHyphen_ne :
    IsIdentifier "Ab_c" ∧ IsIdentifier "AbC" ∧ upperSnake "Ab_c" = upperSnake "AbC" ∧
      lowerHyphen "Ab_c" ≠ lowerHyphen "AbC" := by
  refine ⟨(isIdentifier_iff _).mp ?_, (isIdentifier_iff _).mp ?_, ?_, ?_⟩ <;> decide

end EnumBindings.Name

namespace EnumBindings

open Name (IsIdentifier IsSmall constantForm lowerHyphen upperSnake)

/-! ## Clashes of constant names -/

/-- The members of an enum type stem from those of its definition, place by place. -/
theorem Definition.getElem?_members_enumType {d : Definition} {index : Nat} {m : Member}
    (h : d.enumType.members[index]? = some m) :
    ∃ spec, d.members[index]? = some spec ∧ m = spec.memberAt index := by
  simp only [Definition.enumType, List.getElem?_map, List.getElem?_zipIdx, Option.map_map,
    Option.map_eq_some_iff, Nat.zero_add] at h
  obtain ⟨spec, hspec, rfl⟩ := h
  exact ⟨spec, hspec, rfl⟩

/-- Two members whose constant names clash have external names that do not. -/
theorem FirstFault.of_constantNameCollision {d : Definition}
    {enumName first second constant : String}
    (h : FirstFault d (.constantNameCollision enumName first second constant)) :
    ∃ (i j : Nat) (a b : MemberSpec), i < j ∧
      d.members[i]? = some a ∧ d.members[j]? = some b ∧ a.name = first ∧ b.name = second ∧
      upperSnake first = constant ∧ upperSnake second = constant ∧
      lowerHyphen first ≠ lowerHyphen second := by
  generalize he : GenerateError.constantNameCollision enumName first second constant = e at h
  cases h with
  | typeName bad => cases he
  | empty name none => cases he
  | @member name index spec _ there fault earlier => cases fault <;> cases he
  | @clash name passed key i j m m' clash =>
      cases key with
      | external => cases he
      | value => cases he
      | constant =>
          cases he
          obtain ⟨a, ha, rfl⟩ := Definition.getElem?_members_enumType clash.first
          obtain ⟨b, hb, rfl⟩ := Definition.getElem?_members_enumType clash.second
          have hshared := clash.shared
          -- the external names of all members before the second one were compared first
          have hdiffer := clash.precedence .external (by simp [Key.before]) i clash.order _
            clash.first
          simp only [Key.shared, beq_iff_eq, beq_eq_false_iff_ne] at hshared hdiffer
          exact ⟨i, j, a, b, clash.order, ha, hb, rfl, rfl, hshared, rfl, hdiffer⟩

/-- The constant name of an identifier is its external name with underscores for hyphens and
capitals for letters, and is an identifier without small letters. So names with one external name
have one constant name, while other names can share a constant name as well: distinct constant
names have distinct external names, and a clash of constant names is reported only for members
whose external names differ. -/
theorem constant_names_from_external_names :
    (∀ name, IsIdentifier name →
      upperSnake name = (lowerHyphen name).map constantForm ∧
      IsIdentifier (upperSnake name) ∧ ∀ c ∈ (upperSnake name).toList, ¬IsSmall c) ∧
    (∀ a b, IsIdentifier a → IsIdentifier b → lowerHyphen a = lowerHyphen b →
      upperSnake a = upperSnake b) ∧
    (∃ a b, IsIdentifier a ∧ IsIdentifier b ∧ upperSnake a = upperSnake b ∧
      lowerHyphen a ≠ lowerHyphen b) ∧
    (∀ specs : List MemberSpec, (∀ spec ∈ specs, IsIdentifier spec.name) →
      (specs.map fun spec => upperSnake spec.name).Nodup →
        (specs.map fun spec => lowerHyphen spec.name).Nodup) ∧
    ∀ (d : Definition) (enumName first second constant : String),
      d.resolve = .error (.constantNameCollision enumName first second constant) →
        ∃ (i j : Nat) (a b : MemberSpec), i < j ∧ d.members[i]? = some a ∧ d.members[j]? = some b ∧
          a.name = first ∧ b.name = second ∧
          upperSnake first = constant ∧ upperSnake second = constant ∧
          lowerHyphen first ≠ lowerHyphen second := by
  refine ⟨fun name h => ⟨Name.upperSnake_eq_map h, Name.isIdentifier_upperSnake h, ?_⟩, ?_, ?_, ?_,
    ?_⟩
  · intro c hc
    exact Name.not_isSmall_of_mem_upperSnake h hc
  · intro a b ha hb same
    exact Name.upperSnake_eq_of_lowerHyphen_eq ha hb same
  · exact ⟨_, _, Name.upperSnake_eq_and_lowerHyphen_ne⟩
  · intro specs identifiers distinct
    exact Name.nodup_lowerHyphen_of_nodup_upperSnake identifiers distinct
  · intro d enumName first second constant refused
    exact ((d.resolve_eq_error_iff _).mp refused).of_constantNameCollision

/-- An underscore in one name stands where the other name has a border. -/
theorem constant_names_from_external_names_mode :
    (Definition.mk "Mode" [.named "Ab_c", .named "AbC"] false false).resolve =
      .error (.constantNameCollision "Mode" "Ab_c" "AbC" "AB_C") ∧
    lowerHyphen "Ab_c" ≠ lowerHyphen "AbC" ∧ IsIdentifier "FlexStart" ∧
    upperSnake "FlexStart" = "flex-start".map constantForm ∧ ¬IsSmall 'X' := by
  obtain ⟨read, -, -, -, reported⟩ := constant_names_from_external_names
  have refused : (Definition.mk "Mode" [.named "Ab_c", .named "AbC"] false false).resolve =
      .error (.constantNameCollision "Mode" "Ab_c" "AbC" "AB_C") := by decide +kernel
  obtain ⟨_, _, _, _, -, -, -, -, -, -, -, hdiffer⟩ := reported _ _ _ _ _ refused
  have identifier : IsIdentifier "FlexStart" := (Name.isIdentifier_iff _).mp (by decide)
  obtain ⟨hmap, -, hsmall⟩ := read "FlexStart" identifier
  have rendered : lowerHyphen "FlexStart" = "flex-start" := by decide
  exact ⟨refused, hdiffer, identifier, rendered ▸ hmap, hsmall 'X' (by decide)⟩

end EnumBindings
