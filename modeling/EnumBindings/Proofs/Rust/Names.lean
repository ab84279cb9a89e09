import EnumBindings.Proofs.RoundTrip
import EnumBindings.Proofs.Rust.Program
import EnumBindings.Proofs.Scope
import EnumBindings.Proofs.Source.Spelling

/-!
# Names of a Rust module

`checkNames_eq_ok_iff` says which enum types can stand in one module. `Readable` gathers what the
text of one enum type relies on: its names are words that are no keywords, its external names
need no escapes and its values fit. Constant names have no small letters, so they are apart from
every keyword and from the functions beside them.
-/

namespace EnumBindings.Rust

open EnumBindings.Name (IsIdentifier isConstantChar)
open EnumBindings.Source

/-! ## The name check -/

/-- The names that an enum type declares in the module. -/
def declaredNames (e : EnumType) : List String := (declarations e).map (·.1)

theorem declaredNames_eq (e : EnumType) :
    declaredNames e = e.name :: if e.preserve then [keepAliveName e] else [] := by
  cases h : e.preserve <;> simp [declaredNames, declarations, h]

theorem name_mem_declaredNames (e : EnumType) : e.name ∈ declaredNames e := by
  rw [declaredNames_eq]
  exact List.mem_cons_self

/-- Names that are taken by the language or by the module itself. -/
def Taken (x : String) : Prop := x ∈ keywords ∨ x ∈ referenced ∨ x = errorType

instance (x : String) : Decidable (Taken x) := inferInstanceAs (Decidable (_ ∨ _))

theorem owner?_reservedScope_eq_none_iff (x : String) :
    reservedScope.owner? x = none ↔ ¬Taken x := by
  rw [reservedScope, Scope.owner?_reserve_eq_none_iff, Scope.owner?_reserve_eq_none_iff,
    Scope.owner?_reserve_eq_none_iff, Scope.owner?_empty, List.mem_singleton, Taken]
  tauto

/-- The check passes when the declared names are free of repetition and none is taken. -/
theorem checkNames_eq_ok_iff (enums : List EnumType) :
    checkNames enums = .ok () ↔
      (enums.flatMap declaredNames).Nodup ∧ ∀ x ∈ enums.flatMap declaredNames, ¬Taken x := by
  have hnames : (enums.flatMap declarations).map (·.1) = enums.flatMap declaredNames :=
    List.map_flatMap
  rw [checkNames, Scope.check_eq_ok_iff, hnames]
  simp only [owner?_reservedScope_eq_none_iff]

/-! ## Names -/

/-- Words that can be names. -/
structure Named (letters : String) : Prop where
  word : IsWord letters
  name : isName letters = true

theorem Named.isVariable {x : String} (h : Named x) : isVariable x = true := by
  rw [Rust.isVariable, h.name]
  rfl

theorem named_of_isIdentifier {x : String} (h : IsIdentifier x) (free : x ∉ keywords) :
    Named x := by
  refine ⟨isWord_of_isIdentifier h, ?_⟩
  obtain ⟨first, rest, heq, hfirst, -⟩ := h
  simp [isName, heq, hfirst.isDigit_eq_false, free]

theorem named_of_check {x : String} (h : Name.isIdentifier x = true) (free : x ∉ keywords) :
    Named x :=
  named_of_isIdentifier ((Name.isIdentifier_iff x).mp h) free

/-- Every keyword has a character that constant names do not have. -/
theorem not_mem_keywords {x : String} (h : ∀ c ∈ x.toList, isConstantChar c = true) :
    x ∉ keywords := by
  have hsmall : ∀ k ∈ keywords, k.toList.all isConstantChar = false := by decide
  intro hmem
  have hfalse := hsmall x hmem
  rw [List.all_eq_true.mpr h] at hfalse
  cases hfalse

theorem named_of_isConstantChar {x : String} (h : ∀ c ∈ x.toList, isConstantChar c = true)
    (hword : IsWord x) {c : Char} {tail : List Char} (heq : x.toList = c :: tail)
    (hupper : c.isUpper = true) : Named x := by
  refine ⟨hword, ?_⟩
  have hletter : Name.IsLetter c := .inr ((Name.isUpper_iff c).mp hupper)
  simp [isName, heq, hletter.isDigit_eq_false, not_mem_keywords h]

theorem named_upperSnake {name : String} (h : IsIdentifier name) :
    Named (Name.upperSnake name) := by
  obtain ⟨c, tail, heq, hupper⟩ := Name.upperSnake_toList_eq_cons h
  exact named_of_isConstantChar (fun d hd => Name.mem_upperSnake_toList h hd)
    (isWord_upperSnake h) heq hupper

theorem named_keepAliveName {e : EnumType} (h : IsIdentifier e.name) :
    Named (keepAliveName e) := by
  -- the prefix is made of characters of constant names, so the whole name is
  have hword : IsWord "KEEP_" :=
    isWord_of_isIdentifier ((Name.isIdentifier_iff "KEEP_").mp (by decide))
  have hlist : (keepAliveName e).toList =
      'K' :: 'E' :: 'E' :: 'P' :: '_' :: (Name.upperSnake e.name).toList :=
    String.toList_append ..
  refine named_of_isConstantChar ?_ (hword.append (isWord_upperSnake h)) hlist rfl
  intro c hc
  rw [hlist] at hc
  simp only [List.mem_cons] at hc
  rcases hc with rfl | rfl | rfl | rfl | rfl | hc
  · rfl
  · rfl
  · rfl
  · rfl
  · rfl
  · exact Name.mem_upperSnake_toList h hc

/-! ## Readable enum types -/

/-- What the text of an enum type relies on. -/
structure Readable (e : EnumType) : Prop where
  type : Named e.name
  constant : ∀ m ∈ e.members, Named m.constantName
  keepAlive : Named (keepAliveName e)
  external : ∀ m ∈ e.members, IsPlain m.externalName
  range : ∀ m ∈ e.members, e.representation.contains m.value = true

theorem named_constantName {e : EnumType} (wf : e.WellFormed) {m : Member} (hm : m ∈ e.members) :
    Named m.constantName := by
  rw [wf.constantName m hm]
  exact named_upperSnake (wf.memberNames m hm)

theorem readable_of_checkNames {enums : List EnumType} (checked : checkNames enums = .ok ())
    {e : EnumType} (member : e ∈ enums) (wf : e.WellFormed) : Readable e := by
  obtain ⟨-, hfree⟩ := (checkNames_eq_ok_iff enums).mp checked
  have free : e.name ∉ keywords := by
    intro hkey
    exact hfree e.name (List.mem_flatMap.mpr ⟨e, member, name_mem_declaredNames e⟩) (.inl hkey)
  exact ⟨named_of_isIdentifier wf.typeName free, fun m hm => named_constantName wf hm,
    named_keepAliveName wf.typeName, fun m hm => isPlain_externalName wf hm, wf.range⟩

end EnumBindings.Rust
