import EnumBindings.Proofs.Go.Program
import EnumBindings.Proofs.RoundTrip
import EnumBindings.Proofs.Scope
import EnumBindings.Proofs.Source.Spelling

/-!
# Names of a Go file

`checkNames_eq_ok_iff` says which enum types can stand in one file. `Readable` gathers what the
text of one enum type relies on: its names are words that are no keywords, its external names
need no escapes and its values fit.
-/

namespace EnumBindings.Go

open EnumBindings.Name (IsIdentifier)
open EnumBindings.Source

/-! ## The name check -/

/-- The names that an enum type declares at the top of a file. -/
def declaredNames (e : EnumType) : List String := (declarations e).map (·.1)

theorem declaredNames_eq (e : EnumType) :
    declaredNames e = e.name :: (e.members.map (constantName e)
      ++ ((if e.isBitset then [] else [countName e]) ++ [parseName e])) := by
  cases h : e.isBitset <;>
    simp [declaredNames, declarations, h, Function.comp_def]

theorem name_mem_declaredNames (e : EnumType) : e.name ∈ declaredNames e := by
  rw [declaredNames_eq]
  exact List.mem_cons_self

/-- Names that are taken by the language or by the file itself. -/
def Taken (x : String) : Prop :=
  x ∈ keywords ∨ x ∈ predeclared ∨ x = "fmt" ∨ x = errorType

instance (x : String) : Decidable (Taken x) := inferInstanceAs (Decidable (_ ∨ _))

theorem owner?_reservedScope_eq_none_iff (x : String) :
    reservedScope.owner? x = none ↔ ¬Taken x := by
  rw [reservedScope, Scope.owner?_reserve_eq_none_iff, Scope.owner?_reserve_eq_none_iff,
    Scope.owner?_reserve_eq_none_iff, Scope.owner?_reserve_eq_none_iff, Scope.owner?_empty,
    List.mem_singleton, List.mem_singleton, Taken]
  tauto

/-- The check passes when the declared names are free of repetition and none is taken. -/
theorem checkNames_eq_ok_iff (enums : List EnumType) :
    checkNames enums = .ok () ↔
      (enums.flatMap declaredNames).Nodup ∧ ∀ x ∈ enums.flatMap declaredNames, ¬Taken x := by
  have hnames : (enums.flatMap declarations).map (·.1) = enums.flatMap declaredNames :=
    List.map_flatMap
  rw [checkNames, Scope.check_eq_ok_iff, hnames]
  simp only [owner?_reservedScope_eq_none_iff]

/-! ## Readable enum types -/

/-- Words that can be names. -/
structure Named (letters : String) : Prop where
  word : IsWord letters
  name : isName letters = true

theorem Named.free {x : String} (h : Named x) : x ∉ keywords := by
  have hname := h.name
  simp only [isName, Bool.and_eq_true, Bool.not_eq_true', List.contains_eq_mem,
    decide_eq_false_iff_not] at hname
  exact hname.2

theorem named_of_isIdentifier {x : String} (h : IsIdentifier x) (free : x ∉ keywords) :
    Named x := by
  refine ⟨isWord_of_isIdentifier h, ?_⟩
  obtain ⟨first, rest, heq, hfirst, -⟩ := h
  simp [isName, heq, hfirst.isDigit_eq_false, free]

theorem named_of_check {x : String} (h : Name.isIdentifier x = true) (free : x ∉ keywords) :
    Named x :=
  named_of_isIdentifier ((Name.isIdentifier_iff x).mp h) free

/-- What the text of an enum type relies on. -/
structure Readable (e : EnumType) : Prop where
  type : Named e.name
  constant : ∀ m ∈ e.members, Named (constantName e m)
  count : Named (countName e)
  parse : Named (parseName e)
  external : ∀ m ∈ e.members, IsPlain m.externalName
  range : ∀ m ∈ e.members, e.representation.contains m.value = true

/-- No keyword ends like the name of a count. -/
theorem countName_not_mem_keywords (e : EnumType) : countName e ∉ keywords := by
  intro h
  have hends : ∀ k ∈ keywords, ¬"Count".toList <:+ k.toList := by decide
  exact hends _ h (by simp [countName])

/-- The name of a count is an identifier whether or not it is declared. -/
theorem isIdentifier_countName {e : EnumType} (wf : e.WellFormed) : IsIdentifier (countName e) :=
  wf.typeName.append (by simp [Name.IsLetter])

/-- Everything that an enum type declares is an identifier. -/
theorem isIdentifier_of_mem_declaredNames {e : EnumType} (wf : e.WellFormed) :
    ∀ x ∈ declaredNames e, IsIdentifier x := by
  have hmember : ∀ m ∈ e.members, IsIdentifier (constantName e m) := fun m hm =>
    wf.typeName.append (wf.memberNames m hm).letters
  have hparse : IsIdentifier (parseName e) := wf.typeName.append (by simp [Name.IsLetter])
  rw [declaredNames_eq, List.forall_mem_cons, List.forall_mem_append, List.forall_mem_append]
  refine ⟨wf.typeName, List.forall_mem_map.mpr hmember, ?_, List.forall_mem_singleton.mpr hparse⟩
  split
  · simp
  · exact List.forall_mem_singleton.mpr (isIdentifier_countName wf)

theorem constantName_mem_declaredNames {e : EnumType} {m : Member} (hm : m ∈ e.members) :
    constantName e m ∈ declaredNames e := by
  rw [declaredNames_eq]
  exact List.mem_cons_of_mem _ (List.mem_append_left _ (List.mem_map_of_mem hm))

theorem parseName_mem_declaredNames (e : EnumType) : parseName e ∈ declaredNames e := by
  rw [declaredNames_eq]
  simp

theorem readable_of_checkNames {enums : List EnumType} (checked : checkNames enums = .ok ())
    {e : EnumType} (member : e ∈ enums) (wf : e.WellFormed) : Readable e := by
  obtain ⟨-, hfree⟩ := (checkNames_eq_ok_iff enums).mp checked
  have named : ∀ x ∈ declaredNames e, Named x := fun x hx =>
    named_of_isIdentifier (isIdentifier_of_mem_declaredNames wf x hx) fun hkey =>
      hfree x (List.mem_flatMap.mpr ⟨e, member, hx⟩) (.inl hkey)
  exact {
    type := named _ (name_mem_declaredNames e)
    constant := fun m hm => named _ (constantName_mem_declaredNames hm)
    count := named_of_isIdentifier (isIdentifier_countName wf) (countName_not_mem_keywords e)
    parse := named _ (parseName_mem_declaredNames e)
    external := fun m hm => isPlain_externalName wf hm
    range := wf.range }

end EnumBindings.Go
