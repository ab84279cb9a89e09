import EnumBindings.Proofs.Go.Lookup

/-!
# Names that a Go file takes from outside

A generated file refers to its own declarations, and to names that mean something without them:
the predeclared ones, the import and the shared error type. `Foreign` says of a name that some
file refers to it in the second way, and `foreign_iff` lists these names. An enum type that
declares one of them would change what the text around it means. `capture_free_iff` says which
artifacts are free of that: of all foreign names only `iota` can be declared.
-/

namespace EnumBindings.Go

open EnumBindings.Source EnumBindings.Text

/-! ## References -/

/-- The bare names that an operand refers to. What follows a point belongs to the name before
it. -/
@[simp]
def Operand.references : Operand → List String
  | name identifier => [identifier]
  | field record _ => [record]
  | number _ => []
  | text _ => []

@[simp]
def Expression.references : Expression → List String
  | operand o => o.references
  | record type fields => type :: fields.flatMap (·.2.references)
  | call package _ arguments => package :: arguments.flatMap Operand.references

def Body.references : Body → List String
  | results values => values.flatMap Expression.references
  | switch subject clauses otherwise =>
    subject.references
      ++ clauses.flatMap (fun c => c.1.references ++ c.2.flatMap Expression.references)
      ++ otherwise.flatMap Expression.references

/-- The names that stand for the arguments of a function in its body. -/
def Function.locals (f : Function) : List String :=
  f.receiver.toList.map (·.name) ++ f.parameters.map (·.1)

/-- What a function refers to. The types of its arguments are looked up outside of it. -/
def Function.references (f : Function) : List String :=
  f.receiver.toList.map (·.type) ++ f.parameters.map (·.2) ++ f.results
    ++ f.body.references.filter (!f.locals.contains ·)

def ConstantSpec.references (spec : ConstantSpec) : List String :=
  spec.type.toList ++ spec.value.toList.flatMap Operand.references

def Declaration.references : Declaration → List String
  | imported _ => []
  | defined _ underlying => [underlying]
  | record _ fields => fields.map (·.2)
  | constants specs => specs.flatMap ConstantSpec.references
  | blank element elements => element :: elements.flatMap Operand.references
  | function f => f.references

/-- The bare names that a program refers to. -/
def Program.references (p : Program) : List String :=
  p.declarations.flatMap Declaration.references

/-! ## Names from outside -/

/-- Some artifact refers to a name although none of its enum types declares it. -/
def Foreign (x : String) : Prop :=
  ∃ (table : EnumTable) (package : String) (header : Header) (artifact : Artifact) (p : Program),
    table.generate (.go package) header = .ok artifact ∧
    ReadsAs artifact package header p ∧
    x ∈ p.references ∧ x ∉ artifact.enums.flatMap declaredNames

/-- The names that mean something in every file. -/
def outsideNames : List String := predeclared ++ ["iota", "fmt", errorType]

/-- A name means something where an enum type stands: the enum type declares it, or it means the
same in every file. -/
def Known (e : EnumType) (x : String) : Prop := x ∈ declaredNames e ∨ x ∈ outsideNames

section References

variable {e : EnumType}

theorem known_name (e : EnumType) : Known e e.name := .inl (name_mem_declaredNames e)

theorem known_constantName {m : Member} (hm : m ∈ e.members) : Known e (constantName e m) :=
  .inl (constantName_mem_declaredNames hm)

theorem known_outside (e : EnumType) {x : String} (h : x ∈ outsideNames) : Known e x := .inr h

theorem known_constantSpecs :
    ∀ x ∈ (constantSpecs e).flatMap ConstantSpec.references, Known e x := by
  have hiota : Known e "iota" := known_outside e (by decide)
  rw [constantSpecs]
  split
  · rw [positionalSpecs]
    cases e.members with
    | nil => simp
    | cons first rest =>
        simp [ConstantSpec.references, List.flatMap_map, known_name, hiota]
  · intro x hx
    obtain ⟨m, -, rfl⟩ : ∃ m ∈ e.members, x = e.name := by
      simpa [explicitSpecs, ConstantSpec.references, List.flatMap_map] using hx
    exact known_name e

/-- What a function refers to is known where its types are, and the names in its body that stand
for no argument. -/
theorem known_references {f : Function}
    (htypes : ∀ x ∈ f.receiver.toList.map (·.type) ++ f.parameters.map (·.2) ++ f.results,
      Known e x)
    (hbody : ∀ x ∈ f.body.references, x ∈ f.locals ∨ Known e x) :
    ∀ x ∈ f.references, Known e x := by
  intro x hx
  rw [Function.references] at hx
  rcases List.mem_append.mp hx with htype | hfiltered
  · exact htypes x htype
  · obtain ⟨hmem, hkept⟩ := List.mem_filter.mp hfiltered
    rcases hbody x hmem with hlocal | hknown
    · simp [hlocal] at hkept
    · exact hknown

theorem known_stringFunction : ∀ x ∈ (stringFunction e).references, Known e x := by
  have hbody : (stringFunction e).body.references = "e" :: e.members.map (constantName e) := by
    simp [stringFunction, Body.references, List.map_eq_flatMap, List.flatMap_assoc]
  have hstring : Known e "string" := known_outside e (by decide)
  refine known_references ?_ ?_
  · simp [stringFunction, known_name, hstring]
  · rw [hbody, List.forall_mem_cons]
    exact ⟨.inl List.mem_cons_self,
      List.forall_mem_map.mpr fun m hm => .inr (known_constantName hm)⟩

theorem known_parseFunction : ∀ x ∈ (parseFunction e).references, Known e x := by
  have hbody : (parseFunction e).body.references =
      "s" :: (e.members.flatMap (fun m => [constantName e m, "nil"]) ++ [errorType, "s"]) := by
    simp [parseFunction, Body.references, List.flatMap_map]
  have hstring : Known e "string" := known_outside e (by decide)
  have herror : Known e "error" := known_outside e (by decide)
  have hnil : Known e "nil" := known_outside e (by decide)
  have htype : Known e errorType := known_outside e (by decide)
  have hlocal : "s" ∈ (parseFunction e).locals := List.mem_cons_self
  refine known_references ?_ ?_
  · simp [parseFunction, known_name, hstring, herror]
  · rw [hbody, List.forall_mem_cons, List.forall_mem_append, List.forall_mem_flatMap]
    refine ⟨.inl hlocal, fun m hm => ?_, ?_⟩
    · simp [known_constantName hm, hnil]
    · simp [hlocal, htype]

theorem known_keepAlive :
    ∀ x ∈ (keepAliveDeclarations e).flatMap Declaration.references, Known e x := by
  rw [keepAliveDeclarations]
  split
  · have hrefs : [Declaration.blank e.name
        (e.members.map fun m => .name (constantName e m))].flatMap Declaration.references =
          e.name :: e.members.map (constantName e) := by
      simp [Declaration.references, List.map_eq_flatMap, List.flatMap_assoc]
    rw [hrefs, List.forall_mem_cons]
    exact ⟨known_name e, List.forall_mem_map.mpr fun m hm => known_constantName hm⟩
  · simp

/-- Whatever the form of an enum type, its declarations refer to what it declares and to what
means the same in every file. -/
theorem known_enumDeclarations :
    ∀ x ∈ (enumDeclarations e).flatMap Declaration.references, Known e x := by
  have hinteger : Known e (integerType e.representation) := by
    refine known_outside e ?_
    cases e.representation <;> decide
  have hcount : ∀ x ∈ (countDeclarations e).flatMap Declaration.references, Known e x := by
    rw [countDeclarations]
    split <;> simp [Declaration.references, ConstantSpec.references]
  simp only [enumDeclarations, List.flatMap_append, List.flatMap_cons, List.flatMap_nil,
    List.append_nil, List.forall_mem_append]
  refine ⟨⟨?_, known_constantSpecs⟩, hcount, ⟨known_stringFunction, known_parseFunction⟩,
    known_keepAlive⟩
  simpa [Declaration.references] using hinteger

end References

theorem references_prelude :
    ∀ x ∈ preludeDeclarations.flatMap Declaration.references, x ∈ outsideNames := by
  decide

/-- A program refers to what its enum types declare and to what means the same in every file. -/
theorem mem_references_program {enums : List EnumType} {x : String}
    (h : x ∈ (program enums).references) :
    x ∈ enums.flatMap declaredNames ∨ x ∈ outsideNames := by
  rw [Program.references, program, List.flatMap_append, List.mem_append] at h
  rcases h with hprelude | henums
  · exact .inr (references_prelude x hprelude)
  · rw [List.flatMap_assoc] at henums
    obtain ⟨e, he, hx⟩ := List.mem_flatMap.mp henums
    rcases known_enumDeclarations x hx with hdeclared | houtside
    · exact .inl (List.mem_flatMap.mpr ⟨e, he, hdeclared⟩)
    · exact .inr houtside

/-! ## Artifacts -/

/-- Every name from outside is referred to by some file: a file with a flag set and with an enum
type numbered by position refers to all of them. -/
theorem foreign_iff (x : String) : Foreign x ↔ x ∈ outsideNames := by
  constructor
  · rintro ⟨table, package, header, artifact, p, accepted, reads, href, hfree⟩
    obtain rfl := (readsAs_iff accepted p).mp reads
    exact (mem_references_program href).resolve_left hfree
  · intro hx
    have accepted := EnumTable.generate_of_checks (.go "ui") Panel.resolve_table
      checkNames_panel ⟨[]⟩
    have hall : ∀ y ∈ outsideNames,
        y ∈ (program [Panel.access, Panel.align, Panel.phase]).references ∧
          y ∉ [Panel.access, Panel.align, Panel.phase].flatMap declaredNames := by decide
    exact ⟨_, _, _, _, _, accepted, (readsAs_iff accepted _).mpr rfl, hall x hx⟩

/-- Which declared names mean something else in a generated file. No artifact declares a keyword,
and of the names from outside it can declare `iota` alone; so the names of an artifact are safe
exactly where it declares neither `iota` nor `init`, the name that only a function can have. -/
theorem capture_free_iff {table : EnumTable} {package : String} {header : Header}
    {artifact : Artifact} (accepted : table.generate (.go package) header = .ok artifact) :
    ∃ p, ReadsAs artifact package header p ∧
      p.names = "fmt" :: errorType :: artifact.enums.flatMap declaredNames ∧
      (∀ x ∈ artifact.enums.flatMap declaredNames, x ∉ keywords ∧ (Foreign x ↔ x = "iota")) ∧
      ((∀ x ∈ artifact.enums.flatMap declaredNames, x ∉ keywords ∧ x ≠ "init" ∧ ¬Foreign x) ↔
        "init" ∉ artifact.enums.flatMap declaredNames ∧
          "iota" ∉ artifact.enums.flatMap declaredNames) := by
  have hfree := (compatible_of_generate accepted).free
  have hkeyword : ∀ x ∈ artifact.enums.flatMap declaredNames, x ∉ keywords := fun x hx hmem =>
    hfree x hx (.inl hmem)
  -- of the names from outside all but `iota` are reserved
  have hiota : ∀ x ∈ artifact.enums.flatMap declaredNames, Foreign x ↔ x = "iota" := by
    intro x hx
    have houtside : x ∈ outsideNames ↔ x = "iota" ∨ x ∈ predeclared ∨ x = "fmt" ∨
        x = errorType := by
      simp only [outsideNames, List.mem_append, List.mem_cons, List.not_mem_nil, or_false]
      tauto
    rw [foreign_iff, houtside]
    exact or_iff_left fun htaken => hfree x hx (.inr htaken)
  refine ⟨program artifact.enums, (readsAs_iff accepted _).mpr rfl, names_program _,
    fun x hx => ⟨hkeyword x hx, hiota x hx⟩, ?_⟩
  constructor
  · intro hsafe
    exact ⟨fun hmem => (hsafe _ hmem).2.1 rfl,
      fun hmem => (hsafe _ hmem).2.2 ((hiota _ hmem).mpr rfl)⟩
  · rintro ⟨hinit, hnone⟩ x hx
    refine ⟨hkeyword x hx, ?_, fun hforeign => ?_⟩
    · rintro rfl
      exact hinit hx
    · obtain rfl := (hiota x hx).mp hforeign
      exact hnone hx

/-- A table all of whose names are safe. -/
theorem capture_free_panel :
    ∃ artifact, Panel.table.generate (.go "ui") ⟨["MIT"]⟩ = .ok artifact ∧
      ∀ x ∈ artifact.enums.flatMap declaredNames, x ∉ keywords ∧ x ≠ "init" ∧ ¬Foreign x := by
  have accepted := EnumTable.generate_of_checks (.go "ui") Panel.resolve_table checkNames_panel
    ⟨["MIT"]⟩
  obtain ⟨p, -, -, -, hsafe⟩ := capture_free_iff accepted
  exact ⟨_, accepted, hsafe.mpr ⟨by decide, by decide⟩⟩

/-- A table is accepted that declares `init` as a type, and `iota` although the constants of both
enum types are counted by it. -/
theorem captures_iota :
    ∃ artifact p, (EnumTable.mk [⟨"init", [.named "Low"], false, false⟩,
        ⟨"iota", [.named "Low"], false, false⟩]).generate (.go "ui") ⟨[]⟩ = .ok artifact ∧
      ReadsAs artifact "ui" ⟨[]⟩ p ∧ Declaration.defined "init" "int" ∈ p.declarations ∧
      Declaration.defined "iota" "int" ∈ p.declarations ∧ "iota" ∈ p.references ∧
      Foreign "iota" := by
  have resolved : (EnumTable.mk [⟨"init", [.named "Low"], false, false⟩,
      ⟨"iota", [.named "Low"], false, false⟩]).resolve =
        .ok [⟨"init", .i32, false, true, [⟨"Low", "LOW", "low", 0⟩]⟩,
          ⟨"iota", .i32, false, true, [⟨"Low", "LOW", "low", 0⟩]⟩] :=
    EnumTable.resolve_of_sorted (by decide) (by decide)
  have checked : checkNames [⟨"init", .i32, false, true, [⟨"Low", "LOW", "low", 0⟩]⟩,
      ⟨"iota", .i32, false, true, [⟨"Low", "LOW", "low", 0⟩]⟩] = .ok () :=
    (checkNames_eq_ok_iff _).mpr ⟨by decide, by decide⟩
  have accepted := EnumTable.generate_of_checks (.go "ui") resolved checked ⟨[]⟩
  refine ⟨_, _, accepted, (readsAs_iff accepted _).mpr rfl, by decide, by decide, by decide,
    (foreign_iff "iota").mpr (by decide)⟩

end EnumBindings.Go
