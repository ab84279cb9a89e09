import EnumBindings.Proofs.Rust.Refinement

/-!
# Names that a Rust module takes from outside

A generated module refers to its own types and to names that mean something without them: the
integer types and the other types of the language, what is imported or always in scope, and the
parameters of its functions. `Foreign` says of a name that some module refers to it in the second
way, and `foreign_iff` lists these names. An enum type that declares one of them would change
what the text around it means. `shadow_free_iff` says which artifacts are free of that: of all
foreign names only the types of the language can be declared.
-/

namespace EnumBindings.Rust

open EnumBindings.Source EnumBindings.Text

/-! ## References -/

/-- The bare names in a type. What stands behind `::` belongs to the name before it, and what
stands behind a quote is a lifetime. -/
def typeReferences : List Token → List String
  | .mark '\'' :: .word _ :: rest => typeReferences rest
  | .mark ':' :: .mark ':' :: .word _ :: rest => typeReferences rest
  | .word letters :: rest => letters :: typeReferences rest
  | _ :: rest => typeReferences rest
  | [] => []

@[simp]
def Operand.references : Operand → List String
  | number _ => []
  | text _ => []
  | name identifier => [identifier]
  | path type _ => [type]
  | field record _ => [record]
  | method receiver _ => [receiver]

/-- The name of a macro is none of the names that an item can have. -/
@[simp]
def Expression.references : Expression → List String
  | operand o => o.references
  | borrow name => [name]
  | call function argument => function :: argument.references
  | combine function left _ right => function :: (left.references ++ right.references)
  | build function type fields => function :: type :: fields.flatMap (·.2.references)
  | common left right whole => left.references ++ right.references ++ whole.references
  | invoke receiver _ argument => receiver :: argument.references
  | expand _ arguments => arguments.flatMap Operand.references

@[simp]
def Pattern.references : Pattern → List String
  | path type _ => [type]
  | text _ => []

def Stored.references (s : Stored) : List String :=
  s.element :: s.elements.flatMap Operand.references

/-- A static inside a function hides what the module declares, so its name leads nowhere else. -/
def Body.references : Body → List String
  | value e => e.references
  | choice subject arms otherwise =>
    subject :: (arms.flatMap (fun a => a.1.references ++ a.2.references) ++ otherwise.references)
  | listing s result => s.references ++ result.references.filter (· != s.name)

/-- A parameter is a pattern, and where a structure has its name, the pattern means the
structure. So the names of parameters are looked up like all others. -/
def Function.references (f : Function) : List String :=
  f.parameters.map (·.1) ++ f.parameters.flatMap (fun p => typeReferences p.2)
    ++ typeReferences f.result ++ f.body.references

def Associated.references : Associated → List String
  | constant _ type value => type :: value.references
  | named _ type => typeReferences type
  | function f => f.references

/-- Attributes name macros, which no item can be. -/
def Kind.references : Kind → List String
  | imported path => path.head?.toList
  | tuple _ field => [field]
  | record _ fields => fields.flatMap fun f => typeReferences f.2
  | implementation trait type items =>
    (trait.bind List.head?).toList ++ type :: items.flatMap Associated.references
  | stored s => s.references

/-- The bare names that a module refers to, among its items or outside of it. -/
def Module.references (m : Module) : List String :=
  (m.items.flatMap (·.kind.references)).filter (!keywords.contains ·)

/-! ## Names from outside -/

/-- Some artifact refers to a name although none of its enum types declares it. -/
def Foreign (x : String) : Prop :=
  ∃ (table : EnumTable) (header : Header) (artifact : Artifact) (body : String) (m : Module),
    table.generate .rust header = .ok artifact ∧
    artifact.text = unlines (header.lines "//") ++ body ∧ module? body = some m ∧
    x ∈ m.references ∧ x ∉ artifact.enums.flatMap declaredNames

/-- The types of the language that modules refer to. -/
def primitives : List String := ["i32", "u32", "usize", "bool", "str"]

/-- The names that mean something in every module. -/
def outsideNames : List String := referenced ++ errorType :: primitives

/-- A word means something where an enum type stands: the enum type declares it, or it means the
same in every module. -/
def Known (e : EnumType) (x : String) : Prop :=
  x ∈ declaredNames e ∨ x ∈ outsideNames ∨ x ∈ keywords

section References

variable {e : EnumType}

theorem known_name (e : EnumType) : Known e e.name := .inl (name_mem_declaredNames e)

theorem known_outside (e : EnumType) {x : String} (h : x ∈ outsideNames ++ keywords) :
    Known e x :=
  .inr (List.mem_append.mp h)

theorem known_integerType (e : EnumType) : Known e (integerType e.representation) := by
  refine known_outside e ?_
  cases e.representation <;> decide

/-- What a function refers to is known where its signature and its body are. -/
theorem known_function {f : Function} (hparameters : ∀ x ∈ f.parameters.map (·.1), Known e x)
    (htypes : ∀ x ∈ f.parameters.flatMap (fun p => typeReferences p.2), Known e x)
    (hresult : ∀ x ∈ typeReferences f.result, Known e x)
    (hbody : ∀ x ∈ f.body.references, Known e x) : ∀ x ∈ f.references, Known e x := by
  simp only [Function.references, List.forall_mem_append]
  exact ⟨⟨⟨hparameters, htypes⟩, hresult⟩, hbody⟩

/-- An array of constants refers to its enum type alone. -/
theorem known_listed (name : String) : ∀ x ∈ (listed name e).references, Known e x := by
  have hrefs : (listed name e).references = e.name :: e.members.map fun _ => e.name := by
    simp [Stored.references, listed, List.map_eq_flatMap, List.flatMap_assoc]
  rw [hrefs, List.forall_mem_cons, List.forall_mem_map]
  exact ⟨known_name e, fun _ _ => known_name e⟩

theorem known_constantItems :
    ∀ x ∈ (constantItems e).flatMap Associated.references, Known e x := by
  have hrefs : (constantItems e).flatMap Associated.references =
      e.members.flatMap fun _ => [e.name, e.name] := by
    simp [constantItems, List.flatMap_map, Associated.references]
  rw [hrefs, List.forall_mem_flatMap]
  exact fun m _ => by simp [known_name]

theorem known_valuesFunction : ∀ x ∈ (valuesFunction e).references, Known e x := by
  refine known_function ?_ ?_ ?_ ?_
  · simp [valuesFunction]
  · simp [valuesFunction]
  · simp [valuesFunction, staticSlice, typeReferences, known_name]
  · -- the result borrows the static itself
    have hresult : (Expression.borrow "VALUES").references.filter (· != "VALUES") = [] := rfl
    simpa [valuesFunction, Body.references, listed, hresult] using known_listed "VALUES"

theorem known_sizeFunction : ∀ x ∈ (sizeFunction e).references, Known e x := by
  have hself : Known e "self" := known_outside e (by decide)
  have hown : Known e "Self" := known_outside e (by decide)
  have hother : Known e "other" := known_outside e (by decide)
  have hbool : Known e "bool" := known_outside e (by decide)
  have husize : Known e "usize" := known_outside e (by decide)
  rw [sizeFunction]
  split
  · refine known_function ?_ ?_ ?_ ?_
    · simp [containsFunction, hself, hother]
    · simp [containsFunction, typeReferences, hown, known_name]
    · simp [containsFunction, typeReferences, hbool]
    · simp [containsFunction, Body.references, hself, hother]
  · refine known_function ?_ ?_ ?_ ?_
    · simp [countFunction]
    · simp [countFunction]
    · simp [countFunction, typeReferences, husize]
    · simp [countFunction, Body.references]

theorem known_nameFunction : ∀ x ∈ (nameFunction e).references, Known e x := by
  have hself : Known e "self" := known_outside e (by decide)
  have hown : Known e "Self" := known_outside e (by decide)
  have hstr : Known e "str" := known_outside e (by decide)
  have hbody : (nameFunction e).body.references = "self" :: e.members.map fun _ => e.name := by
    simp [nameFunction, Body.references, List.map_eq_flatMap, List.flatMap_assoc]
  refine known_function ?_ ?_ ?_ ?_
  · simp [nameFunction, hself]
  · simp [nameFunction, typeReferences, hown]
  · simp [nameFunction, staticText, typeReferences, hstr]
  · rw [hbody, List.forall_mem_cons, List.forall_mem_map]
    exact ⟨hself, fun _ _ => known_name e⟩

theorem known_inherentItems :
    ∀ x ∈ (inherentItems e).flatMap Associated.references, Known e x := by
  rw [inherentItems, List.flatMap_append, List.forall_mem_append]
  refine ⟨known_constantItems, ?_⟩
  simp only [List.flatMap_cons, List.flatMap_nil, List.append_nil, List.forall_mem_append]
  exact ⟨known_valuesFunction, known_sizeFunction, known_nameFunction⟩

theorem known_parseItems : ∀ x ∈ (parseItems e).flatMap Associated.references, Known e x := by
  have hs : Known e "s" := known_outside e (by decide)
  have hstr : Known e "str" := known_outside e (by decide)
  have hresult : ∀ x ∈ typeReferences ownResult, Known e x := fun x hx =>
    known_outside e ((by decide : ∀ y ∈ typeReferences ownResult, y ∈ outsideNames ++ keywords) x hx)
  have herror : Known e errorType := known_outside e (by decide)
  have hok : Known e "Ok" := known_outside e (by decide)
  have herr : Known e "Err" := known_outside e (by decide)
  have hbody : (parseFunction e).body.references =
      "s" :: (e.members.flatMap (fun _ => ["Ok", e.name]) ++ ["Err", errorType, "s"]) := by
    simp [parseFunction, Body.references, List.flatMap_map]
  have hfunction : ∀ x ∈ (parseFunction e).references, Known e x := by
    refine known_function ?_ ?_ hresult ?_
    · simp [parseFunction, hs]
    · simp [parseFunction, borrowedText, typeReferences, hstr]
    · rw [hbody, List.forall_mem_cons, List.forall_mem_append, List.forall_mem_flatMap]
      refine ⟨hs, fun m _ => ?_, ?_⟩
      · simp [hok, known_name]
      · simp [herr, herror, hs]
  simp only [parseItems, List.flatMap_cons, List.flatMap_nil, List.append_nil,
    List.forall_mem_append]
  exact ⟨by simp [Associated.references, typeReferences, herror], hfunction⟩

theorem known_operationItems (method : String) (operator : Char) :
    ∀ x ∈ (operationItems e method operator).flatMap Associated.references, Known e x := by
  have hself : Known e "self" := known_outside e (by decide)
  have hown : Known e "Self" := known_outside e (by decide)
  have hrhs : Known e "rhs" := known_outside e (by decide)
  have hfunction : ∀ x ∈ (operationFunction e method operator).references, Known e x := by
    refine known_function ?_ ?_ ?_ ?_
    · simp [operationFunction, hself, hrhs]
    · simp [operationFunction, typeReferences, hown, known_name]
    · simp [operationFunction, typeReferences, known_name]
    · simp [operationFunction, Body.references, hself, hrhs, known_name]
  simp only [operationItems, List.flatMap_cons, List.flatMap_nil, List.append_nil,
    List.forall_mem_append]
  exact ⟨by simp [Associated.references, typeReferences, known_name], hfunction⟩

/-- Showing a value refers to the formatter and to what its body refers to. -/
theorem known_displayItem {type : String} {body : Expression} (htype : Known e type)
    (hbody : ∀ x ∈ body.references, Known e x) :
    ∀ x ∈ (displayItem type body).kind.references, Known e x := by
  have hself : Known e "self" := known_outside e (by decide)
  have hown : Known e "Self" := known_outside e (by decide)
  have hf : Known e "f" := known_outside e (by decide)
  have hmut : Known e "mut" := known_outside e (by decide)
  have hfmt : Known e "fmt" := known_outside e (by decide)
  have hfunction : ∀ x ∈ (displayFunction body).references, Known e x := by
    refine known_function ?_ ?_ ?_ hbody
    · simp [displayFunction, hself, hf]
    · simp [displayFunction, typeReferences, hown, hmut, hfmt]
    · simp [displayFunction, typeReferences, hfmt]
  intro x hx
  simp only [displayItem, Kind.references, Option.bind_some, List.head?_cons, Option.toList_some,
    List.singleton_append, List.mem_cons, List.flatMap_cons, List.flatMap_nil,
    List.append_nil] at hx
  rcases hx with rfl | rfl | hx
  · exact hfmt
  · exact htype
  · exact hfunction x hx

/-- Whatever the form of an enum type, its items refer to what it declares and to what means the
same in every module. -/
theorem known_enumItems : ∀ i ∈ enumItems e, ∀ x ∈ i.kind.references, Known e x := by
  have hstd : Known e "std" := known_outside e (by decide)
  have hfromStr : Known e "FromStr" := known_outside e (by decide)
  have hf : Known e "f" := known_outside e (by decide)
  have hself : Known e "self" := known_outside e (by decide)
  have hshow : ∀ x ∈ (Expression.invoke "f" "write_str" (.method "self" "as_str")).references,
      Known e x := by simp [hf, hself]
  have hoperations : ∀ i ∈ operationsItems e, ∀ x ∈ i.kind.references, Known e x := by
    rw [operationsItems]
    split
    · simp only [List.forall_mem_cons, Kind.references, Option.bind_some, List.head?_cons,
        Option.toList_some, List.singleton_append]
      exact ⟨⟨hstd, known_name e, known_operationItems "bitor" '|'⟩,
        ⟨hstd, known_name e, known_operationItems "bitand" '&'⟩, List.forall_mem_nil _⟩
    · exact List.forall_mem_nil _
  have hkeepAlive : ∀ i ∈ keepAliveItems e, ∀ x ∈ i.kind.references, Known e x := by
    rw [keepAliveItems]
    split
    · exact List.forall_mem_singleton.mpr (known_listed _)
    · exact List.forall_mem_nil _
  simp only [enumItems, List.forall_mem_append, List.forall_mem_cons]
  refine ⟨⟨?_, ?_, known_displayItem (known_name e) hshow, ?_, List.forall_mem_nil _⟩,
    hoperations, hkeepAlive⟩
  · simpa [tupleItem, Kind.references] using known_integerType e
  · simpa [Kind.references, known_name] using known_inherentItems
  · simpa [Kind.references, known_name, hfromStr] using known_parseItems

end References

theorem references_prelude :
    ∀ i ∈ preludeItems, ∀ x ∈ i.kind.references, x ∈ outsideNames ++ keywords := by
  decide

/-- A module refers to what its enum types declare and to what means the same in every module. -/
theorem mem_references_module {enums : List EnumType} {x : String}
    (h : x ∈ (module enums).references) :
    x ∈ enums.flatMap declaredNames ∨ x ∈ outsideNames := by
  obtain ⟨hmem, hkept⟩ := List.mem_filter.mp h
  have hword : x ∉ keywords := by simpa using hkept
  obtain ⟨i, hi, hx⟩ := List.mem_flatMap.mp hmem
  rcases List.mem_append.mp hi with hprelude | henums
  · rcases List.mem_append.mp (references_prelude i hprelude x hx) with houtside | hkeyword
    · exact .inr houtside
    · exact absurd hkeyword hword
  · obtain ⟨e, he, hitem⟩ := List.mem_flatMap.mp henums
    rcases known_enumItems i hitem x hx with hdeclared | houtside | hkeyword
    · exact .inl (List.mem_flatMap.mpr ⟨e, he, hdeclared⟩)
    · exact .inr houtside
    · exact absurd hkeyword hword

/-! ## Artifacts -/

/-- The text behind the header of an artifact, however it is cut off, is one module. -/
theorem module_of_generate {table : EnumTable} {header : Header} {artifact : Artifact}
    (accepted : table.generate .rust header = .ok artifact) {body : String} {m : Module}
    (htext : artifact.text = unlines (header.lines "//") ++ body) (hread : module? body = some m) :
    m = module artifact.enums := by
  have hbody : body = unlines (bodyLines artifact.enums) :=
    String.append_right_inj _ |>.mp (htext.symm.trans (text_of_generate accepted))
  rw [hbody, module?_of_generate accepted] at hread
  exact (Option.some.inj hread).symm

/-- Every name from outside is referred to by some module: a module with a flag set and with an
enum type of signed values refers to all of them. -/
theorem foreign_iff (x : String) : Foreign x ↔ x ∈ outsideNames := by
  constructor
  · rintro ⟨table, header, artifact, body, m, accepted, htext, hread, href, hfree⟩
    obtain rfl := module_of_generate accepted htext hread
    exact (mem_references_module href).resolve_left hfree
  · intro hx
    have accepted := EnumTable.generate_of_checks .rust Panel.resolve_table checkNames_panel ⟨[]⟩
    have hall : ∀ y ∈ outsideNames,
        y ∈ (module [Panel.access, Panel.align, Panel.phase]).references ∧
          y ∉ [Panel.access, Panel.align, Panel.phase].flatMap declaredNames := by decide
    exact ⟨_, _, _, _, _, accepted, text_of_generate accepted, module?_of_generate accepted,
      hall x hx⟩

/-- Which items of a generated module have a name that means something else in it. No artifact
declares a keyword, and of the names from outside it can declare the types of the language alone;
so the items of an artifact are safe exactly where none of them has the name of such a type. -/
theorem shadow_free_iff {table : EnumTable} {header : Header} {artifact : Artifact}
    (accepted : table.generate .rust header = .ok artifact) :
    ∃ body m, artifact.text = unlines (header.lines "//") ++ body ∧ module? body = some m ∧
      m.names = "fmt" :: "FromStr" :: errorType :: artifact.enums.flatMap declaredNames ∧
      (∀ x ∈ artifact.enums.flatMap declaredNames,
        x ∉ keywords ∧ (Foreign x ↔ x ∈ primitives)) ∧
      ((∀ x ∈ artifact.enums.flatMap declaredNames, x ∉ keywords ∧ ¬Foreign x) ↔
        ∀ x ∈ primitives, x ∉ artifact.enums.flatMap declaredNames) := by
  have hfree := (compatible_of_generate accepted).free
  have hkeyword : ∀ x ∈ artifact.enums.flatMap declaredNames, x ∉ keywords := fun x hx hmem =>
    hfree x hx (.inl hmem)
  -- of the names from outside all but the types of the language are reserved
  have hforeign : ∀ x ∈ artifact.enums.flatMap declaredNames, Foreign x ↔ x ∈ primitives := by
    intro x hx
    have houtside : x ∈ outsideNames ↔ x ∈ primitives ∨ x ∈ referenced ∨ x = errorType := by
      simp only [outsideNames, List.mem_append, List.mem_cons]
      tauto
    rw [foreign_iff, houtside]
    exact or_iff_left fun htaken => hfree x hx (.inr htaken)
  refine ⟨_, _, text_of_generate accepted, module?_of_generate accepted, names_module _,
    fun x hx => ⟨hkeyword x hx, hforeign x hx⟩, ?_⟩
  constructor
  · intro hsafe x hx hdeclared
    exact (hsafe x hdeclared).2 ((hforeign x hdeclared).mpr hx)
  · intro hnone x hx
    exact ⟨hkeyword x hx, fun hmeans => hnone x ((hforeign x hx).mp hmeans) hx⟩

/-- A table all of whose names are safe. -/
theorem shadow_free_panel :
    ∃ artifact, Panel.table.generate .rust ⟨["MIT"]⟩ = .ok artifact ∧
      ∀ x ∈ artifact.enums.flatMap declaredNames, x ∉ keywords ∧ ¬Foreign x := by
  have accepted := EnumTable.generate_of_checks .rust Panel.resolve_table checkNames_panel
    ⟨["MIT"]⟩
  obtain ⟨body, m, -, -, -, -, hsafe⟩ := shadow_free_iff accepted
  exact ⟨_, accepted, hsafe.mpr (by decide)⟩

/-- A table is accepted that declares every type of the language that the module refers to, among
them `i32` as a structure whose only field is an `i32`. -/
theorem shadows_primitives :
    ∃ artifact body m, (EnumTable.mk [⟨"bool", [.explicit "A" 1], true, false⟩,
        ⟨"i32", [.named "A"], false, false⟩, ⟨"str", [.named "A"], false, false⟩,
        ⟨"u32", [.explicit "A" 1], true, false⟩,
        ⟨"usize", [.named "A"], false, false⟩]).generate .rust ⟨[]⟩ = .ok artifact ∧
      artifact.text = unlines (Header.lines ⟨[]⟩ "//") ++ body ∧ module? body = some m ∧
      m.tuple? "i32" = some ("i32", [flat deriveTrees, flat reprTrees]) ∧
      ∀ x ∈ primitives, x ∈ artifact.enums.flatMap declaredNames ∧ x ∈ m.references ∧
        Foreign x := by
  have resolved : (EnumTable.mk [⟨"bool", [.explicit "A" 1], true, false⟩,
      ⟨"i32", [.named "A"], false, false⟩, ⟨"str", [.named "A"], false, false⟩,
      ⟨"u32", [.explicit "A" 1], true, false⟩,
      ⟨"usize", [.named "A"], false, false⟩]).resolve =
        .ok [⟨"bool", .u32, false, false, [⟨"A", "A", "a", 1⟩]⟩,
          ⟨"i32", .i32, false, true, [⟨"A", "A", "a", 0⟩]⟩,
          ⟨"str", .i32, false, true, [⟨"A", "A", "a", 0⟩]⟩,
          ⟨"u32", .u32, false, false, [⟨"A", "A", "a", 1⟩]⟩,
          ⟨"usize", .i32, false, true, [⟨"A", "A", "a", 0⟩]⟩] :=
    EnumTable.resolve_of_sorted (by decide) (by decide)
  have accepted := EnumTable.generate_of_checks .rust resolved
    ((checkNames_eq_ok_iff _).mpr ⟨by decide, by decide⟩) ⟨[]⟩
  have compatible := compatible_of_generate accepted
  have hnames : ∀ x ∈ primitives, x ∈ outsideNames := by decide
  refine ⟨_, _, _, accepted, text_of_generate accepted, module?_of_generate accepted,
    tuple?_module (e := ⟨"i32", .i32, false, true, [⟨"A", "A", "a", 0⟩]⟩) compatible (by simp),
    fun x hx => ⟨?_, ?_, (foreign_iff x).mpr (hnames x hx)⟩⟩
  · revert x
    decide
  · revert x
    decide

end EnumBindings.Rust
