import EnumBindings.Proofs.Go.Meaning
import EnumBindings.Proofs.Go.Reading

/-!
# Lookups in a generated program

`Compatible` is what the checks before generation establish of the enum types of one file. Under
it the file is read as one program (`readsAs_iff`) in which nothing is declared twice, so every
name of an enum type is looked up to what that enum type declares: its integer type, its
constants, its two functions.
-/

namespace EnumBindings.Go

open EnumBindings.Source EnumBindings.Text

/-- Enum types that can stand in one file. -/
structure Compatible (enums : List EnumType) : Prop where
  wellFormed : ∀ e ∈ enums, e.WellFormed
  distinct : (enums.flatMap declaredNames).Nodup
  free : ∀ x ∈ enums.flatMap declaredNames, ¬Taken x

theorem compatible_of_checks {table : EnumTable} {enums : List EnumType}
    (resolved : table.resolve = .ok enums) (checked : checkNames enums = .ok ()) :
    Compatible enums := by
  obtain ⟨distinct, free⟩ := (checkNames_eq_ok_iff enums).mp checked
  exact ⟨fun e he => EnumTable.wellFormed_of_mem resolved he, distinct, free⟩

/-- Behind its header and its package clause the text of an artifact is read as a program. -/
def ReadsAs (artifact : Artifact) (package : String) (header : Header) (p : Program) :
    Prop :=
  ∃ body, artifact.text = unlines (headLines package header) ++ body ∧ program? body = some p

section Accepted

variable {table : EnumTable} {package : String} {header : Header} {artifact : Artifact}

theorem compatible_of_generate (accepted : table.generate (.go package) header = .ok artifact) :
    Compatible artifact.enums := by
  obtain ⟨resolved, checked, -⟩ := (EnumTable.generate_eq_ok_iff ..).mp accepted
  exact compatible_of_checks resolved checked

/-- What stands behind the package clause of an artifact is read as the program of its enum
types. -/
theorem program?_of_generate (accepted : table.generate (.go package) header = .ok artifact) :
    program? (unlines (bodyLines artifact.enums)) = some (program artifact.enums) := by
  have checked := ((EnumTable.generate_eq_ok_iff ..).mp accepted).2.1
  exact program?_body fun e he =>
    readable_of_checkNames checked he ((compatible_of_generate accepted).wellFormed e he)

/-- The one program that the text of an artifact is read as. -/
theorem readsAs_iff (accepted : table.generate (.go package) header = .ok artifact)
    (p : Program) :
    ReadsAs artifact package header p ↔ p = program artifact.enums := by
  have htext := text_of_generate accepted
  have hread := program?_of_generate accepted
  constructor
  · rintro ⟨body, heq, hbody⟩
    obtain rfl : unlines (bodyLines artifact.enums) = body :=
      (String.append_right_inj _).mp (htext.symm.trans heq)
    exact Option.some.inj (hbody.symm.trans hread)
  · rintro rfl
    exact ⟨_, htext, hread⟩

end Accepted

theorem checkNames_panel : checkNames [Panel.access, Panel.align, Panel.phase] = .ok () :=
  (checkNames_eq_ok_iff _).mpr ⟨by decide, by decide⟩

/-! ## Looking up declarations -/

/-- A name that is declared once is looked up to its declaration. -/
theorem declared?_eq_some {α : Type} {p : Program} (nodup : p.names.Nodup) {name : String}
    {find : Declaration → Option α} (named : ∀ d, find d ≠ none → name ∈ d.names)
    {d : Declaration} (member : d ∈ p.declarations) {a : α} (found : find d = some a) :
    p.declared? name find = some a := by
  have hmem : name ∈ d.names := named d (by simp [found])
  have hcount : p.names.count name = 1 :=
    List.count_eq_one_of_mem nodup (List.mem_flatMap.mpr ⟨d, member, hmem⟩)
  rw [Program.declared?, if_pos hcount]
  exact Keyed.findSome?_eq_some nodup named member found

theorem mem_names_of_underlying? {type : String} (d : Declaration)
    (h : d.underlying? type ≠ none) : type ∈ d.names := by
  cases d with
  | defined name underlying =>
      by_cases heq : name = type
      · simp [Declaration.names, heq]
      · simp [Declaration.underlying?, heq] at h
  | _ => exact absurd rfl h

theorem mem_names_of_fields? {type : String} (d : Declaration)
    (h : d.fields? type ≠ none) : type ∈ d.names := by
  cases d with
  | record name fields =>
      by_cases heq : name = type
      · simp [Declaration.names, heq]
      · simp [Declaration.fields?, heq] at h
  | _ => exact absurd rfl h

theorem mem_names_of_callable? {name : String} (d : Declaration)
    (h : d.callable? name ≠ none) : name ∈ d.names := by
  cases d with
  | function f =>
      simp only [Declaration.callable?, ne_eq, ite_eq_right_iff, reduceCtorEq, imp_false,
        not_not, Bool.and_eq_true, beq_iff_eq] at h
      simp [Declaration.names, h.1, h.2]
  | _ => exact absurd rfl h

theorem mem_map_name_of_mem_blockConstants {specs : List ConstantSpec} {type : Option String}
    {value : Option Operand} {line : Nat} {c : Constant}
    (h : c ∈ blockConstants type value line specs) : c.name ∈ specs.map (·.name) := by
  induction specs generalizing type value line with
  | nil => cases h
  | cons spec rest ih =>
      rw [List.map_cons]
      rcases List.mem_append.mp h with hfirst | hrest
      · obtain ⟨v, -, rfl⟩ := Option.map_eq_some_iff.mp (Option.mem_toList.mp hfirst)
        exact List.mem_cons_self
      · exact List.mem_cons_of_mem _ (ih hrest)

theorem mem_names_of_constant? {name : String} (d : Declaration)
    (h : d.constant? name ≠ none) : name ∈ d.names := by
  obtain ⟨c, hc⟩ := Option.ne_none_iff_exists'.mp h
  have hname : c.name = name := by simpa using List.find?_some hc
  have hmem : c ∈ d.constantValues := List.mem_of_find?_eq_some hc
  cases d with
  | constants specs => exact hname ▸ mem_map_name_of_mem_blockConstants hmem
  | _ => cases hmem

/-! ## Declared names -/

theorem map_name_constantSpecs (e : EnumType) :
    (constantSpecs e).map (·.name) = e.members.map (constantName e) := by
  rw [constantSpecs]
  split
  · rw [positionalSpecs]
    cases e.members with
    | nil => rfl
    | cons first rest => simp [Function.comp_def]
  · simp [explicitSpecs, Function.comp_def]

/-- The declarations of an enum type declare the names that were checked. -/
theorem flatMap_names_enumDeclarations (e : EnumType) :
    (enumDeclarations e).flatMap Declaration.names = declaredNames e := by
  rw [declaredNames_eq]
  cases hb : e.isBitset <;> cases hp : e.preserve <;>
    simp [enumDeclarations, countDeclarations, keepAliveDeclarations, hb, hp,
      Declaration.names, map_name_constantSpecs, stringFunction, parseFunction]

theorem names_program (enums : List EnumType) :
    (program enums).names = "fmt" :: errorType :: enums.flatMap declaredNames := by
  have henums : (enums.flatMap enumDeclarations).flatMap Declaration.names =
      enums.flatMap declaredNames := by
    rw [List.flatMap_assoc]
    exact List.flatMap_congr fun e _ => flatMap_names_enumDeclarations e
  rw [Program.names, program, List.flatMap_append, henums]
  rfl

theorem mem_names_program {enums : List EnumType} {e : EnumType} (he : e ∈ enums) {x : String}
    (hx : x ∈ declaredNames e) : x ∈ (program enums).names := by
  rw [names_program]
  exact List.mem_cons_of_mem _ (List.mem_cons_of_mem _ (List.mem_flatMap.mpr ⟨e, he, hx⟩))

/-! ## Values of constants -/

/-- The constant of a member. -/
def memberConstant (e : EnumType) (m : Member) : Constant :=
  ⟨constantName e m, some e.name, m.value⟩

theorem blockConstants_explicit (e : EnumType) (members : List Member) (type : Option String)
    (value : Option Operand) (line : Nat) :
    blockConstants type value line (members.map fun m =>
        ⟨constantName e m, some e.name, some (.number m.value)⟩) =
      members.map (memberConstant e) := by
  induction members generalizing type value line with
  | nil => rfl
  | cons m rest ih =>
      rw [List.map_cons, blockConstants, ih]
      rfl

/-- Repeated lines count on from the line that they repeat. -/
theorem blockConstants_repeated (e : EnumType) (members : List Member) (line : Nat) :
    blockConstants (some e.name) (some (.name "iota")) line (members.map fun m =>
        ⟨constantName e m, none, none⟩) =
      (members.zipIdx line).map fun p => ⟨constantName e p.1, some e.name, p.2⟩ := by
  induction members generalizing line with
  | nil => rfl
  | cons m rest ih =>
      rw [List.map_cons, List.zipIdx_cons, List.map_cons, ← ih]
      rfl

theorem blockConstants_positional {e : EnumType}
    (position : e.members.map (·.value) = (List.range e.count).map Int.ofNat) :
    blockConstants none none 0 (positionalSpecs e) = e.members.map (memberConstant e) := by
  have hcount : blockConstants none none 0 (positionalSpecs e) =
      e.members.zipIdx.map fun p => ⟨constantName e p.1, some e.name, p.2⟩ := by
    rw [positionalSpecs]
    cases e.members with
    | nil => rfl
    | cons first rest =>
        rw [List.zipIdx_cons, List.map_cons, ← blockConstants_repeated]
        rfl
  rw [hcount]
  -- line `i` of the block has the position as its value, and so has member `i`
  refine List.ext_getElem (by simp) fun i hleft hright => ?_
  have hi : i < (e.members.map (·.value)).length := by simpa using hright
  have hvalue : (e.members.map (·.value))[i] = Int.ofNat i := by
    simp [position]
  rw [List.getElem_map] at hvalue
  simp [memberConstant, hvalue]

/-- The block of constants gives every member its value. -/
theorem blockConstants_constantSpecs {e : EnumType} (wf : e.WellFormed) :
    blockConstants none none 0 (constantSpecs e) = e.members.map (memberConstant e) := by
  rw [constantSpecs]
  split
  · rename_i hpos
    exact blockConstants_positional (wf.position hpos).2
  · exact blockConstants_explicit e e.members none none 0

/-- The integer type of a representation has the values of the representation. -/
theorem fits_integerType (r : Representation) (v : Int) :
    fits (integerType r) v = r.contains v := by
  rw [Bool.eq_iff_iff]
  cases r with
  | i32 =>
      rw [contains_i32_iff]
      simp [integerType, fits]
  | u32 =>
      rw [contains_u32_iff]
      simp [integerType, fits]

/-! ## Lookups -/

section Compatible

variable {enums : List EnumType} (h : Compatible enums)

include h

theorem nodup_names_program : (program enums).names.Nodup := by
  rw [names_program, List.nodup_cons, List.nodup_cons, List.mem_cons, not_or]
  refine ⟨⟨by decide, fun hmem => ?_⟩, fun hmem => ?_, h.distinct⟩
  · exact h.free _ hmem (.inr (.inr (.inl rfl)))
  · exact h.free _ hmem (.inr (.inr (.inr rfl)))

/-- Enum types are told apart by their names. -/
theorem nodup_map_name : (enums.map (·.name)).Nodup :=
  EnumType.nodup_map_name name_mem_declaredNames h.distinct

theorem nodup_constantNames {e : EnumType} (he : e ∈ enums) :
    (e.members.map (constantName e)).Nodup := by
  have hnames := (List.nodup_flatMap.mp h.distinct).1 e he
  rw [declaredNames_eq, List.nodup_cons] at hnames
  exact (List.nodup_append.mp hnames.2).1

variable {e : EnumType} (he : e ∈ enums)

omit h in
theorem mem_declarations_program {d : Declaration} (hd : d ∈ enumDeclarations e) (he : e ∈ enums) :
    d ∈ (program enums).declarations :=
  List.mem_append_right _ (List.mem_flatMap.mpr ⟨e, he, hd⟩)

include he

theorem underlying?_program :
    (program enums).underlying? e.name = some (integerType e.representation) := by
  have hmem : Declaration.defined e.name (integerType e.representation) ∈ enumDeclarations e := by
    simp [enumDeclarations]
  exact declared?_eq_some (nodup_names_program h) mem_names_of_underlying?
    (mem_declarations_program hmem he) (by simp [Declaration.underlying?])

/-- The type of an enum type has the values of its representation. -/
theorem holds_program (v : Int) :
    (program enums).holds e.name v = e.representation.contains v := by
  rw [Program.holds, underlying?_program h he, Option.any_some, fits_integerType]

theorem constant?_constantName {m : Member} (hm : m ∈ e.members) :
    (program enums).constant? (constantName e m) = some (memberConstant e m) := by
  have wf := h.wellFormed e he
  have hmem : Declaration.constants (constantSpecs e) ∈ enumDeclarations e := by
    simp [enumDeclarations]
  have hnodup : ((e.members.map (memberConstant e)).map Constant.name).Nodup := by
    simpa [memberConstant, Function.comp_def] using nodup_constantNames h he
  have hfind : (Declaration.constants (constantSpecs e)).constant? (constantName e m) =
      some (memberConstant e m) := by
    rw [Declaration.constant?, Declaration.constantValues, blockConstants_constantSpecs wf]
    exact Keyed.find?_eq_some Constant.name hnodup (List.mem_map_of_mem hm)
  rw [Program.constant?, declared?_eq_some (nodup_names_program h) mem_names_of_constant?
    (mem_declarations_program hmem he) hfind]
  simp [memberConstant, holds_program h he, wf.range m hm]

theorem constant?_countName (hbitset : e.isBitset = false) :
    (program enums).constant? (countName e) = some ⟨countName e, none, e.count⟩ := by
  have hmem : Declaration.constants [⟨countName e, none, some (.number e.count)⟩] ∈
      enumDeclarations e := by
    simp [enumDeclarations, countDeclarations, hbitset]
  have hfind : (Declaration.constants
      [⟨countName e, none, some (.number e.count)⟩]).constant? (countName e) =
        some ⟨countName e, none, e.count⟩ := by
    simp [Declaration.constant?, Declaration.constantValues, blockConstants, initial?]
  rw [Program.constant?, declared?_eq_some (nodup_names_program h) mem_names_of_constant?
    (mem_declarations_program hmem he) hfind]
  rfl

theorem function?_parseName :
    (program enums).function? (parseName e) = some (parseFunction e) := by
  have hmem : Declaration.function (parseFunction e) ∈ enumDeclarations e := by
    simp [enumDeclarations]
  exact declared?_eq_some (nodup_names_program h) mem_names_of_callable?
    (mem_declarations_program hmem he) (by simp [Declaration.callable?, parseFunction])

end Compatible

/-! ## Functions and methods -/

theorem filterMap_function?_enumDeclarations (e : EnumType) :
    (enumDeclarations e).filterMap Declaration.function? =
      [stringFunction e, parseFunction e] := by
  cases hb : e.isBitset <;> cases hp : e.preserve <;>
    simp [enumDeclarations, countDeclarations, keepAliveDeclarations, hb, hp,
      List.filterMap_cons, Declaration.function?]

theorem functions_program (enums : List EnumType) :
    (program enums).functions =
      errorFunction :: enums.flatMap fun e => [stringFunction e, parseFunction e] := by
  have henums : (enums.flatMap enumDeclarations).filterMap Declaration.function? =
      enums.flatMap fun e => [stringFunction e, parseFunction e] := by
    rw [List.filterMap_flatMap]
    exact List.flatMap_congr fun e _ => filterMap_function?_enumDeclarations e
  rw [Program.functions, program, List.filterMap_append, henums]
  rfl

theorem isError_errorType (enums : List EnumType) :
    (program enums).isError errorType = true := by
  rw [Program.isError, functions_program, List.any_cons]
  rfl

theorem method?_program {enums : List EnumType} (h : Compatible enums) {e : EnumType}
    (he : e ∈ enums) : (program enums).method? e.name "String" = some (stringFunction e) := by
  have hfilter : ((program enums).functions.filter fun f =>
      f.receiver.any (fun r => r.type == e.name && !r.pointer) && f.name == "String") =
        [stringFunction e] := by
    rw [functions_program, List.filter_cons_of_neg (by simp [errorFunction]),
      List.filter_flatMap, Keyed.flatMap_eq (·.name) (nodup_map_name h) he]
    · simp [stringFunction, parseFunction]
    · intro other _ hne
      simp [stringFunction, parseFunction, hne]
  rw [Program.method?, hfilter]

theorem fields?_errorType {enums : List EnumType} (h : Compatible enums) :
    (program enums).fields? errorType = some [("Type", "string"), ("Value", "string")] := by
  have hmem : Declaration.record errorType [("Type", "string"), ("Value", "string")] ∈
      (program enums).declarations :=
    List.mem_append_left _ (by simp [preludeDeclarations])
  exact declared?_eq_some (nodup_names_program h) mem_names_of_fields? hmem
    (by simp [Declaration.fields?])

/-! ## Sections of the program -/

/-- The constants that an enum type declares. -/
def enumConstants (e : EnumType) : List Constant :=
  e.members.map (memberConstant e) ++ if e.isBitset then [] else [⟨countName e, none, e.count⟩]

theorem constants_program {enums : List EnumType} (h : Compatible enums) :
    (program enums).constants = enums.flatMap enumConstants := by
  have hvalues : ∀ e ∈ enums, (enumDeclarations e).flatMap Declaration.constantValues =
      enumConstants e := by
    intro e he
    have hconstants := blockConstants_constantSpecs (h.wellFormed e he)
    cases hb : e.isBitset <;> cases hp : e.preserve <;>
      simp [enumConstants, enumDeclarations, countDeclarations, keepAliveDeclarations, hb, hp,
        Declaration.constantValues, hconstants, blockConstants, initial?]
  rw [Program.constants, program, List.flatMap_append, List.flatMap_assoc,
    List.flatMap_congr hvalues]
  rfl

theorem typed_constants_program {enums : List EnumType} (h : Compatible enums) {e : EnumType}
    (he : e ∈ enums) :
    (program enums).constants.filter (·.type == some e.name) =
      e.members.map (memberConstant e) := by
  rw [constants_program h, List.filter_flatMap,
    Keyed.flatMap_eq (·.name) (nodup_map_name h) he]
  · have hall : ∀ c ∈ e.members.map (memberConstant e), (c.type == some e.name) = true :=
      List.forall_mem_map.mpr fun m _ => by simp [memberConstant]
    rw [enumConstants, List.filter_append, List.filter_eq_self.mpr hall]
    split <;> simp
  · intro other _ hne
    rw [enumConstants, List.filter_append, List.append_eq_nil_iff]
    refine ⟨List.filter_eq_nil_iff.mpr (List.forall_mem_map.mpr fun m _ => ?_), ?_⟩
    · simpa [memberConstant] using hne
    · split <;> simp

/-- The only constants without a type are the counts. -/
theorem mem_untyped_constants_program {enums : List EnumType} (h : Compatible enums)
    {c : Constant} (hc : c ∈ (program enums).constants) (untyped : c.type = none) :
    ∃ e ∈ enums, e.isBitset = false ∧ c = ⟨countName e, none, e.count⟩ := by
  rw [constants_program h, List.mem_flatMap] at hc
  obtain ⟨e, he, hc⟩ := hc
  rcases List.mem_append.mp hc with hmember | hcount
  · obtain ⟨m, -, rfl⟩ := List.mem_map.mp hmember
    cases untyped
  · split at hcount
    · cases hcount
    · rename_i hbitset
      exact ⟨e, he, by simpa using hbitset, List.mem_singleton.mp hcount⟩

theorem mem_constants_of_constant? {p : Program} {x : String} {c : Constant}
    (h : p.constant? x = some c) : c ∈ p.constants ∧ c.name = x := by
  have hdeclared : p.declared? x (Declaration.constant? x) = some c :=
    (Option.filter_eq_some_iff.mp h).1
  rw [Program.declared?] at hdeclared
  split at hdeclared
  · obtain ⟨d, hd, hfind⟩ := List.exists_of_findSome?_eq_some hdeclared
    exact ⟨List.mem_flatMap.mpr ⟨d, hd, List.mem_of_find?_eq_some hfind⟩,
      by simpa using List.find?_some hfind⟩
  · cases hdeclared

/-- A count is declared for enum types that are no flag sets, and has the number of members. -/
theorem constant?_countName_iff {enums : List EnumType} (h : Compatible enums) {e : EnumType}
    (he : e ∈ enums) (n : Int) :
    (program enums).constant? (countName e) = some ⟨countName e, none, n⟩ ↔
      e.isBitset = false ∧ n = e.count := by
  constructor
  · intro hfound
    obtain ⟨hmem, -⟩ := mem_constants_of_constant? hfound
    -- the constant that was found is the count of some enum type; its name says which
    obtain ⟨other, hother, hbitset, heq⟩ := mem_untyped_constants_program h hmem rfl
    have hcount : countName e = countName other := congrArg Constant.name heq
    have hname : e.name = other.name := (String.append_left_inj "Count").mp hcount
    obtain rfl : e = other := List.inj_on_of_nodup_map (nodup_map_name h) he hother hname
    exact ⟨hbitset, congrArg Constant.value heq⟩
  · rintro ⟨hbitset, rfl⟩
    exact constant?_countName h he hbitset

theorem blanks_program {enums : List EnumType} (h : Compatible enums) {e : EnumType}
    (he : e ∈ enums) :
    (program enums).blanks e.name =
      if e.preserve then [e.members.map fun m => .name (constantName e m)] else [] := by
  have hblank : ∀ x, (enumDeclarations x).filterMap (Declaration.blank? e.name) =
      if x.preserve ∧ x.name = e.name then [x.members.map fun m => .name (constantName x m)]
      else [] := by
    intro x
    cases hb : x.isBitset <;> cases hp : x.preserve <;>
      by_cases hname : x.name = e.name <;>
      simp [enumDeclarations, countDeclarations, keepAliveDeclarations, hb, hp, hname,
        List.filterMap_cons, Declaration.blank?]
  rw [Program.blanks, program, List.filterMap_append, List.filterMap_flatMap,
    Keyed.flatMap_eq (·.name) (nodup_map_name h) he, hblank]
  · simp [preludeDeclarations, Declaration.blank?]
  · intro other _ hne
    rw [hblank]
    simp [hne]

end EnumBindings.Go
