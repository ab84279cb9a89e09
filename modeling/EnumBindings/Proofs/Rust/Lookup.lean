import EnumBindings.Proofs.Keyed
import EnumBindings.Proofs.Rust.Reading
import EnumBindings.Proofs.Table

/-!
# Lookups in a generated module

`Compatible` is what the checks before generation establish of the enum types of one module.
Under it nothing is declared twice, and the items implemented for an enum type are found among
all items of the module by the name of the type alone.
-/

namespace EnumBindings.Rust

open EnumBindings.Name (isConstantChar)
open EnumBindings.Source EnumBindings.Text

/-- Enum types that can stand in one module. -/
structure Compatible (enums : List EnumType) : Prop where
  wellFormed : ∀ e ∈ enums, e.WellFormed
  distinct : (enums.flatMap declaredNames).Nodup
  free : ∀ x ∈ enums.flatMap declaredNames, ¬Taken x

theorem compatible_of_checks {table : EnumTable} {enums : List EnumType}
    (resolved : table.resolve = .ok enums) (checked : checkNames enums = .ok ()) :
    Compatible enums := by
  obtain ⟨distinct, free⟩ := (checkNames_eq_ok_iff enums).mp checked
  exact ⟨fun e he => EnumTable.wellFormed_of_mem resolved he, distinct, free⟩

section Accepted

variable {table : EnumTable} {header : Header} {artifact : Artifact}

theorem compatible_of_generate (accepted : table.generate .rust header = .ok artifact) :
    Compatible artifact.enums := by
  obtain ⟨resolved, checked, -⟩ := (EnumTable.generate_eq_ok_iff ..).mp accepted
  exact compatible_of_checks resolved checked

/-- What stands behind the header of an artifact is read as the module of its enum types. -/
theorem module?_of_generate (accepted : table.generate .rust header = .ok artifact) :
    module? (unlines (bodyLines artifact.enums)) = some (module artifact.enums) := by
  have checked := ((EnumTable.generate_eq_ok_iff ..).mp accepted).2.1
  exact module?_body fun e he =>
    readable_of_checkNames checked he ((compatible_of_generate accepted).wellFormed e he)

end Accepted

/-! ## Declared names -/

/-- A name that is declared once is looked up to its item. -/
theorem declared?_eq_some {α : Type} {m : Module} (nodup : m.names.Nodup) {name : String}
    {find : Item → Option α} (named : ∀ i, find i ≠ none → name ∈ i.kind.names)
    {i : Item} (member : i ∈ m.items) {a : α} (found : find i = some a) :
    m.declared? name find = some a := by
  have hmem : name ∈ i.kind.names := named i (by simp [found])
  have hcount : m.names.count name = 1 :=
    List.count_eq_one_of_mem nodup (List.mem_flatMap.mpr ⟨i, member, hmem⟩)
  rw [Module.declared?, if_pos hcount]
  exact Keyed.findSome?_eq_some nodup named member found

theorem mem_names_of_tuple? {type : String} (i : Item) (h : i.tuple? type ≠ none) :
    type ∈ i.kind.names := by
  obtain ⟨attributes, kind⟩ := i
  cases kind with
  | tuple name field =>
      by_cases heq : name = type
      · simp [Kind.names, heq]
      · simp [Item.tuple?, heq] at h
  | _ => exact absurd rfl h

theorem mem_names_of_fields? {type : String} (i : Item) (h : i.fields? type ≠ none) :
    type ∈ i.kind.names := by
  obtain ⟨attributes, kind⟩ := i
  cases kind with
  | record name fields =>
      by_cases heq : name = type
      · simp [Kind.names, heq]
      · simp [Item.fields?, heq] at h
  | _ => exact absurd rfl h

/-- The items of an enum type declare the names that were checked. -/
theorem flatMap_names_enumItems (e : EnumType) :
    (enumItems e).flatMap (·.kind.names) = declaredNames e := by
  rw [declaredNames_eq]
  cases hb : e.isBitset <;> cases hp : e.preserve <;>
    simp [enumItems, tupleItem, displayItem, operationsItems, keepAliveItems, hb, hp, Kind.names,
      listed]

theorem names_module (enums : List EnumType) :
    (module enums).names =
      "fmt" :: "FromStr" :: errorType :: enums.flatMap declaredNames := by
  have henums : (enums.flatMap enumItems).flatMap (·.kind.names) =
      enums.flatMap declaredNames := by
    rw [List.flatMap_assoc]
    exact List.flatMap_congr fun e _ => flatMap_names_enumItems e
  rw [Module.names, module, List.flatMap_append, henums]
  rfl

/-! ## What an enum type implements -/

theorem inherent_enumItems (type : String) (e : EnumType) :
    (enumItems e).flatMap (Item.inherent type) =
      if e.name = type then inherentItems e else [] := by
  cases hb : e.isBitset <;> cases hp : e.preserve <;>
    simp [enumItems, tupleItem, displayItem, operationsItems, keepAliveItems, hb, hp,
      Item.inherent]

/-- The implementations of an enum type are for its own type. -/
theorem implemented?_enumItems_of_ne {type : String} {e : EnumType} (h : e.name ≠ type)
    (trait : List String) : (enumItems e).filterMap (Item.implemented? trait type) = [] := by
  cases hb : e.isBitset <;> cases hp : e.preserve <;>
    simp [enumItems, tupleItem, displayItem, operationsItems, keepAliveItems, hb, hp, h,
      Item.implemented?]

theorem stored?_enumItems (element : String) (e : EnumType) :
    (enumItems e).filterMap (Item.stored? element) =
      if e.preserve ∧ e.name = element then [([[.word "used"]], listed (keepAliveName e) e)]
      else [] := by
  cases hb : e.isBitset <;> cases hp : e.preserve <;> by_cases hname : e.name = element <;>
    simp [enumItems, tupleItem, displayItem, operationsItems, keepAliveItems, hb, hp, hname,
      List.filterMap_cons, Item.stored?, listed]

/-- The integer type of a representation has the values of the representation. -/
theorem fits_integerType (r : Representation) (v : Int) :
    fits (integerType r) v = r.contains v := by
  rw [Bool.eq_iff_iff]
  cases r with
  | i32 =>
      rw [contains_i32_iff]
      simp [integerType, fits]
  | u32 =>
      rw [contains_u32_iff]
      simp [integerType, fits]

section Compatible

variable {enums : List EnumType} (h : Compatible enums)

include h

theorem nodup_names_module : (module enums).names.Nodup := by
  rw [names_module, List.nodup_cons, List.nodup_cons, List.nodup_cons]
  simp only [List.mem_cons, not_or]
  -- the two imported names are reserved as referred to, the error type by itself
  refine ⟨⟨by decide, by decide, fun hmem => ?_⟩, ⟨by decide, fun hmem => ?_⟩, fun hmem => ?_,
    h.distinct⟩
  · exact h.free _ hmem (.inr (.inl (by decide)))
  · exact h.free _ hmem (.inr (.inl (by decide)))
  · exact h.free _ hmem (.inr (.inr rfl))

/-- Enum types are told apart by their names. -/
theorem nodup_map_name : (enums.map (·.name)).Nodup :=
  EnumType.nodup_map_name name_mem_declaredNames h.distinct

theorem fields?_errorType : (module enums).fields? errorType = some errorFields := by
  have hmem : Item.mk [flat errorAttribute] (.record errorType errorFields) ∈
      (module enums).items := List.mem_append_left _ (by simp [preludeItems])
  exact declared?_eq_some (nodup_names_module h) mem_names_of_fields? hmem
    (by simp [Item.fields?])

variable {e : EnumType} (he : e ∈ enums)

include he

theorem name_ne_errorType : e.name ≠ errorType := by
  intro heq
  exact h.free e.name (List.mem_flatMap.mpr ⟨e, he, name_mem_declaredNames e⟩)
    (.inr (.inr heq))

theorem tuple?_module : (module enums).tuple? e.name =
    some (integerType e.representation, [flat deriveTrees, flat reprTrees]) := by
  have hmem : tupleItem e ∈ (module enums).items :=
    List.mem_append_right _ (List.mem_flatMap.mpr ⟨e, he, by simp [enumItems]⟩)
  exact declared?_eq_some (nodup_names_module h) mem_names_of_tuple? hmem
    (by simp [Item.tuple?, tupleItem])

/-- The type of an enum type has the values of its representation. -/
theorem holds_module (v : Int) :
    (module enums).holds e.name v = e.representation.contains v := by
  rw [Module.holds, tuple?_module h he, Option.any_some, fits_integerType]

theorem comparable_module : (module enums).comparable e.name = true := by
  have hderives : (derives "PartialEq" [flat deriveTrees, flat reprTrees] &&
      derives "Eq" [flat deriveTrees, flat reprTrees]) = true := by decide
  rw [Module.comparable, tuple?_module h he, Option.any_some]
  exact hderives

theorem inherent_module : (module enums).inherent e.name = inherentItems e := by
  rw [Module.inherent, module, List.flatMap_append, List.flatMap_assoc,
    Keyed.flatMap_eq (·.name) (nodup_map_name h) he, inherent_enumItems]
  · simp [preludeItems, displayItem, Item.inherent]
  · intro other _ hne
    rw [inherent_enumItems, if_neg hne]

/-- An implementation for an enum type stands among its own items. -/
theorem filterMap_implemented?_module (trait : List String) :
    (module enums).items.filterMap (Item.implemented? trait e.name) =
      (enumItems e).filterMap (Item.implemented? trait e.name) := by
  -- the prelude implements its traits for the error type alone
  have hprelude : preludeItems.filterMap (Item.implemented? trait e.name) = [] := by
    simp [preludeItems, displayItem, Item.implemented?, (name_ne_errorType h he).symm]
  rw [module, List.filterMap_append, hprelude, List.nil_append, List.filterMap_flatMap]
  exact Keyed.flatMap_eq (·.name) (nodup_map_name h) he
    fun other _ hne => implemented?_enumItems_of_ne hne trait

theorem storeds_module : (module enums).storeds e.name =
    if e.preserve then [([[.word "used"]], listed (keepAliveName e) e)] else [] := by
  rw [Module.storeds, module, List.filterMap_append, List.filterMap_flatMap,
    Keyed.flatMap_eq (·.name) (nodup_map_name h) he, stored?_enumItems]
  · simp [preludeItems, displayItem, Item.stored?]
  · intro other _ hne
    rw [stored?_enumItems, if_neg fun hboth => hne hboth.2]

end Compatible

/-! ## Inherent items -/

/-- Constant names have no small letters, so a name with one is none. -/
theorem constantName_ne {e : EnumType} (wf : e.WellFormed) {m : Member} (hm : m ∈ e.members)
    {x : String} (hx : x.toList.all isConstantChar = false) : m.constantName ≠ x := by
  rintro rfl
  have hall : ∀ c ∈ (Name.upperSnake m.name).toList, isConstantChar c = true :=
    fun c hc => Name.mem_upperSnake_toList (wf.memberNames m hm) hc
  rw [wf.constantName m hm, List.all_eq_true.mpr hall] at hx
  cases hx

/-- The name of the function that only flag sets, or only other enum types, have. -/
def sizeName (e : EnumType) : String := if e.isBitset then "contains" else "count"

theorem name_sizeFunction (e : EnumType) : (sizeFunction e).name = sizeName e := by
  rw [sizeFunction, sizeName]
  split <;> rfl

theorem map_name_inherentItems (e : EnumType) :
    (inherentItems e).map Associated.name =
      e.members.map (·.constantName) ++ ["values", sizeName e, "as_str"] := by
  simp [inherentItems, constantItems, Associated.name, valuesFunction, name_sizeFunction,
    nameFunction, Function.comp_def]

theorem nodup_map_name_inherentItems {e : EnumType} (wf : e.WellFormed) :
    ((inherentItems e).map Associated.name).Nodup := by
  have hfunctions : ["values", sizeName e, "as_str"].Nodup := by
    rw [sizeName]
    split <;> decide
  -- the functions have small letters and the constants have none
  have hsmall : ∀ x ∈ ["values", sizeName e, "as_str"],
      x.toList.all isConstantChar = false := by
    rw [sizeName]
    split <;> decide
  rw [map_name_inherentItems, List.nodup_append]
  refine ⟨wf.constantNames, hfunctions, fun a ha b hb => ?_⟩
  obtain ⟨m, hm, rfl⟩ := List.mem_map.mp ha
  exact constantName_ne wf hm (hsmall b hb)

/-- The constants among the inherent items. -/
theorem filterMap_constant?_inherentItems (e : EnumType) :
    (inherentItems e).filterMap (Associated.constant? e.name) =
      e.members.map fun m => (m.constantName, m.value) := by
  simp [inherentItems, constantItems, List.filterMap_cons, Associated.constant?,
    List.filterMap_map, Function.comp_def]

section Inherent

variable {enums : List EnumType} (h : Compatible enums) {e : EnumType} (he : e ∈ enums)

include h he

theorem constants_module : (module enums).constants e.name =
    e.members.map fun m => (m.constantName, m.value) := by
  rw [Module.constants, inherent_module h he, filterMap_constant?_inherentItems]

/-- Every inherent item is looked up by its name. -/
theorem associated?_of_mem {a : Associated} (ha : a ∈ inherentItems e) :
    (module enums).associated? e.name a.name = some a := by
  have hnodup := nodup_map_name_inherentItems (h.wellFormed e he)
  have hcount : ((inherentItems e).map Associated.name).count a.name = 1 :=
    List.count_eq_one_of_mem hnodup (List.mem_map_of_mem ha)
  rw [Module.associated?, inherent_module h he, if_pos hcount]
  exact Keyed.find?_eq_some Associated.name hnodup ha

/-- A call of an inherent function applies it. -/
theorem call?_eq_answer? {f : Function} (hf : .function f ∈ inherentItems e)
    (arguments : List Value) : (module enums).call? e.name f.name arguments =
      (module enums).answer? ⟨e.name, none⟩ f arguments := by
  have hfound : (module enums).associated? e.name f.name = some (.function f) :=
    associated?_of_mem h he hf
  simp [Module.call?, hfound, Associated.function?]

theorem constant?_constantName {m : Member} (hm : m ∈ e.members) :
    (module enums).constant? e.name m.constantName = some m.value := by
  have hmem : .constant m.constantName e.name (.call e.name (.number m.value)) ∈
      inherentItems e :=
    List.mem_append_left _ (List.mem_map.mpr ⟨m, hm, rfl⟩)
  have hfound : (module enums).associated? e.name m.constantName =
      some (.constant m.constantName e.name (.call e.name (.number m.value))) :=
    associated?_of_mem h he hmem
  have hrange := (h.wellFormed e he).range m hm
  simp [Module.constant?, hfound, Associated.constant?, holds_module h he, hrange]

/-- A function is there when it is one of the three that the enum type has. -/
theorem has_module {x : String} (hx : x.toList.all isConstantChar = false) :
    (module enums).has e.name x = true ↔ x = "values" ∨ x = sizeName e ∨ x = "as_str" := by
  have hmem : (module enums).has e.name x = true ↔
      x ∈ (inherentItems e).map Associated.name := by
    simp [Module.has, inherent_module h he]
  have hconstants : x ∉ e.members.map (·.constantName) := by
    intro hmem
    obtain ⟨m, hm, rfl⟩ := List.mem_map.mp hmem
    exact constantName_ne (h.wellFormed e he) hm hx rfl
  rw [hmem, map_name_inherentItems, List.mem_append]
  simp [hconstants]

theorem has_count : (module enums).has e.name "count" = !e.isBitset := by
  rw [Bool.eq_iff_iff, has_module h he (by decide), sizeName]
  cases e.isBitset <;> simp

theorem has_contains : (module enums).has e.name "contains" = e.isBitset := by
  rw [Bool.eq_iff_iff, has_module h he (by decide), sizeName]
  cases e.isBitset <;> simp

end Inherent

/-! ## Traits -/

/-- The operations on flags: their traits, methods and operators. -/
def operations : List (String × String × Char) :=
  [("BitOr", "bitor", '|'), ("BitAnd", "bitand", '&')]

section Traits

variable {enums : List EnumType} (h : Compatible enums) {e : EnumType} (he : e ∈ enums)

include h he

theorem implemented?_fromStr :
    (module enums).implemented? ["FromStr"] e.name = some (parseItems e) := by
  have hitems : (enumItems e).filterMap (Item.implemented? ["FromStr"] e.name) =
      [parseItems e] := by
    cases hb : e.isBitset <;> cases hp : e.preserve <;>
      simp [enumItems, tupleItem, displayItem, operationsItems, keepAliveItems, hb, hp,
        List.filterMap_cons, Item.implemented?]
  rw [Module.implemented?, filterMap_implemented?_module h he, hitems]

omit h he in
/-- The operations are implemented for flag sets alone. -/
theorem implemented?_enumItems_operation (e : EnumType) {trait method : String} {operator : Char}
    (ho : (trait, method, operator) ∈ operations) :
    (enumItems e).filterMap (Item.implemented? ["std", "ops", trait] e.name) =
      if e.isBitset then [operationItems e method operator] else [] := by
  simp only [operations, List.mem_cons, Prod.mk.injEq, List.not_mem_nil, or_false] at ho
  rcases ho with ⟨rfl, rfl, rfl⟩ | ⟨rfl, rfl, rfl⟩ <;> cases hb : e.isBitset <;>
    cases hp : e.preserve <;>
    simp [enumItems, tupleItem, displayItem, operationsItems, keepAliveItems, hb, hp,
      List.filterMap_cons, Item.implemented?]

theorem implements_operation {trait method : String} {operator : Char}
    (ho : (trait, method, operator) ∈ operations) :
    (module enums).implements ["std", "ops", trait] e.name = e.isBitset := by
  have hany : (module enums).implements ["std", "ops", trait] e.name =
      !((module enums).items.filterMap
        (Item.implemented? ["std", "ops", trait] e.name)).isEmpty := by
    rw [Module.implements, Bool.eq_iff_iff]
    simp [Option.isSome_iff_ne_none]
  rw [hany, filterMap_implemented?_module h he, implemented?_enumItems_operation e ho]
  cases e.isBitset <;> rfl

theorem implemented?_operation (hbitset : e.isBitset = true) {trait method : String}
    {operator : Char} (ho : (trait, method, operator) ∈ operations) :
    (module enums).implemented? ["std", "ops", trait] e.name =
      some (operationItems e method operator) := by
  rw [Module.implemented?, filterMap_implemented?_module h he,
    implemented?_enumItems_operation e ho, if_pos hbitset]

end Traits

end EnumBindings.Rust
