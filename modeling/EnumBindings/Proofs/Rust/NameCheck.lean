import EnumBindings.Proofs.Rust.Lookup

/-!
# The name check and the names of the text

Two traversals of the enum types have to stay in step: the check, which claims the names of the
module, and the text, which declares them. `text_declares_checked_items` puts the outline of the
text beside the check, and says of the names inside each implementation, which no check claims,
that they are apart and valid by the way they are made.
-/

namespace EnumBindings.Rust

open EnumBindings.Name (IsIdentifier)
open EnumBindings.Source EnumBindings.Text

/-! ## Names of items -/

/-- The names that an enum type has inside its implementation. -/
def inherentNames (e : EnumType) : List String :=
  e.members.map (·.constantName) ++ ["values", sizeName e, "as_str"]

section Items

variable (e : EnumType)

theorem associatedName?_sizeChunk : associatedName? (sizeChunk e) = some (sizeName e) := by
  rw [sizeChunk, sizeName]
  split <;> rfl

theorem mapM_associatedName?_inherentChunks :
    (inherentChunks e).mapM associatedName? = some (inherentNames e) := by
  have hconstants : (e.members.map (constantChunk e)).mapM associatedName? =
      some (e.members.map (·.constantName)) := by
    refine mapM_map_eq_some fun m _ => ?_
    simp [constantChunk, associatedName?, unmarked, bareName?]
  have hvalues : associatedName? (valuesChunk e) = some "values" := rfl
  have hname : associatedName? (nameChunk e) = some "as_str" := rfl
  simp [inherentChunks, inherentNames, List.mapM_append, hconstants, hvalues,
    associatedName?_sizeChunk, hname]

/-- The names that each item of an enum type gives to the module. -/
def itemNames : List (List String) :=
  [[e.name], [], [], []]
    ++ ((if e.isBitset then [[], []] else []) ++ if e.preserve then [[keepAliveName e]] else [])

theorem mapM_itemNames?_enumChunks :
    ((enumChunks e).map bare).mapM itemNames? = some (itemNames e) := by
  have htuple : itemNames? (bare (tupleChunk e)) = some [e.name] := rfl
  have hown : itemNames? (bare (ownChunk e)) = some [] := rfl
  have hdisplay : itemNames? (bare (displayChunk e.name showTrees)) = some [] := rfl
  have hfromStr : itemNames? (bare (fromStrChunk e)) = some [] := rfl
  have hoperation : ∀ trait method operator,
      itemNames? (bare (operationChunk e trait method operator)) = some [] := fun _ _ _ => rfl
  have hkeepAlive : itemNames? (bare (.mark '#' :: .group .square [.word "used"]
      :: .word "static" :: storedTrees (keepAliveName e) e, none)) = some [keepAliveName e] := rfl
  cases hbitset : e.isBitset <;> cases hpreserve : e.preserve <;>
    simp [enumChunks, operationsChunks, keepAliveChunks, itemNames, hbitset, hpreserve, htuple,
      hown, hdisplay, hfromStr, hoperation, hkeepAlive]

theorem flatten_itemNames : (itemNames e).flatten = declaredNames e := by
  rw [declaredNames_eq, itemNames]
  cases e.isBitset <;> cases e.preserve <;> rfl

/-- Only one item of an enum type implements no trait. -/
def itemInherent : List (List (String × List String)) :=
  [[], [(e.name, inherentNames e)], [], []]
    ++ ((if e.isBitset then [[], []] else []) ++ if e.preserve then [[]] else [])

theorem mapM_inherentNames?_enumChunks :
    ((enumChunks e).map bare).mapM inherentNames? = some (itemInherent e) := by
  have htuple : inherentNames? (bare (tupleChunk e)) = some [] := rfl
  have hown : inherentNames? (bare (ownChunk e)) = some [(e.name, inherentNames e)] := by
    have hchunks := chunks?_closed (ends_inherentChunks e)
    simp [ownChunk, bare, attributed, unmarked, inherentNames?, hchunks,
      mapM_associatedName?_inherentChunks]
  have hdisplay : inherentNames? (bare (displayChunk e.name showTrees)) = some [] := rfl
  have hfromStr : inherentNames? (bare (fromStrChunk e)) = some [] := rfl
  have hoperation : ∀ trait method operator,
      inherentNames? (bare (operationChunk e trait method operator)) = some [] :=
    fun _ _ _ => rfl
  have hkeepAlive : inherentNames? (bare (.mark '#' :: .group .square [.word "used"]
      :: .word "static" :: storedTrees (keepAliveName e) e, none)) = some [] := rfl
  cases hbitset : e.isBitset <;> cases hpreserve : e.preserve <;>
    simp [enumChunks, operationsChunks, keepAliveChunks, itemInherent, hbitset, hpreserve, htuple,
      hown, hdisplay, hfromStr, hoperation, hkeepAlive]

theorem flatten_itemInherent : (itemInherent e).flatten = [(e.name, inherentNames e)] := by
  rw [itemInherent]
  cases e.isBitset <;> cases e.preserve <;> rfl

end Items

/-! ## Names of texts -/

/-- The blocks of enum types, as they stand behind the prelude of a module. -/
def enumsText (enums : List EnumType) : String :=
  unlines (enums.flatMap fun e => "" :: enumLines e)

section Texts

variable {enums : List EnumType} (wf : ∀ e ∈ enums, e.WellFormed)

include wf

theorem openings?_enumsText :
    openings? (enumsText enums) = some ((enums.flatMap enumChunks).map bare) :=
  openings?_unlines (reads_allEnumLines fun e he => spelled_of_wellFormed (wf e he))
    (allProper_allEnumChunks enums) (List.forall_mem_flatMap.mpr fun e _ => ends_enumChunks e)

/-- What is found at the openings of each enum type is found in the text. -/
theorem mapM_openings_enumsText {α : Type}
    {find : List Tree × Option (List Tree) → Option (List α)} {mean : EnumType → List (List α)}
    {whole : EnumType → List α}
    (found : ∀ e, ((enumChunks e).map bare).mapM find = some (mean e))
    (flattened : ∀ e, (mean e).flatten = whole e) :
    (do return (← (← openings? (enumsText enums)).mapM find).flatten : Option (List α)) =
      some (enums.flatMap whole) := by
  have hall : ((enums.flatMap enumChunks).map bare).mapM find = some (enums.flatMap mean) := by
    rw [List.map_flatMap]
    exact mapM_flatMap_eq_some fun e _ => found e
  have hflat : (enums.flatMap mean).flatten = enums.flatMap whole := by
    rw [flatten_flatMap]
    exact List.flatMap_congr fun e _ => flattened e
  simp [openings?_enumsText wf, hall, hflat]

/-- The text declares the names that are checked. -/
theorem outline?_enumsText : outline? (enumsText enums) = some (enums.flatMap declaredNames) :=
  mapM_openings_enumsText wf mapM_itemNames?_enumChunks flatten_itemNames

theorem inherent?_enumsText :
    inherent? (enumsText enums) = some (enums.map fun e => (e.name, inherentNames e)) := by
  have hall := mapM_openings_enumsText wf mapM_inherentNames?_enumChunks flatten_itemInherent
  rwa [← List.map_eq_flatMap] at hall

end Texts

/-! ## The name check -/

/-- The names of an enum type inside its implementation are apart: the functions have small
letters, the constants have none. -/
theorem nodup_inherentNames {e : EnumType} (wf : e.WellFormed) : (inherentNames e).Nodup := by
  have hnodup := nodup_map_name_inherentItems wf
  rwa [map_name_inherentItems] at hnodup

theorem flatMap_inherentNames_module (enums : List EnumType) :
    (module enums).items.flatMap (fun i => i.kind.inherentNames) =
      enums.map fun e => (e.name, inherentNames e) := by
  have hitems : ∀ e : EnumType, (enumItems e).flatMap (fun i => i.kind.inherentNames) =
      [(e.name, inherentNames e)] := by
    intro e
    cases hbitset : e.isBitset <;> cases hpreserve : e.preserve <;>
      simp [enumItems, tupleItem, displayItem, operationsItems, keepAliveItems, hbitset,
        hpreserve, Kind.inherentNames, map_name_inherentItems, inherentNames]
  have henums : (enums.flatMap enumItems).flatMap (fun i => i.kind.inherentNames) =
      enums.map fun e => (e.name, inherentNames e) := by
    rw [List.flatMap_assoc, List.map_eq_flatMap]
    exact List.flatMap_congr fun e _ => hitems e
  rw [module, List.flatMap_append, henums]
  rfl

/-- The blocks of resolved enum types declare in the module the names that the check claims, in
order and as often, and the check passes when these are free of repetition and none is taken.
Every block has one implementation without a trait; its names are apart whatever the check says,
and each constant in it is an identifier and no keyword. In a module that is made the same is
found whether the text is read whole or by its openings. -/
theorem text_declares_checked_items {enums : List EnumType}
    (resolved : ∀ e ∈ enums, ∃ d : Definition, d.resolve = .ok e) :
    outline? (enumsText enums) = some (enums.flatMap declaredNames) ∧
    (checkNames enums = .ok () ↔
      (enums.flatMap declaredNames).Nodup ∧ ∀ x ∈ enums.flatMap declaredNames, ¬Taken x) ∧
    inherent? (enumsText enums) = some (enums.map fun e => (e.name, inherentNames e)) ∧
    (∀ e ∈ enums, (inherentNames e).Nodup ∧
      ∀ m ∈ e.members, IsIdentifier m.constantName ∧ m.constantName ∉ keywords) ∧
    ∀ (table : EnumTable) (header : Header) (artifact : Artifact),
      table.generate .rust header = .ok artifact → artifact.enums = enums →
      ∃ body m, artifact.text = unlines (header.lines "//") ++ body ∧ module? body = some m ∧
        m.names = "fmt" :: "FromStr" :: errorType :: enums.flatMap declaredNames ∧
        m.names.Nodup ∧ outline? body = some m.names ∧
        inherent? body = some (enums.map fun e => (e.name, inherentNames e)) := by
  have wf : ∀ e ∈ enums, e.WellFormed := fun e he => by
    obtain ⟨d, hd⟩ := resolved e he
    exact Definition.wellFormed_of_resolve hd
  refine ⟨outline?_enumsText wf, checkNames_eq_ok_iff enums, inherent?_enumsText wf,
    fun e he => ⟨nodup_inherentNames (wf e he), fun m hm => ?_⟩, ?_⟩
  · have member := (wf e he).memberNames m hm
    rw [(wf e he).constantName m hm]
    exact ⟨Name.isIdentifier_upperSnake member,
      not_mem_keywords fun c hc => Name.mem_upperSnake_toList member hc⟩
  · rintro table header artifact accepted rfl
    have hread := module?_of_generate accepted
    refine ⟨_, _, text_of_generate accepted, hread, names_module _,
      nodup_names_module (compatible_of_generate accepted), outline?_of_module? hread, ?_⟩
    rw [inherent?_of_module? hread, flatMap_inherentNames_module]

/-- Two enum types whose statics meet: the text declares the name twice and the check fails. A
member `Self` gives a constant that is no keyword. -/
theorem text_declares_static_twice :
    ∃ a b, (Definition.mk "FooBar" [.named "Self", .named "Values"] false true).resolve = .ok a ∧
      (Definition.mk "Foo_bar" [.explicit "Contains" 1] true true).resolve = .ok b ∧
      outline? (enumsText [a, b]) =
        some ["FooBar", "KEEP_FOO_BAR", "Foo_bar", "KEEP_FOO_BAR"] ∧
      checkNames [a, b] ≠ .ok () ∧
      inherent? (enumsText [a, b]) =
        some [("FooBar", ["SELF", "VALUES", "values", "count", "as_str"]),
          ("Foo_bar", ["CONTAINS", "values", "contains", "as_str"])] ∧
      (inherentNames a).Nodup ∧ "SELF" ∉ keywords := by
  have first : (Definition.mk "FooBar" [.named "Self", .named "Values"] false true).resolve =
      .ok ⟨"FooBar", .i32, true, true, [⟨"Self", "SELF", "self", 0⟩,
        ⟨"Values", "VALUES", "values", 1⟩]⟩ := by decide
  have second : (Definition.mk "Foo_bar" [.explicit "Contains" 1] true true).resolve =
      .ok ⟨"Foo_bar", .u32, true, false, [⟨"Contains", "CONTAINS", "contains", 1⟩]⟩ := by decide
  obtain ⟨outline, checked, inherent, apart, -⟩ := text_declares_checked_items
    (List.forall_mem_cons.mpr ⟨⟨_, first⟩, List.forall_mem_singleton.mpr ⟨_, second⟩⟩)
  have twice : ¬(["FooBar", "KEEP_FOO_BAR", "Foo_bar", "KEEP_FOO_BAR"] : List String).Nodup := by
    decide
  have names := apart _ List.mem_cons_self
  exact ⟨_, _, first, second, outline, fun passed => twice (checked.mp passed).1, inherent,
    names.1, (names.2 _ List.mem_cons_self).2⟩

end EnumBindings.Rust
