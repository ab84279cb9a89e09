import EnumBindings.Proofs.Rust.Behaviour

/-!
# Generated Rust modules implement their enum types

`Module.Implements` says what a module has to do for an enum type, in terms of what the module
means alone. `generated_rust_implements` reads the text of every artifact as a module and finds
all enum types of the artifact implemented.
-/

namespace EnumBindings.Rust

open EnumBindings.Source EnumBindings.Text

/-- What a module does for an enum type. -/
structure Module.Implements (m : Module) (e : EnumType) : Prop where
  /-- The type is a structure of one integer of the wanted size. -/
  tuple : ∃ attributes, m.tuple? e.name = some (integerType e.representation, attributes)
  /-- The constants of the type are the members, in order and with their values. -/
  constants : m.constants e.name = e.members.map fun x => (x.constantName, x.value)
  /-- Each of them is what its upper-snake name stands for. -/
  constant : ∀ x ∈ e.members, m.constant? e.name (Name.upperSnake x.name) = some x.value
  /-- The name is given for every value that fits the type. -/
  name : ∀ v, e.representation.contains v = true →
    m.call? e.name "as_str" [.tuple e.name v] = some (.text (e.stringify v))
  parsed : ∀ s v, e.parse s = .ok v ↔
    m.callTrait? ["FromStr"] e.name "from_str" [.text s] = some (.accepted e.name v)
  refused : ∀ s f, e.parse s = .error f → f = ⟨e.name, s⟩ ∧
    m.callTrait? ["FromStr"] e.name "from_str" [.text s] =
      some (.refused errorType [("type_name", f.typeName), ("value", f.value)])
  /-- All values are listed in order. -/
  values : m.call? e.name "values" [] = some (.slice e.name (e.members.map (·.value)))
  /-- The array of the values says how many elements it has. -/
  length : ∃ f s result, m.associated? e.name "values" = some (.function f) ∧
    f.body = .listing s result ∧ s.length = s.elements.length ∧ s.length = e.count
  /-- Enum types that are no flag sets, and only they, have the number of their members. -/
  hasCount : m.has e.name "count" = !e.isBitset
  count : e.isBitset = false → m.call? e.name "count" [] = some (.number e.count)
  /-- Flag sets, and only they, have inclusion, union and intersection. -/
  hasContains : m.has e.name "contains" = e.isBitset
  hasUnion : m.implements ["std", "ops", "BitOr"] e.name = e.isBitset
  hasIntersection : m.implements ["std", "ops", "BitAnd"] e.name = e.isBitset
  contains : e.isBitset = true → ∀ a b : Nat, e.representation.contains a = true →
    e.representation.contains b = true →
    m.call? e.name "contains" [.tuple e.name a, .tuple e.name b] = some (.truth ((a &&& b) == b))
  union : e.isBitset = true → ∀ a b : Nat, e.representation.contains a = true →
    e.representation.contains b = true →
    m.callTrait? ["std", "ops", "BitOr"] e.name "bitor" [.tuple e.name a, .tuple e.name b] =
      some (.tuple e.name (a ||| b : Nat))
  intersection : e.isBitset = true → ∀ a b : Nat, e.representation.contains a = true →
    e.representation.contains b = true →
    m.callTrait? ["std", "ops", "BitAnd"] e.name "bitand" [.tuple e.name a, .tuple e.name b] =
      some (.tuple e.name (a &&& b : Nat))
  /-- Preserved enum types, and only they, have a static array of all their constants that is
  kept although nothing uses it. -/
  keepAlive : m.storeds e.name =
    if e.preserve then
      [([[.word "used"]], ⟨keepAliveName e, e.name, e.count,
        e.members.map fun x => .path e.name x.constantName⟩)]
    else []
  /-- No constant stands in it twice, and its elements are all values in order. -/
  once : ∀ s ∈ m.storeds e.name, s.2.elements.Nodup ∧
    m.elements? s.2 = some (e.members.map (·.value))

section Compatible

variable {enums : List EnumType} (h : Compatible enums) {e : EnumType} (he : e ∈ enums)

include h he

theorem implements_module : (module enums).Implements e where
  tuple := ⟨_, tuple?_module h he⟩
  constants := constants_module h he
  constant x hx := by
    rw [← (h.wellFormed e he).constantName x hx]
    exact constant?_constantName h he hx
  name _ hv := call?_asStr h he hv
  parsed s v := by
    rw [callTrait?_fromStr h he]
    cases e.parse s <;> simp [parseResult]
  refused s f hparse := by
    refine ⟨?_, by rw [callTrait?_fromStr h he, hparse]; rfl⟩
    rw [EnumType.parse] at hparse
    split at hparse
    · cases hparse
    · cases hparse
      rfl
  values := call?_values h he
  length := by
    have hmem : .function (valuesFunction e) ∈ inherentItems e := by simp [inherentItems]
    have hlength : (listed "VALUES" e).elements.length = e.count := List.length_map _
    exact ⟨valuesFunction e, listed "VALUES" e, .borrow "VALUES", associated?_of_mem h he hmem,
      rfl, hlength.symm, rfl⟩
  hasCount := has_count h he
  count hbitset := call?_count h he hbitset
  hasContains := has_contains h he
  hasUnion := implements_operation h he (by decide : ("BitOr", "bitor", '|') ∈ operations)
  hasIntersection := implements_operation h he (by decide : ("BitAnd", "bitand", '&') ∈ operations)
  contains hbitset _ _ ha hb := call?_contains h he hbitset ha hb
  union hbitset _ _ ha hb := callTrait?_bitor h he hbitset ha hb
  intersection hbitset _ _ ha hb := callTrait?_bitand h he hbitset ha hb
  keepAlive := storeds_module h he
  once s hs := by
    -- paths of different constants are different, and no constant is declared twice
    have hpath : (listed (keepAliveName e) e).elements =
        (e.members.map (·.constantName)).map (Operand.path e.name) :=
      (List.map_map ..).symm
    rw [storeds_module h he] at hs
    split at hs
    · rw [List.mem_singleton.mp hs]
      refine ⟨?_, elements?_listed h he _⟩
      rw [hpath]
      exact (h.wellFormed e he).constantNames.map fun a b heq => by cases heq; rfl
    · cases hs

end Compatible

/-- Every artifact is a module that implements the enum types of its table. Behind the header
the text is read as a module in which nothing is declared twice; where the license has no line
breaks within its lines, so is the whole text. -/
theorem generated_rust_implements {table : EnumTable} {header : Header} {artifact : Artifact}
    (accepted : table.generate .rust header = .ok artifact) :
    ∃ body m, artifact.text = unlines (header.lines "//") ++ body ∧ module? body = some m ∧
      ((∀ line ∈ header.license, '\n' ∉ line.toList) → module? artifact.text = some m) ∧
      m.names.Nodup ∧ table.resolve = .ok artifact.enums ∧
      ∀ e ∈ artifact.enums, m.Implements e := by
  obtain ⟨resolved, checked, htext⟩ :=
    (EnumTable.generate_eq_ok_iff table .rust header artifact).mp accepted
  have h : Compatible artifact.enums := compatible_of_checks resolved checked
  have readable : ∀ e ∈ artifact.enums, Readable e := fun e he =>
    readable_of_checkNames checked he (h.wellFormed e he)
  have hlines : artifact.text = unlines (header.lines "//" ++ bodyLines artifact.enums) := by
    have hsplit : Style.fileLines .rust header artifact.enums =
        header.lines "//" ++ preludeLines ++ artifact.enums.flatMap fun e => "" :: enumLines e :=
      rfl
    rw [htext, hsplit, bodyLines, List.append_assoc]
  refine ⟨unlines (bodyLines artifact.enums), module artifact.enums, ?_, module?_body readable,
    ?_, nodup_names_module h, resolved, fun e he => implements_module h he⟩
  · rw [hlines, unlines_append]
  · intro license
    rw [hlines]
    exact module?_text readable license

theorem checkNames_panel : checkNames [Panel.access, Panel.align, Panel.phase] = .ok () :=
  (checkNames_eq_ok_iff _).mpr ⟨by decide, by decide⟩

theorem generated_rust_implements_panel :
    ∃ artifact m, Panel.table.generate .rust ⟨["MIT", ""]⟩ = .ok artifact ∧
      module? artifact.text = some m ∧
      m.constant? "Align" "FLEX_START" = some 1 ∧
      m.call? "Access" "as_str" [.tuple "Access" 2147483648] = some (.text "write") ∧
      m.call? "Access" "as_str" [.tuple "Access" 3] = some (.text "unknown") ∧
      m.callTrait? ["FromStr"] "Align" "from_str" [.text "flex-start"] =
        some (.accepted "Align" 1) ∧
      m.callTrait? ["FromStr"] "Phase" "from_str" [.text "Low"] =
        some (.refused errorType [("type_name", "Phase"), ("value", "Low")]) ∧
      m.call? "Phase" "values" [] = some (.slice "Phase" [-5, 7]) ∧
      m.call? "Phase" "count" [] = some (.number 2) ∧
      m.call? "Access" "contains" [.tuple "Access" 3, .tuple "Access" 1] =
        some (.truth true) ∧
      m.storeds "Align" = [([[.word "used"]], ⟨"KEEP_ALIGN", "Align", 2,
        [.path "Align" "AUTO", .path "Align" "FLEX_START"]⟩)] := by
  have accepted := EnumTable.generate_of_checks .rust Panel.resolve_table checkNames_panel
    ⟨["MIT", ""]⟩
  obtain ⟨body, m, -, -, htext, -, -, implements⟩ := generated_rust_implements accepted
  have access := implements Panel.access (by simp)
  have align := implements Panel.align (by simp)
  have phase := implements Panel.phase (by simp)
  exact ⟨_, m, accepted, htext (by decide),
    align.constant ⟨"FlexStart", "FLEX_START", "flex-start", 1⟩ (by decide),
    access.name 2147483648 (by decide), access.name 3 (by decide),
    (align.parsed "flex-start" 1).mp (by decide), (phase.refused "Low" _ rfl).2, phase.values,
    phase.count (by decide), access.contains (by decide) 3 1 (by decide) (by decide),
    align.keepAlive⟩

end EnumBindings.Rust
