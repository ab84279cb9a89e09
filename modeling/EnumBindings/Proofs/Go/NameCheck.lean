import EnumBindings.Proofs.Go.Lookup

/-!
# The name check and the names of the text

Two traversals of the enum types have to stay in step: the check, which claims every name, and
the text, which declares them. `text_declares_checked_names` puts the outline of the text beside
the check. The text has its outline whatever the check says, so names that clash, keywords among
them, are seen in the text as well.
-/

namespace EnumBindings.Go

open EnumBindings.Name (IsIdentifier)
open EnumBindings.Source EnumBindings.Text

/-! ## Names of statements -/

section Statements

variable (e : EnumType)

/-- The names that each statement of an enum type declares. -/
def enumNames : List (List String) :=
  [[e.name], e.members.map (constantName e)]
    ++ ((if e.isBitset then [] else [[countName e]])
    ++ ([[], [parseName e]] ++ if e.preserve then [["_"]] else []))

theorem mapM_leading?_specTrees :
    (specTrees e).mapM leading? = some (e.members.map (constantName e)) := by
  rw [specTrees]
  split
  · rw [positionalTrees]
    cases e.members with
    | nil => rfl
    | cons first rest =>
        have hrest : (rest.map fun m => [Tree.word (constantName e m)]).mapM leading? =
            some (rest.map (constantName e)) := mapM_map_eq_some fun m _ => rfl
        simp [List.mapM_cons, hrest, leading?, Tree.isMark]
  · exact mapM_map_eq_some fun m _ => rfl

theorem statementNames?_constantTrees :
    statementNames? (constantTrees e) = some (e.members.map (constantName e)) := by
  simp [constantTrees, statementNames?, specifications, pieces_ended (isMark_of_mem_specTrees e),
    mapM_leading?_specTrees]

theorem mapM_statementNames?_enumStatements :
    (enumStatements e).mapM statementNames? = some (enumNames e) := by
  have htype : statementNames? [.word "type", .word e.name,
      .word (integerType e.representation)] = some [e.name] := rfl
  have hcount : statementNames? (countTrees e) = some [countName e] := rfl
  have hstring : statementNames? (stringTrees e) = some [] := rfl
  have hparse : statementNames? (parseTrees e) = some [parseName e] := rfl
  have hkeep : statementNames? (keepAliveTrees e) = some ["_"] := rfl
  cases hbitset : e.isBitset <;> cases hpreserve : e.preserve <;>
    simp [enumStatements, enumNames, hbitset, hpreserve, htype, statementNames?_constantTrees,
      hcount, hstring, hparse, hkeep]

/-- Behind the declared names stands the blank of a preserved enum type. -/
theorem flatten_enumNames :
    (enumNames e).flatten = declaredNames e ++ if e.preserve then ["_"] else [] := by
  rw [declaredNames_eq]
  cases hbitset : e.isBitset <;> cases hpreserve : e.preserve <;>
    simp [enumNames, hbitset, hpreserve]

end Statements

/-- No identifier is the blank. -/
theorem withoutBlank_eq_self {names : List String} (h : ∀ x ∈ names, IsIdentifier x) :
    withoutBlank names = names := by
  refine List.filter_eq_self.mpr fun x hx => ?_
  have hblank : ¬IsIdentifier "_" := by
    rw [← Name.isIdentifier_iff]
    decide
  simp only [bne_iff_ne, ne_eq]
  rintro rfl
  exact hblank (h _ hx)

theorem withoutBlank_enumNames {e : EnumType} (wf : e.WellFormed) :
    withoutBlank (enumNames e).flatten = declaredNames e := by
  have hblank : withoutBlank (if e.preserve then ["_"] else []) = [] := by
    split <;> rfl
  rw [flatten_enumNames, withoutBlank_append, hblank, List.append_nil,
    withoutBlank_eq_self (isIdentifier_of_mem_declaredNames wf)]

/-! ## Names of texts -/

/-- The names at the top of a file: the import, the shared error type and what is checked. -/
def topNames (enums : List EnumType) : List String :=
  "fmt" :: errorType :: enums.flatMap declaredNames

/-- The prelude and the enum types, as they stand behind the header of a file. -/
def sourceText (package : String) (enums : List EnumType) : String :=
  unlines (preludeLines package ++ enums.flatMap fun e => "" :: enumLines e)

section Texts

variable {enums : List EnumType}

/-- Every name at the top of a file is an identifier, so none is the blank. -/
theorem withoutBlank_topNames (wf : ∀ e ∈ enums, e.WellFormed) :
    withoutBlank (topNames enums) = topNames enums := by
  have hfixed : ∀ x ∈ ["fmt", errorType], IsIdentifier x := by
    simp only [← Name.isIdentifier_iff]
    decide
  have hdeclared : ∀ x ∈ enums.flatMap declaredNames, IsIdentifier x :=
    List.forall_mem_flatMap.mpr fun e he => isIdentifier_of_mem_declaredNames (wf e he)
  exact withoutBlank_eq_self (List.forall_mem_append.mpr ⟨hfixed, hdeclared⟩)

theorem mapM_statementNames?_bodyStatements (enums : List EnumType) :
    (bodyStatements enums).mapM statementNames? =
      some ([["fmt"], [errorType], []] ++ enums.flatMap enumNames) := by
  have hprelude : preludeStatements.mapM statementNames? = some [["fmt"], [errorType], []] := by
    decide
  have henums := mapM_flatMap_eq_some fun e (_ : e ∈ enums) =>
    mapM_statementNames?_enumStatements e
  rw [bodyStatements, List.mapM_append, hprelude, henums]
  rfl

/-- Apart from the blanks the statements declare the names at the top of a file. -/
theorem withoutBlank_bodyNames (wf : ∀ e ∈ enums, e.WellFormed) :
    withoutBlank ([["fmt"], [errorType], []] ++ enums.flatMap enumNames).flatten =
      topNames enums := by
  have henums : withoutBlank (enums.flatMap enumNames).flatten = enums.flatMap declaredNames := by
    rw [flatten_flatMap, withoutBlank, List.filter_flatMap]
    exact List.flatMap_congr fun e he => withoutBlank_enumNames (wf e he)
  rw [List.flatten_append, withoutBlank_append, henums]
  rfl

/-- What stands behind the package clause declares the names that are checked. -/
theorem outline?_bodyLines {known : Reserved} (wf : ∀ e ∈ enums, e.WellFormed)
    (h : ∀ e ∈ enums, Spelled known e) :
    known.outline? (unlines (bodyLines enums)) = some (topNames enums) := by
  have hstatements := Reserved.statements?_unlines (reads_bodyLines h)
    (isStatement_bodyStatements enums)
  rw [Reserved.outline?, hstatements]
  simp only [Option.bind_eq_bind, Option.bind_some, mapM_statementNames?_bodyStatements,
    withoutBlank_bodyNames wf, Option.pure_def]

theorem outline?_sourceText {known : Reserved} (wf : ∀ e ∈ enums, e.WellFormed)
    (h : ∀ e ∈ enums, Spelled known e) {package : String} (word : IsWord package)
    (free : package ∉ known.words) :
    known.outline? (sourceText package enums) = some (topNames enums) := by
  have hlines : sourceText package enums =
      unlines ([] ++ ["", "package " ++ package] ++ bodyLines enums) := rfl
  have hstatements : known.statements?
      (unlines ([] ++ ["", "package " ++ package] ++ bodyLines enums)) =
        some ([.word "package", .word package] :: bodyStatements enums) :=
    Reserved.statements?_file h (by simp) word free
  have hpackage : statementNames? [.word "package", .word package] = some [] := rfl
  rw [Reserved.outline?, hlines, hstatements]
  simp only [Option.bind_eq_bind, Option.bind_some, List.mapM_cons, hpackage,
    mapM_statementNames?_bodyStatements, Option.pure_def, List.flatten_cons, List.nil_append,
    withoutBlank_bodyNames wf]

end Texts

/-! ## The name check -/

/-- The check passes when no name stands at the top of a file twice and none is taken. -/
theorem checkNames_eq_ok_iff_topNames (enums : List EnumType) :
    checkNames enums = .ok () ↔
      (topNames enums).Nodup ∧ ∀ x ∈ enums.flatMap declaredNames, ¬Taken x := by
  rw [checkNames_eq_ok_iff]
  constructor
  · rintro ⟨distinct, free⟩
    have hfmt : "fmt" ∉ enums.flatMap declaredNames := fun hmem =>
      free _ hmem (.inr (.inr (.inl rfl)))
    have herror : errorType ∉ enums.flatMap declaredNames := fun hmem =>
      free _ hmem (.inr (.inr (.inr rfl)))
    have hne : "fmt" ≠ errorType := by decide
    refine ⟨?_, free⟩
    rw [topNames, List.nodup_cons, List.nodup_cons, List.mem_cons, not_or]
    exact ⟨⟨hne, hfmt⟩, herror, distinct⟩
  · rintro ⟨distinct, free⟩
    exact ⟨(List.nodup_cons.mp (List.nodup_cons.mp distinct).2).2, free⟩

/-- The check fails at the first name that is taken or declared before. -/
theorem exists_of_checkNames_eq_error {enums : List EnumType} {error : GenerateError}
    (refused : checkNames enums = .error error) :
    ∃ before item after first, enums.flatMap declarations = before ++ item :: after ∧
      (before.map (·.1)).Nodup ∧ (∀ x ∈ before.map (·.1), ¬Taken x) ∧
      (Taken item.1 ∨ item.1 ∈ before.map (·.1)) ∧
      (reservedScope.owners ++ before).lookup item.1 = some first ∧
      error = .identifierCollision .go item.1 first item.2 := by
  rw [checkNames, Scope.check_eq_error_iff] at refused
  obtain ⟨before, item, after, first, hitems, hnodup, hfree, hfirst, rfl⟩ :=
    Scope.exists_of_declareAll_eq_error refused
  have hlanguage : reservedScope.language = .go := by simp [reservedScope, Scope.empty]
  simp only [owner?_reservedScope_eq_none_iff] at hfree
  refine ⟨before, item, after, first, hitems, hnodup, hfree, ?_, hfirst, by rw [hlanguage]⟩
  by_contra hclaimed
  rw [not_or] at hclaimed
  have hscope : reservedScope.owners.lookup item.1 = none :=
    (owner?_reservedScope_eq_none_iff item.1).mpr hclaimed.1
  have hbefore : before.lookup item.1 = none := by
    rw [List.lookup_eq_none_iff]
    intro p hp
    simp only [bne_iff_ne, ne_eq]
    exact fun heq => hclaimed.2 (List.mem_map.mpr ⟨p, hp, heq.symm⟩)
  rw [List.lookup_append, hscope, hbefore] at hfirst
  cases hfirst

/-- The text of resolved enum types declares at its top the names that the check claims, in order
and as often, beside the import and the shared error type. The check passes when these names are
free of repetition and no declared one is taken, and else tells the first that is taken or
declared before it. So in a file that is made no name is declared twice, whether it is read as a
program or as an outline. -/
theorem text_declares_checked_names {enums : List EnumType}
    (resolved : ∀ e ∈ enums, ∃ d : Definition, d.resolve = .ok e) :
    (∃ body, (∀ package, sourceText package enums =
        unlines ["", "package " ++ package] ++ body) ∧
      Reserved.none.outline? body = some (topNames enums)) ∧
    (∀ package, IsWord package →
      Reserved.none.outline? (sourceText package enums) = some (topNames enums)) ∧
    (checkNames enums = .ok () ↔
      (topNames enums).Nodup ∧ ∀ x ∈ enums.flatMap declaredNames, ¬Taken x) ∧
    (∀ error, checkNames enums = .error error →
      ∃ before item after first, enums.flatMap declarations = before ++ item :: after ∧
        (before.map (·.1)).Nodup ∧ (∀ x ∈ before.map (·.1), ¬Taken x) ∧
        (Taken item.1 ∨ item.1 ∈ before.map (·.1)) ∧
        (reservedScope.owners ++ before).lookup item.1 = some first ∧
        error = .identifierCollision .go item.1 first item.2) ∧
    ∀ (table : EnumTable) (package : String) (header : Header) (artifact : Artifact),
      table.generate (.go package) header = .ok artifact → artifact.enums = enums →
      ∃ body p, artifact.text = unlines (headLines package header) ++ body ∧
        program? body = some p ∧ p.names = topNames enums ∧
        Reserved.all.outline? body = some (topNames enums) ∧ (topNames enums).Nodup := by
  have wf : ∀ e ∈ enums, e.WellFormed := fun e he => by
    obtain ⟨d, hd⟩ := resolved e he
    exact Definition.wellFormed_of_resolve hd
  have spelled : ∀ e ∈ enums, Spelled .none e := fun e he => spelled_of_wellFormed (wf e he)
  refine ⟨⟨unlines (bodyLines enums), fun package => ?_, outline?_bodyLines wf spelled⟩,
    fun package word => outline?_sourceText wf spelled word List.not_mem_nil,
    checkNames_eq_ok_iff_topNames enums, fun error => exists_of_checkNames_eq_error, ?_⟩
  · rw [← unlines_append]
    rfl
  · rintro table package header artifact accepted rfl
    have hread := program?_of_generate accepted
    have houtline := outline?_of_program? hread
    have hnames : (program artifact.enums).names = topNames artifact.enums := names_program _
    rw [hnames, withoutBlank_topNames wf] at houtline
    exact ⟨_, _, text_of_generate accepted, hread, hnames, houtline,
      hnames ▸ nodup_names_program (compatible_of_generate accepted)⟩

/-- A constant that is a keyword is in the outline of the text, and is what the check tells. -/
theorem text_declares_keyword :
    ∃ e, (Definition.mk "fu" [.named "ll", .named "nc"] false false).resolve = .ok e ∧
      Reserved.none.outline? (sourceText "ui" [e]) =
        some ["fmt", errorType, "fu", "full", "func", "fuCount", "fuFromString"] ∧
      checkNames [e] = .error (.identifierCollision .go "func" "a Go keyword" "`fu.nc`") ∧
      ∃ before after, declarations e = before ++ ("func", "`fu.nc`") :: after ∧
        ∀ x ∈ before.map (·.1), ¬Taken x := by
  have resolved : (Definition.mk "fu" [.named "ll", .named "nc"] false false).resolve =
      .ok ⟨"fu", .i32, false, true, [⟨"ll", "LL", "ll", 0⟩, ⟨"nc", "NC", "nc", 1⟩]⟩ := by decide
  have word : IsWord "ui" := isWord_of_isIdentifier ((Name.isIdentifier_iff "ui").mp (by decide))
  obtain ⟨-, outline, -, refused, -⟩ :=
    text_declares_checked_names (List.forall_mem_singleton.mpr ⟨_, resolved⟩)
  have hclash : checkNames [⟨"fu", .i32, false, true, [⟨"ll", "LL", "ll", 0⟩,
      ⟨"nc", "NC", "nc", 1⟩]⟩] =
        .error (.identifierCollision .go "func" "a Go keyword" "`fu.nc`") := by decide +kernel
  obtain ⟨before, ⟨identifier, owner⟩, after, first, hitems, -, hfree, -, -, herror⟩ :=
    refused _ hclash
  cases herror
  exact ⟨_, resolved, outline "ui" word, hclash, before, after, hitems, hfree⟩

end EnumBindings.Go
