import EnumBindings.Proofs.Go.Behaviour

/-!
# Generated Go files implement their enum types

`Program.Implements` says what a program has to do for an enum type, in terms of what the
program means alone. `generated_go_implements` reads the text of every artifact as a program and
finds all enum types of the artifact implemented.
-/

namespace EnumBindings.Go

open EnumBindings.Source EnumBindings.Text

/-- What a program does for an enum type. -/
structure Program.Implements (p : Program) (e : EnumType) : Prop where
  /-- The type is an integer type of the wanted size. -/
  underlying : p.underlying? e.name = some (integerType e.representation)
  /-- The constants of the type are the members, in order and with their values. -/
  constants : p.constants.filter (·.type == some e.name) = e.members.map (memberConstant e)
  /-- Each of them is what its name stands for. -/
  constant : ∀ m ∈ e.members, p.constant? (constantName e m) = some (memberConstant e m)
  /-- The method answers on every value that fits the type. -/
  string : ∀ v, e.representation.contains v = true →
    p.callMethod? e.name "String" (.number (some e.name) v) = some [.text (e.stringify v)]
  parsed : ∀ s v, e.parse s = .ok v ↔
    p.call? (parseName e) [.text s] = some [.number (some e.name) v, .nil]
  refused : ∀ s f, e.parse s = .error f → f = ⟨e.name, s⟩ ∧
    p.call? (parseName e) [.text s] = some [.number (some e.name) 0,
      .record errorType [("Type", f.typeName), ("Value", f.value)]]
  /-- Enum types that are no flag sets, and only they, have the number of their members. -/
  count : ∀ n, p.constant? (countName e) = some ⟨countName e, none, n⟩ ↔
    e.isBitset = false ∧ n = e.count
  /-- Preserved enum types, and only they, have an array of all their constants. -/
  keepAlive : p.blanks e.name =
    if e.preserve then [e.members.map fun m => .name (constantName e m)] else []

section Compatible

variable {enums : List EnumType} (h : Compatible enums)

include h

/-- The labels of a switch have the values that the switch tells apart. -/
theorem distinctLabels_program : (program enums).DistinctLabels := by
  intro f hf
  rw [functions_program, List.mem_cons, List.mem_flatMap] at hf
  -- the function of the error has no switch, every other one belongs to an enum type
  rcases hf with rfl | ⟨e, he, hf⟩
  · exact ⟨[], rfl, List.nodup_nil⟩
  · have wf := h.wellFormed e he
    simp only [List.mem_cons, List.not_mem_nil, or_false] at hf
    rcases hf with rfl | rfl
    · refine ⟨e.members.map fun m => .number (some e.name) m.value, ?_, ?_⟩
      · simp only [Function.labels, stringFunction, List.map_map]
        exact mapM_map_eq_some fun m hm => operandValue?_constantName h he hm rfl
      · have hinjective : (fun m : Member => Value.number (some e.name) m.value) =
            Value.number (some e.name) ∘ (·.value) := rfl
        rw [hinjective, ← List.map_map]
        exact wf.values.map fun a b heq => by cases heq; rfl
    · refine ⟨e.members.map fun m => .text m.externalName, ?_, ?_⟩
      · simp only [Function.labels, parseFunction, List.map_map]
        exact mapM_map_eq_some fun m _ => rfl
      · have hinjective : (fun m : Member => Value.text m.externalName) =
            Value.text ∘ (·.externalName) := rfl
        rw [hinjective, ← List.map_map]
        exact wf.externalNames.map fun a b heq => by cases heq; rfl

theorem implements_program {e : EnumType} (he : e ∈ enums) : (program enums).Implements e where
  underlying := underlying?_program h he
  constants := typed_constants_program h he
  constant _ hm := constant?_constantName h he hm
  string _ hv := callMethod?_string h he hv
  parsed s v := by
    rw [call?_parseName h he]
    cases e.parse s <;> simp [parseResult]
  refused s f hparse := by
    refine ⟨?_, by rw [call?_parseName h he, hparse]; rfl⟩
    rw [EnumType.parse] at hparse
    split at hparse
    · cases hparse
    · cases hparse
      rfl
  count := constant?_countName_iff h he
  keepAlive := blanks_program h he

end Compatible

/-- Every artifact is a program that implements the enum types of its table. Behind the header
and the package clause the text is read as a program in which nothing is declared twice and no
switch has equal labels; where the license has no line breaks within its lines and the package
is a name, the whole text is read as a file. -/
theorem generated_go_implements {table : EnumTable} {package : String} {header : Header}
    {artifact : Artifact} (accepted : table.generate (.go package) header = .ok artifact) :
    ∃ body p, artifact.text =
        unlines (header.lines "//" ++ ["", "package " ++ package]) ++ body ∧
      program? body = some p ∧
      ((∀ line ∈ header.license, '\n' ∉ line.toList) → Named package →
        file? artifact.text = some ⟨package, p⟩) ∧
      p.names.Nodup ∧ p.DistinctLabels ∧
      table.resolve = .ok artifact.enums ∧ ∀ e ∈ artifact.enums, p.Implements e := by
  obtain ⟨resolved, checked, htext⟩ :=
    (EnumTable.generate_eq_ok_iff table (.go package) header artifact).mp accepted
  have h : Compatible artifact.enums := compatible_of_checks resolved checked
  have readable : ∀ e ∈ artifact.enums, Readable e := fun e he =>
    readable_of_checkNames checked he (h.wellFormed e he)
  have hlines : artifact.text =
      unlines (header.lines "//" ++ ["", "package " ++ package] ++ bodyLines artifact.enums) := by
    have hsplit : Style.fileLines (.go package) header artifact.enums =
        header.lines "//" ++ (["", "package " ++ package] ++ importLines)
          ++ artifact.enums.flatMap fun e => "" :: enumLines e := rfl
    rw [htext, hsplit]
    simp only [bodyLines, List.append_assoc]
  refine ⟨unlines (bodyLines artifact.enums), program artifact.enums, ?_,
    program?_body readable, ?_, nodup_names_program h, distinctLabels_program h, resolved,
    fun e he => implements_program h he⟩
  · rw [hlines, unlines_append]
  · intro license named
    rw [hlines]
    exact file?_text readable license named

theorem generated_go_implements_panel :
    ∃ artifact p, Panel.table.generate (.go "ui") ⟨["MIT", ""]⟩ = .ok artifact ∧
      file? artifact.text = some ⟨"ui", p⟩ ∧
      p.callMethod? "Access" "String" (.number (some "Access") 2147483648) =
        some [.text "write"] ∧
      p.callMethod? "Access" "String" (.number (some "Access") 3) = some [.text "unknown"] ∧
      p.call? "AlignFromString" [.text "flex-start"] = some [.number (some "Align") 1, .nil] ∧
      p.call? "PhaseFromString" [.text "Low"] = some [.number (some "Phase") 0,
        .record errorType [("Type", "Phase"), ("Value", "Low")]] ∧
      p.constant? "PhaseCount" = some ⟨"PhaseCount", none, 2⟩ ∧
      p.blanks "Align" = [[.name "AlignAuto", .name "AlignFlexStart"]] := by
  have accepted := EnumTable.generate_of_checks (.go "ui") Panel.resolve_table checkNames_panel
    ⟨["MIT", ""]⟩
  obtain ⟨body, p, -, -, hfile, -, -, -, implements⟩ := generated_go_implements accepted
  have access := implements Panel.access (by simp)
  have align := implements Panel.align (by simp)
  have phase := implements Panel.phase (by simp)
  have package : Named "ui" := named_of_check (by decide) (by decide)
  exact ⟨_, p, accepted, hfile (by decide) package, access.string 2147483648 (by decide),
    access.string 3 (by decide), (align.parsed "flex-start" 1).mp (by decide),
    (phase.refused "Low" _ rfl).2, (phase.count 2).mpr ⟨by decide, by decide⟩,
    align.keepAlive⟩

end EnumBindings.Go
