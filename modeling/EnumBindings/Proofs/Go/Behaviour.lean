import EnumBindings.Proofs.Go.Lookup

/-!
# Running a generated program

The `String` method of an enum type answers as `EnumType.stringify` does and its parse function
as `EnumType.parse` (`callMethod?_string`, `call?_parseName`). Both bodies are one switch, whose
choice of a clause is the search for a member (`select?_map`).
-/

namespace EnumBindings.Go

open EnumBindings.Source

/-! ## Switches -/

/-- A switch over clauses made from a list searches the list. -/
theorem select?_map {α : Type} {p : Program} {locals : List (String × Value)} {v : Value}
    {otherwise : List Expression} {xs : List α} {label : α → Operand}
    {results : α → List Expression} {value : α → Value} {matching : α → Bool}
    (hlabel : ∀ x ∈ xs, p.operandValue? locals (label x) = some (value x))
    (hvalue : ∀ x ∈ xs, value x = v ↔ matching x = true) :
    p.select? locals v otherwise (xs.map fun x => (label x, results x)) =
      some ((xs.find? matching).elim otherwise results) := by
  induction xs with
  | nil => rfl
  | cons x rest ih =>
      have hrest := ih (fun y hy => hlabel y (List.mem_cons_of_mem _ hy))
        fun y hy => hvalue y (List.mem_cons_of_mem _ hy)
      rw [List.map_cons, Program.select?, hlabel x List.mem_cons_self, Option.bind_eq_bind,
        Option.bind_some]
      -- the first clause decides, or the search goes on among the rest
      by_cases hx : matching x = true
      · rw [if_pos ((hvalue x List.mem_cons_self).mpr hx), List.find?_cons_of_pos hx]
        rfl
      · rw [if_neg fun heq => hx ((hvalue x List.mem_cons_self).mp heq),
          List.find?_cons_of_neg hx, hrest]

/-! ## Operands -/

section Compatible

variable {enums : List EnumType} (h : Compatible enums) {e : EnumType} (he : e ∈ enums)

include h he

/-- A constant name has two characters at least, so no parameter hides it. -/
theorem constantName_ne {m : Member} (hm : m ∈ e.members) {x : String}
    (hx : x.toList.length = 1) : constantName e m ≠ x := by
  obtain ⟨a, as, ha, -⟩ := (h.wellFormed e he).typeName
  obtain ⟨b, bs, hb, -⟩ := (h.wellFormed e he).memberNames m hm
  rintro rfl
  rw [constantName, String.toList_append, ha, hb] at hx
  simp at hx

theorem operandValue?_constantName {m : Member} (hm : m ∈ e.members)
    {locals : List (String × Value)} (hlocal : locals.lookup (constantName e m) = none) :
    (program enums).operandValue? locals (.name (constantName e m)) =
      some (.number (some e.name) m.value) := by
  have hname : constantName e m ∈ (program enums).names := by
    refine mem_names_program he ?_
    rw [declaredNames_eq]
    exact List.mem_cons_of_mem _ (List.mem_append_left _ (List.mem_map_of_mem hm))
  rw [Program.operandValue?, hlocal]
  simp [hname, constant?_constantName h he hm, memberConstant]

omit he in
theorem operandValue?_nil {locals : List (String × Value)} (hlocal : locals.lookup "nil" = none) :
    (program enums).operandValue? locals (.name "nil") = some .nil := by
  have hname : "nil" ∉ (program enums).names := by
    rw [names_program]
    intro hmem
    rcases List.mem_cons.mp hmem with heq | hmem
    · exact absurd heq (by decide)
    · rcases List.mem_cons.mp hmem with heq | hmem
      · exact absurd heq (by decide)
      · exact h.free _ hmem (.inr (.inl (by decide)))
  rw [Program.operandValue?, hlocal]
  simp [hname]

/-! ## The two functions -/

theorem lookup_parameter_constantName {m : Member} (hm : m ∈ e.members) {x : String}
    (hx : x.toList.length = 1) (v : Value) :
    List.lookup (constantName e m) [(x, v)] = none := by
  rw [List.lookup_eq_none_iff]
  simpa using constantName_ne h he hm hx

/-- The method gives the external name of every value of the type. -/
theorem callMethod?_string {v : Int} (hv : e.representation.contains v = true) :
    (program enums).callMethod? e.name "String" (.number (some e.name) v) =
      some [.text (e.stringify v)] := by
  have hselect : (program enums).select? [("e", .number (some e.name) v)]
      (.number (some e.name) v) [.operand (.text EnumType.unknownName)]
      (e.members.map fun m => (.name (constantName e m), [.operand (.text m.externalName)])) =
        some ((e.members.find? (·.value == v)).elim [.operand (.text EnumType.unknownName)]
          fun m => [.operand (.text m.externalName)]) :=
    select?_map (fun m hm => operandValue?_constantName h he hm
      (lookup_parameter_constantName h he hm rfl _)) (by simp)
  have hassign : (program enums).assign? e.name (.number (some e.name) v) =
      some (.number (some e.name) v) := by
    simp [Program.assign?, holds_program h he, hv]
  have hsubject : (program enums).operandValue? [("e", .number (some e.name) v)] (.name "e") =
      some (.number (some e.name) v) := rfl
  have hanswer : e.stringify v =
      (e.members.find? (·.value == v)).elim EnumType.unknownName (·.externalName) := by
    rw [EnumType.stringify]
    cases e.members.find? (·.value == v) <;> rfl
  rw [hanswer]
  simp only [Program.callMethod?, method?_program h he, stringFunction, Option.bind_eq_bind,
    Option.bind_some, hassign, Program.run?, hsubject, hselect]
  cases e.members.find? (·.value == v) <;> rfl

/-- What the parse function returns: a value of the type without an error, or zero with an
error that carries the name of the type and the text. -/
def parseResult (e : EnumType) : Except UnrecognizedValue Int → List Value
  | .ok v => [.number (some e.name) v, .nil]
  | .error f =>
    [.number (some e.name) 0,
     .record errorType [("Type", f.typeName), ("Value", f.value)]]

theorem call?_parseName (s : String) :
    (program enums).call? (parseName e) [.text s] = some (parseResult e (e.parse s)) := by
  have hselect : (program enums).select? [("s", .text s)] (.text s)
      [.operand (.number 0), .record errorType [("Type", .text e.name), ("Value", .name "s")]]
      (e.members.map fun m => (.text m.externalName,
        [.operand (.name (constantName e m)), .operand (.name "nil")])) =
        some ((e.members.find? (·.externalName == s)).elim
          [.operand (.number 0),
            .record errorType [("Type", .text e.name), ("Value", .name "s")]]
          fun m => [.operand (.name (constantName e m)), .operand (.name "nil")]) :=
    select?_map (fun m _ => rfl) (by simp)
  have hsubject : (program enums).operandValue? [("s", .text s)] (.name "s") =
      some (.text s) := rfl
  have hassign : (program enums).assignAll? ["string"] [.text s] = some [.text s] := rfl
  simp only [Program.call?, function?_parseName h he, parseFunction, Option.bind_eq_bind,
    Option.bind_some, List.map_cons, List.map_nil, hassign, Program.run?, List.zip_cons_cons,
    List.zip_nil_right, hsubject, hselect]
  rw [EnumType.parse]
  cases hfind : e.members.find? (·.externalName == s) with
  | none =>
      -- no clause has the text: the default returns zero, which every representation holds
      have hzero : (program enums).holds e.name 0 = true := by
        rw [holds_program h he]
        cases e.representation <;> rfl
      simp [parseResult, Program.value?, Program.operandValue?, Program.fieldText?,
        fields?_errorType h, Program.assignAll?, Program.assign?, hzero, isError_errorType]
  | some m =>
      -- the clause of the member that the search found
      have hm := List.mem_of_find?_eq_some hfind
      have hconstant : (program enums).operandValue? [("s", .text s)]
          (.name (constantName e m)) = some (.number (some e.name) m.value) :=
        operandValue?_constantName h he hm (lookup_parameter_constantName h he hm rfl _)
      have hnil : (program enums).operandValue? [("s", .text s)] (.name "nil") = some .nil :=
        operandValue?_nil h rfl
      have hholds : (program enums).holds e.name m.value = true := by
        rw [holds_program h he]
        exact (h.wellFormed e he).range m hm
      simp [parseResult, Program.value?, hconstant, hnil, Program.assignAll?, Program.assign?,
        hholds]

end Compatible

end EnumBindings.Go
