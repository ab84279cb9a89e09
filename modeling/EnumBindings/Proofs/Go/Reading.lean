import EnumBindings.Proofs.Go.Lines
import EnumBindings.Proofs.Header
import EnumBindings.Proofs.Table

/-!
# Reading generated files

A generated file is read as the declarations of the prelude and those of its enum types in
order: `program?_body` for the text behind the package clause, `file?_text` for the whole.
-/

namespace EnumBindings.Go

open EnumBindings.Source EnumBindings.Text

/-! ## Texts of statements -/

/-- Trees that can stand as a statement of a text. -/
structure IsStatement (ts : List Tree) : Prop where
  proper : AllProper ts
  marks : ∀ t ∈ ts, t.isMark ';' = false

/-- Lines that give statements are read as these statements. -/
theorem Reserved.statements?_unlines {known : Reserved} {lines : List String} {statements : List (List Tree)}
    (h : Reads (known.terminate false) lines (flat (ended ';' statements)))
    (hall : ∀ ts ∈ statements, IsStatement ts) :
    known.statements? (unlines lines) = some statements := by
  obtain ⟨scanned, htokens, hlay⟩ := h.tokens? rfl
  have hproper : AllProper (ended ';' statements) :=
    allProper_ended (fun ts hts => (hall ts hts).proper) ⟨rfl, rfl⟩
  have hnest : nest? [] [] (flat (ended ';' statements)) = some (ended ';' statements) := by
    have hflat := nest?_flat _ hproper [] [] []
    rwa [List.append_nil, List.nil_append] at hflat
  have hpieces := pieces_ended fun ts hts => (hall ts hts).marks
  simp [Reserved.statements?, htokens, hlay, hnest, hpieces]

/-! ## The prelude -/

def errorFunction : Function where
  receiver := some ⟨"e", errorType, true⟩
  name := "Error"
  parameters := []
  results := ["string"]
  body := .results [.call "fmt" "Sprintf"
    [.text "unknown %s: %s", .field "e" "Type", .field "e" "Value"]]

/-- What stands before the first enum type. -/
def preludeDeclarations : List Declaration :=
  [.imported "fmt", .record errorType [("Type", "string"), ("Value", "string")],
   .function errorFunction]

def preludeStatements : List (List Tree) :=
  [[.word "import", .text "fmt"],
   [.word "type", .word errorType, .word "struct", .group .curly
     [.word "Type", .word "string", .mark ';', .word "Value", .word "string", .mark ';']],
   [.word "func", .group .round [.word "e", .mark '*', .word errorType], .word "Error",
    .group .round [], .word "string", .group .curly
      [.word "return", .word "fmt", .mark '.', .word "Sprintf", .group .round
        [.text "unknown %s: %s", .mark ',', .word "e", .mark '.', .word "Type", .mark ',',
         .word "e", .mark '.', .word "Value"], .mark ';']]]

/-- The lines of the prelude behind the package clause. -/
def importLines : List String := (preludeLines defaultPackage).drop 2

theorem mapM_preludeStatements :
    preludeStatements.mapM declaration? = some preludeDeclarations := by
  decide

theorem reads_importLines {known : Reserved} :
    Reads (known.terminate false) importLines (flat (ended ';' preludeStatements)) := by
  have herror : IsWord errorType :=
    isWord_of_isIdentifier ((Name.isIdentifier_iff errorType).mp (by decide))
  have himport : Reads (known.terminate false) ["import \"fmt\""]
      [.word "import", .text "fmt", .mark ';'] :=
    reads_closed [.word "import", .text "fmt"] (spells_literal rfl) (by simp) rfl
  have hcomment : Reads (known.terminate false)
      ["// " ++ errorType ++ " is returned when a string names no member of an enum type."]
      [] := by
    refine reads_open ?_ List.not_mem_nil rfl
    simp only [Spells, String.toList_append, List.append_assoc]
    exact .literal [] rfl (.comment herror.noLineBreak (.literal [] rfl rfl))
  have hstruct : Spells ("type " ++ errorType ++ " struct \x7b")
      [.word "type", .word errorType, .word "struct", .mark '\x7b'] := by
    simp only [Spells, String.toList_append, List.append_assoc]
    exact .literal [.word "type"] rfl (.word herror rfl
      (.literal [.word "struct", .mark '\x7b'] rfl rfl))
  have htype : Reads (known.terminate false) ["\tType  string"]
      [.word "Type", .word "string", .mark ';'] :=
    reads_closed [.word "Type", .word "string"] (spells_literal rfl) (by simp) rfl
  have hvalue : Reads (known.terminate false) ["\tValue string"]
      [.word "Value", .word "string", .mark ';'] :=
    reads_closed [.word "Value", .word "string"] (spells_literal rfl) (by simp) rfl
  have hclose : Reads (known.terminate false) ["\x7d"] [.mark '\x7d', .mark ';'] :=
    reads_closed [.mark '\x7d'] (spells_literal rfl) (by simp) rfl
  have hfunc : Spells ("func (e *" ++ errorType ++ ") Error() string \x7b")
      [.word "func", .mark '(', .word "e", .mark '*', .word errorType, .mark ')',
       .word "Error", .mark '(', .mark ')', .word "string", .mark '\x7b'] := by
    simp only [Spells, String.toList_append, List.append_assoc]
    exact .literal [.word "func", .mark '(', .word "e", .mark '*'] rfl (.word herror rfl
      (.literal [.mark ')', .word "Error", .mark '(', .mark ')', .word "string",
        .mark '\x7b'] rfl rfl))
  have hreturn : Reads (known.terminate false)
      ["\treturn fmt.Sprintf(\"unknown %s: %s\", e.Type, e.Value)"]
      [.word "return", .word "fmt", .mark '.', .word "Sprintf", .mark '(',
       .text "unknown %s: %s", .mark ',', .word "e", .mark '.', .word "Type", .mark ',',
       .word "e", .mark '.', .word "Value", .mark ')', .mark ';'] :=
    reads_closed [.word "return", .word "fmt", .mark '.', .word "Sprintf", .mark '(',
      .text "unknown %s: %s", .mark ',', .word "e", .mark '.', .word "Type", .mark ',',
      .word "e", .mark '.', .word "Value", .mark ')'] (spells_literal rfl) (by simp) rfl
  have hrecord := (reads_open hstruct (by simp) rfl).cons (htype.cons (hvalue.cons hclose))
  have hfunction := (reads_open hfunc (by simp) rfl).cons (hreturn.cons hclose)
  exact reads_empty.cons (himport.cons (reads_empty.cons (hcomment.cons (hrecord.append
    (reads_empty.cons hfunction)))))

/-! ## Statements of enum types -/

theorem isStatement_preludeStatements : ∀ ts ∈ preludeStatements, IsStatement ts := by
  intro ts hts
  simp only [preludeStatements, List.mem_cons, List.not_mem_nil, or_false] at hts
  rcases hts with rfl | rfl | rfl <;>
    exact ⟨by simp [AllProper, Tree.Proper, Bracket.opened?, Bracket.closed?],
      by simp [Tree.isMark]⟩

theorem allProper_specTrees (e : EnumType) : ∀ ts ∈ specTrees e, AllProper ts := by
  rw [specTrees]
  split
  · rw [positionalTrees]
    cases e.members with
    | nil => simp
    | cons first rest =>
        simp [AllProper, Tree.Proper, Bracket.opened?, Bracket.closed?]
  · exact List.forall_mem_map.mpr fun m _ =>
      ⟨trivial, trivial, ⟨rfl, rfl⟩, allProper_valueTrees _ _⟩

theorem isStatement_constantTrees (e : EnumType) : IsStatement (constantTrees e) :=
  ⟨⟨trivial, allProper_ended (allProper_specTrees e) ⟨rfl, rfl⟩, trivial⟩,
    by simp [constantTrees, Tree.isMark]⟩

theorem allProper_body {subject : String} {clauses : List (List Tree)}
    (h : ∀ ts ∈ clauses, AllProper ts) : AllProper (ended ';' [switchTrees subject clauses]) := by
  have hclauses : AllProper (ended ';' clauses) := allProper_ended h ⟨rfl, rfl⟩
  exact allProper_ended (List.forall_mem_singleton.mpr ⟨trivial, trivial, hclauses, trivial⟩)
    ⟨rfl, rfl⟩

theorem isStatement_stringTrees (e : EnumType) : IsStatement (stringTrees e) := by
  have hclauses : ∀ ts ∈ stringClauses e, AllProper ts := by
    refine List.forall_mem_append.mpr ⟨List.forall_mem_map.mpr fun m _ => ?_, ?_⟩
    · exact ⟨trivial, trivial, ⟨rfl, rfl⟩, trivial, trivial, trivial⟩
    · exact List.forall_mem_singleton.mpr ⟨trivial, ⟨rfl, rfl⟩, trivial, trivial, trivial⟩
  exact ⟨⟨trivial, ⟨trivial, trivial, trivial⟩, trivial, trivial, trivial,
    allProper_body hclauses, trivial⟩, by simp [stringTrees, Tree.isMark]⟩

theorem isStatement_parseTrees (e : EnumType) : IsStatement (parseTrees e) := by
  have hfailure : AllProper (failureTrees e) :=
    ⟨⟨rfl, rfl⟩, trivial, ⟨trivial, ⟨rfl, rfl⟩, trivial, ⟨rfl, rfl⟩, trivial, ⟨rfl, rfl⟩, trivial,
      trivial⟩, trivial⟩
  have hclauses : ∀ ts ∈ parseClauses e, AllProper ts := by
    refine List.forall_mem_append.mpr ⟨List.forall_mem_map.mpr fun m _ => ?_, ?_⟩
    · exact ⟨trivial, trivial, ⟨rfl, rfl⟩, trivial, trivial, ⟨rfl, rfl⟩, trivial, trivial⟩
    · exact List.forall_mem_singleton.mpr
        ⟨trivial, ⟨rfl, rfl⟩, trivial, trivial, ⟨rfl, rfl⟩, hfailure⟩
  exact ⟨⟨trivial, trivial, ⟨trivial, trivial, trivial⟩, ⟨trivial, ⟨rfl, rfl⟩, trivial, trivial⟩,
    allProper_body hclauses, trivial⟩, by simp [parseTrees, Tree.isMark]⟩

theorem isStatement_keepAliveTrees (e : EnumType) : IsStatement (keepAliveTrees e) := by
  have helements : AllProper (ended ',' (e.members.map fun m => [.word (constantName e m)])) :=
    allProper_ended (List.forall_mem_map.mpr fun m _ => ⟨trivial, trivial⟩) ⟨rfl, rfl⟩
  exact ⟨⟨trivial, trivial, ⟨rfl, rfl⟩, ⟨⟨rfl, rfl⟩, ⟨rfl, rfl⟩, ⟨rfl, rfl⟩, trivial⟩, trivial,
    helements, trivial⟩, by simp [keepAliveTrees, Tree.isMark]⟩

theorem isStatement_enumStatements (e : EnumType) : ∀ ts ∈ enumStatements e, IsStatement ts := by
  have htype : IsStatement [.word "type", .word e.name,
      .word (integerType e.representation)] :=
    ⟨⟨trivial, trivial, trivial, trivial⟩, by simp [Tree.isMark]⟩
  have hcount : IsStatement (countTrees e) :=
    ⟨⟨trivial, trivial, ⟨rfl, rfl⟩, trivial, trivial⟩, by simp [countTrees, Tree.isMark]⟩
  have hcounts : ∀ ts ∈ (if e.isBitset then [] else [countTrees e]), IsStatement ts := by
    split
    · intro ts hts
      cases hts
    · exact List.forall_mem_singleton.mpr hcount
  have hkeep : ∀ ts ∈ (if e.preserve then [keepAliveTrees e] else []), IsStatement ts := by
    split
    · exact List.forall_mem_singleton.mpr (isStatement_keepAliveTrees e)
    · intro ts hts
      cases hts
  rw [enumStatements, List.forall_mem_append, List.forall_mem_append, List.forall_mem_append,
    List.forall_mem_cons, List.forall_mem_singleton, List.forall_mem_cons,
    List.forall_mem_singleton]
  exact ⟨⟨htype, isStatement_constantTrees e⟩, hcounts,
    ⟨isStatement_stringTrees e, isStatement_parseTrees e⟩, hkeep⟩

/-! ## Files -/

/-- The lines of a file behind its package clause. -/
def bodyLines (enums : List EnumType) : List String :=
  importLines ++ enums.flatMap fun e => "" :: enumLines e

def bodyStatements (enums : List EnumType) : List (List Tree) :=
  preludeStatements ++ enums.flatMap enumStatements

/-- The program of some enum types. -/
def program (enums : List EnumType) : Program :=
  ⟨preludeDeclarations ++ enums.flatMap enumDeclarations⟩

/-- What stands above the import: the header and the package clause. -/
def headLines (package : String) (header : Header) : List String :=
  header.lines "//" ++ ["", "package " ++ package]

/-- The text of an artifact is its head and what stands behind the package clause. -/
theorem text_of_generate {table : EnumTable} {package : String} {header : Header}
    {artifact : Artifact} (accepted : table.generate (.go package) header = .ok artifact) :
    artifact.text = unlines (headLines package header) ++ unlines (bodyLines artifact.enums) := by
  have htext := ((EnumTable.generate_eq_ok_iff ..).mp accepted).2.2
  have hsplit : Style.fileLines (.go package) header artifact.enums =
      header.lines "//" ++ (["", "package " ++ package] ++ importLines)
        ++ artifact.enums.flatMap fun e => "" :: enumLines e := rfl
  rw [htext, hsplit, ← unlines_append, headLines, bodyLines]
  simp only [List.append_assoc]

section Files

variable {enums : List EnumType}

theorem reads_bodyLines {known : Reserved} (h : ∀ e ∈ enums, Spelled known e) :
    Reads (known.terminate false) (bodyLines enums) (flat (ended ';' (bodyStatements enums))) := by
  have henums : Reads (known.terminate false) (enums.flatMap fun e => "" :: enumLines e)
      (flat (ended ';' (enums.flatMap enumStatements))) := by
    rw [ended, List.flatMap_assoc, flat_flatMap]
    exact Reads.flatMap fun e he => reads_empty.cons (reads_enumLines (h e he))
  rw [bodyStatements, ended_append, flat_append]
  exact reads_importLines.append henums

theorem isStatement_bodyStatements (enums : List EnumType) :
    ∀ ts ∈ bodyStatements enums, IsStatement ts :=
  List.forall_mem_append.mpr ⟨isStatement_preludeStatements,
    List.forall_mem_flatMap.mpr fun e _ => isStatement_enumStatements e⟩

theorem mapM_bodyStatements (h : ∀ e ∈ enums, Readable e) :
    (bodyStatements enums).mapM declaration? = some (program enums).declarations := by
  have henums := mapM_flatMap_eq_some fun e he => mapM_enumStatements (h e he)
  rw [bodyStatements, List.mapM_append, mapM_preludeStatements, henums]
  rfl

/-- The text behind the package clause is read as the program of its enum types. -/
theorem program?_body (h : ∀ e ∈ enums, Readable e) :
    program? (unlines (bodyLines enums)) = some (program enums) := by
  have hstatements := Reserved.statements?_unlines
    (reads_bodyLines fun e he => (h e he).spelled) (isStatement_bodyStatements enums)
  rw [Reserved.statements?_all] at hstatements
  simp [program?, hstatements, mapM_bodyStatements h]

/-- A package clause behind lines without code, and what stands behind the clause. -/
theorem Reserved.statements?_file {known : Reserved} (h : ∀ e ∈ enums, Spelled known e)
    {head : List String} (hhead : ∀ line ∈ head, Spells line []) {package : String}
    (word : IsWord package) (free : package ∉ known.words) :
    known.statements? (unlines (head ++ ["", "package " ++ package] ++ bodyLines enums)) =
      some ([.word "package", .word package] :: bodyStatements enums) := by
  have hopen : Reads (known.terminate false) head [] := Reads.nothing hhead fun _ => rfl
  have hspells : Spells ("package " ++ package) [.word "package", .word package] := by
    simp only [Spells, String.toList_append, List.append_assoc]
    exact .literal [.word "package"] rfl (.word word rfl rfl)
  have hends : known.closes [.word "package", .word package] = true := by
    simp [Reserved.closes, Reserved.canEnd, free]
  have hclause := reads_ended _ hspells (by simp) hends
  have hall := (hopen.append (reads_empty.cons hclause)).append (reads_bodyLines h)
  refine Reserved.statements?_unlines hall (List.forall_mem_cons.mpr
    ⟨⟨⟨trivial, trivial, trivial⟩, ?_⟩, isStatement_bodyStatements enums⟩)
  simp [Tree.isMark]

/-- A whole file is read as its package and the program of its enum types. -/
theorem file?_text (h : ∀ e ∈ enums, Readable e) {header : Header}
    (license : ∀ line ∈ header.license, '\n' ∉ line.toList) {package : String}
    (named : Named package) :
    file? (unlines (header.lines "//" ++ ["", "package " ++ package] ++ bodyLines enums)) =
      some ⟨package, program enums⟩ := by
  have hstatements := Reserved.statements?_file (fun e he => (h e he).spelled)
    (fun line hline => header.spells_of_mem license hline) named.word named.free
  rw [Reserved.statements?_all] at hstatements
  simp only [file?, hstatements, Option.bind_eq_bind, Option.bind_some]
  simp [named.name, mapM_bodyStatements h]

end Files

end EnumBindings.Go
