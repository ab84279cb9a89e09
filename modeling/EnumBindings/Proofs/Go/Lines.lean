import EnumBindings.Proofs.Go.Declarations
import EnumBindings.Proofs.Go.Outline

/-!
# Lines of a Go file

Every line that is written is read here, and from the lines the sections of an enum type:
`reads_enumLines` says that they give the statements of `enumStatements`, each ended by a
semicolon. A line is `closed` when the language puts a semicolon at its end, else `open`. All
this holds for readers that know some of the keywords only; `Spelled` is what it takes.
-/

namespace EnumBindings.Go

open EnumBindings.Source EnumBindings.Text

/-! ## Line ends -/

section LineEnds

variable (known : Reserved)

/-- Whether a statement can end behind some tokens. -/
def Reserved.closes (ts : List Token) : Bool := ts.getLast?.any known.canEnd

theorem Reserved.terminate_line {ts : List Token} (h : .lineEnd ∉ ts) (ends : Bool)
    (rest : List Token) :
    known.terminate ends (ts ++ .lineEnd :: rest) =
      ts ++ ((if ts.getLast?.elim ends known.canEnd then [.mark ';'] else []) ++
        known.terminate false rest) := by
  induction ts generalizing ends with
  | nil => rfl
  | cons t ts ih =>
      rw [List.mem_cons, not_or] at h
      -- only the last token of the line decides whether a semicolon is put
      have hlast : (t :: ts).getLast?.elim ends known.canEnd =
          ts.getLast?.elim (known.canEnd t) known.canEnd := by
        cases ts with
        | nil => rfl
        | cons u us => rw [List.getLast?_cons_cons]; rfl
      rw [List.cons_append, List.cons_append, hlast, ← ih h.2]
      cases t with
      | word letters => rfl
      | text content => rfl
      | mark c => rfl
      | lineEnd => exact absurd rfl h.1

variable {known}

/-- A line at whose end a statement ends. -/
theorem reads_ended {line : String} (ts : List Token) (h : Spells line ts)
    (hline : .lineEnd ∉ ts) (hcloses : known.closes ts = true) :
    Reads (known.terminate false) [line] (ts ++ [Token.mark ';']) := by
  refine Reads.line h fun rest => ?_
  have hends : ts.getLast?.elim false known.canEnd = true := by
    cases hlast : ts.getLast? with
    | none => simp [Reserved.closes, hlast] at hcloses
    | some t => simpa [Reserved.closes, hlast] using hcloses
  rw [known.terminate_line hline, hends, List.append_assoc]
  rfl

/-- A line at whose end the language ends a statement. -/
theorem reads_closed {line : String} (ts : List Token) (h : Spells line ts)
    (hline : .lineEnd ∉ ts) (hcloses : Reserved.all.closes ts = true) :
    Reads (known.terminate false) [line] (ts ++ [Token.mark ';']) := by
  refine reads_ended ts h hline ?_
  rw [Reserved.closes, Option.any_eq_true] at hcloses ⊢
  obtain ⟨t, hlast, hends⟩ := hcloses
  exact ⟨t, hlast, known.canEnd_of_all hends⟩

/-- A line behind which a statement goes on, or none has begun. -/
theorem reads_open {line : String} {ts : List Token} (h : Spells line ts)
    (hline : .lineEnd ∉ ts) (hopen : Reserved.none.closes ts = false) :
    Reads (known.terminate false) [line] ts := by
  refine Reads.line h fun rest => ?_
  have hends : ts.getLast?.elim false known.canEnd = false := by
    cases hlast : ts.getLast? with
    | none => rfl
    | some t => exact known.canEnd_of_none (by simpa [Reserved.closes, hlast] using hopen)
  rw [known.terminate_line hline, hends]
  rfl

theorem reads_empty : Reads (known.terminate false) [""] [] :=
  reads_open spells_empty List.not_mem_nil rfl

end LineEnds

/-! ## Words -/

/-- No keyword opens with a digit. -/
theorem canEnd_of_digit {x : String} {c : Char} {rest : List Char} (heq : x.toList = c :: rest)
    (h : c.isDigit = true) : Reserved.all.canEnd (.word x) = true := by
  have hletters : ∀ k ∈ keywords, k.toList.head?.any Char.isDigit = false := by decide
  have hfree : x ∉ keywords := fun hmem => by simpa [heq, h] using hletters x hmem
  simp [Reserved.canEnd, Reserved.all, hfree]

theorem canEnd_toString (n : Nat) : Reserved.all.canEnd (.word (toString n)) = true := by
  obtain ⟨c, rest, heq, hdigit⟩ := toString_toList_eq_cons n
  exact canEnd_of_digit heq hdigit

/-- What a reader that knows some keywords needs to find the words of an enum type. -/
structure Spelled (known : Reserved) (e : EnumType) : Prop where
  type : IsWord e.name
  constant : ∀ m ∈ e.members, IsWord (constantName e m)
  /-- A statement can end behind a constant. -/
  free : ∀ m ∈ e.members, constantName e m ∉ known.words
  count : IsWord (countName e)
  parse : IsWord (parseName e)
  external : ∀ m ∈ e.members, IsPlain m.externalName

theorem Readable.spelled {e : EnumType} (h : Readable e) : Spelled .all e where
  type := h.type.word
  constant m hm := (h.constant m hm).word
  free m hm := (h.constant m hm).free
  count := h.count.word
  parse := h.parse.word
  external := h.external

/-- A reader that knows no keywords can read every resolved enum type. -/
theorem spelled_of_wellFormed {e : EnumType} (wf : e.WellFormed) : Spelled .none e := by
  have word : ∀ x ∈ declaredNames e, IsWord x := fun x hx =>
    isWord_of_isIdentifier (isIdentifier_of_mem_declaredNames wf x hx)
  exact {
    type := word _ (name_mem_declaredNames e)
    constant := fun m hm => word _ (constantName_mem_declaredNames hm)
    free := fun m _ => List.not_mem_nil
    count := isWord_of_isIdentifier (isIdentifier_countName wf)
    parse := word _ (parseName_mem_declaredNames e)
    external := fun m hm => isPlain_externalName wf hm }

variable {known : Reserved} {e : EnumType}

/-- The literal of a value ends with a word behind which a statement can end. -/
theorem flat_valueTrees_eq_append (r : Representation) (v : Int) :
    ∃ first x, flat (valueTrees r v) = first ++ [Token.word x] ∧ .lineEnd ∉ first ∧
      Reserved.all.canEnd (.word x) = true := by
  cases r with
  | i32 =>
      cases v with
      | ofNat n => exact ⟨[], toString n, rfl, by simp, canEnd_toString n⟩
      | negSucc n => exact ⟨[.mark '-'], toString (n + 1), rfl, by simp, canEnd_toString _⟩
  | u32 => exact ⟨[], _, rfl, by simp, canEnd_of_digit (String.toList_append ..) rfl⟩

/-- A line that ends with the literal of a value. -/
theorem reads_valueLine {line : String} {ts : List Token} {r : Representation} {v : Int}
    (h : Spells line (ts ++ flat (valueTrees r v))) (hline : .lineEnd ∉ ts) :
    Reads (known.terminate false) [line] (ts ++ (flat (valueTrees r v) ++ [Token.mark ';'])) := by
  obtain ⟨first, x, hvalue, hfirst, hend⟩ := flat_valueTrees_eq_append r v
  rw [← List.append_assoc]
  refine reads_closed _ h ?_ ?_
  · simp [hvalue, hline, hfirst]
  · rw [hvalue, ← List.append_assoc, Reserved.closes, List.getLast?_concat]
    exact hend

/-! ## Constants -/

theorem isWord_integerType (r : Representation) : IsWord (integerType r) := by
  cases r with
  | i32 => exact isWord_of_isIdentifier ((Name.isIdentifier_iff "int").mp (by decide))
  | u32 => exact isWord_of_isIdentifier ((Name.isIdentifier_iff "uint32").mp (by decide))

theorem reads_typeLine (h : Spelled known e) :
    Reads (known.terminate false) ["type " ++ e.name ++ " " ++ integerType e.representation]
      [.word "type", .word e.name, .word (integerType e.representation), .mark ';'] := by
  have hspells : Spells ("type " ++ e.name ++ " " ++ integerType e.representation)
      [.word "type", .word e.name, .word (integerType e.representation)] := by
    simp only [Spells, String.toList_append, List.append_assoc]
    exact .literal [.word "type"] rfl (.word h.type rfl (.literal [] rfl
      (.word (isWord_integerType _) rfl rfl)))
  refine reads_closed _ hspells (by simp) ?_
  cases e.representation <;> rfl

theorem reads_firstLine (h : Spelled known e) {m : Member} (hm : m ∈ e.members) :
    Reads (known.terminate false) ["\t" ++ constantName e m ++ " " ++ e.name ++ " = iota"]
      [.word (constantName e m), .word e.name, .mark '=', .word "iota", .mark ';'] := by
  have hspells : Spells ("\t" ++ constantName e m ++ " " ++ e.name ++ " = iota")
      [.word (constantName e m), .word e.name, .mark '=', .word "iota"] := by
    simp only [Spells, String.toList_append, List.append_assoc]
    exact .literal [] rfl (.word (h.constant m hm) rfl (.literal [] rfl (.word h.type rfl
      (.literal [.mark '='] rfl rfl))))
  exact reads_closed _ hspells (by simp) rfl

theorem reads_repeatedLine (h : Spelled known e) {m : Member} (hm : m ∈ e.members) :
    Reads (known.terminate false) ["\t" ++ constantName e m]
      [.word (constantName e m), .mark ';'] := by
  have hspells : Spells ("\t" ++ constantName e m) [.word (constantName e m)] := by
    simp only [Spells, String.toList_append, List.append_assoc]
    exact .literal [] rfl (.word (h.constant m hm) rfl rfl)
  -- the constant itself is all that ends the line
  have hends : known.closes [.word (constantName e m)] = true := by
    simp [Reserved.closes, Reserved.canEnd, h.free m hm]
  exact reads_ended _ hspells (by simp) hends

theorem reads_positionalLines (h : Spelled known e) :
    Reads (known.terminate false) (positionalLines e) (flat (ended ';' (positionalTrees e))) := by
  rw [positionalLines, positionalTrees]
  cases hmembers : e.members with
  | nil => exact Reads.nil
  | cons first rest =>
      have hmem : ∀ m ∈ first :: rest, m ∈ e.members := fun m hm => hmembers ▸ hm
      have hfirst := reads_firstLine h (hmem first List.mem_cons_self)
      have hrest := Reads.map fun m hm =>
        reads_repeatedLine h (hmem m (List.mem_cons_of_mem first hm))
      have hall := hfirst.cons hrest
      simpa [ended, flat, Tree.tokens, flat_flatMap, List.flatMap_map] using hall

theorem reads_explicitLine (h : Spelled known e) {m : Member} (hm : m ∈ e.members) :
    Reads (known.terminate false)
      ["\t" ++ alignLeft (nameWidth e) (constantName e m) ++ " " ++ e.name ++ " = "
        ++ e.representation.literal m.value]
      ([Token.word (constantName e m), .word e.name, .mark '=']
        ++ (flat (valueTrees e.representation m.value) ++ [Token.mark ';'])) := by
  refine reads_valueLine ?_ (by simp)
  simp only [Spells, alignLeft, String.toList_append, List.append_assoc]
  exact .literal [] rfl (.word (h.constant m hm) (stops_blanks _ rfl) (.blanks _ (.literal [] rfl
    (.word h.type rfl (.literal [.mark '='] rfl (scans_value _ _ rfl rfl))))))

theorem reads_explicitLines (h : Spelled known e) :
    Reads (known.terminate false) (explicitLines e) (flat (ended ';' (explicitTrees e))) := by
  have hall := Reads.map fun m hm => reads_explicitLine h (m := m) hm
  rw [explicitLines]
  simpa [ended, flat, Tree.tokens, flat_flatMap, List.flatMap_map, explicitTrees] using hall

theorem reads_constantLines (h : Spelled known e) :
    Reads (known.terminate false) (constantLines e) (flat (ended ';' [constantTrees e])) := by
  have hopen : Reads (known.terminate false) ["const ("] [.word "const", .mark '('] :=
    reads_open (spells_literal rfl) (by simp) rfl
  have hclose : Reads (known.terminate false) [")"] [.mark ')', .mark ';'] :=
    reads_closed [.mark ')'] (spells_literal rfl) (by simp) rfl
  have hspecs : Reads (known.terminate false)
      (if e.positional then positionalLines e else explicitLines e)
      (flat (ended ';' (specTrees e))) := by
    rw [specTrees]
    split
    · exact reads_positionalLines h
    · exact reads_explicitLines h
  have hall := (hopen.append hspecs).append hclose
  rw [constantLines]
  simpa [ended, flat, Tree.tokens, constantTrees, Bracket.opening, Bracket.closing] using hall

theorem reads_countLines (h : Spelled known e) :
    Reads (known.terminate false) (countLines e)
      (flat (ended ';' (if e.isBitset then [] else [countTrees e]))) := by
  rw [countLines]
  split
  · exact Reads.nil
  · have hcomment : Reads (known.terminate false)
        ["// " ++ countName e ++ " is the number of " ++ e.name ++ " values."] [] := by
      refine reads_open ?_ List.not_mem_nil rfl
      simp only [Spells, String.toList_append, List.append_assoc]
      exact .literal [] rfl (.comment h.count.noLineBreak (.literal [] rfl
        (.comment h.type.noLineBreak (.literal [] rfl rfl))))
    have hspells : Spells ("const " ++ countName e ++ " = " ++ toString e.count)
        [.word "const", .word (countName e), .mark '=', .word (toString e.count)] := by
      simp only [Spells, String.toList_append, List.append_assoc]
      exact .literal [.word "const"] rfl (.word h.count rfl (.literal [.mark '='] rfl
        (.word (isWord_toString _) rfl rfl)))
    have hconst : Reads (known.terminate false)
        ["const " ++ countName e ++ " = " ++ toString e.count]
        [.word "const", .word (countName e), .mark '=', .word (toString e.count), .mark ';'] :=
      reads_closed _ hspells (by simp) (canEnd_toString _)
    have hall := reads_empty.cons (hcomment.cons hconst)
    simpa [ended, flat, Tree.tokens, countTrees] using hall

/-! ## Functions -/

theorem reads_stringHead (h : Spelled known e) :
    Reads (known.terminate false)
      ["// String returns the canonical name of e, or \"" ++ EnumType.unknownName ++ "\".",
       "func (e " ++ e.name ++ ") String() string \x7b",
       "\tswitch e \x7b"]
      [.word "func", .mark '(', .word "e", .word e.name, .mark ')', .word "String", .mark '(',
       .mark ')', .word "string", .mark '\x7b', .word "switch", .word "e", .mark '\x7b'] := by
  have hcomment : Reads (known.terminate false)
      ["// String returns the canonical name of e, or \"" ++ EnumType.unknownName ++ "\"."]
      [] := by
    refine reads_open ?_ List.not_mem_nil rfl
    simp only [Spells, String.toList_append, List.append_assoc]
    exact .literal [] rfl (.literal [] rfl (.literal [] rfl rfl))
  have hspells : Spells ("func (e " ++ e.name ++ ") String() string \x7b")
      [.word "func", .mark '(', .word "e", .word e.name, .mark ')', .word "String", .mark '(',
       .mark ')', .word "string", .mark '\x7b'] := by
    simp only [Spells, String.toList_append, List.append_assoc]
    exact .literal [.word "func", .mark '(', .word "e"] rfl (.word h.type rfl (.literal
      [.mark ')', .word "String", .mark '(', .mark ')', .word "string", .mark '\x7b'] rfl rfl))
  have hswitch : Reads (known.terminate false) ["\tswitch e \x7b"]
      [.word "switch", .word "e", .mark '\x7b'] := reads_open (spells_literal rfl) (by simp) rfl
  exact hcomment.cons ((reads_open hspells (by simp) rfl).cons hswitch)

theorem reads_stringClause (h : Spelled known e) {m : Member} (hm : m ∈ e.members) :
    Reads (known.terminate false)
      ["\tcase " ++ constantName e m ++ ":", "\t\treturn \"" ++ m.externalName ++ "\""]
      (flat (caseTrees [.word (constantName e m)] [.text m.externalName] ++ [Tree.mark ';'])) := by
  have hlabel : Spells ("\tcase " ++ constantName e m ++ ":")
      [.word "case", .word (constantName e m), .mark ':'] := by
    simp only [Spells, String.toList_append, List.append_assoc]
    exact .literal [.word "case"] rfl (.word (h.constant m hm) rfl
      (.literal [.mark ':'] rfl rfl))
  have hreturn : Spells ("\t\treturn \"" ++ m.externalName ++ "\"")
      [.word "return", .text m.externalName] := by
    simp only [Spells, String.toList_append, List.append_assoc]
    exact .literal [.word "return"] rfl (.quoted (h.external m hm) rfl rfl rfl)
  exact (reads_open hlabel (by simp) rfl).cons (reads_closed _ hreturn (by simp) rfl)

/-- The end of a switch and of the function around it. -/
theorem reads_functionEnd :
    Reads (known.terminate false) ["\t\x7d", "\x7d"]
      [.mark '\x7d', .mark ';', .mark '\x7d', .mark ';'] := by
  have hswitch : Reads (known.terminate false) ["\t\x7d"] [.mark '\x7d', .mark ';'] :=
    reads_closed [.mark '\x7d'] (spells_literal rfl) (by simp) rfl
  have hfunction : Reads (known.terminate false) ["\x7d"] [.mark '\x7d', .mark ';'] :=
    reads_closed [.mark '\x7d'] (spells_literal rfl) (by simp) rfl
  exact hswitch.cons hfunction

theorem reads_stringLines (h : Spelled known e) :
    Reads (known.terminate false) (stringLines e) (flat (ended ';' [stringTrees e])) := by
  have hclauses := Reads.flatMap fun m hm => reads_stringClause h (m := m) hm
  have hlabel : Reads (known.terminate false) ["\tdefault:"] [.word "default", .mark ':'] :=
    reads_open (spells_literal rfl) (by simp) rfl
  have hreturn : Spells ("\t\treturn \"" ++ EnumType.unknownName ++ "\"")
      [.word "return", .text EnumType.unknownName] := by
    simp only [Spells, String.toList_append, List.append_assoc]
    exact .literal [.word "return"] rfl (.literal [] rfl
      (.literal [.text EnumType.unknownName] rfl rfl))
  have hall := ((reads_stringHead h).append hclauses).append
    (hlabel.cons ((reads_closed _ hreturn (by simp) rfl).cons reads_functionEnd))
  rw [stringLines]
  simpa [ended, flat, Tree.tokens, stringTrees, switchTrees, stringClauses, defaultTrees,
    Bracket.opening, Bracket.closing, List.flatMap_map, flat_flatMap] using hall

theorem reads_parseHead (h : Spelled known e) :
    Reads (known.terminate false)
      ["// " ++ parseName e ++ " parses the canonical name of a " ++ e.name ++ " value.",
       "func " ++ parseName e ++ "(s string) (" ++ e.name ++ ", error) \x7b",
       "\tswitch s \x7b"]
      [.word "func", .word (parseName e), .mark '(', .word "s", .word "string", .mark ')',
       .mark '(', .word e.name, .mark ',', .word "error", .mark ')', .mark '\x7b',
       .word "switch", .word "s", .mark '\x7b'] := by
  have hcomment : Reads (known.terminate false)
      ["// " ++ parseName e ++ " parses the canonical name of a " ++ e.name ++ " value."]
      [] := by
    refine reads_open ?_ List.not_mem_nil rfl
    simp only [Spells, String.toList_append, List.append_assoc]
    exact .literal [] rfl (.comment h.parse.noLineBreak (.literal [] rfl
      (.comment h.type.noLineBreak (.literal [] rfl rfl))))
  have hspells : Spells ("func " ++ parseName e ++ "(s string) (" ++ e.name ++ ", error) \x7b")
      [.word "func", .word (parseName e), .mark '(', .word "s", .word "string", .mark ')',
       .mark '(', .word e.name, .mark ',', .word "error", .mark ')', .mark '\x7b'] := by
    simp only [Spells, String.toList_append, List.append_assoc]
    exact .literal [.word "func"] rfl (.word h.parse rfl (.literal
      [.mark '(', .word "s", .word "string", .mark ')', .mark '('] rfl (.word h.type rfl
        (.literal [.mark ',', .word "error", .mark ')', .mark '\x7b'] rfl rfl))))
  have hswitch : Reads (known.terminate false) ["\tswitch s \x7b"]
      [.word "switch", .word "s", .mark '\x7b'] := reads_open (spells_literal rfl) (by simp) rfl
  exact hcomment.cons ((reads_open hspells (by simp) rfl).cons hswitch)

theorem reads_parseClause (h : Spelled known e) {m : Member} (hm : m ∈ e.members) :
    Reads (known.terminate false)
      ["\tcase \"" ++ m.externalName ++ "\":", "\t\treturn " ++ constantName e m ++ ", nil"]
      (flat (caseTrees [.text m.externalName]
        [.word (constantName e m), .mark ',', .word "nil"] ++ [Tree.mark ';'])) := by
  have hlabel : Spells ("\tcase \"" ++ m.externalName ++ "\":")
      [.word "case", .text m.externalName, .mark ':'] := by
    simp only [Spells, String.toList_append, List.append_assoc]
    exact .literal [.word "case"] rfl (.quoted (h.external m hm) rfl rfl rfl)
  have hreturn : Spells ("\t\treturn " ++ constantName e m ++ ", nil")
      [.word "return", .word (constantName e m), .mark ',', .word "nil"] := by
    simp only [Spells, String.toList_append, List.append_assoc]
    exact .literal [.word "return"] rfl (.word (h.constant m hm) rfl
      (.literal [.mark ','] rfl rfl))
  exact (reads_open hlabel (by simp) rfl).cons (reads_closed _ hreturn (by simp) rfl)

theorem reads_failureLine (h : Spelled known e) :
    Reads (known.terminate false)
      ["\t\treturn 0, &" ++ errorType ++ "\x7bType: \"" ++ e.name ++ "\", Value: s\x7d"]
      (.word "return" :: .word "0" :: .mark ',' :: (flat (failureTrees e) ++ [Token.mark ';'])) := by
  have hspells : Spells
      ("\t\treturn 0, &" ++ errorType ++ "\x7bType: \"" ++ e.name ++ "\", Value: s\x7d")
      (.word "return" :: .word "0" :: .mark ',' :: flat (failureTrees e)) := by
    simp only [Spells, String.toList_append, List.append_assoc]
    exact .literal [.word "return", .word "0", .mark ',', .mark '&'] rfl (.literal [] rfl
      (.literal [.word errorType, .mark '\x7b', .word "Type", .mark ':'] rfl
        (.quoted (isPlain_of_isWord h.type) rfl rfl rfl)))
  refine reads_closed _ hspells ?_ rfl
  simp [failureTrees, flat, Tree.tokens]

theorem reads_parseLines (h : Spelled known e) :
    Reads (known.terminate false) (parseLines e) (flat (ended ';' [parseTrees e])) := by
  have hclauses := Reads.flatMap fun m hm => reads_parseClause h (m := m) hm
  have hlabel : Reads (known.terminate false) ["\tdefault:"] [.word "default", .mark ':'] :=
    reads_open (spells_literal rfl) (by simp) rfl
  have hall := ((reads_parseHead h).append hclauses).append
    (hlabel.cons ((reads_failureLine h).cons reads_functionEnd))
  rw [parseLines]
  simpa [ended, flat, Tree.tokens, parseTrees, switchTrees, parseClauses, defaultTrees,
    Bracket.opening, Bracket.closing, List.flatMap_map, flat_flatMap] using hall

/-! ## Enum types -/

theorem reads_keepAliveLines (h : Spelled known e) :
    Reads (known.terminate false) (keepAliveLines e) (flat (ended ';' [keepAliveTrees e])) := by
  have hcomment : Reads (known.terminate false)
      ["// Every " ++ e.name ++ " value is referenced so none is stripped from the build."]
      [] := by
    refine reads_open ?_ List.not_mem_nil rfl
    simp only [Spells, String.toList_append, List.append_assoc]
    exact .literal [] rfl (.comment h.type.noLineBreak (.literal [] rfl rfl))
  have hspells : Spells ("var _ = [...]" ++ e.name ++ "\x7b")
      [.word "var", .word "_", .mark '=', .mark '[', .mark '.', .mark '.', .mark '.', .mark ']',
       .word e.name, .mark '\x7b'] := by
    simp only [Spells, String.toList_append, List.append_assoc]
    exact .literal [.word "var", .word "_", .mark '=', .mark '[', .mark '.', .mark '.',
      .mark '.', .mark ']'] rfl (.word h.type rfl (.literal [.mark '\x7b'] rfl rfl))
  have helement : ∀ m ∈ e.members, Reads (known.terminate false) ["\t" ++ constantName e m ++ ","]
      [.word (constantName e m), .mark ','] := by
    intro m hm
    have hspells : Spells ("\t" ++ constantName e m ++ ",")
        [.word (constantName e m), .mark ','] := by
      simp only [Spells, String.toList_append, List.append_assoc]
      exact .literal [] rfl (.word (h.constant m hm) rfl (.literal [.mark ','] rfl rfl))
    exact reads_open hspells (by simp) rfl
  have hclose : Reads (known.terminate false) ["\x7d"] [.mark '\x7d', .mark ';'] :=
    reads_closed [.mark '\x7d'] (spells_literal rfl) (by simp) rfl
  have hall := ((hcomment.cons (reads_open hspells (by simp) rfl)).append
    (Reads.map helement)).append hclose
  rw [keepAliveLines]
  simpa [ended, flat, Tree.tokens, keepAliveTrees, Bracket.opening, Bracket.closing,
    List.flatMap_map, flat_flatMap] using hall

/-- The lines of an enum type give its statements. -/
theorem reads_enumLines (h : Spelled known e) :
    Reads (known.terminate false) (enumLines e) (flat (ended ';' (enumStatements e))) := by
  have hcomment : Reads (known.terminate false)
      ["// " ++ e.name ++ " is a generated enum type."] [] := by
    refine reads_open ?_ List.not_mem_nil rfl
    simp only [Spells, String.toList_append, List.append_assoc]
    exact .literal [] rfl (.comment h.type.noLineBreak (.literal [] rfl rfl))
  have hkeep : Reads (known.terminate false) (if e.preserve then [""] ++ keepAliveLines e else [])
      (flat (ended ';' (if e.preserve then [keepAliveTrees e] else []))) := by
    split
    · exact reads_empty.append (reads_keepAliveLines h)
    · exact Reads.nil
  have hhead := hcomment.cons ((reads_typeLine h).cons reads_empty)
  have hall := ((((((hhead.append (reads_constantLines h)).append (reads_countLines h)).append
    reads_empty).append (reads_stringLines h)).append reads_empty).append
      (reads_parseLines h)).append hkeep
  have hstatements : enumStatements e =
      [[Tree.word "type", .word e.name, .word (integerType e.representation)]]
        ++ ([constantTrees e] ++ ((if e.isBitset then [] else [countTrees e])
        ++ ([stringTrees e] ++ ([parseTrees e]
        ++ if e.preserve then [keepAliveTrees e] else [])))) := rfl
  rw [hstatements, enumLines]
  simp only [ended_append, flat_append]
  simpa [ended, flat, Tree.tokens] using hall

end EnumBindings.Go
