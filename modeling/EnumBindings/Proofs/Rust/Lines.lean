import EnumBindings.Proofs.Rust.Chunks

/-!
# Lines of a Rust module

Every line that is written is read here, and from the lines the sections of an enum type:
`reads_enumLines` says that they give the pieces of `enumChunks`. Line ends mean nothing, so a
line gives what stands on it, and it does so when a name is a keyword; `Spelled` is what it
takes.
-/

namespace EnumBindings.Rust

open EnumBindings.Source EnumBindings.Text

/-! ## Single lines -/

theorem joined_line {ts : List Token} (h : .lineEnd ∉ ts) (rest : List Token) :
    joined (ts ++ .lineEnd :: rest) = ts ++ joined rest := by
  have hkept : ts.filter (· != .lineEnd) = ts := by
    refine List.filter_eq_self.mpr fun t ht => ?_
    have hne : t ≠ .lineEnd := fun heq => h (heq ▸ ht)
    simpa using hne
  simp only [joined, List.filter_append, hkept]
  rfl

theorem reads_line {line : String} {ts : List Token} (h : Spells line ts)
    (hline : .lineEnd ∉ ts) : Reads joined [line] ts :=
  Reads.line h (joined_line hline)

theorem reads_empty : Reads joined [""] [] := reads_line spells_empty List.not_mem_nil

/-- A line that is one literal is read by computation. -/
theorem reads_literal {line : List Char} (ts : List Token)
    (h : scan .between (line ++ ['\n']) = (.between, ts ++ [.lineEnd]))
    (hline : ts.all (· != .lineEnd) = true) : Reads joined [String.ofList line] ts := by
  refine reads_line (spells_literal h) fun hmem => ?_
  have hne := List.all_eq_true.mp hline _ hmem
  simp at hne

/-! ## Closing braces -/

theorem reads_itemEnd : Reads joined ["\x7d"] [.mark '\x7d'] := reads_literal _ rfl rfl

theorem reads_functionEnd : Reads joined ["    \x7d"] [.mark '\x7d'] := reads_literal _ rfl rfl

theorem reads_matchEnd : Reads joined ["        \x7d"] [.mark '\x7d'] := reads_literal _ rfl rfl

/-! ## Words -/

/-- What it takes to find the words of an enum type. -/
structure Spelled (e : EnumType) : Prop where
  type : IsWord e.name
  constant : ∀ m ∈ e.members, IsWord m.constantName
  keepAlive : IsWord (keepAliveName e)
  external : ∀ m ∈ e.members, IsPlain m.externalName

theorem spelled_of_wellFormed {e : EnumType} (wf : e.WellFormed) : Spelled e where
  type := isWord_of_isIdentifier wf.typeName
  constant _ hm := (named_constantName wf hm).word
  keepAlive := (named_keepAliveName wf.typeName).word
  external _ hm := isPlain_externalName wf hm

theorem Readable.spelled {e : EnumType} (h : Readable e) : Spelled e where
  type := h.type.word
  constant m hm := (h.constant m hm).word
  keepAlive := h.keepAlive.word
  external := h.external

/-! ## Structures -/

variable {e : EnumType}

theorem isWord_integerType (r : Representation) : IsWord (integerType r) := by
  cases r with
  | i32 => exact isWord_of_isIdentifier ((Name.isIdentifier_iff "i32").mp (by decide))
  | u32 => exact isWord_of_isIdentifier ((Name.isIdentifier_iff "u32").mp (by decide))

theorem reads_tupleLines (h : Spelled e) :
    Reads joined
      ["/// Generated `" ++ e.name ++ "` enum type.",
       "#[derive(Debug, Clone, Copy, PartialEq, Eq, Hash)]",
       "#[repr(transparent)]",
       "pub struct " ++ e.name ++ "(pub " ++ integerType e.representation ++ ");"]
      (flat (closed [tupleChunk e])) := by
  have hcomment : Spells ("/// Generated `" ++ e.name ++ "` enum type.") [] := by
    simp only [Spells, String.toList_append, List.append_assoc]
    exact .literal [] rfl (.comment h.type.noLineBreak (.literal [] rfl rfl))
  have hderive : Reads joined ["#[derive(Debug, Clone, Copy, PartialEq, Eq, Hash)]"]
      (.mark '#' :: .mark '[' :: (flat deriveTrees ++ [Token.mark ']'])) := reads_literal _ rfl rfl
  have hrepr : Reads joined ["#[repr(transparent)]"]
      (.mark '#' :: .mark '[' :: (flat reprTrees ++ [Token.mark ']'])) := reads_literal _ rfl rfl
  have hstruct : Spells
      ("pub struct " ++ e.name ++ "(pub " ++ integerType e.representation ++ ");")
      [.word "pub", .word "struct", .word e.name, .mark '(', .word "pub",
       .word (integerType e.representation), .mark ')', .mark ';'] := by
    simp only [Spells, String.toList_append, List.append_assoc]
    exact .literal [.word "pub", .word "struct"] rfl (.word h.type rfl
      (.literal [.mark '(', .word "pub"] rfl (.word (isWord_integerType _) rfl
        (.literal [.mark ')', .mark ';'] rfl rfl))))
  have hall := (reads_line hcomment List.not_mem_nil).cons (hderive.cons (hrepr.cons
    (reads_line hstruct (by simp))))
  simpa [closed, Chunk.ending, tupleChunk, flat, Tree.tokens, Bracket.opening,
    Bracket.closing] using hall

/-! ## Arrays of constants -/

/-- A constant by its path, at the head of what follows on its line. -/
theorem scans_constantPath (h : Spelled e) {m : Member} (hm : m ∈ e.members) {cs : List Char}
    {q : Phase} {ts : List Token} (hstops : stops cs = true) (tail : Scans .between cs q ts) :
    Scans .between ((constantPath e m).toList ++ cs) q (flat (constantPathTrees e m) ++ ts) := by
  simp only [constantPath, String.toList_append, List.append_assoc]
  exact .word h.type rfl (.literal [.mark ':', .mark ':'] rfl
    (.word (h.constant m hm) hstops tail))

/-- The lines of an array, however they are indented. -/
theorem reads_storedLines (h : Spelled e) {name head indent last : String}
    (hhead : Scans .between head.toList .between
      [.word "static", .word name, .mark ':', .mark '['])
    (hindent : Scans .between indent.toList .between [])
    (hlast : Spells last [.mark ']', .mark ';']) :
    Reads joined
      ([head ++ e.name ++ "; " ++ toString e.count ++ "] = ["]
        ++ e.members.map (fun m => indent ++ constantPath e m ++ ",") ++ [last])
      (.word "static" :: flat (storedTrees name e ++ [Tree.mark ';'])) := by
  have hsized : Spells (head ++ e.name ++ "; " ++ toString e.count ++ "] = [")
      [.word "static", .word name, .mark ':', .mark '[', .word e.name, .mark ';',
       .word (toString e.count), .mark ']', .mark '=', .mark '['] := by
    simp only [Spells, String.toList_append, List.append_assoc]
    exact hhead.append (.word h.type rfl (.literal [.mark ';'] rfl
      (.word (isWord_toString _) rfl (.literal [.mark ']', .mark '=', .mark '['] rfl rfl))))
  have helement : ∀ m ∈ e.members, Reads joined [indent ++ constantPath e m ++ ","]
      (flat (constantPathTrees e m) ++ [Token.mark ',']) := by
    intro m hm
    have hspells : Spells (indent ++ constantPath e m ++ ",")
        (flat (constantPathTrees e m) ++ [Token.mark ',']) := by
      simp only [Spells, String.toList_append, List.append_assoc]
      exact hindent.append (scans_constantPath h hm rfl (.literal [.mark ','] rfl rfl))
    exact reads_line hspells (by simp [constantPathTrees, flat, Tree.tokens])
  have hall := ((reads_line hsized (by simp)).append (Reads.map helement)).append
    (reads_literal _ hlast rfl)
  simpa [storedTrees, sizedTrees, elementTrees, ended, flat, Tree.tokens, Bracket.opening,
    Bracket.closing, List.flatMap_map, flat_flatMap] using hall

/-! ## The inherent implementation -/

theorem reads_constantLines (h : Spelled e) :
    Reads joined (constantLines e) (flat (closed (e.members.map (constantChunk e)))) := by
  have hline : ∀ m ∈ e.members, Reads joined
      ["    pub const " ++ m.constantName ++ ": " ++ e.name ++ " = " ++ e.name ++ "("
        ++ e.representation.literal m.value ++ ");"]
      (flat ((constantChunk e m).1 ++ [Tree.mark ';'])) := by
    intro m hm
    refine reads_line ?_ (lineEnd_not_mem_flat _)
    have hspells : Spells
        ("    pub const " ++ m.constantName ++ ": " ++ e.name ++ " = " ++ e.name ++ "("
          ++ e.representation.literal m.value ++ ");")
        ([Token.word "pub", .word "const", .word m.constantName, .mark ':', .word e.name, .mark '=',
          .word e.name, .mark '('] ++ (flat (valueTrees e.representation m.value)
            ++ [Token.mark ')', .mark ';'])) := by
      simp only [Spells, String.toList_append, List.append_assoc]
      exact .literal [.word "pub", .word "const"] rfl (.word (h.constant m hm) rfl
        (.literal [.mark ':'] rfl (.word h.type rfl (.literal [.mark '='] rfl
          (.word h.type rfl (.literal [.mark '('] rfl (scans_value _ _ rfl
            (.literal [.mark ')', .mark ';'] rfl rfl))))))))
    simpa [constantChunk, flat, Tree.tokens, Bracket.opening, Bracket.closing] using hspells
  have hall := Reads.map hline
  rw [constantLines]
  simpa [closed, Chunk.ending, constantChunk, flat_flatMap, List.flatMap_map] using hall

theorem reads_valuesLines (h : Spelled e) :
    Reads joined (valuesLines e) (flat (closed [valuesChunk e])) := by
  have hcomment : Reads joined ["    /// Every named value, in declaration order."] [] :=
    reads_literal [] rfl rfl
  have hhead : Spells ("    pub fn values() -> &'static [" ++ e.name ++ "] \x7b")
      [.word "pub", .word "fn", .word "values", .mark '(', .mark ')', .mark '-', .mark '>',
       .mark '&', .mark '\'', .word "static", .mark '[', .word e.name, .mark ']',
       .mark '\x7b'] := by
    simp only [Spells, String.toList_append, List.append_assoc]
    exact .literal [.word "pub", .word "fn", .word "values", .mark '(', .mark ')', .mark '-',
      .mark '>', .mark '&', .mark '\'', .word "static", .mark '['] rfl (.word h.type rfl
        (.literal [.mark ']', .mark '\x7b'] rfl rfl))
  have hstored : Reads joined
      (["        static VALUES: [" ++ e.name ++ "; " ++ toString e.count ++ "] = ["]
        ++ e.members.map (fun m => "            " ++ constantPath e m ++ ",") ++ ["        ];"])
      (.word "static" :: flat (storedTrees "VALUES" e ++ [Tree.mark ';'])) :=
    reads_storedLines h rfl rfl rfl
  have hresult : Reads joined ["        &VALUES"] [.mark '&', .word "VALUES"] :=
    reads_literal _ rfl rfl
  have hall := ((reads_empty.cons (hcomment.cons (reads_line hhead (by simp)))).append
    hstored).append (hresult.cons reads_functionEnd)
  simpa [valuesLines, closed, Chunk.ending, valuesChunk, flat, Tree.tokens, Bracket.opening,
    Bracket.closing] using hall

set_option maxRecDepth 1000 in
theorem reads_sizeLines (h : Spelled e) :
    Reads joined (sizeLines e) (flat (closed [sizeChunk e])) := by
  rw [sizeLines, sizeChunk]
  split
  · have hcomment : Reads joined
        ["    /// Whether every flag set in `other` is also set in `self`."] [] :=
      reads_literal [] rfl rfl
    have hhead : Spells
        ("    pub const fn contains(self, other: " ++ e.name ++ ") -> bool \x7b")
        [.word "pub", .word "const", .word "fn", .word "contains", .mark '(', .word "self",
         .mark ',', .word "other", .mark ':', .word e.name, .mark ')', .mark '-', .mark '>',
         .word "bool", .mark '\x7b'] := by
      simp only [Spells, String.toList_append, List.append_assoc]
      exact .literal [.word "pub", .word "const", .word "fn", .word "contains", .mark '(',
        .word "self", .mark ',', .word "other", .mark ':'] rfl (.word h.type rfl
          (.literal [.mark ')', .mark '-', .mark '>', .word "bool", .mark '\x7b'] rfl rfl))
    have hbody : Reads joined ["        self.0 & other.0 == other.0"]
        [.word "self", .mark '.', .word "0", .mark '&', .word "other", .mark '.', .word "0",
         .mark '=', .mark '=', .word "other", .mark '.', .word "0"] := reads_literal _ rfl rfl
    have hall := reads_empty.cons (hcomment.cons ((reads_line hhead (by simp)).cons
      (hbody.cons reads_functionEnd)))
    simpa [closed, Chunk.ending, containsChunk, flat, Tree.tokens, Bracket.opening,
      Bracket.closing] using hall
  · have hcomment : Reads joined ["    /// Number of named values."] [] :=
      reads_literal [] rfl rfl
    have hhead : Reads joined ["    pub const fn count() -> usize \x7b"]
        [.word "pub", .word "const", .word "fn", .word "count", .mark '(', .mark ')', .mark '-',
         .mark '>', .word "usize", .mark '\x7b'] := reads_literal _ rfl rfl
    have hbody : Spells ("        " ++ toString e.count) [.word (toString e.count)] := by
      simp only [Spells, String.toList_append, List.append_assoc]
      exact .literal [] rfl (.word (isWord_toString _) rfl rfl)
    have hall := reads_empty.cons (hcomment.cons (hhead.cons
      ((reads_line hbody (by simp)).cons reads_functionEnd)))
    simpa [closed, Chunk.ending, countChunk, flat, Tree.tokens, Bracket.opening,
      Bracket.closing] using hall

theorem reads_nameArm (h : Spelled e) {m : Member} (hm : m ∈ e.members) :
    Reads joined ["            " ++ constantPath e m ++ " => \"" ++ m.externalName ++ "\","]
      (flat (armTrees (constantPathTrees e m) [.text m.externalName] ++ [Tree.mark ','])) := by
  have hspells : Spells
      ("            " ++ constantPath e m ++ " => \"" ++ m.externalName ++ "\",")
      (flat (constantPathTrees e m)
        ++ [Token.mark '=', .mark '>', .text m.externalName, .mark ',']) := by
    simp only [Spells, String.toList_append, List.append_assoc]
    exact .literal [] rfl (scans_constantPath h hm rfl (.literal [.mark '=', .mark '>'] rfl
      (.quoted (h.external m hm) rfl rfl rfl)))
  have hline := reads_line hspells (by simp [constantPathTrees, flat, Tree.tokens])
  simpa [armTrees, flat, Tree.tokens] using hline

theorem reads_nameLines (h : Spelled e) :
    Reads joined (nameLines e) (flat (closed [nameChunk e])) := by
  have hcomment : Spells
      ("    /// Canonical name of this value, or `\"" ++ EnumType.unknownName ++ "\"`.") [] := by
    simp only [Spells, String.toList_append, List.append_assoc]
    exact .literal [] rfl (.literal [] rfl (.literal [] rfl rfl))
  have hhead : Reads joined ["    pub fn as_str(self) -> &'static str \x7b"]
      [.word "pub", .word "fn", .word "as_str", .mark '(', .word "self", .mark ')', .mark '-',
       .mark '>', .mark '&', .mark '\'', .word "static", .word "str", .mark '\x7b'] :=
    reads_literal _ rfl rfl
  have hmatch : Reads joined ["        match self \x7b"]
      [.word "match", .word "self", .mark '\x7b'] := reads_literal _ rfl rfl
  have hlast : Spells ("            _ => \"" ++ EnumType.unknownName ++ "\",")
      [.word "_", .mark '=', .mark '>', .text EnumType.unknownName, .mark ','] := by
    simp only [Spells, String.toList_append, List.append_assoc]
    exact .literal [.word "_", .mark '=', .mark '>'] rfl (.literal [] rfl
      (.literal [.text EnumType.unknownName, .mark ','] rfl rfl))
  have hopen := reads_empty.cons ((reads_line hcomment List.not_mem_nil).cons
    (hhead.cons hmatch))
  have harms := Reads.map fun m hm => reads_nameArm h (m := m) hm
  have hall := (hopen.append harms).append
    ((reads_line hlast (by simp)).cons (reads_matchEnd.cons reads_functionEnd))
  simpa [nameLines, closed, Chunk.ending, nameChunk, nameArms, ended, armTrees, flat,
    Tree.tokens, Bracket.opening, Bracket.closing, List.flatMap_map, flat_flatMap] using hall

theorem reads_inherentLines (h : Spelled e) :
    Reads joined (inherentLines e) (flat (closed [ownChunk e])) := by
  have hhead : Spells ("impl " ++ e.name ++ " \x7b") [.word "impl", .word e.name,
      .mark '\x7b'] := by
    simp only [Spells, String.toList_append, List.append_assoc]
    exact .literal [.word "impl"] rfl (.word h.type rfl (.literal [.mark '\x7b'] rfl rfl))
  have hall := (((((reads_line hhead (by simp)).append (reads_constantLines h)).append
    (reads_valuesLines h)).append (reads_sizeLines h)).append (reads_nameLines h)).append
      reads_itemEnd
  -- the pieces in the groups that their lines are written in
  have hchunks : inherentChunks e = e.members.map (constantChunk e)
      ++ ([valuesChunk e] ++ ([sizeChunk e] ++ [nameChunk e])) := rfl
  rw [inherentLines, ownChunk, hchunks]
  simp only [closed_append]
  simpa [closed_cons, closed, Chunk.ending, flat, Tree.tokens, Bracket.opening,
    Bracket.closing] using hall

/-! ## Implementations of traits -/

set_option maxRecDepth 1000 in
/-- Showing values of a type, given the one line that does it. -/
theorem reads_displayLines {type line : String} {body : List Tree} (htype : IsWord type)
    (hbody : Spells line (flat body)) :
    Reads joined (displayLines type ++ [line, "    \x7d", "\x7d"])
      (flat (closed [displayChunk type body])) := by
  have hhead : Spells ("impl fmt::Display for " ++ type ++ " \x7b")
      [.word "impl", .word "fmt", .mark ':', .mark ':', .word "Display", .word "for",
       .word type, .mark '\x7b'] := by
    simp only [Spells, String.toList_append, List.append_assoc]
    exact .literal [.word "impl", .word "fmt", .mark ':', .mark ':', .word "Display",
      .word "for"] rfl (.word htype rfl (.literal [.mark '\x7b'] rfl rfl))
  have hfmt : Reads joined
      ["    fn fmt(&self, f: &mut fmt::Formatter<'_>) -> fmt::Result \x7b"]
      [.word "fn", .word "fmt", .mark '(', .mark '&', .word "self", .mark ',', .word "f",
       .mark ':', .mark '&', .word "mut", .word "fmt", .mark ':', .mark ':', .word "Formatter",
       .mark '<', .mark '\'', .word "_", .mark '>', .mark ')', .mark '-', .mark '>',
       .word "fmt", .mark ':', .mark ':', .word "Result", .mark '\x7b'] := reads_literal _ rfl rfl
  have hall := (reads_line hhead (by simp)).cons (hfmt.cons
    ((reads_line hbody (lineEnd_not_mem_flat _)).cons (reads_functionEnd.cons reads_itemEnd)))
  simpa [displayLines, closed, Chunk.ending, displayChunk, flat, Tree.tokens, Bracket.opening,
    Bracket.closing] using hall

theorem isWord_errorType : IsWord errorType :=
  isWord_of_isIdentifier ((Name.isIdentifier_iff errorType).mp (by decide))

theorem reads_failureLines (h : Spelled e) :
    Reads joined
      ["            _ => Err(" ++ errorType ++ " \x7b",
       "                type_name: \"" ++ e.name ++ "\",",
       "                value: s.to_string(),",
       "            \x7d),"]
      (flat (armTrees [.word "_"] (failureTrees e) ++ [Tree.mark ','])) := by
  have hhead : Spells ("            _ => Err(" ++ errorType ++ " \x7b")
      [.word "_", .mark '=', .mark '>', .word "Err", .mark '(', .word errorType,
       .mark '\x7b'] := by
    simp only [Spells, String.toList_append, List.append_assoc]
    exact .literal [.word "_", .mark '=', .mark '>', .word "Err", .mark '('] rfl
      (.word isWord_errorType rfl (.literal [.mark '\x7b'] rfl rfl))
  have htype : Spells ("                type_name: \"" ++ e.name ++ "\",")
      [.word "type_name", .mark ':', .text e.name, .mark ','] := by
    simp only [Spells, String.toList_append, List.append_assoc]
    exact .literal [.word "type_name", .mark ':'] rfl
      (.quoted (isPlain_of_isWord h.type) rfl rfl rfl)
  have hvalue : Reads joined ["                value: s.to_string(),"]
      [.word "value", .mark ':', .word "s", .mark '.', .word "to_string", .mark '(', .mark ')',
       .mark ','] := reads_literal _ rfl rfl
  have hclose : Reads joined ["            \x7d),"] [.mark '\x7d', .mark ')', .mark ','] :=
    reads_literal _ rfl rfl
  have hall := (reads_line hhead (by simp)).cons ((reads_line htype (by simp)).cons
    (hvalue.cons hclose))
  simpa [armTrees, failureTrees, ended, flat, Tree.tokens, Bracket.opening,
    Bracket.closing] using hall

theorem reads_parseArm (h : Spelled e) {m : Member} (hm : m ∈ e.members) :
    Reads joined
      ["            \"" ++ m.externalName ++ "\" => Ok(" ++ constantPath e m ++ "),"]
      (flat (armTrees [.text m.externalName]
        [.word "Ok", .group .round (constantPathTrees e m)] ++ [Tree.mark ','])) := by
  have hspells : Spells
      ("            \"" ++ m.externalName ++ "\" => Ok(" ++ constantPath e m ++ "),")
      ([Token.text m.externalName, .mark '=', .mark '>', .word "Ok", .mark '(']
        ++ (flat (constantPathTrees e m) ++ [Token.mark ')', .mark ','])) := by
    simp only [Spells, String.toList_append, List.append_assoc]
    exact .literal [] rfl (.quoted (h.external m hm) rfl rfl
      (scans_constantPath h hm rfl (.literal [.mark ')', .mark ','] rfl rfl)))
  have hline := reads_line hspells (by simp [constantPathTrees, flat, Tree.tokens])
  simpa [armTrees, flat, Tree.tokens, Bracket.opening, Bracket.closing] using hline

theorem reads_parseLines (h : Spelled e) :
    Reads joined (parseLines e) (flat (closed [fromStrChunk e])) := by
  have hhead : Spells ("impl FromStr for " ++ e.name ++ " \x7b")
      [.word "impl", .word "FromStr", .word "for", .word e.name, .mark '\x7b'] := by
    simp only [Spells, String.toList_append, List.append_assoc]
    exact .literal [.word "impl", .word "FromStr", .word "for"] rfl (.word h.type rfl
      (.literal [.mark '\x7b'] rfl rfl))
  have herror : Spells ("    type Err = " ++ errorType ++ ";")
      [.word "type", .word "Err", .mark '=', .word errorType, .mark ';'] := by
    simp only [Spells, String.toList_append, List.append_assoc]
    exact .literal [.word "type", .word "Err", .mark '='] rfl (.word isWord_errorType rfl
      (.literal [.mark ';'] rfl rfl))
  have hfunction : Reads joined ["    fn from_str(s: &str) -> Result<Self, Self::Err> \x7b"]
      [.word "fn", .word "from_str", .mark '(', .word "s", .mark ':', .mark '&', .word "str",
       .mark ')', .mark '-', .mark '>', .word "Result", .mark '<', .word "Self", .mark ',',
       .word "Self", .mark ':', .mark ':', .word "Err", .mark '>', .mark '\x7b'] :=
    reads_literal _ rfl rfl
  have hmatch : Reads joined ["        match s \x7b"]
      [.word "match", .word "s", .mark '\x7b'] := reads_literal _ rfl rfl
  have hopen := (reads_line hhead (by simp)).cons ((reads_line herror (by simp)).cons
    (reads_empty.cons (hfunction.cons hmatch)))
  have harms := Reads.map fun m hm => reads_parseArm h (m := m) hm
  have hall := (hopen.append harms).append ((reads_failureLines h).append
    (reads_matchEnd.cons (reads_functionEnd.cons reads_itemEnd)))
  simpa [parseLines, closed, Chunk.ending, fromStrChunk, parseChunks, parseArms, ended, flat,
    Tree.tokens, Bracket.opening, Bracket.closing, List.flatMap_map, flat_flatMap] using hall

theorem reads_bitOperationLines (h : Spelled e) {trait method operator : String} {c : Char}
    (htrait : IsWord trait) (hmethod : IsWord method)
    (hoperator : Scans .between operator.toList .between [.mark c]) :
    Reads joined (bitOperationLines e trait method operator)
      (flat (closed [operationChunk e trait method c])) := by
  have hhead : Spells ("impl std::ops::" ++ trait ++ " for " ++ e.name ++ " \x7b")
      [.word "impl", .word "std", .mark ':', .mark ':', .word "ops", .mark ':', .mark ':',
       .word trait, .word "for", .word e.name, .mark '\x7b'] := by
    simp only [Spells, String.toList_append, List.append_assoc]
    exact .literal [.word "impl", .word "std", .mark ':', .mark ':', .word "ops", .mark ':',
      .mark ':'] rfl (.word htrait rfl (.literal [.word "for"] rfl (.word h.type rfl
        (.literal [.mark '\x7b'] rfl rfl))))
  have houtput : Spells ("    type Output = " ++ e.name ++ ";")
      [.word "type", .word "Output", .mark '=', .word e.name, .mark ';'] := by
    simp only [Spells, String.toList_append, List.append_assoc]
    exact .literal [.word "type", .word "Output", .mark '='] rfl (.word h.type rfl
      (.literal [.mark ';'] rfl rfl))
  have hfunction : Spells
      ("    fn " ++ method ++ "(self, rhs: " ++ e.name ++ ") -> " ++ e.name ++ " \x7b")
      [.word "fn", .word method, .mark '(', .word "self", .mark ',', .word "rhs", .mark ':',
       .word e.name, .mark ')', .mark '-', .mark '>', .word e.name, .mark '\x7b'] := by
    simp only [Spells, String.toList_append, List.append_assoc]
    exact .literal [.word "fn"] rfl (.word hmethod rfl
      (.literal [.mark '(', .word "self", .mark ',', .word "rhs", .mark ':'] rfl
        (.word h.type rfl (.literal [.mark ')', .mark '-', .mark '>'] rfl
          (.word h.type rfl (.literal [.mark '\x7b'] rfl rfl))))))
  have hbody : Spells ("        " ++ e.name ++ "(self.0 " ++ operator ++ " rhs.0)")
      [.word e.name, .mark '(', .word "self", .mark '.', .word "0", .mark c, .word "rhs",
       .mark '.', .word "0", .mark ')'] := by
    simp only [Spells, String.toList_append, List.append_assoc]
    exact .literal [] rfl (.word h.type rfl (.literal
      [.mark '(', .word "self", .mark '.', .word "0"] rfl (hoperator.append
        (.literal [.word "rhs", .mark '.', .word "0", .mark ')'] rfl rfl))))
  have hall := reads_empty.cons ((reads_line hhead (by simp)).cons
    ((reads_line houtput (by simp)).cons (reads_empty.cons ((reads_line hfunction (by simp)).cons
      ((reads_line hbody (by simp)).cons (reads_functionEnd.cons reads_itemEnd))))))
  simpa [bitOperationLines, closed, Chunk.ending, operationChunk, flat, Tree.tokens,
    Bracket.opening, Bracket.closing] using hall

theorem reads_operationsLines (h : Spelled e) :
    Reads joined (if e.isBitset then bitOperationsLines e else [])
      (flat (closed (operationsChunks e))) := by
  rw [operationsChunks]
  split
  · have hor : Named "BitOr" := named_of_check (by decide) (by decide)
    have hbitor : Named "bitor" := named_of_check (by decide) (by decide)
    have hand : Named "BitAnd" := named_of_check (by decide) (by decide)
    have hbitand : Named "bitand" := named_of_check (by decide) (by decide)
    have hunion : Reads joined (bitOperationLines e "BitOr" "bitor" "|")
        (flat (closed [operationChunk e "BitOr" "bitor" '|'])) :=
      reads_bitOperationLines h hor.word hbitor.word rfl
    have hcommon : Reads joined (bitOperationLines e "BitAnd" "bitand" "&")
        (flat (closed [operationChunk e "BitAnd" "bitand" '&'])) :=
      reads_bitOperationLines h hand.word hbitand.word rfl
    have hall := hunion.append hcommon
    rwa [← flat_append, ← closed_append] at hall
  · exact Reads.nil

/-! ## Enum types -/

theorem reads_keepAliveLines (h : Spelled e) :
    Reads joined (if e.preserve then [""] ++ keepAliveLines e else [])
      (flat (closed (keepAliveChunks e))) := by
  rw [keepAliveChunks]
  split
  · have hused : Reads joined ["#[used]"] [.mark '#', .mark '[', .word "used", .mark ']'] :=
      reads_literal _ rfl rfl
    have hhead : Scans .between ("static " ++ keepAliveName e ++ ": [").toList .between
        [.word "static", .word (keepAliveName e), .mark ':', .mark '['] := by
      simp only [String.toList_append, List.append_assoc]
      exact .literal [.word "static"] rfl (.word h.keepAlive rfl rfl)
    have hstored : Reads joined
        (["static " ++ keepAliveName e ++ ": [" ++ e.name ++ "; " ++ toString e.count ++ "] = ["]
          ++ e.members.map (fun m => "    " ++ constantPath e m ++ ",") ++ ["];"])
        (.word "static" :: flat (storedTrees (keepAliveName e) e ++ [Tree.mark ';'])) :=
      reads_storedLines h hhead rfl rfl
    have hall := reads_empty.cons (hused.cons hstored)
    simpa [keepAliveLines, closed, Chunk.ending, flat, Tree.tokens, Bracket.opening,
      Bracket.closing] using hall
  · exact Reads.nil

/-- The lines of an enum type give its pieces. -/
theorem reads_enumLines (h : Spelled e) :
    Reads joined (enumLines e) (flat (closed (enumChunks e))) := by
  have hshow := reads_displayLines h.type
    (show Spells "        f.write_str(self.as_str())" (flat showTrees) from spells_literal rfl)
  have hhead := (reads_tupleLines h).append reads_empty
  have hall := ((((((hhead.append (reads_inherentLines h)).append reads_empty).append
    hshow).append reads_empty).append (reads_parseLines h)).append
      (reads_operationsLines h)).append (reads_keepAliveLines h)
  rw [closed_enumChunks, enumLines]
  simp only [flat_append]
  simpa using hall

end EnumBindings.Rust
