import EnumBindings.Proofs.Header
import EnumBindings.Proofs.Rust.Lines
import EnumBindings.Proofs.Rust.Outline
import EnumBindings.Proofs.Table

/-!
# Reading generated modules

A generated module is read as the items of the prelude and those of its enum types in order:
`module?_body` for the text behind the header, `module?_text` for the whole.
-/

namespace EnumBindings.Rust

open EnumBindings.Source EnumBindings.Text

/-! ## Texts of items -/

/-- Lines that give the pieces of items are scanned, nested and cut apart into these pieces. -/
theorem chunks?_unlines {lines : List String} {chunks : List Chunk}
    (h : Reads joined lines (flat (closed chunks))) (proper : AllProper (closed chunks))
    (hends : ∀ c ∈ chunks, ∀ t ∈ c.1, ends t = false) :
    ∃ tokens, tokens? (unlines lines) = some tokens ∧
      nest? [] [] (joined tokens) = some (closed chunks) ∧
      chunks? [] (closed chunks) = some chunks := by
  obtain ⟨scanned, htokens, hlay⟩ := h.tokens? rfl
  refine ⟨scanned, htokens, ?_, chunks?_closed hends⟩
  -- no bracket is open at the start, so the nesting is read back whole
  have hflat := nest?_flat _ proper [] [] []
  rwa [hlay, ← List.append_nil (flat (closed chunks))]

/-- Lines that give the pieces of items are read as these items. -/
theorem module?_unlines {lines : List String} {chunks : List Chunk} {items : List Item}
    (h : Reads joined lines (flat (closed chunks))) (proper : AllProper (closed chunks))
    (hends : ∀ c ∈ chunks, ∀ t ∈ c.1, ends t = false)
    (hitems : chunks.mapM item? = some items) : module? (unlines lines) = some ⟨items⟩ := by
  obtain ⟨tokens, htokens, hnest, hchunks⟩ := chunks?_unlines h proper hends
  simp [module?, htokens, hnest, hchunks, hitems]

theorem openings?_unlines {lines : List String} {chunks : List Chunk}
    (h : Reads joined lines (flat (closed chunks))) (proper : AllProper (closed chunks))
    (hends : ∀ c ∈ chunks, ∀ t ∈ c.1, ends t = false) :
    openings? (unlines lines) = some (chunks.map bare) := by
  obtain ⟨tokens, htokens, hnest, hchunks⟩ := chunks?_unlines h proper hends
  simp [openings?, htokens, hnest, hchunks]

/-! ## The prelude -/

def errorAttribute : List Tree :=
  [.word "derive", .group .round [.word "Debug", .mark ',', .word "Clone", .mark ',',
    .word "PartialEq", .mark ',', .word "Eq"]]

/-- The body that shows an error. -/
def messageTrees : List Tree :=
  [.word "write", .mark '!', .group .round [.word "f", .mark ',',
    .text "unknown \x7b\x7d: \x7b\x7d", .mark ',', .word "self", .mark '.', .word "type_name",
    .mark ',', .word "self", .mark '.', .word "value"]]

def errorFields : List (String × List Token) :=
  [("type_name", staticText), ("value", [.word "String"])]

/-- What stands before the first enum type. -/
def preludeItems : List Item :=
  [⟨[], .imported ["std", "fmt"]⟩, ⟨[], .imported ["std", "str", "FromStr"]⟩,
   ⟨[flat errorAttribute], .record errorType errorFields⟩,
   displayItem errorType (.expand "write" [.name "f", .text "unknown \x7b\x7d: \x7b\x7d",
     .field "self" "type_name", .field "self" "value"]),
   ⟨[], .implementation (some ["std", "error", "Error"]) errorType []⟩]

def preludeChunks : List Chunk :=
  [([.word "use", .word "std", .mark ':', .mark ':', .word "fmt"], none),
   ([.word "use", .word "std", .mark ':', .mark ':', .word "str", .mark ':', .mark ':',
     .word "FromStr"], none),
   ([.mark '#', .group .square errorAttribute, .word "pub", .word "struct", .word errorType],
    some (ended ',' [
      [.word "pub", .word "type_name", .mark ':', .mark '&', .mark '\'', .word "static",
       .word "str"],
      [.word "pub", .word "value", .mark ':', .word "String"]])),
   displayChunk errorType messageTrees,
   ([.word "impl", .word "std", .mark ':', .mark ':', .word "error", .mark ':', .mark ':',
     .word "Error", .word "for", .word errorType], some [])]

theorem mapM_preludeChunks : preludeChunks.mapM item? = some preludeItems := by
  decide

set_option maxRecDepth 1000 in
theorem reads_preludeLines : Reads joined preludeLines (flat (closed preludeChunks)) := by
  have hfmt : Reads joined ["use std::fmt;"]
      [.word "use", .word "std", .mark ':', .mark ':', .word "fmt", .mark ';'] :=
    reads_literal _ rfl rfl
  have hfromStr : Reads joined ["use std::str::FromStr;"]
      [.word "use", .word "std", .mark ':', .mark ':', .word "str", .mark ':', .mark ':',
       .word "FromStr", .mark ';'] := reads_literal _ rfl rfl
  have hcomment : Reads joined
      ["/// Returned when a string names no member of an enum type."] [] :=
    reads_literal [] rfl rfl
  have hderive : Reads joined ["#[derive(Debug, Clone, PartialEq, Eq)]"]
      (.mark '#' :: .mark '[' :: (flat errorAttribute ++ [Token.mark ']'])) := reads_literal _ rfl rfl
  have hstruct : Spells ("pub struct " ++ errorType ++ " \x7b")
      [.word "pub", .word "struct", .word errorType, .mark '\x7b'] := by
    simp only [Spells, String.toList_append, List.append_assoc]
    exact .literal [.word "pub", .word "struct"] rfl (.word isWord_errorType rfl
      (.literal [.mark '\x7b'] rfl rfl))
  have htype : Reads joined ["    pub type_name: &'static str,"]
      [.word "pub", .word "type_name", .mark ':', .mark '&', .mark '\'', .word "static",
       .word "str", .mark ','] := reads_literal _ rfl rfl
  have hvalue : Reads joined ["    pub value: String,"]
      [.word "pub", .word "value", .mark ':', .word "String", .mark ','] :=
    reads_literal _ rfl rfl
  have hmessage := reads_displayLines isWord_errorType
    (show Spells "        write!(f, \"unknown \x7b\x7d: \x7b\x7d\", self.type_name, self.value)"
      (flat messageTrees) from spells_literal rfl)
  have hempty : Spells ("impl std::error::Error for " ++ errorType ++ " \x7b\x7d")
      [.word "impl", .word "std", .mark ':', .mark ':', .word "error", .mark ':', .mark ':',
       .word "Error", .word "for", .word errorType, .mark '\x7b', .mark '\x7d'] := by
    simp only [Spells, String.toList_append, List.append_assoc]
    exact .literal [.word "impl", .word "std", .mark ':', .mark ':', .word "error", .mark ':',
      .mark ':', .word "Error", .word "for"] rfl (.word isWord_errorType rfl
        (.literal [.mark '\x7b', .mark '\x7d'] rfl rfl))
  have hrecord := hderive.cons ((reads_line hstruct (by simp)).cons (htype.cons
    (hvalue.cons reads_itemEnd)))
  have himports := reads_empty.cons (hfmt.cons (hfromStr.cons reads_empty))
  have herror := reads_line hempty (by simp)
  exact ((himports.append (hcomment.cons hrecord)).append (reads_empty.append hmessage)).append
    (reads_empty.cons herror)

theorem ends_preludeChunks : ∀ c ∈ preludeChunks, ∀ t ∈ c.1, ends t = false := by
  simp [preludeChunks, displayChunk, ends]

/-! ## Brackets -/

/-- Pieces without stray brackets are written without stray brackets. -/
theorem allProper_closed {chunks : List Chunk}
    (h : ∀ c ∈ chunks, AllProper (c.1 ++ [Chunk.ending c.2])) : AllProper (closed chunks) :=
  allProper_flatMap h

theorem allProper_constantPathTrees (e : EnumType) (m : Member) :
    AllProper (constantPathTrees e m) :=
  ⟨trivial, ⟨rfl, rfl⟩, ⟨rfl, rfl⟩, trivial, trivial⟩

theorem allProper_storedTrees (name : String) (e : EnumType) : AllProper (storedTrees name e) := by
  have helements : AllProper (ended ',' (e.members.map (constantPathTrees e))) :=
    allProper_ended (List.forall_mem_map.mpr fun m _ => allProper_constantPathTrees e m)
      ⟨rfl, rfl⟩
  have hsized : (sizedTrees e).Proper := ⟨trivial, ⟨rfl, rfl⟩, trivial, trivial⟩
  exact ⟨trivial, ⟨rfl, rfl⟩, hsized, ⟨rfl, rfl⟩, helements, trivial⟩

theorem allProper_armTrees {pattern value : List Tree} (hpattern : AllProper pattern)
    (hvalue : AllProper value) : AllProper (armTrees pattern value) :=
  (allProper_append _ _).mpr ⟨hpattern, ⟨rfl, rfl⟩, ⟨rfl, rfl⟩, hvalue⟩

theorem allProper_nameArms (e : EnumType) : AllProper (ended ',' (nameArms e)) := by
  refine allProper_ended (List.forall_mem_append.mpr
    ⟨List.forall_mem_map.mpr fun m _ => ?_, List.forall_mem_singleton.mpr ?_⟩) ⟨rfl, rfl⟩
  · exact allProper_armTrees (allProper_constantPathTrees e m) ⟨trivial, trivial⟩
  · exact allProper_armTrees ⟨trivial, trivial⟩ ⟨trivial, trivial⟩

theorem allProper_parseArms (e : EnumType) : AllProper (ended ',' (parseArms e)) := by
  have hfailure : AllProper (failureTrees e) := by
    simp [failureTrees, ended, AllProper, Tree.Proper, Bracket.opened?, Bracket.closed?]
  refine allProper_ended (List.forall_mem_append.mpr
    ⟨List.forall_mem_map.mpr fun m _ => ?_, List.forall_mem_singleton.mpr ?_⟩) ⟨rfl, rfl⟩
  · exact allProper_armTrees ⟨trivial, trivial⟩
      ⟨trivial, allProper_constantPathTrees e m, trivial⟩
  · exact allProper_armTrees ⟨trivial, trivial⟩ hfailure

theorem allProper_inherentChunks (e : EnumType) : AllProper (closed (inherentChunks e)) := by
  refine allProper_closed (List.forall_mem_append.mpr ⟨List.forall_mem_map.mpr fun m _ => ?_, ?_⟩)
  · have hvalue := allProper_valueTrees e.representation m.value
    simp [constantChunk, Chunk.ending, AllProper, Tree.Proper, Bracket.opened?, Bracket.closed?,
      hvalue]
  · have hvalues : AllProper ((valuesChunk e).1 ++ [Chunk.ending (valuesChunk e).2]) := by
      simp [valuesChunk, Chunk.ending, AllProper, Tree.Proper, Bracket.opened?,
        Bracket.closed?, allProper_storedTrees]
    have hsize : AllProper ((sizeChunk e).1 ++ [Chunk.ending (sizeChunk e).2]) := by
      rw [sizeChunk]
      split
      · simp [containsChunk, Chunk.ending, AllProper, Tree.Proper, Bracket.opened?,
          Bracket.closed?]
      · simp [countChunk, Chunk.ending, AllProper, Tree.Proper, Bracket.opened?, Bracket.closed?]
    have hname : AllProper ((nameChunk e).1 ++ [Chunk.ending (nameChunk e).2]) := by
      simp [nameChunk, Chunk.ending, AllProper, Tree.Proper, Bracket.opened?, Bracket.closed?,
        allProper_nameArms]
    exact List.forall_mem_cons.mpr
      ⟨hvalues, List.forall_mem_cons.mpr ⟨hsize, List.forall_mem_singleton.mpr hname⟩⟩

theorem allProper_parseChunks (e : EnumType) : AllProper (closed (parseChunks e)) := by
  simp [closed, parseChunks, Chunk.ending, AllProper, Tree.Proper, Bracket.opened?,
    Bracket.closed?, allProper_parseArms]

theorem allProper_displayChunk {type : String} {body : List Tree} (h : AllProper body) :
    AllProper (closed [displayChunk type body]) := by
  simp [closed, displayChunk, Chunk.ending, AllProper, Tree.Proper, Bracket.opened?,
    Bracket.closed?, h]

theorem allProper_operationChunk (e : EnumType) (trait method : String) {operator : Char}
    (h : Tree.Proper (.mark operator)) :
    AllProper (closed [operationChunk e trait method operator]) := by
  simpa [closed, operationChunk, Chunk.ending, AllProper, Tree.Proper, Bracket.opened?,
    Bracket.closed?] using h

theorem allProper_enumChunks (e : EnumType) : AllProper (closed (enumChunks e)) := by
  have htuple : AllProper (closed [tupleChunk e]) := by
    simp [closed, tupleChunk, deriveTrees, reprTrees, Chunk.ending, AllProper, Tree.Proper,
      Bracket.opened?, Bracket.closed?]
  have hown : AllProper (closed [ownChunk e]) :=
    ⟨trivial, trivial, allProper_inherentChunks e, trivial⟩
  have hshow : AllProper (closed [displayChunk e.name showTrees]) :=
    allProper_displayChunk (by
      simp [showTrees, AllProper, Tree.Proper, Bracket.opened?, Bracket.closed?])
  have hfromStr : AllProper (closed [fromStrChunk e]) :=
    ⟨trivial, trivial, trivial, trivial, allProper_parseChunks e, trivial⟩
  have hoperations : AllProper (closed (operationsChunks e)) := by
    rw [operationsChunks]
    split
    · exact (allProper_append _ _).mpr ⟨allProper_operationChunk e "BitOr" "bitor" ⟨rfl, rfl⟩,
        allProper_operationChunk e "BitAnd" "bitand" ⟨rfl, rfl⟩⟩
    · trivial
  have hkeepAlive : AllProper (closed (keepAliveChunks e)) := by
    rw [keepAliveChunks]
    split
    · simp [closed, Chunk.ending, AllProper, Tree.Proper, Bracket.opened?, Bracket.closed?,
        allProper_storedTrees]
    · trivial
  simp only [closed_enumChunks, allProper_append]
  exact ⟨htuple, hown, hshow, hfromStr, hoperations, hkeepAlive⟩

theorem allProper_preludeChunks : AllProper (closed preludeChunks) := by
  simp [closed, preludeChunks, displayChunk, messageTrees, errorAttribute, ended, Chunk.ending,
    AllProper, Tree.Proper, Bracket.opened?, Bracket.closed?]

/-! ## Modules -/

/-- The lines of a module behind its header. -/
def bodyLines (enums : List EnumType) : List String :=
  preludeLines ++ enums.flatMap fun e => "" :: enumLines e

def bodyChunks (enums : List EnumType) : List Chunk :=
  preludeChunks ++ enums.flatMap enumChunks

/-- The module of some enum types. -/
def module (enums : List EnumType) : Module :=
  ⟨preludeItems ++ enums.flatMap enumItems⟩

/-- The text of an artifact is its header and what stands behind it. -/
theorem text_of_generate {table : EnumTable} {header : Header} {artifact : Artifact}
    (accepted : table.generate .rust header = .ok artifact) :
    artifact.text = unlines (header.lines "//") ++ unlines (bodyLines artifact.enums) := by
  have htext := ((EnumTable.generate_eq_ok_iff ..).mp accepted).2.2
  have hsplit : Style.fileLines .rust header artifact.enums =
      header.lines "//" ++ preludeLines ++ artifact.enums.flatMap fun e => "" :: enumLines e :=
    rfl
  rw [htext, hsplit, ← unlines_append, bodyLines, List.append_assoc]

section Modules

variable {enums : List EnumType}

theorem reads_allEnumLines (h : ∀ e ∈ enums, Spelled e) :
    Reads joined (enums.flatMap fun e => "" :: enumLines e)
      (flat (closed (enums.flatMap enumChunks))) := by
  rw [closed, List.flatMap_assoc, flat_flatMap]
  exact Reads.flatMap fun e he => reads_empty.cons (reads_enumLines (h e he))

theorem reads_bodyLines (h : ∀ e ∈ enums, Spelled e) :
    Reads joined (bodyLines enums) (flat (closed (bodyChunks enums))) := by
  rw [bodyChunks, closed_append, flat_append]
  exact reads_preludeLines.append (reads_allEnumLines h)

theorem allProper_allEnumChunks (enums : List EnumType) :
    AllProper (closed (enums.flatMap enumChunks)) := by
  rw [closed, List.flatMap_assoc]
  exact allProper_flatMap fun e _ => allProper_enumChunks e

theorem allProper_bodyChunks (enums : List EnumType) : AllProper (closed (bodyChunks enums)) := by
  rw [bodyChunks, closed_append, allProper_append]
  exact ⟨allProper_preludeChunks, allProper_allEnumChunks enums⟩

theorem ends_bodyChunks (enums : List EnumType) :
    ∀ c ∈ bodyChunks enums, ∀ t ∈ c.1, ends t = false :=
  List.forall_mem_append.mpr ⟨ends_preludeChunks,
    List.forall_mem_flatMap.mpr fun e _ => ends_enumChunks e⟩

theorem mapM_bodyChunks (h : ∀ e ∈ enums, Readable e) :
    (bodyChunks enums).mapM item? = some (module enums).items := by
  have henums := mapM_flatMap_eq_some fun e he => mapM_enumChunks (h e he)
  rw [bodyChunks, List.mapM_append, mapM_preludeChunks, henums]
  rfl

/-- The text behind the header is read as the module of its enum types. -/
theorem module?_body (h : ∀ e ∈ enums, Readable e) :
    module? (unlines (bodyLines enums)) = some (module enums) :=
  module?_unlines (reads_bodyLines fun e he => (h e he).spelled) (allProper_bodyChunks enums)
    (ends_bodyChunks enums) (mapM_bodyChunks h)

/-- A header of comments changes nothing. -/
theorem module?_text (h : ∀ e ∈ enums, Readable e) {header : Header}
    (license : ∀ line ∈ header.license, '\n' ∉ line.toList) :
    module? (unlines (header.lines "//" ++ bodyLines enums)) = some (module enums) := by
  have hheader : Reads joined (header.lines "//") [] :=
    Reads.nothing (fun line hline => header.spells_of_mem license hline) fun _ => rfl
  have hbody := reads_bodyLines fun e he => (h e he).spelled
  exact module?_unlines (hheader.append hbody) (allProper_bodyChunks enums)
    (ends_bodyChunks enums) (mapM_bodyChunks h)

end Modules

end EnumBindings.Rust
