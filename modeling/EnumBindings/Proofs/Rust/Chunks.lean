import EnumBindings.Proofs.Rust.Items
import EnumBindings.Proofs.Rust.Names

/-!
# Reading the items of an enum type

Pieces that were written with their ends are cut apart again (`chunks?_closed`), and each piece
of an enum type is read as the item that it stands for, so reading all of them gives its items
(`mapM_enumChunks`).
-/

namespace EnumBindings.Rust

open EnumBindings.Source

/-! ## Cutting items apart -/

/-- Whether an item ends with a tree. -/
def ends : Tree → Bool
  | .mark c => c == ';'
  | .group .curly _ => true
  | _ => false

theorem chunks?_cons {t : Tree} (h : ends t = false) (before rest : List Tree) :
    chunks? before (t :: rest) = chunks? (before ++ [t]) rest := by
  cases t with
  | word letters => rfl
  | text content => rfl
  | mark c =>
      have hc : c ≠ ';' := by simpa [ends] using h
      simp [chunks?, hc]
  | group b content => cases b <;> first | rfl | cases h

theorem chunks?_append {head : List Tree} (h : ∀ t ∈ head, ends t = false)
    (before rest : List Tree) :
    chunks? before (head ++ rest) = chunks? (before ++ head) rest := by
  induction head generalizing before with
  | nil => rw [List.nil_append, List.append_nil]
  | cons t ts ih =>
      rw [List.cons_append, chunks?_cons (h t List.mem_cons_self),
        ih (fun u hu => h u (List.mem_cons_of_mem _ hu)), List.append_assoc]
      rfl

/-- Items that were written with their ends are cut apart again. -/
theorem chunks?_closed {chunks : List Chunk} (h : ∀ c ∈ chunks, ∀ t ∈ c.1, ends t = false) :
    chunks? [] (closed chunks) = some chunks := by
  induction chunks with
  | nil => rfl
  | cons c rest ih =>
      have hrest := ih fun d hd => h d (List.mem_cons_of_mem _ hd)
      obtain ⟨head, content⟩ := c
      -- nothing before the end is an end, so the head is collected whole
      rw [closed_cons, chunks?_append (h _ List.mem_cons_self)]
      cases content with
      | none => simp [Chunk.ending, chunks?, hrest]
      | some content => simp [Chunk.ending, chunks?, hrest]

/-! ## Reading expressions -/

theorem operand?_path {type name : String} (htype : Named type) (hname : Named name) :
    operand? [.word type, .mark ':', .mark ':', .word name] = some (.path type name) := by
  simp [operand?, htype.name, hname.name]

/-- What opens with a digit is no name. -/
theorem isVariable_of_digit {x : String} {c : Char} {rest : List Char}
    (heq : x.toList = c :: rest) (h : c.isDigit = true) : isVariable x = false := by
  have hself : x ≠ "self" := by
    rintro rfl
    cases heq
    exact absurd h (by decide)
  simp [isVariable, isName, heq, h, hself]

theorem operand?_toString (n : Nat) : operand? [.word (toString n)] = some (.number n) := by
  obtain ⟨c, rest, heq, hdigit⟩ := toString_toList_eq_cons n
  simp only [operand?, isVariable_of_digit heq hdigit, numeral?_toString]
  rfl

/-- The constructor applied to a literal gives the value that the literal was made from. -/
theorem call?_valueTrees {r : Representation} {v : Int} (h : r.contains v = true)
    (function : String) :
    call? function (valueTrees r v) = some (.call function (.number v)) := by
  cases r with
  | i32 =>
      cases v with
      | ofNat n =>
          have hread : call? function [.word (toString n)] =
              (operand? [.word (toString n)]).map (.call function) := rfl
          rw [valueTrees, hread, operand?_toString]
          rfl
      | negSucc n =>
          -- the sign is a tree of its own
          have hread : call? function [.mark '-', .word (toString (n + 1))] =
              ((numeral? (toString (n + 1))).map fun k : Nat => Operand.number (-k)).map
                (.call function) := rfl
          rw [valueTrees, hread, numeral?_toString]
          rfl
  | u32 =>
      have hvariable : isVariable
          ("0x" ++ Representation.hexText (v % 18446744073709551616).toNat) = false :=
        isVariable_of_digit (String.toList_append ..) rfl
      have hread : call? function
          [.word ("0x" ++ Representation.hexText (v % 18446744073709551616).toNat)] =
            (operand? [.word ("0x" ++ Representation.hexText
              (v % 18446744073709551616).toNat)]).map (.call function) := rfl
      rw [valueTrees, hread]
      simp only [operand?, hvariable, numeral?_hexText, Option.map_some, emod_of_contains h]
      rfl

theorem isMark_constantPathTrees (e : EnumType) (m : Member) :
    ∀ t ∈ constantPathTrees e m, t.isMark ',' = false := by
  simp [constantPathTrees, Tree.isMark]

/-! ## Reading associated items -/

theorem associated?_containsChunk (e : EnumType) :
    associated? (containsChunk e) = some (.function (containsFunction e)) := by
  have hcontains : isName "contains" = true := rfl
  have hother : isName "other" = true := rfl
  have hself : operand? [.word "self", .mark '.', .word "0"] = some (.field "self" "0") := rfl
  have hfield : operand? [.word "other", .mark '.', .word "0"] = some (.field "other" "0") := rfl
  simp [containsChunk, associated?, unmarked, bareAssociated?, function?, pieces, Tree.isMark,
    parameter?, hcontains, hother, body?, expression?, hself, hfield, flat,
    Tree.tokens, containsFunction]

theorem associated?_countChunk (e : EnumType) :
    associated? (countChunk e) = some (.function (countFunction e)) := by
  have hcount : isName "count" = true := rfl
  have hnumber := operand?_toString e.count
  have hbody : body? [.word (toString e.count)] = some (.value (.operand (.number e.count))) := by
    simp only [body?, expression?, hnumber]
    rfl
  -- unfolding everything at once would rewrite the numeral and lose its reading
  have hfunction : function? [.word (toString e.count)]
      [.word "count", .group .round [], .mark '-', .mark '>', .word "usize"] =
        some (countFunction e) := by
    simp only [function?, hcount, hbody]
    rfl
  exact congrArg (Option.map Associated.function) hfunction

theorem associated?_sizeChunk (e : EnumType) :
    associated? (sizeChunk e) = some (.function (sizeFunction e)) := by
  rw [sizeChunk, sizeFunction]
  split
  · exact associated?_containsChunk e
  · exact associated?_countChunk e

/-- A body that is one match is read from its arms. -/
theorem body?_match {subject : String} {arms : List (List Tree)} {last : List Tree}
    {read : List (Pattern × Expression)} {otherwise : Expression}
    (hsubject : isVariable subject = true) (harms : arms.mapM arm? = some read)
    (hlast : otherwise? last = some otherwise)
    (hmarks : ∀ ts ∈ arms, ∀ t ∈ ts, t.isMark ',' = false)
    (hend : ∀ t ∈ last, t.isMark ',' = false) :
    body? [.word "match", .word subject, .group .curly (ended ',' (arms ++ [last]))] =
      some (.choice subject read otherwise) := by
  have hall : ∀ ts ∈ arms ++ [last], ∀ t ∈ ts, t.isMark ',' = false :=
    List.forall_mem_append.mpr ⟨hmarks, List.forall_mem_singleton.mpr hend⟩
  simp [body?, hsubject, pieces_ended hall, arms?, initAndLast?_append harms hlast]

/-! ## Ends of items -/

theorem ends_inherentChunks (e : EnumType) :
    ∀ c ∈ inherentChunks e, ∀ t ∈ c.1, ends t = false := by
  have hsize : ∀ t ∈ (sizeChunk e).1, ends t = false := by
    rw [sizeChunk]
    split
    · simp [containsChunk, ends]
    · simp [countChunk, ends]
  simp only [inherentChunks, List.forall_mem_append, List.forall_mem_cons, List.not_mem_nil,
    false_imp_iff, implies_true, and_true, List.forall_mem_map]
  refine ⟨fun m _ => ?_, ?_, hsize, ?_⟩
  · simp [constantChunk, ends]
  · simp [valuesChunk, ends]
  · simp [nameChunk, ends]

theorem ends_parseChunks (e : EnumType) : ∀ c ∈ parseChunks e, ∀ t ∈ c.1, ends t = false := by
  simp [parseChunks, ends]

theorem ends_enumChunks (e : EnumType) : ∀ c ∈ enumChunks e, ∀ t ∈ c.1, ends t = false := by
  have hoperations : ∀ c ∈ operationsChunks e, ∀ t ∈ c.1, ends t = false := by
    rw [operationsChunks]
    split
    · simp [operationChunk, ends]
    · intro c hc
      cases hc
  have hkeepAlive : ∀ c ∈ keepAliveChunks e, ∀ t ∈ c.1, ends t = false := by
    rw [keepAliveChunks]
    split
    · simp [storedTrees, sizedTrees, elementTrees, ends]
    · intro c hc
      cases hc
  simp only [enumChunks, List.forall_mem_append, List.forall_mem_cons, List.not_mem_nil,
    false_imp_iff, implies_true, and_true]
  refine ⟨⟨?_, ?_, ?_, ?_⟩, hoperations, hkeepAlive⟩
  · simp [tupleChunk, ends]
  · simp [ownChunk, ends]
  · simp [displayChunk, ends]
  · simp [fromStrChunk, ends]

/-! ## Reading implementations -/

/-- What the pieces of an implementation open with and how they are taken. -/
theorem item?_implementation {target : List Tree} {trait : Option (List String)} {type : String}
    {chunks : List Chunk} {items : List Associated}
    (htarget : implemented? target = some (trait, type))
    (hends : ∀ c ∈ chunks, ∀ t ∈ c.1, ends t = false)
    (hitems : chunks.mapM associated? = some items) :
    item? (.word "impl" :: target, some (closed chunks)) =
      some ⟨[], .implementation trait type items⟩ := by
  simp [item?, attributed, unmarked, kind?, htarget, chunks?_closed hends, hitems]

theorem item?_displayChunk {type : String} {body : List Tree} {e : Expression} (htype : Named type)
    (hbody : body? body = some (.value e)) :
    item? (displayChunk type body) = some (displayItem type e) := by
  have hfmt : isName "fmt" = true := rfl
  have hdisplay : isName "Display" = true := rfl
  have hf : isName "f" = true := rfl
  refine item?_implementation ?_ ?_ ?_
  · simp [implemented?, trait?, hfmt, hdisplay, htype.name]
  · simp [ends]
  · simp [associated?, unmarked, bareAssociated?, function?, pieces, Tree.isMark, parameter?,
      hfmt, hf, hbody, flat, Tree.tokens, displayFunction]

section Readable

variable {e : EnumType} (h : Readable e)

include h

theorem stored?_storedTrees {name : String} (hname : isName name = true) :
    stored? (storedTrees name e) = some (listed name e) := by
  have helements : (pieces ',' (ended ',' (e.members.map (constantPathTrees e)))).mapM operand? =
      some (e.members.map fun m => .path e.name m.constantName) := by
    rw [pieces_ended (List.forall_mem_map.mpr fun m _ => isMark_constantPathTrees e m)]
    exact mapM_map_eq_some fun m hm => operand?_path h.type (h.constant m hm)
  have hcount : numeral? (toString e.count) = some e.count := numeral?_toString e.count
  simp only [storedTrees, stored?, sizedTrees, elementTrees, hname, h.type.name, hcount,
    helements]
  rfl

theorem associated?_constantChunk {m : Member} (hm : m ∈ e.members) :
    associated? (constantChunk e m) =
      some (.constant m.constantName e.name (.call e.name (.number m.value))) := by
  have hvalue : expression?
      [.word e.name, .group .round (valueTrees e.representation m.value)] =
        some (.call e.name (.number m.value)) := by
    simp [expression?, h.type.name, call?_valueTrees (h.range m hm)]
  simp [constantChunk, associated?, unmarked, bareAssociated?, (h.constant m hm).name,
    h.type.name, hvalue]

theorem associated?_valuesChunk :
    associated? (valuesChunk e) = some (.function (valuesFunction e)) := by
  have hvalues : isName "values" = true := rfl
  have hstatic : isName "VALUES" = true := rfl
  have hstored := stored?_storedTrees h hstatic
  have hbody : body? (.word "static" :: (storedTrees "VALUES" e
      ++ [Tree.mark ';', .mark '&', .word "VALUES"])) =
        some (.listing (listed "VALUES" e) (.borrow "VALUES")) := by
    simp only [storedTrees] at hstored
    simp [storedTrees, body?, hstored, expression?, hstatic]
  simp [valuesChunk, associated?, unmarked, bareAssociated?, function?, pieces, hvalues,
    hbody, valuesFunction, flat, Tree.tokens, staticSlice, Bracket.opening, Bracket.closing]

theorem associated?_nameChunk :
    associated? (nameChunk e) = some (.function (nameFunction e)) := by
  have hname : isName "as_str" = true := rfl
  have harms : (e.members.map fun m =>
      armTrees (constantPathTrees e m) [.text m.externalName]).mapM arm? =
        some (e.members.map fun m =>
          (.path e.name m.constantName, .operand (.text m.externalName))) := by
    refine mapM_map_eq_some fun m hm => ?_
    simp [armTrees, constantPathTrees, arm?, h.type.name, (h.constant m hm).name, expression?,
      operand?]
  have hlast : otherwise? (armTrees [.word "_"] [.text EnumType.unknownName]) =
      some (.operand (.text EnumType.unknownName)) := by
    simp [armTrees, otherwise?, expression?, operand?]
  have hself : isVariable "self" = true := by decide
  have hbody := body?_match hself harms hlast
    (List.forall_mem_map.mpr fun m _ => by simp [armTrees, constantPathTrees, Tree.isMark])
    (by simp [armTrees, Tree.isMark])
  simp [nameChunk, nameArms, associated?, unmarked, bareAssociated?, function?, pieces,
    Tree.isMark, parameter?, hname, hbody, flat, Tree.tokens, nameFunction, staticText]

theorem mapM_inherentChunks :
    (inherentChunks e).mapM associated? = some (inherentItems e) := by
  have hconstants : (e.members.map (constantChunk e)).mapM associated? =
      some (constantItems e) :=
    mapM_map_eq_some fun m hm => associated?_constantChunk h hm
  simp [inherentChunks, inherentItems, List.mapM_append, hconstants, associated?_valuesChunk h,
    associated?_sizeChunk e, associated?_nameChunk h]

theorem mapM_parseChunks : (parseChunks e).mapM associated? = some (parseItems e) := by
  have hfunction : isName "from_str" = true := rfl
  have hname : isName "s" = true := rfl
  have hsubject : isVariable "s" = true := rfl
  have herr : isName "Err" = true := rfl
  have hok : isName "Ok" = true := rfl
  have herror : isName errorType = true := rfl
  have htypeName : isName "type_name" = true := rfl
  have hvalue : isName "value" = true := rfl
  have htoString : isName "to_string" = true := rfl
  have harms : (e.members.map fun m => armTrees [.text m.externalName]
      [.word "Ok", .group .round (constantPathTrees e m)]).mapM arm? =
        some (e.members.map fun m =>
          (.text m.externalName, .call "Ok" (.path e.name m.constantName))) := by
    refine mapM_map_eq_some fun m hm => ?_
    simp [armTrees, constantPathTrees, arm?, expression?, call?, hok,
      operand?_path h.type (h.constant m hm)]
  have hlast : otherwise? (armTrees [.word "_"] (failureTrees e)) =
      some (.build "Err" errorType
        [("type_name", .text e.name), ("value", .method "s" "to_string")]) := by
    simp [armTrees, failureTrees, otherwise?, expression?, call?, herr, herror, ended,
      pieces, Tree.isMark, entry?, htypeName, hvalue, operand?, hsubject,
      htoString]
  have hbody := body?_match hsubject harms hlast
    (List.forall_mem_map.mpr fun m _ => by simp [armTrees, Tree.isMark])
    (by simp [armTrees, failureTrees, Tree.isMark])
  simp [parseChunks, parseArms, parseItems, associated?, unmarked, bareAssociated?, function?,
    pieces, Tree.isMark, parameter?, hfunction, hname, herr, hbody, flat,
    Tree.tokens, parseFunction, borrowedText, ownResult]

/-! ## Reading items -/

theorem item?_tupleChunk : item? (tupleChunk e) = some (tupleItem e) := by
  have hinteger : isName (integerType e.representation) = true := by
    cases e.representation <;> decide
  simp [tupleChunk, item?, attributed, unmarked, kind?, h.type.name, hinteger, tupleItem]

theorem item?_ownChunk :
    item? (ownChunk e) = some ⟨[], .implementation none e.name (inherentItems e)⟩ := by
  refine item?_implementation ?_ (ends_inherentChunks e) (mapM_inherentChunks h)
  simp [implemented?, h.type.name]

theorem item?_fromStrChunk :
    item? (fromStrChunk e) =
      some ⟨[], .implementation (some ["FromStr"]) e.name (parseItems e)⟩ := by
  have htrait : isName "FromStr" = true := rfl
  refine item?_implementation ?_ (ends_parseChunks e) (mapM_parseChunks h)
  simp [implemented?, trait?, htrait, h.type.name]

theorem item?_operationChunk {trait method : String} {operator : Char}
    (htrait : isName trait = true) (hmethod : isName method = true) :
    item? (operationChunk e trait method operator) =
      some ⟨[], .implementation (some ["std", "ops", trait]) e.name
        (operationItems e method operator)⟩ := by
  have hstd : isName "std" = true := rfl
  have hops : isName "ops" = true := rfl
  have houtput : isName "Output" = true := rfl
  have hrhs : isName "rhs" = true := rfl
  have hleft : operand? [.word "self", .mark '.', .word "0"] = some (.field "self" "0") := rfl
  have hright : operand? [.word "rhs", .mark '.', .word "0"] = some (.field "rhs" "0") := rfl
  refine item?_implementation ?_ ?_ ?_
  · simp [implemented?, trait?, hstd, hops, htrait, h.type.name]
  · simp [ends]
  · simp [associated?, unmarked, bareAssociated?, function?, pieces, Tree.isMark, parameter?,
      houtput, hmethod, hrhs, h.type.name, body?, expression?, call?, hleft,
      hright, flat, Tree.tokens, operationItems, operationFunction]

theorem mapM_operationsChunks : (operationsChunks e).mapM item? = some (operationsItems e) := by
  have hor : isName "BitOr" = true := rfl
  have hbitor : isName "bitor" = true := rfl
  have hand : isName "BitAnd" = true := rfl
  have hbitand : isName "bitand" = true := rfl
  rw [operationsChunks, operationsItems]
  split
  · simp [item?_operationChunk h hor hbitor, item?_operationChunk h hand hbitand]
  · rfl

theorem mapM_keepAliveChunks : (keepAliveChunks e).mapM item? = some (keepAliveItems e) := by
  have hstored := stored?_storedTrees h h.keepAlive.name
  rw [keepAliveChunks, keepAliveItems]
  split
  · simp [item?, attributed, unmarked, kind?, hstored, flat, Tree.tokens]
  · rfl

/-- The pieces of an enum type are read as its items. -/
theorem mapM_enumChunks : (enumChunks e).mapM item? = some (enumItems e) := by
  have hshow : item? (displayChunk e.name showTrees) =
      some (displayItem e.name (.invoke "f" "write_str" (.method "self" "as_str"))) :=
    item?_displayChunk h.type (by decide)
  have hfour : [tupleChunk e, ownChunk e, displayChunk e.name showTrees,
      fromStrChunk e].mapM item? =
      some [tupleItem e, ⟨[], .implementation none e.name (inherentItems e)⟩,
        displayItem e.name (.invoke "f" "write_str" (.method "self" "as_str")),
        ⟨[], .implementation (some ["FromStr"]) e.name (parseItems e)⟩] := by
    simp [item?_tupleChunk h, item?_ownChunk h, hshow, item?_fromStrChunk h]
  rw [enumChunks, List.mapM_append, hfour, List.mapM_append, mapM_operationsChunks h,
    mapM_keepAliveChunks h]
  rfl

end Readable

end EnumBindings.Rust
