import EnumBindings.Proofs.Go.Names

/-!
# The declarations of an enum type

The declarations that an enum type is written as, `enumDeclarations`, and the trees of the
statements that stand for them, `enumStatements`. Reading the trees gives the declarations
back (`mapM_enumStatements`), one lemma for each kind of declaration.
-/

namespace EnumBindings.Go

open EnumBindings.Source

/-! ## Declarations -/

/-- Constants numbered by position. -/
def positionalSpecs (e : EnumType) : List ConstantSpec :=
  match e.members with
  | [] => []
  | first :: rest =>
    ⟨constantName e first, some e.name, some (.name "iota")⟩
      :: rest.map fun m => ⟨constantName e m, none, none⟩

/-- Constants with their values. -/
def explicitSpecs (e : EnumType) : List ConstantSpec :=
  e.members.map fun m => ⟨constantName e m, some e.name, some (.number m.value)⟩

def constantSpecs (e : EnumType) : List ConstantSpec :=
  if e.positional then positionalSpecs e else explicitSpecs e

def stringFunction (e : EnumType) : Function where
  receiver := some ⟨"e", e.name, false⟩
  name := "String"
  parameters := []
  results := ["string"]
  body := .switch (.name "e")
    (e.members.map fun m => (.name (constantName e m), [.operand (.text m.externalName)]))
    [.operand (.text EnumType.unknownName)]

def parseFunction (e : EnumType) : Function where
  receiver := none
  name := parseName e
  parameters := [("s", "string")]
  results := [e.name, "error"]
  body := .switch (.name "s")
    (e.members.map fun m =>
      (.text m.externalName, [.operand (.name (constantName e m)), .operand (.name "nil")]))
    [.operand (.number 0), .record errorType [("Type", .text e.name), ("Value", .name "s")]]

def countDeclarations (e : EnumType) : List Declaration :=
  if e.isBitset then [] else [.constants [⟨countName e, none, some (.number e.count)⟩]]

def keepAliveDeclarations (e : EnumType) : List Declaration :=
  if e.preserve then [.blank e.name (e.members.map fun m => .name (constantName e m))] else []

/-- Everything that an enum type is written as. -/
def enumDeclarations (e : EnumType) : List Declaration :=
  [Declaration.defined e.name (integerType e.representation), .constants (constantSpecs e)]
    ++ (countDeclarations e
    ++ ([Declaration.function (stringFunction e), .function (parseFunction e)]
    ++ keepAliveDeclarations e))

/-! ## Trees -/

def positionalTrees (e : EnumType) : List (List Tree) :=
  match e.members with
  | [] => []
  | first :: rest =>
    [.word (constantName e first), .word e.name, .mark '=', .word "iota"]
      :: rest.map fun m => [.word (constantName e m)]

def explicitTrees (e : EnumType) : List (List Tree) :=
  e.members.map fun m =>
    .word (constantName e m) :: .word e.name :: .mark '='
      :: valueTrees e.representation m.value

def specTrees (e : EnumType) : List (List Tree) :=
  if e.positional then positionalTrees e else explicitTrees e

def constantTrees (e : EnumType) : List Tree :=
  [.word "const", .group .round (ended ';' (specTrees e))]

/-- A clause that returns some values. -/
def caseTrees (label values : List Tree) : List Tree :=
  .word "case" :: (label ++ .mark ':' :: .word "return" :: values)

/-- The last clause. -/
def defaultTrees (values : List Tree) : List Tree :=
  .word "default" :: .mark ':' :: .word "return" :: values

def switchTrees (subject : String) (clauses : List (List Tree)) : List Tree :=
  [.word "switch", .word subject, .group .curly (ended ';' clauses)]

def stringClauses (e : EnumType) : List (List Tree) :=
  e.members.map (fun m => caseTrees [.word (constantName e m)] [.text m.externalName])
    ++ [defaultTrees [.text EnumType.unknownName]]

def stringTrees (e : EnumType) : List Tree :=
  [.word "func", .group .round [.word "e", .word e.name], .word "String", .group .round [],
   .word "string", .group .curly (ended ';' [switchTrees "e" (stringClauses e)])]

/-- The value returned for a text that names no member. -/
def failureTrees (e : EnumType) : List Tree :=
  [.mark '&', .word errorType,
   .group .curly [.word "Type", .mark ':', .text e.name, .mark ',', .word "Value", .mark ':',
     .word "s"]]

def parseClauses (e : EnumType) : List (List Tree) :=
  e.members.map (fun m =>
      caseTrees [.text m.externalName] [.word (constantName e m), .mark ',', .word "nil"])
    ++ [defaultTrees (.word "0" :: .mark ',' :: failureTrees e)]

def parseTrees (e : EnumType) : List Tree :=
  [.word "func", .word (parseName e), .group .round [.word "s", .word "string"],
   .group .round [.word e.name, .mark ',', .word "error"],
   .group .curly (ended ';' [switchTrees "s" (parseClauses e)])]

def countTrees (e : EnumType) : List Tree :=
  [.word "const", .word (countName e), .mark '=', .word (toString e.count)]

def keepAliveTrees (e : EnumType) : List Tree :=
  [.word "var", .word "_", .mark '=', .group .square [.mark '.', .mark '.', .mark '.'],
   .word e.name, .group .curly (ended ',' (e.members.map fun m => [.word (constantName e m)]))]

/-- The statements of an enum type. -/
def enumStatements (e : EnumType) : List (List Tree) :=
  [[Tree.word "type", .word e.name, .word (integerType e.representation)], constantTrees e]
    ++ ((if e.isBitset then [] else [countTrees e])
    ++ ([stringTrees e, parseTrees e]
    ++ if e.preserve then [keepAliveTrees e] else []))

/-! ## Reading operands -/

theorem operand?_name {x : String} (h : isName x = true) :
    operand? [.word x] = some (.name x) := by
  simp [operand?, h]

/-- What opens with a digit is no name. -/
theorem isName_of_digit {x : String} {c : Char} {rest : List Char} (heq : x.toList = c :: rest)
    (h : c.isDigit = true) : isName x = false := by
  simp [isName, heq, h]

theorem isName_toString (n : Nat) : isName (toString n) = false := by
  obtain ⟨c, rest, heq, hdigit⟩ := toString_toList_eq_cons n
  exact isName_of_digit heq hdigit

theorem operand?_toString (n : Nat) : operand? [.word (toString n)] = some (.number n) := by
  simp only [operand?, isName_toString, numeral?_toString]
  rfl

/-- A literal gives the value it was made from. -/
theorem operand?_valueTrees {r : Representation} {v : Int} (h : r.contains v = true) :
    operand? (valueTrees r v) = some (.number v) := by
  cases r with
  | i32 =>
      cases v with
      | ofNat n => exact operand?_toString n
      | negSucc n =>
          have hread := numeral?_toString (n + 1)
          simp only [valueTrees, operand?, hread]
          rfl
  | u32 =>
      have hname : isName ("0x" ++ Representation.hexText (v % 18446744073709551616).toNat) =
          false := isName_of_digit (String.toList_append ..) rfl
      simp only [valueTrees, operand?, hname, numeral?_hexText, Option.map_some,
        emod_of_contains h]
      rfl

/-! ## Reading constants -/

theorem constantSpec?_typed {x type : String} {value : List Tree} {o : Operand}
    (hx : Named x) (htype : Named type) (hvalue : operand? value = some o) :
    constantSpec? (.word x :: .word type :: .mark '=' :: value) =
      some ⟨x, some type, some o⟩ := by
  simp [constantSpec?, hx.name, htype.name, hvalue]

theorem constantSpec?_repeated {x : String} (hx : Named x) :
    constantSpec? [.word x] = some ⟨x, none, none⟩ := by
  simp [constantSpec?, hx.name]

/-- Specifications are read back by every reader that reads a line with a value and a line
without one. -/
theorem mapM_specTrees_of {read : List Tree → Option ConstantSpec} {e : EnumType}
    (typed : ∀ m ∈ e.members, ∀ (value : List Tree) (o : Operand), operand? value = some o →
      read (.word (constantName e m) :: .word e.name :: .mark '=' :: value) =
        some ⟨constantName e m, some e.name, some o⟩)
    (repeated : ∀ m ∈ e.members,
      read [.word (constantName e m)] = some ⟨constantName e m, none, none⟩)
    (range : ∀ m ∈ e.members, e.representation.contains m.value = true) :
    (specTrees e).mapM read = some (constantSpecs e) := by
  have hiota : isName "iota" = true := rfl
  rw [specTrees, constantSpecs]
  split
  · rw [positionalTrees, positionalSpecs]
    cases hmembers : e.members with
    | nil => rfl
    | cons first rest =>
        rw [hmembers, List.forall_mem_cons] at typed repeated
        have hfirst := typed.1 _ _ (operand?_name hiota)
        have hrest : (rest.map fun m => [Tree.word (constantName e m)]).mapM read =
            some (rest.map fun m => ⟨constantName e m, none, none⟩) :=
          mapM_map_eq_some repeated.2
        simp [List.mapM_cons, hfirst, hrest]
  · exact mapM_map_eq_some fun m hm => typed m hm _ _ (operand?_valueTrees (range m hm))

theorem mapM_specTrees {e : EnumType} (h : Readable e) :
    (specTrees e).mapM constantSpec? = some (constantSpecs e) :=
  mapM_specTrees_of (fun m hm _ _ => constantSpec?_typed (h.constant m hm) h.type)
    (fun m hm => constantSpec?_repeated (h.constant m hm)) h.range

theorem isMark_of_mem_specTrees (e : EnumType) :
    ∀ ts ∈ specTrees e, ∀ t ∈ ts, t.isMark ';' = false := by
  rw [specTrees]
  split
  · rw [positionalTrees]
    cases e.members with
    | nil => simp
    | cons first rest => simp [Tree.isMark]
  · simp only [explicitTrees, List.mem_map]
    rintro _ ⟨m, -, rfl⟩ t ht
    simp only [List.mem_cons] at ht
    rcases ht with rfl | rfl | rfl | ht
    · rfl
    · rfl
    · rfl
    · exact isMark_of_mem_valueTrees (by decide) t ht

theorem declaration?_constantTrees {e : EnumType} (h : Readable e) :
    declaration? (constantTrees e) = some (.constants (constantSpecs e)) := by
  have hpieces : (pieces ';' (ended ';' (specTrees e))).mapM constantSpec? =
      some (constantSpecs e) := by
    rw [pieces_ended (isMark_of_mem_specTrees e), mapM_specTrees h]
  simp [constantTrees, declaration?, constDeclaration?, hpieces]

theorem declaration?_countTrees {e : EnumType} (h : Readable e) :
    declaration? (countTrees e) =
      some (.constants [⟨countName e, none, some (.number e.count)⟩]) := by
  have hspec : constantSpec? [.word (countName e), .mark '=', .word (toString e.count)] =
      some ⟨countName e, none, some (.number e.count)⟩ := by
    simp only [constantSpec?, h.count.name, operand?_toString]
    rfl
  simp only [countTrees, declaration?, constDeclaration?, hspec]
  rfl

/-! ## Reading functions -/

/-- A clause is read from its label and from what it returns. -/
theorem clause?_caseTrees {label values : List Tree} {o : Operand} {results : List Expression}
    (hlabel : operand? label = some o) (hmarks : ∀ t ∈ label, t.isMark ':' = false)
    (hvalues : returned? (.word "return" :: values) = some results)
    (hrest : ∀ t ∈ values, t.isMark ':' = false) :
    clause? (caseTrees label values) = some (o, results) := by
  have hbody : pieces ':' (.word "return" :: values) = [.word "return" :: values] :=
    pieces_eq_singleton (List.forall_mem_cons.mpr ⟨rfl, hrest⟩)
  have hpieces : pieces ':' (label ++ .mark ':' :: .word "return" :: values) =
      [label, .word "return" :: values] := by
    rw [pieces_append_separator hmarks, hbody]
  simp [caseTrees, clause?, hpieces, hlabel, hvalues]

/-- A body that is one switch is read from its clauses. -/
theorem body?_switchTrees {subject : String} {clauses : List (List Tree)} {last : List Tree}
    {read : List (Operand × List Expression)} {results : List Expression}
    (hsubject : isName subject = true) (hclauses : clauses.mapM clause? = some read)
    (hlast : otherwise? last = some results)
    (hmarks : ∀ ts ∈ clauses, ∀ t ∈ ts, t.isMark ';' = false)
    (hend : ∀ t ∈ last, t.isMark ';' = false) :
    body? (ended ';' [switchTrees subject (clauses ++ [last])]) =
      some (.switch (.name subject) read results) := by
  have hswitch : ∀ ts ∈ [switchTrees subject (clauses ++ [last])], ∀ t ∈ ts,
      t.isMark ';' = false := by
    simp [switchTrees, Tree.isMark]
  have hall : ∀ ts ∈ clauses ++ [last], ∀ t ∈ ts, t.isMark ';' = false :=
    List.forall_mem_append.mpr ⟨hmarks, List.forall_mem_singleton.mpr hend⟩
  rw [body?, pieces_ended hswitch]
  simp [switchTrees, statement?, hsubject, pieces_ended hall, clauses?,
    initAndLast?_append hclauses hlast]

theorem mapM_stringClauses {e : EnumType} (h : Readable e) :
    (e.members.map fun m => caseTrees [.word (constantName e m)] [.text m.externalName]).mapM
        clause? =
      some (e.members.map fun m =>
        (.name (constantName e m), [.operand (.text m.externalName)])) := by
  refine mapM_map_eq_some fun m hm => ?_
  refine clause?_caseTrees (operand?_name (h.constant m hm).name) ?_ ?_ ?_
  · simp [Tree.isMark]
  · simp [returned?, pieces, Tree.isMark, expression?, operand?]
  · simp [Tree.isMark]

theorem declaration?_stringTrees {e : EnumType} (h : Readable e) :
    declaration? (stringTrees e) = some (.function (stringFunction e)) := by
  have hsubject : isName "e" = true := rfl
  have hstring : isName "String" = true := rfl
  have hresult : isName "string" = true := rfl
  have hlast : otherwise? (defaultTrees [.text EnumType.unknownName]) =
      some [.operand (.text EnumType.unknownName)] := by
    simp [defaultTrees, otherwise?, returned?, pieces, Tree.isMark, expression?, operand?]
  have hbody := body?_switchTrees hsubject (mapM_stringClauses h) hlast
    (List.forall_mem_map.mpr fun m _ => by simp [caseTrees, Tree.isMark])
    (by simp [defaultTrees, Tree.isMark])
  simp [stringTrees, stringClauses, declaration?, function?, receiver?, typed?, signature?,
    hsubject, hstring, hresult, h.type.name, hbody, stringFunction, pieces]

theorem mapM_parseClauses {e : EnumType} (h : Readable e) :
    (e.members.map fun m => caseTrees [.text m.externalName]
        [.word (constantName e m), .mark ',', .word "nil"]).mapM clause? =
      some (e.members.map fun m => (.text m.externalName,
        [.operand (.name (constantName e m)), .operand (.name "nil")])) := by
  have hnil : isName "nil" = true := rfl
  refine mapM_map_eq_some fun m hm => ?_
  refine clause?_caseTrees rfl ?_ ?_ ?_
  · simp [Tree.isMark]
  · simp [returned?, pieces, Tree.isMark, expression?, operand?, hnil,
      (h.constant m hm).name]
  · simp [Tree.isMark]

theorem returned?_failure (e : EnumType) :
    returned? (.word "return" :: .word "0" :: .mark ',' :: failureTrees e) =
      some [.operand (.number 0),
        .record errorType [("Type", .text e.name), ("Value", .name "s")]] := by
  have herror : isName errorType = true := rfl
  have htype : isName "Type" = true := rfl
  have hvalue : isName "Value" = true := rfl
  have hs : isName "s" = true := rfl
  have hzero : operand? [.word "0"] = some (.number 0) := operand?_toString 0
  simp [returned?, failureTrees, pieces, Tree.isMark, expression?, entry?, herror,
    htype, hvalue, operand?_name hs, hzero]
  rfl

theorem declaration?_parseTrees {e : EnumType} (h : Readable e) :
    declaration? (parseTrees e) = some (.function (parseFunction e)) := by
  have hsubject : isName "s" = true := rfl
  have hstring : isName "string" = true := rfl
  have herror : isName "error" = true := rfl
  have hlast : otherwise? (defaultTrees (.word "0" :: .mark ',' :: failureTrees e)) = some
      [.operand (.number 0), .record errorType [("Type", .text e.name), ("Value", .name "s")]] := by
    simp [defaultTrees, otherwise?, returned?_failure]
  have hbody := body?_switchTrees hsubject (mapM_parseClauses h) hlast
    (List.forall_mem_map.mpr fun m _ => by simp [caseTrees, Tree.isMark])
    (by simp [defaultTrees, failureTrees, Tree.isMark])
  simp [parseTrees, parseClauses, declaration?, function?, typed?, type?, signature?, pieces,
    Tree.isMark, hsubject, hstring, herror, h.type.name, h.parse.name, hbody,
    parseFunction]

/-! ## Reading an enum type -/

theorem declaration?_keepAliveTrees {e : EnumType} (h : Readable e) :
    declaration? (keepAliveTrees e) =
      some (.blank e.name (e.members.map fun m => .name (constantName e m))) := by
  have hmarks : ∀ ts ∈ e.members.map fun m => [Tree.word (constantName e m)],
      ∀ t ∈ ts, t.isMark ',' = false := by
    simp [Tree.isMark]
  have helements : (pieces ',' (ended ',' (e.members.map fun m =>
      [Tree.word (constantName e m)]))).mapM operand? =
        some (e.members.map fun m => .name (constantName e m)) := by
    rw [pieces_ended hmarks]
    exact mapM_map_eq_some fun m hm => operand?_name (h.constant m hm).name
  simp [keepAliveTrees, declaration?, varDeclaration?, Tree.isMark, h.type.name, helements]

/-- The statements of an enum type are read as its declarations. -/
theorem mapM_enumStatements {e : EnumType} (h : Readable e) :
    (enumStatements e).mapM declaration? = some (enumDeclarations e) := by
  have hinteger : isName (integerType e.representation) = true := by
    cases e.representation <;> decide
  have htype : declaration? [.word "type", .word e.name,
      .word (integerType e.representation)] =
        some (.defined e.name (integerType e.representation)) := by
    simp [declaration?, typeDeclaration?, typed?, h.type.name, hinteger]
  cases hbitset : e.isBitset <;> cases hpreserve : e.preserve <;>
    simp [enumStatements, enumDeclarations, countDeclarations, keepAliveDeclarations, hbitset,
      hpreserve, htype, declaration?_constantTrees h, declaration?_countTrees h,
      declaration?_stringTrees h, declaration?_parseTrees h, declaration?_keepAliveTrees h]

end EnumBindings.Go
