import EnumBindings.Proofs.Rust.Lookup
import Mathlib.Data.Nat.Bitwise

/-!
# Running a generated module

The functions of an enum type answer as the enum type does: `as_str` as `EnumType.stringify`,
`from_str` as `EnumType.parse`, `values` with the values of the members. The matches choose
an arm as a search chooses a member (`select?_map`).
-/

namespace EnumBindings.Rust

open EnumBindings.Source

/-! ## Matches -/

/-- A match over arms made from a list searches the list. -/
theorem select?_map {α : Type} {m : Module} {v : Value} {otherwise : Expression} {xs : List α}
    {pattern : α → Pattern} {body : α → Expression} {value : α → Value} {matching : α → Bool}
    (hpattern : ∀ x ∈ xs, m.patternValue? (pattern x) = some (value x))
    (hvalue : ∀ x ∈ xs, value x = v ↔ matching x = true) :
    m.select? v otherwise (xs.map fun x => (pattern x, body x)) =
      some ((xs.find? matching).elim otherwise body) := by
  induction xs with
  | nil => rfl
  | cons x rest ih =>
      have hrest := ih (fun y hy => hpattern y (List.mem_cons_of_mem _ hy))
        fun y hy => hvalue y (List.mem_cons_of_mem _ hy)
      rw [List.map_cons, Module.select?, hpattern x List.mem_cons_self, Option.bind_eq_bind,
        Option.bind_some]
      -- the first arm decides, or the search goes on among the rest
      by_cases hx : matching x = true
      · rw [if_pos ((hvalue x List.mem_cons_self).mpr hx), List.find?_cons_of_pos hx]
        rfl
      · rw [if_neg fun heq => hx ((hvalue x List.mem_cons_self).mp heq),
          List.find?_cons_of_neg hx, hrest]

/-! ## Constants and types -/

theorem representation_of_isBitset {e : EnumType} (h : e.isBitset = true) :
    e.representation = .u32 := by
  simpa [EnumType.isBitset] using h

/-- Flags are numbers of 32 bits. -/
theorem contains_natCast_iff (n : Nat) : Representation.contains .u32 n = true ↔ n < 2 ^ 32 := by
  rw [contains_u32_iff]
  omega

section Compatible

variable {enums : List EnumType} (h : Compatible enums) {e : EnumType} (he : e ∈ enums)

include h he

theorem operandValue?_path {m : Member} (hm : m ∈ e.members) (locals : List (String × Value)) :
    (module enums).operandValue? locals (.path e.name m.constantName) =
      some (.tuple e.name m.value) := by
  rw [Module.operandValue?, constant?_constantName h he hm]
  rfl

/-- The arrays of an enum type hold the values of its members. -/
theorem elements?_listed (name : String) :
    (module enums).elements? (listed name e) = some (e.members.map (·.value)) := by
  have hlength : (listed name e).elements.length = (listed name e).length := List.length_map _
  have helement : ∀ m ∈ e.members, (module enums).element? e.name (.path e.name m.constantName) =
      some m.value := by
    intro m hm
    simp [Module.element?, operandValue?_path h he hm]
  rw [Module.elements?, if_pos hlength]
  exact mapM_map_eq_some helement

theorem hasType_self (v : Int) (failure : Option (List Token)) :
    (module enums).hasType ⟨e.name, failure⟩ [.word "Self"] (.tuple e.name v) =
      e.representation.contains v := by
  simp [Module.hasType, holds_module h he]

/-! ## Inherent functions -/

theorem call?_asStr {v : Int} (hv : e.representation.contains v = true) :
    (module enums).call? e.name "as_str" [.tuple e.name v] = some (.text (e.stringify v)) := by
  have hmem : .function (nameFunction e) ∈ inherentItems e := by simp [inherentItems]
  -- a pattern is the constant of its member, which is looked up in the module
  have hpattern : ∀ m ∈ e.members, (module enums).patternValue? (.path e.name m.constantName) =
      some (.tuple e.name m.value) := by
    intro m hm
    rw [Module.patternValue?, if_pos (comparable_module h he), operandValue?_path h he hm]
  have hselect : (module enums).select? (.tuple e.name v)
      (.operand (.text EnumType.unknownName))
      (e.members.map fun m => (.path e.name m.constantName, .operand (.text m.externalName))) =
        some ((e.members.find? (·.value == v)).elim (.operand (.text EnumType.unknownName))
          fun m => .operand (.text m.externalName)) := select?_map hpattern (by simp)
  have hanswer : e.stringify v =
      (e.members.find? (·.value == v)).elim EnumType.unknownName (·.externalName) := by
    rw [EnumType.stringify]
    cases e.members.find? (·.value == v) <;> rfl
  have hself := hasType_self h he v none
  have htext : ∀ content, (module enums).hasType ⟨e.name, none⟩ staticText (.text content) =
      true := fun _ => rfl
  rw [hanswer]
  refine (call?_eq_answer? h he hmem _).trans ?_
  simp only [nameFunction, Module.answer?, List.length_singleton, List.zip_cons_cons,
    List.zip_nil_right, List.all_cons, List.all_nil, hself, hv, Module.run?, List.map_cons,
    List.map_nil, List.lookup_cons_self, Option.bind_eq_bind, Option.bind_some, hselect]
  cases e.members.find? (·.value == v) <;> simp [Module.value?, Module.operandValue?, htext]

theorem call?_values :
    (module enums).call? e.name "values" [] = some (.slice e.name (e.members.map (·.value))) := by
  have hmem : .function (valuesFunction e) ∈ inherentItems e := by simp [inherentItems]
  have helements := elements?_listed h he "VALUES"
  have hname : (listed "VALUES" e).name = "VALUES" := rfl
  have htype : (listed "VALUES" e).element = e.name := rfl
  refine (call?_eq_answer? h he hmem _).trans ?_
  simp [valuesFunction, Module.answer?, Module.run?, hname, htype, helements, Module.hasType]

theorem call?_count (hbitset : e.isBitset = false) :
    (module enums).call? e.name "count" [] = some (.number e.count) := by
  have hmem : .function (countFunction e) ∈ inherentItems e := by
    simp [inherentItems, sizeFunction, hbitset]
  refine (call?_eq_answer? h he hmem _).trans ?_
  simp [countFunction, Module.answer?, Module.run?, Module.value?, Module.operandValue?,
    Module.hasType]

theorem call?_contains (hbitset : e.isBitset = true) {a b : Nat}
    (ha : e.representation.contains a = true) (hb : e.representation.contains b = true) :
    (module enums).call? e.name "contains" [.tuple e.name a, .tuple e.name b] =
      some (.truth ((a &&& b) == b)) := by
  have hmem : .function (containsFunction e) ∈ inherentItems e := by
    simp [inherentItems, sizeFunction, hbitset]
  have hbits : bits? '&' a b = some ((a &&& b : Nat) : Int) := rfl
  refine (call?_eq_answer? h he hmem _).trans ?_
  simp [containsFunction, Module.answer?, Module.run?, Module.value?, Module.number?,
    Module.operandValue?, List.lookup_cons, holds_module h he, ha, hb, hbits, Module.hasType]

/-! ## Functions of traits -/

/-- What parsing returns: a value of the type, or an error that carries the name of the type
and the text. -/
def parseResult (e : EnumType) : Except UnrecognizedValue Int → Value
  | .ok v => .accepted e.name v
  | .error f => .refused errorType [("type_name", f.typeName), ("value", f.value)]

theorem callTrait?_fromStr (s : String) :
    (module enums).callTrait? ["FromStr"] e.name "from_str" [.text s] =
      some (parseResult e (e.parse s)) := by
  have hfunctions : (parseItems e).filterMap (Associated.function? "from_str") =
      [parseFunction e] := by
    simp [parseItems, List.filterMap_cons, Associated.function?, parseFunction]
  have hfailure : (parseItems e).findSome? (Associated.type? "Err") = some [.word errorType] := by
    simp [parseItems, Associated.type?]
  have hselect : (module enums).select? (.text s)
      (.build "Err" errorType [("type_name", .text e.name), ("value", .method "s" "to_string")])
      (e.members.map fun m => (.text m.externalName, .call "Ok" (.path e.name m.constantName))) =
        some ((e.members.find? (·.externalName == s)).elim
          (.build "Err" errorType
            [("type_name", .text e.name), ("value", .method "s" "to_string")])
          fun m => .call "Ok" (.path e.name m.constantName)) :=
    select?_map (fun m _ => rfl) (by simp)
  have hparameter : (module enums).hasType ⟨e.name, some [.word errorType]⟩ borrowedText
      (.text s) = true := rfl
  simp only [Module.callTrait?, implemented?_fromStr h he, Option.bind_eq_bind, Option.bind_some,
    hfunctions, hfailure, Module.answer?, parseFunction, List.length_singleton,
    List.zip_cons_cons, List.zip_nil_right, List.all_cons, List.all_nil, hparameter, Module.run?,
    List.map_cons, List.map_nil, List.lookup_cons_self, hselect]
  rw [EnumType.parse]
  cases hfind : e.members.find? (·.externalName == s) with
  | none =>
      -- no arm has the text, which goes into the error with the name of the type
      simp [parseResult, Module.value?, fields?_errorType h, errorFields, Module.fieldText?,
        Module.operandValue?, Module.hasType, staticText, borrowedText]
  | some m =>
      -- the arm of the member that the search found
      have hm := List.mem_of_find?_eq_some hfind
      simp [parseResult, Module.value?, operandValue?_path h he hm, Module.hasType]

theorem callTrait?_operation (hbitset : e.isBitset = true) {trait method : String}
    {operator : Char} (ho : (trait, method, operator) ∈ operations) {a b c : Nat}
    (ha : e.representation.contains a = true) (hb : e.representation.contains b = true)
    (hc : e.representation.contains c = true) (hbits : bits? operator a b = some c) :
    (module enums).callTrait? ["std", "ops", trait] e.name method
      [.tuple e.name a, .tuple e.name b] = some (.tuple e.name c) := by
  have hfunctions : (operationItems e method operator).filterMap (Associated.function? method) =
      [operationFunction e method operator] := by
    simp [operationItems, List.filterMap_cons, Associated.function?, operationFunction]
  have hfailure : (operationItems e method operator).findSome? (Associated.type? "Err") =
      none := by
    simp [operationItems, Associated.type?]
  simp [Module.callTrait?, implemented?_operation h he hbitset ho, hfunctions, hfailure,
    operationFunction, Module.answer?, Module.run?, Module.value?, Module.number?,
    Module.operandValue?, List.lookup_cons, Module.construct?, holds_module h he, ha, hb, hc,
    hbits, Module.hasType]

/-- Union of flags. -/
theorem callTrait?_bitor (hbitset : e.isBitset = true) {a b : Nat}
    (ha : e.representation.contains a = true) (hb : e.representation.contains b = true) :
    (module enums).callTrait? ["std", "ops", "BitOr"] e.name "bitor"
      [.tuple e.name a, .tuple e.name b] = some (.tuple e.name (a ||| b : Nat)) := by
  have ho : ("BitOr", "bitor", '|') ∈ operations := by decide
  refine callTrait?_operation h he hbitset ho ha hb ?_ rfl
  rw [representation_of_isBitset hbitset] at ha hb ⊢
  rw [contains_natCast_iff] at ha hb ⊢
  exact Nat.or_lt_two_pow ha hb

/-- Intersection of flags. -/
theorem callTrait?_bitand (hbitset : e.isBitset = true) {a b : Nat}
    (ha : e.representation.contains a = true) (hb : e.representation.contains b = true) :
    (module enums).callTrait? ["std", "ops", "BitAnd"] e.name "bitand"
      [.tuple e.name a, .tuple e.name b] = some (.tuple e.name (a &&& b : Nat)) := by
  have ho : ("BitAnd", "bitand", '&') ∈ operations := by decide
  refine callTrait?_operation h he hbitset ho ha hb ?_ rfl
  rw [representation_of_isBitset hbitset] at ha hb ⊢
  rw [contains_natCast_iff] at ha hb ⊢
  exact Nat.and_lt_two_pow a hb

end Compatible

end EnumBindings.Rust
