import EnumBindings.Artifact
import EnumBindings.Proofs.RoundTrip
import EnumBindings.Table.Error
import Mathlib.Data.List.Flatten
import Mathlib.Data.List.Forall2

/-!
# Accepted tables

An artifact is made when the table resolves and its names do not clash
(`generate_eq_ok_iff`). Its enum types come out of resolution one by one
(`EnumTable.definition_of_mem`), so each of them is well-formed.
-/

namespace EnumBindings

/-- Resolution goes through the definitions one by one. -/
theorem Resolve.forall₂_of_definitions {earlier enums : List EnumType} {ds : List Definition}
    (h : definitions earlier ds = .ok enums) :
    ∃ resolved, enums = earlier ++ resolved ∧
      List.Forall₂ (fun d e => d.resolve = .ok e) ds resolved := by
  induction ds generalizing earlier with
  | nil =>
      cases h
      exact ⟨[], (List.append_nil _).symm, .nil⟩
  | cons d rest ih =>
      rw [definitions] at h
      by_cases hnew : earlier.any (·.name == d.name) = true
      · rw [if_pos hnew] at h
        cases h
      · rw [if_neg hnew] at h
        cases hresolve : d.resolve with
        | error e => rw [hresolve] at h; cases h
        | ok e =>
            rw [hresolve] at h
            obtain ⟨resolved, rfl, hall⟩ := ih h
            exact ⟨e :: resolved, List.append_assoc _ _ _, .cons hresolve hall⟩

/-- Where no two enum types declare one name, they are told apart by their own names. -/
theorem EnumType.nodup_map_name {declared : EnumType → List String} {enums : List EnumType}
    (own : ∀ e, e.name ∈ declared e) (distinct : (enums.flatMap declared).Nodup) :
    (enums.map (·.name)).Nodup := by
  rw [List.map_eq_flatMap]
  refine distinct.sublist (List.Sublist.flatMap_right _ fun e _ => ?_)
  exact List.singleton_sublist.mpr (own e)

namespace EnumTable

variable {table : EnumTable} {enums : List EnumType}

/-- Every resolved enum type has its definition in the table. -/
theorem definition_of_mem (resolved : table.resolve = .ok enums) {e : EnumType}
    (member : e ∈ enums) : ∃ d ∈ table.definitions, d.resolve = .ok e := by
  rw [resolve] at resolved
  cases hdefinitions : Resolve.definitions [] table.definitions with
  | error e => rw [hdefinitions] at resolved; cases resolved
  | ok unsorted =>
      rw [hdefinitions] at resolved
      cases resolved
      -- sorting moves enum types but adds none, and each of them stems from one definition
      obtain ⟨all, rfl, hall⟩ := Resolve.forall₂_of_definitions hdefinitions
      rw [List.mem_mergeSort] at member
      obtain ⟨i, hi, rfl⟩ := List.getElem_of_mem member
      have hlt : i < table.definitions.length := hall.length_eq ▸ hi
      exact ⟨table.definitions[i], List.getElem_mem hlt, hall.get hlt hi⟩

theorem wellFormed_of_mem (resolved : table.resolve = .ok enums) {e : EnumType}
    (member : e ∈ enums) : e.WellFormed := by
  obtain ⟨d, -, hd⟩ := definition_of_mem resolved member
  exact Definition.wellFormed_of_resolve hd

/-- Enum types that stand in order stay in their order. -/
theorem resolve_of_sorted (resolved : Resolve.definitions [] table.definitions = .ok enums)
    (sorted : enums.Pairwise fun a b => Resolve.precedes a b = true) :
    table.resolve = .ok enums := by
  rw [resolve, resolved]
  exact congrArg Except.ok (List.mergeSort_of_pairwise sorted)

theorem generate_eq_ok_iff (table : EnumTable) (style : Style) (header : Header)
    (artifact : Artifact) :
    table.generate style header = .ok artifact ↔
      table.resolve = .ok artifact.enums ∧ style.checkNames artifact.enums = .ok () ∧
        artifact.text = Text.unlines (style.fileLines header artifact.enums) := by
  obtain ⟨enums, text⟩ := artifact
  rw [generate]
  constructor
  · intro h
    cases hresolve : table.resolve with
    | error e => rw [hresolve] at h; cases h
    | ok resolved =>
        cases hnames : style.checkNames resolved with
        | error e => simp [hresolve, hnames, bind, Except.bind] at h
        | ok u =>
            simp only [hresolve, hnames, bind, Except.bind, pure, Except.pure, Except.ok.injEq,
              Artifact.mk.injEq] at h
            obtain ⟨rfl, rfl⟩ := h
            exact ⟨rfl, hnames, rfl⟩
  · rintro ⟨hresolve, hnames, htext⟩
    simp only [hresolve, hnames, bind, Except.bind, pure, Except.pure]
    rw [← htext]

/-- What is made of enum types that passed the checks. -/
theorem generate_of_checks (style : Style) (resolved : table.resolve = .ok enums)
    (checked : style.checkNames enums = .ok ()) (header : Header) :
    table.generate style header = .ok ⟨enums, Text.unlines (style.fileLines header enums)⟩ :=
  (generate_eq_ok_iff table style header _).mpr ⟨resolved, checked, rfl⟩

open TableDocument in
/-- A document with its enum types in order is read as a table with them in that order. -/
theorem ofText_of_sorted {text : String} {entries : Toml.Entries} {contents : Contents}
    {enums : List (String × List MemberSpec)} (hparse : Toml.parse? text = some entries)
    (hdecode : decode entries = .ok (contents, enums))
    (hpreserve : checkReferences .preserve (enums.map (·.1)) [] contents.preserve = .ok ())
    (hbitset : checkReferences .bitset (enums.map (·.1)) [] contents.bitset = .ok ())
    (hsorted : enums.Pairwise fun a b => decide (a.1 ≤ b.1) = true) :
    EnumTable.ofText text = .ok ⟨enums.map fun (name, members) =>
      ⟨name, members, contents.bitset.contains name, contents.preserve.contains name⟩⟩ := by
  rw [EnumTable.ofText, hparse]
  simp only [EnumTable.ofEntries, hdecode, hpreserve, hbitset, Except.mapError, bind, Except.bind,
    pure, Except.pure, TableDocument.table, List.mergeSort_of_pairwise hsorted]

end EnumTable

/-! ## A small table -/

namespace Panel

/-- A flag set that uses the sign bit. -/
def access : EnumType where
  name := "Access"
  representation := .u32
  preserve := false
  positional := false
  members := [⟨"Read", "READ", "read", 1⟩, ⟨"Write", "WRITE", "write", 2147483648⟩]

/-- Bare names whose constants are preserved. -/
def align : EnumType where
  name := "Align"
  representation := .i32
  preserve := true
  positional := true
  members := [⟨"Auto", "AUTO", "auto", 0⟩, ⟨"FlexStart", "FLEX_START", "flex-start", 1⟩]

/-- A member below zero, and one with the external name of values without a member. -/
def phase : EnumType where
  name := "Phase"
  representation := .i32
  preserve := false
  positional := false
  members := [⟨"Low", "LOW", "low", -5⟩, ⟨"Unknown", "UNKNOWN", "unknown", 7⟩]

/-- The table of these enum types. -/
def table : EnumTable where
  definitions :=
    [⟨"Access", [.explicit "Read" 1, .explicit "Write" 2147483648], true, false⟩,
     ⟨"Align", [.named "Auto", .named "FlexStart"], false, true⟩,
     ⟨"Phase", [.explicit "Low" (-5), .explicit "Unknown" 7], false, false⟩]

theorem resolve_table : table.resolve = .ok [access, align, phase] :=
  EnumTable.resolve_of_sorted (by decide) (by decide)

/-- The table as a document. -/
def document : String :=
  "bitset = [\"Access\"]\npreserve = [\"Align\"]\n\n[enums]\n" ++
  "Access = [[\"Read\", 1], [\"Write\", 2147483648]]\n" ++
  "Align = [\"Auto\", \"FlexStart\"]\n" ++
  "Phase = [[\"Low\", -5], [\"Unknown\", 7]]\n"

/-- The enum types of the document with their members. -/
def members : List (String × List MemberSpec) := table.definitions.map fun d => (d.name, d.members)

theorem parse_document (origin : String) : EnumTable.parse document origin = .ok table := by
  have hread : ((Toml.parse? document).bind fun entries =>
      (TableDocument.decode entries).toOption.map fun read =>
        (read.1.preserve, read.1.bitset, read.2)) = some (["Align"], ["Access"], members) := by
    decide +kernel
  obtain ⟨entries, hparse, hread⟩ := Option.bind_eq_some_iff.mp hread
  obtain ⟨⟨contents, enums⟩, hdecode, hparts⟩ := Option.map_eq_some_iff.mp hread
  obtain ⟨hpreserve, hbitset, rfl⟩ :
      contents.preserve = ["Align"] ∧ contents.bitset = ["Access"] ∧ enums = members := by
    simpa using hparts
  have hdecode : TableDocument.decode entries = .ok (contents, members) := by
    revert hdecode
    cases TableDocument.decode entries <;> simp [Except.toOption]
  have hkeys : members.Pairwise fun a b => decide (a.1 ≤ b.1) = true := by decide +kernel
  have hreferences (list : ReferenceList) (name : String) (h : name ∈ members.map (·.1)) :
      TableDocument.checkReferences list (members.map (·.1)) [] [name] = .ok () := by
    simp [TableDocument.checkReferences, h]
  rw [EnumTable.parse, EnumTable.ofText_of_sorted hparse hdecode
    (hpreserve ▸ hreferences .preserve "Align" (by decide))
    (hbitset ▸ hreferences .bitset "Access" (by decide)) hkeys, hpreserve, hbitset]
  rfl

end Panel

end EnumBindings
