import EnumBindings.Proofs.Table
import Mathlib.Data.List.Sort
import Mathlib.Data.String.Basic

/-!
# Tables in another order

Resolution goes through a table in its own order: it stops at the first definition that is
refused, and a repeated name counts only against the definitions before it. What it accepts and
what it gives can still be said without an order (`EnumTable.resolve_eq_ok_iff`):

* `Resolve.definitions_cons_eq_ok_iff` is one step, `Resolve.definitions_eq_ok_iff` the
  induction over the definitions;
* sorted enum types with different names increase strictly (`Resolve.pairwise_lt_sorted`), so
  every order of the definitions gives one and the same list (`Resolve.sorted_perm`).

The names that an artifact declares are checked behind the sorting, so a refusal there is the
same for every order, too.
-/

namespace EnumBindings

namespace Resolve

/-- One definition is accepted when its name is new and it is valid. -/
theorem definitions_cons_eq_ok_iff (earlier enums : List EnumType) (d : Definition)
    (rest : List Definition) :
    definitions earlier (d :: rest) = .ok enums ↔
      d.name ∉ earlier.map (·.name) ∧ d.Valid ∧
        definitions (earlier ++ [d.enumType]) rest = .ok enums := by
  have hrepeated : earlier.any (·.name == d.name) = true ↔ d.name ∈ earlier.map (·.name) := by
    simp
  rw [definitions]
  by_cases hold : d.name ∈ earlier.map (·.name)
  · rw [if_pos (hrepeated.mpr hold)]
    constructor
    · intro h
      cases h
    · rintro ⟨hnew, -⟩
      exact absurd hold hnew
  · rw [if_neg (mt hrepeated.mp hold)]
    by_cases hvalid : d.Valid
    · rw [(d.resolve_eq_ok_iff _).mpr ⟨hvalid, rfl⟩]
      constructor
      · intro h
        exact ⟨hold, hvalid, h⟩
      · rintro ⟨-, -, h⟩
        exact h
    · cases hresolve : d.resolve with
      | error error =>
          constructor
          · intro h
            cases h
          · rintro ⟨-, hd, -⟩
            exact absurd hd hvalid
      | ok e => exact absurd ((d.resolve_eq_ok_iff e).mp hresolve).1 hvalid

/-- Definitions are accepted when each of them is valid and no name comes back. -/
theorem definitions_eq_ok_iff (earlier : List EnumType)
    (nodup : (earlier.map (·.name)).Nodup) (ds : List Definition) (enums : List EnumType) :
    definitions earlier ds = .ok enums ↔
      (earlier.map (·.name) ++ ds.map (·.name)).Nodup ∧ (∀ d ∈ ds, d.Valid) ∧
        enums = earlier ++ ds.map Definition.enumType := by
  induction ds generalizing earlier with
  | nil =>
      rw [definitions, List.map_nil, List.append_nil, List.map_nil, List.append_nil]
      constructor
      · intro h
        cases h
        exact ⟨nodup, fun d hd => absurd hd List.not_mem_nil, rfl⟩
      · rintro ⟨-, -, rfl⟩
        rfl
  | cons d rest ih =>
      -- the first definition moves over to those that were accepted
      have hnames : (earlier ++ [d.enumType]).map (·.name) ++ rest.map (·.name) =
          earlier.map (·.name) ++ (d :: rest).map (·.name) := by
        rw [List.map_append, List.append_assoc]
        rfl
      have henums : earlier ++ [d.enumType] ++ rest.map Definition.enumType =
          earlier ++ (d :: rest).map Definition.enumType := by
        rw [List.append_assoc]
        rfl
      rw [definitions_cons_eq_ok_iff]
      constructor
      · rintro ⟨hnew, hvalid, h⟩
        have hnodup : ((earlier ++ [d.enumType]).map (·.name)).Nodup := by
          rw [List.map_append, List.map_singleton, ← List.concat_eq_append]
          exact nodup.concat hnew
        obtain ⟨hdistinct, hrest, rfl⟩ := (ih _ hnodup).mp h
        exact ⟨hnames ▸ hdistinct, List.forall_mem_cons.mpr ⟨hvalid, hrest⟩, henums⟩
      · rintro ⟨hdistinct, hall, rfl⟩
        obtain ⟨hvalid, hrest⟩ := List.forall_mem_cons.mp hall
        rw [← hnames] at hdistinct
        have hnodup : ((earlier ++ [d.enumType]).map (·.name)).Nodup := hdistinct.of_append_left
        refine ⟨?_, hvalid, (ih _ hnodup).mpr ⟨hdistinct, hrest, henums.symm⟩⟩
        intro hold
        rw [List.map_append] at hnodup
        exact List.disjoint_of_nodup_append hnodup hold (List.mem_singleton_self _)

theorem precedes_iff (a b : EnumType) : precedes a b = true ↔ a.name ≤ b.name :=
  decide_eq_true_iff

/-- Sorted by name, enum types with different names increase strictly. -/
theorem pairwise_lt_sorted {enums : List EnumType} (nodup : (enums.map (·.name)).Nodup) :
    (enums.mergeSort precedes).Pairwise (fun a b => a.name < b.name) :=
  Keyed.pairwise_lt_mergeSort EnumType.name nodup

/-- Enum types with different names are sorted in one way only. -/
theorem sorted_perm {enums enums' : List EnumType} (perm : enums.Perm enums')
    (nodup : (enums.map (·.name)).Nodup) :
    enums.mergeSort precedes = enums'.mergeSort precedes :=
  Keyed.mergeSort_eq_of_perm EnumType.name perm nodup

end Resolve

namespace EnumTable

/-- What resolution accepts and what it gives, the definitions taken in any order. -/
theorem resolve_eq_ok_iff (ds : List Definition) (enums : List EnumType) :
    (EnumTable.mk ds).resolve = .ok enums ↔
      (ds.map (·.name)).Nodup ∧ (∀ d ∈ ds, d.Valid) ∧
        enums = (ds.map Definition.enumType).mergeSort Resolve.precedes := by
  have hstep := Resolve.definitions_eq_ok_iff [] List.nodup_nil ds
  rw [resolve]
  constructor
  · intro h
    cases hall : Resolve.definitions [] ds with
    | error error => rw [hall] at h; cases h
    | ok all =>
        rw [hall] at h
        cases h
        obtain ⟨hdistinct, hvalid, rfl⟩ := (hstep all).mp hall
        exact ⟨hdistinct, hvalid, rfl⟩
  · rintro ⟨hdistinct, hvalid, rfl⟩
    rw [(hstep _).mpr ⟨hdistinct, hvalid, rfl⟩]
    rfl

theorem nodup_map_enumType {ds : List Definition} (nodup : (ds.map (·.name)).Nodup) :
    ((ds.map Definition.enumType).map (·.name)).Nodup := by
  rw [List.map_map]
  exact nodup

/-- The order of the definitions decides neither whether a table resolves nor to what. -/
theorem resolve_perm {ds ds' : List Definition} (perm : ds.Perm ds') (enums : List EnumType) :
    (EnumTable.mk ds).resolve = .ok enums ↔ (EnumTable.mk ds').resolve = .ok enums := by
  rw [resolve_eq_ok_iff, resolve_eq_ok_iff, (perm.map (·.name)).nodup_iff]
  refine and_congr_right fun hdistinct => ?_
  rw [Resolve.sorted_perm (perm.map Definition.enumType).symm (nodup_map_enumType hdistinct)]
  refine and_congr_left fun _ => ?_
  constructor
  · intro hvalid d hd
    exact hvalid d (perm.mem_iff.mpr hd)
  · intro hvalid d hd
    exact hvalid d (perm.mem_iff.mp hd)

theorem forall_valid_iff (ds : List Definition) :
    (∀ d ∈ ds, d.Valid) ↔ ∀ d ∈ ds, ∃ e, d.resolve = .ok e := by
  constructor
  · intro h d hd
    exact ⟨d.enumType, (d.resolve_eq_ok_iff _).mpr ⟨h d hd, rfl⟩⟩
  · intro h d hd
    obtain ⟨e, he⟩ := h d hd
    exact ((d.resolve_eq_ok_iff e).mp he).1

/-- Generation does not depend on the order of the definitions. A table resolves exactly when its
names are distinct and all its definitions resolve, to these enum types in strictly increasing
order; artifacts are the same for both orders; and a table that resolves is also refused with
the same error, or not at all. -/
theorem generation_ignores_order {ds ds' : List Definition} (perm : ds.Perm ds') (style : Style)
    (header : Header) :
    ((∃ enums, (EnumTable.mk ds).resolve = .ok enums) ↔
      (ds.map (·.name)).Nodup ∧ ∀ d ∈ ds, ∃ e, d.resolve = .ok e) ∧
    (∀ enums, (EnumTable.mk ds).resolve = .ok enums →
      enums.Pairwise (fun a b => a.name < b.name) ∧
        ∀ e, e ∈ enums ↔ ∃ d ∈ ds, d.resolve = .ok e) ∧
    (∀ artifact, (EnumTable.mk ds).generate style header = .ok artifact ↔
      (EnumTable.mk ds').generate style header = .ok artifact) ∧
    ((ds.map (·.name)).Nodup → (∀ d ∈ ds, ∃ e, d.resolve = .ok e) →
      (EnumTable.mk ds).generate style header = (EnumTable.mk ds').generate style header) := by
  refine ⟨?_, ?_, ?_, ?_⟩
  · rw [← forall_valid_iff]
    constructor
    · rintro ⟨enums, h⟩
      obtain ⟨hdistinct, hvalid, -⟩ := (resolve_eq_ok_iff ds enums).mp h
      exact ⟨hdistinct, hvalid⟩
    · rintro ⟨hdistinct, hvalid⟩
      exact ⟨_, (resolve_eq_ok_iff ds _).mpr ⟨hdistinct, hvalid, rfl⟩⟩
  · intro enums h
    obtain ⟨hdistinct, hvalid, rfl⟩ := (resolve_eq_ok_iff ds enums).mp h
    refine ⟨Resolve.pairwise_lt_sorted (nodup_map_enumType hdistinct), fun e => ?_⟩
    rw [List.mem_mergeSort, List.mem_map]
    constructor
    · rintro ⟨d, hd, rfl⟩
      exact ⟨d, hd, (d.resolve_eq_ok_iff _).mpr ⟨hvalid d hd, rfl⟩⟩
    · rintro ⟨d, hd, he⟩
      exact ⟨d, hd, ((d.resolve_eq_ok_iff e).mp he).2.symm⟩
  · intro artifact
    rw [generate_eq_ok_iff, generate_eq_ok_iff, resolve_perm perm]
  · intro hdistinct hall
    have hresolve := (resolve_eq_ok_iff ds _).mpr ⟨hdistinct, (forall_valid_iff ds).mpr hall, rfl⟩
    have hresolve' := (resolve_perm perm _).mp hresolve
    -- both runs check the names of one list of enum types
    rw [generate, generate, hresolve, hresolve']

end EnumTable

/-! ## A table whose names clash -/

namespace Flexbox

/-- The constant of its member is spelled as the one of `direction`. -/
def container : Definition := ⟨"Flex", [.named "DirectionRow"], false, false⟩

def direction : Definition := ⟨"FlexDirection", [.named "Row"], false, false⟩

/-- The enum types of these definitions by name. -/
def enums : List EnumType := [container.enumType, direction.enumType]

theorem resolve_enums : (EnumTable.mk [container, direction]).resolve = .ok enums :=
  EnumTable.resolve_of_sorted (by decide) (by decide)

/-- Whichever of the two stands first in the table, the same one is the first owner. -/
theorem generate_reversed :
    (EnumTable.mk [direction, container]).generate (.go "yoga") ⟨[]⟩ =
      .error (.identifierCollision .go "FlexDirectionRow" "`Flex.DirectionRow`"
        "`FlexDirection.Row`") := by
  have hperm : [container, direction].Perm [direction, container] := .swap direction container []
  obtain ⟨hresolves, -, -, hsame⟩ :=
    EnumTable.generation_ignores_order hperm (.go "yoga") ⟨[]⟩
  obtain ⟨hdistinct, hall⟩ := hresolves.mp ⟨enums, resolve_enums⟩
  have hclash : (Style.go "yoga").checkNames enums = .error (.identifierCollision .go
      "FlexDirectionRow" "`Flex.DirectionRow`" "`FlexDirection.Row`") := by decide +kernel
  rw [← hsame hdistinct hall, EnumTable.generate]
  simp only [resolve_enums, hclash, bind, Except.bind]

end Flexbox

end EnumBindings
