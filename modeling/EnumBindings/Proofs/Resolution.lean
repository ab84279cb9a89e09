import EnumBindings.EnumType.Resolve
import EnumBindings.Proofs.Identifier
import Mathlib.Algebra.Group.Int.Defs
import Mathlib.Data.List.Basic
import Mathlib.Data.List.Nodup

/-!
# What resolution accepts

`Definition.Valid` says when a definition makes sense, without following the checks in their
order; `Definition.enumType` is the enum type that a valid definition describes.

* each check of resolution has one lemma that says when it passes (`memberValue_eq_ok_iff`,
  `member_eq_ok_iff`, `clash?_eq_none_iff`);
* the two traversals are inductions over them (`membersFrom_eq_ok_iff`,
  `checkUnique_eq_ok_iff`);
* `resolve_eq_ok_iff` joins these: resolution succeeds on the valid definitions and gives the
  enum type they describe.
-/

namespace EnumBindings

open Name (IsIdentifier)

/-! ## Valid definitions -/

namespace MemberSpec

/-- The value of a member at a position: the position of a bare name, else the given value. -/
def valueAt (index : Nat) : MemberSpec → Int
  | named _ => index
  | explicit _ value => value

/-- The member that a specification at a position describes. -/
def memberAt (index : Nat) (spec : MemberSpec) : Member where
  name := spec.name
  constantName := Name.upperSnake spec.name
  externalName := Name.lowerHyphen spec.name
  value := spec.valueAt index

end MemberSpec

/-- The values of the members, in declaration order. -/
def Definition.values (d : Definition) : List Int :=
  d.members.zipIdx.map fun p => p.1.valueAt p.2

/-- Definitions that describe an enum type. -/
structure Definition.Valid (d : Definition) : Prop where
  typeName : IsIdentifier d.name
  memberNames : ∀ spec ∈ d.members, IsIdentifier spec.name
  nonempty : d.members ≠ []
  form : (d.bitset = false ∧ ∀ spec ∈ d.members, spec.isNamed = true) ∨
    ∀ spec ∈ d.members, spec.isNamed = false
  range : ∀ v ∈ d.values,
    if d.bitset then 0 ≤ v ∧ v ≤ 2 ^ 32 - 1 else -2 ^ 31 ≤ v ∧ v ≤ 2 ^ 31 - 1
  externalNames : (d.members.map fun spec => Name.lowerHyphen spec.name).Nodup
  constantNames : (d.members.map fun spec => Name.upperSnake spec.name).Nodup
  values : d.values.Nodup

/-- The enum type that a definition describes. -/
def Definition.enumType (d : Definition) : EnumType where
  name := d.name
  representation := Resolve.representation d
  preserve := d.preserve
  positional := Resolve.isPositional d
  members := d.members.zipIdx.map fun p => p.1.memberAt p.2

namespace Resolve

/-! ## One lemma for each check -/

theorem isPositional_iff (d : Definition) :
    isPositional d = true ↔ ∀ spec ∈ d.members, spec.isNamed = true := by
  rw [isPositional, List.all_eq_true]

theorem contains_representation_iff (d : Definition) (v : Int) :
    (representation d).contains v = true ↔
      if d.bitset then 0 ≤ v ∧ v ≤ 2 ^ 32 - 1 else -2 ^ 31 ≤ v ∧ v ≤ 2 ^ 31 - 1 := by
  cases hb : d.bitset <;>
    simp [representation, hb, Representation.contains, Representation.least,
      Representation.greatest]

theorem checkIdentifier_eq_ok_iff (enumName name : String) :
    checkIdentifier enumName name = .ok () ↔ IsIdentifier name := by
  rw [← Name.isIdentifier_iff, checkIdentifier]
  split <;> simp_all

/-- An explicit member has its value: it is no bare name, so its definition does not consist of
them, and it is never the member at fault for a mixture. -/
theorem memberValue_explicit {d : Definition} {name : String} {value : Int}
    (h : MemberSpec.explicit name value ∈ d.members) (index : Nat) :
    memberValue d index (.explicit name value) = .ok value := by
  have hpositional : ¬isPositional d = true := fun hall =>
    Bool.false_ne_true ((isPositional_iff d).mp hall _ h)
  rw [memberValue, if_neg hpositional]

/-- A bare name has a value only in a definition of bare names that is no flag set. -/
theorem memberValue_eq_ok_iff {d : Definition} {spec : MemberSpec} (hspec : spec ∈ d.members)
    (index : Nat) (v : Int) :
    memberValue d index spec = .ok v ↔
      (spec.isNamed = true → d.bitset = false ∧ isPositional d = true) ∧
        v = spec.valueAt index := by
  cases spec with
  | named name =>
      simp only [memberValue, MemberSpec.isNamed, MemberSpec.valueAt, true_implies]
      cases hb : d.bitset <;> cases hp : isPositional d <;> simp [eq_comm]
  | explicit name value =>
      rw [memberValue_explicit hspec, Except.ok.injEq, eq_comm, MemberSpec.valueAt]
      simp [MemberSpec.isNamed]

/-- What the loop over the members demands of one of them. -/
structure Accepted (d : Definition) (spec : MemberSpec) (index : Nat) : Prop where
  name : IsIdentifier spec.name
  form : spec.isNamed = true → d.bitset = false ∧ isPositional d = true
  range : (representation d).contains (spec.valueAt index) = true

theorem member_eq_ok_iff {d : Definition} {spec : MemberSpec} (hspec : spec ∈ d.members)
    (index : Nat) (m : Member) :
    member d spec index = .ok m ↔ Accepted d spec index ∧ m = spec.memberAt index := by
  constructor
  · intro h
    unfold member at h
    cases hname : checkIdentifier d.name spec.name with
    | error e => rw [hname] at h; cases h
    | ok _ =>
      cases hvalue : memberValue d index spec with
      | error e => rw [hname, hvalue] at h; cases h
      | ok v =>
        rw [hname, hvalue] at h
        obtain ⟨hform, rfl⟩ := (memberValue_eq_ok_iff hspec index v).mp hvalue
        by_cases hrange : (representation d).contains (spec.valueAt index) = true
        · refine ⟨⟨(checkIdentifier_eq_ok_iff _ _).mp hname, hform, hrange⟩, ?_⟩
          simp only [bind, Except.bind, hrange, if_true, pure, Except.pure] at h
          cases h
          rfl
        · simp only [bind, Except.bind, hrange] at h
          cases h
  · rintro ⟨⟨hname, hform, hrange⟩, rfl⟩
    have h1 := (checkIdentifier_eq_ok_iff d.name spec.name).mpr hname
    have h2 := (memberValue_eq_ok_iff hspec index _).mpr ⟨hform, rfl⟩
    unfold member
    simp only [h1, h2, bind, Except.bind, hrange, if_true, pure, Except.pure]
    rfl

/-- The loop passes when every member does, and numbers them from its start. -/
theorem membersFrom_eq_ok_iff {d : Definition} {specs : List MemberSpec}
    (hspecs : ∀ spec ∈ specs, spec ∈ d.members) (index : Nat) (members : List Member) :
    membersFrom d index specs = .ok members ↔
      (∀ p ∈ specs.zipIdx index, Accepted d p.1 p.2) ∧
        members = (specs.zipIdx index).map fun p => p.1.memberAt p.2 := by
  induction specs generalizing index members with
  | nil => simp [membersFrom, eq_comm]
  | cons spec rest ih =>
      obtain ⟨hspec, hothers⟩ := List.forall_mem_cons.mp hspecs
      rw [List.zipIdx_cons, List.forall_mem_cons, List.map_cons, membersFrom]
      constructor
      · intro h
        -- the first refused member ends the loop
        cases hfirst : member d spec index with
        | error e => rw [hfirst] at h; cases h
        | ok m =>
          cases hrest : membersFrom d (index + 1) rest with
          | error e => rw [hfirst, hrest] at h; cases h
          | ok ms =>
            rw [hfirst, hrest] at h
            obtain ⟨hacc, rfl⟩ := (member_eq_ok_iff hspec index m).mp hfirst
            obtain ⟨haccs, rfl⟩ := (ih hothers (index + 1) ms).mp hrest
            cases h
            exact ⟨⟨hacc, haccs⟩, rfl⟩
      · rintro ⟨⟨hacc, haccs⟩, rfl⟩
        rw [(member_eq_ok_iff hspec index _).mpr ⟨hacc, rfl⟩,
          (ih hothers (index + 1) _).mpr ⟨haccs, rfl⟩]
        rfl

/-- Two members that can stand in one enum type. -/
structure Apart (a b : Member) : Prop where
  external : a.externalName ≠ b.externalName
  constant : a.constantName ≠ b.constantName
  value : a.value ≠ b.value

theorem clash?_eq_none_iff (enumName : String) (earlier : List Member) (m : Member) :
    clash? enumName earlier m = none ↔ ∀ a ∈ earlier, Apart a m := by
  unfold clash?
  constructor
  · intro h a ha
    split at h
    · cases h
    · rename_i hexternal
      split at h
      · cases h
      · rename_i hconstant
        split at h
        · cases h
        · rename_i hvalue
          rw [List.find?_eq_none] at hexternal hconstant hvalue
          exact ⟨by simpa using hexternal a ha, by simpa using hconstant a ha,
            by simpa using hvalue a ha⟩
  · intro h
    have hexternal : earlier.find? (·.externalName == m.externalName) = none :=
      List.find?_eq_none.mpr fun a ha => by simpa using (h a ha).external
    have hconstant : earlier.find? (·.constantName == m.constantName) = none :=
      List.find?_eq_none.mpr fun a ha => by simpa using (h a ha).constant
    have hvalue : earlier.find? (·.value == m.value) = none :=
      List.find?_eq_none.mpr fun a ha => by simpa using (h a ha).value
    rw [hexternal, hconstant, hvalue]

/-- The scan passes when no member meets one before it. -/
theorem checkUnique_eq_ok_iff (enumName : String) (earlier members : List Member) :
    checkUnique enumName earlier members = .ok () ↔
      (∀ a ∈ earlier, ∀ m ∈ members, Apart a m) ∧ members.Pairwise Apart := by
  induction members generalizing earlier with
  | nil => simp [checkUnique]
  | cons m rest ih =>
      rw [checkUnique, List.pairwise_cons]
      cases hclash : clash? enumName earlier m with
      | some error =>
          simp only [reduceCtorEq, false_iff, not_and]
          intro hearlier
          have hnone := (clash?_eq_none_iff enumName earlier m).mpr
            fun a ha => hearlier a ha m List.mem_cons_self
          rw [hnone] at hclash
          cases hclash
      | none =>
          have hm := (clash?_eq_none_iff enumName earlier m).mp hclash
          -- behind `m` the scan goes on with `m` among the earlier members
          rw [ih (earlier ++ [m])]
          constructor
          · rintro ⟨hbefore, hrest⟩
            refine ⟨?_, fun b hb => hbefore m (by simp) b hb, hrest⟩
            intro a ha b hb
            rcases List.mem_cons.mp hb with rfl | hb
            · exact hm a ha
            · exact hbefore a (List.mem_append_left _ ha) b hb
          · rintro ⟨hbefore, hhead, hrest⟩
            refine ⟨?_, hrest⟩
            intro a ha b hb
            rcases List.mem_append.mp ha with ha | ha
            · exact hbefore a ha b (List.mem_cons_of_mem _ hb)
            · rw [List.mem_singleton.mp ha]
              exact hhead b hb

/-- Members are pairwise apart when their three keys are free of repetition. -/
theorem pairwise_apart_iff (members : List Member) :
    members.Pairwise Apart ↔ (members.map (·.externalName)).Nodup ∧
      (members.map (·.constantName)).Nodup ∧ (members.map (·.value)).Nodup := by
  simp only [List.Nodup, List.pairwise_map, ← List.pairwise_and_iff]
  constructor
  · exact List.Pairwise.imp fun h => ⟨h.external, h.constant, h.value⟩
  · exact List.Pairwise.imp fun h => ⟨h.1, h.2.1, h.2.2⟩

end Resolve

/-! ## Whole definitions -/

open Resolve

theorem Definition.map_enumType_members {α : Type} (d : Definition) (f : Member → α)
    (g : MemberSpec → α) (hfg : ∀ spec index, f (spec.memberAt index) = g spec) :
    d.enumType.members.map f = d.members.map g := by
  have hcomp : (fun p : MemberSpec × Nat => f (p.1.memberAt p.2)) = g ∘ Prod.fst := by
    funext p
    exact hfg p.1 p.2
  rw [Definition.enumType, List.map_map, Function.comp_def, hcomp, ← List.map_map,
    List.zipIdx_map_fst]

theorem Definition.values_enumType (d : Definition) :
    d.enumType.members.map (·.value) = d.values := by
  rw [Definition.enumType, Definition.values, List.map_map]
  rfl

theorem Definition.pairwise_apart_enumType_iff (d : Definition) :
    d.enumType.members.Pairwise Apart ↔
      (d.members.map fun spec => Name.lowerHyphen spec.name).Nodup ∧
        (d.members.map fun spec => Name.upperSnake spec.name).Nodup ∧ d.values.Nodup := by
  rw [pairwise_apart_iff, d.values_enumType,
    d.map_enumType_members (·.externalName) (fun spec => Name.lowerHyphen spec.name)
      fun _ _ => rfl,
    d.map_enumType_members (·.constantName) (fun spec => Name.upperSnake spec.name)
      fun _ _ => rfl]

/-- The demand on the form of each member, for all of them together. -/
theorem Resolve.form_iff (d : Definition) :
    (∀ spec ∈ d.members, spec.isNamed = true → d.bitset = false ∧ isPositional d = true) ↔
      (d.bitset = false ∧ ∀ spec ∈ d.members, spec.isNamed = true) ∨
        ∀ spec ∈ d.members, spec.isNamed = false := by
  constructor
  · intro h
    -- one bare name decides the form of all members
    by_cases hnamed : ∃ spec ∈ d.members, spec.isNamed = true
    · obtain ⟨spec, hspec, hn⟩ := hnamed
      obtain ⟨hbitset, hpos⟩ := h spec hspec hn
      exact .inl ⟨hbitset, (isPositional_iff d).mp hpos⟩
    · refine .inr fun spec hspec => ?_
      cases hn : spec.isNamed with
      | false => rfl
      | true => exact absurd ⟨spec, hspec, hn⟩ hnamed
  · rintro (⟨hbitset, hall⟩ | hnone) spec hspec hn
    · exact ⟨hbitset, (isPositional_iff d).mpr hall⟩
    · rw [hnone spec hspec] at hn
      cases hn

theorem Resolve.forall_mem_zipIdx_fst {p : MemberSpec → Prop} (specs : List MemberSpec) :
    (∀ q ∈ specs.zipIdx, p q.1) ↔ ∀ spec ∈ specs, p spec := by
  conv_rhs => rw [← List.zipIdx_map_fst 0 specs]
  simp only [List.forall_mem_map]

/-- The checks of all members and of the whole pass together exactly on the valid definitions. -/
theorem Definition.valid_iff (d : Definition) :
    d.Valid ↔ IsIdentifier d.name ∧ d.members ≠ [] ∧
      (∀ p ∈ d.members.zipIdx, Accepted d p.1 p.2) ∧ d.enumType.members.Pairwise Apart := by
  have hname := forall_mem_zipIdx_fst (p := fun spec => IsIdentifier spec.name) d.members
  have hform := forall_mem_zipIdx_fst (p := fun spec =>
    spec.isNamed = true → d.bitset = false ∧ isPositional d = true) d.members
  rw [form_iff] at hform
  have hrange : (∀ p ∈ d.members.zipIdx, (representation d).contains (p.1.valueAt p.2) = true) ↔
      ∀ v ∈ d.values, if d.bitset then 0 ≤ v ∧ v ≤ 2 ^ 32 - 1
        else -2 ^ 31 ≤ v ∧ v ≤ 2 ^ 31 - 1 := by
    simp only [Definition.values, List.forall_mem_map, contains_representation_iff]
  rw [d.pairwise_apart_enumType_iff]
  constructor
  · intro h
    refine ⟨h.typeName, h.nonempty, fun p hp => ⟨hname.mpr h.memberNames p hp,
      hform.mpr h.form p hp, hrange.mpr h.range p hp⟩, h.externalNames, h.constantNames,
      h.values⟩
  · rintro ⟨htype, hne, hacc, hext, hconst, hval⟩
    exact ⟨htype, hname.mp fun p hp => (hacc p hp).name, hne,
      hform.mp fun p hp => (hacc p hp).form, hrange.mp fun p hp => (hacc p hp).range,
      hext, hconst, hval⟩

/-- Resolution succeeds on the valid definitions and gives the enum type they describe. -/
theorem Definition.resolve_eq_ok_iff (d : Definition) (e : EnumType) :
    d.resolve = .ok e ↔ d.Valid ∧ e = d.enumType := by
  rw [d.valid_iff]
  constructor
  · intro h
    unfold Definition.resolve at h
    cases hname : checkIdentifier d.name d.name with
    | error err => rw [hname] at h; cases h
    | ok _ =>
      rw [hname] at h
      by_cases hempty : d.members = []
      · simp [hempty, bind, Except.bind] at h
      · cases hmembers : membersFrom d 0 d.members with
        | error err => simp [hempty, hmembers, bind, Except.bind] at h
        | ok members =>
          cases hunique : checkUnique d.name [] members with
          | error err => simp [hempty, hmembers, hunique, bind, Except.bind] at h
          | ok _ =>
            obtain ⟨hacc, hms⟩ := (membersFrom_eq_ok_iff (fun _ h => h) 0 members).mp hmembers
            subst hms
            have hpair := ((checkUnique_eq_ok_iff _ _ _).mp hunique).2
            refine ⟨⟨(checkIdentifier_eq_ok_iff _ _).mp hname, hempty, hacc, hpair⟩, ?_⟩
            simp [hempty, hmembers, hunique, bind, Except.bind, pure, Except.pure] at h
            exact h.symm
  · rintro ⟨⟨hname, hempty, hacc, hpair⟩, rfl⟩
    have h1 := (checkIdentifier_eq_ok_iff d.name d.name).mpr hname
    have h2 := (membersFrom_eq_ok_iff (fun _ h => h) 0 _).mpr ⟨hacc, rfl⟩
    have h3 := (checkUnique_eq_ok_iff d.name [] d.enumType.members).mpr ⟨by simp, hpair⟩
    unfold Definition.resolve
    simp only [Definition.enumType] at h3
    simp [h1, h2, h3, hempty, bind, Except.bind, pure, Except.pure, Definition.enumType]

/-- Resolution succeeds exactly on the valid definitions. What it gives has the definition's
name and preserve flag, the representation of its kind, and one member for each of the
definition's, in their order, with both rendered names and the value. -/
theorem resolution_exact (d : Definition) :
    ((∃ e, d.resolve = .ok e) ↔ d.Valid) ∧
    ∀ e, d.resolve = .ok e →
      e.name = d.name ∧ e.preserve = d.preserve ∧
      (e.representation = .u32 ↔ d.bitset = true) ∧
      (e.positional = true ↔ ∀ spec ∈ d.members, spec.isNamed = true) ∧
      e.members = d.members.zipIdx.map fun p =>
        { name := p.1.name
          constantName := Name.upperSnake p.1.name
          externalName := Name.lowerHyphen p.1.name
          value := p.1.valueAt p.2 } := by
  refine ⟨?_, ?_⟩
  · constructor
    · rintro ⟨e, h⟩
      exact ((d.resolve_eq_ok_iff e).mp h).1
    · intro valid
      exact ⟨d.enumType, (d.resolve_eq_ok_iff _).mpr ⟨valid, rfl⟩⟩
  · intro e h
    obtain ⟨-, rfl⟩ := (d.resolve_eq_ok_iff e).mp h
    refine ⟨rfl, rfl, ?_, isPositional_iff d, rfl⟩
    cases hb : d.bitset <;> simp [Definition.enumType, representation, hb]

end EnumBindings
