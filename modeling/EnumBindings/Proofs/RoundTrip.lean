import EnumBindings.Proofs.Keyed
import EnumBindings.Proofs.Resolution

/-!
# Stringify and parse

`EnumType.WellFormed` is what resolution establishes of an enum type and what everything
behind it relies on: its names are those derived from the symbolic names, its values fit, and
its members are told apart by each of their keys. Under it a lookup by value and a lookup by
external name find the same member, so stringify and parse undo each other on the members. On
values without a member they do so nowhere, unless a member took the name of those values
(`unknown_never_parses_iff`).
-/

namespace EnumBindings

open Name (IsIdentifier)

/-- The invariant of enum types that came out of resolution. -/
structure EnumType.WellFormed (e : EnumType) : Prop where
  typeName : IsIdentifier e.name
  nonempty : e.members ≠ []
  memberNames : ∀ m ∈ e.members, IsIdentifier m.name
  constantName : ∀ m ∈ e.members, m.constantName = Name.upperSnake m.name
  externalName : ∀ m ∈ e.members, m.externalName = Name.lowerHyphen m.name
  range : ∀ m ∈ e.members, e.representation.contains m.value = true
  externalNames : (e.members.map (·.externalName)).Nodup
  constantNames : (e.members.map (·.constantName)).Nodup
  values : (e.members.map (·.value)).Nodup
  position : e.positional = true →
    e.representation = .i32 ∧ e.members.map (·.value) = (List.range e.count).map Int.ofNat

/-- In a definition of bare names every value is a position. -/
theorem Definition.values_of_named (d : Definition)
    (named : ∀ spec ∈ d.members, spec.isNamed = true) :
    d.values = (List.range d.members.length).map Int.ofNat := by
  have hvalue : ∀ p ∈ d.members.zipIdx, p.1.valueAt p.2 = Int.ofNat p.2 := by
    intro p hp
    have hnamed := (Resolve.forall_mem_zipIdx_fst d.members).mpr named p hp
    cases hspec : p.1 with
    | named name => rfl
    | explicit name value =>
        rw [hspec] at hnamed
        cases hnamed
  have hcomp : (fun p : MemberSpec × Nat => Int.ofNat p.2) = Int.ofNat ∘ Prod.snd := rfl
  rw [Definition.values, List.map_congr_left hvalue, hcomp, ← List.map_map,
    List.zipIdx_map_snd, List.range_eq_range']

/-- Resolution establishes the invariant. -/
theorem Definition.wellFormed_of_resolve {d : Definition} {e : EnumType}
    (resolved : d.resolve = .ok e) : e.WellFormed := by
  obtain ⟨valid, rfl⟩ := (d.resolve_eq_ok_iff e).mp resolved
  obtain ⟨-, -, accepted, apart⟩ := d.valid_iff.mp valid
  obtain ⟨external, constant, value⟩ := (Resolve.pairwise_apart_iff _).mp apart
  have hmember : ∀ m ∈ d.enumType.members, ∃ p ∈ d.members.zipIdx, m = p.1.memberAt p.2 := by
    intro m hm
    obtain ⟨p, hp, rfl⟩ := List.mem_map.mp hm
    exact ⟨p, hp, rfl⟩
  refine ⟨valid.typeName, ?_, ?_, ?_, ?_, ?_, external, constant, value, ?_⟩
  · simpa [Definition.enumType] using valid.nonempty
  · intro m hm
    obtain ⟨p, hp, rfl⟩ := hmember m hm
    exact (accepted p hp).name
  · intro m hm
    obtain ⟨p, hp, rfl⟩ := hmember m hm
    rfl
  · intro m hm
    obtain ⟨p, hp, rfl⟩ := hmember m hm
    rfl
  · intro m hm
    obtain ⟨p, hp, rfl⟩ := hmember m hm
    exact (accepted p hp).range
  · intro hpos
    have named := (Resolve.isPositional_iff d).mp hpos
    refine ⟨?_, ?_⟩
    -- there is a member, and being a bare name it excludes flag sets
    · obtain ⟨spec, hspec⟩ := List.exists_mem_of_ne_nil _ valid.nonempty
      have hform := (Resolve.form_iff d).mpr valid.form spec hspec (named spec hspec)
      simp [Definition.enumType, Resolve.representation, hform.1]
    · rw [d.values_enumType, d.values_of_named named]
      simp [Definition.enumType, EnumType.count]

namespace EnumType

/-! ## Lookups -/

theorem stringify_of_mem {e : EnumType} (wf : e.WellFormed) {m : Member}
    (member : m ∈ e.members) : e.stringify m.value = m.externalName := by
  rw [stringify, Keyed.find?_eq_some (·.value) wf.values member]

theorem parse_of_mem {e : EnumType} (wf : e.WellFormed) {m : Member}
    (member : m ∈ e.members) : e.parse m.externalName = .ok m.value := by
  rw [parse, Keyed.find?_eq_some (·.externalName) wf.externalNames member]

/-- A text is parsed to a value when a member has both. -/
theorem parse_eq_ok_iff {e : EnumType} (wf : e.WellFormed) (s : String) (v : Int) :
    e.parse s = .ok v ↔ ∃ m ∈ e.members, m.externalName = s ∧ m.value = v := by
  constructor
  · intro h
    unfold parse at h
    split at h
    · rename_i m hfind
      cases h
      exact ⟨m, List.mem_of_find?_eq_some hfind, by simpa using List.find?_some hfind, rfl⟩
    · cases h
  · rintro ⟨m, hm, rfl, rfl⟩
    exact parse_of_mem wf hm

theorem parse_of_not_mem {e : EnumType} {s : String}
    (undeclared : s ∉ e.members.map (·.externalName)) :
    e.parse s = .error { typeName := e.name, value := s } := by
  have hnone : e.members.find? (·.externalName == s) = none := by
    rw [List.find?_eq_none]
    intro m hm heq
    exact undeclared (List.mem_map.mpr ⟨m, hm, eq_of_beq heq⟩)
  rw [parse, hnone]

/-- A text is refused, with the enum type's name, when no member has it as its external name. -/
theorem parse_eq_error_iff {e : EnumType} (wf : e.WellFormed) (s : String) :
    e.parse s = .error { typeName := e.name, value := s } ↔
      s ∉ e.members.map (·.externalName) := by
  constructor
  · intro hrefused hmem
    obtain ⟨m, hm, rfl⟩ := List.mem_map.mp hmem
    rw [parse_of_mem wf hm] at hrefused
    cases hrefused
  · exact parse_of_not_mem

theorem stringify_of_not_mem {e : EnumType} {v : Int}
    (undeclared : v ∉ e.members.map (·.value)) : e.stringify v = unknownName := by
  have hnone : e.members.find? (·.value == v) = none := by
    rw [List.find?_eq_none]
    intro m hm heq
    exact undeclared (List.mem_map.mpr ⟨m, hm, eq_of_beq heq⟩)
  rw [stringify, hnone]

end EnumType

/-- On the enum type of an accepted definition stringify and parse are inverse to each other:
every member survives the way out and back, every text that parses is the lower-hyphen name of
the one member with its value, and every other text gives the failure with the enum type's
name and the text. -/
theorem stringify_parse_inverse {d : Definition} {e : EnumType} (resolved : d.resolve = .ok e) :
    (∀ m ∈ e.members, e.stringify m.value = m.externalName ∧
      e.parse (e.stringify m.value) = .ok m.value) ∧
    (∀ s v, e.parse s = .ok v →
      ∃ m, e.members.filter (·.value == v) = [m] ∧ s = Name.lowerHyphen m.name ∧
        e.stringify v = s) ∧
    (∀ s, s ∉ e.members.map (·.externalName) →
      e.parse s = .error { typeName := e.name, value := s }) := by
  have wf := Definition.wellFormed_of_resolve resolved
  refine ⟨?_, ?_, fun s => EnumType.parse_of_not_mem⟩
  · intro m hm
    rw [EnumType.stringify_of_mem wf hm]
    exact ⟨rfl, EnumType.parse_of_mem wf hm⟩
  · intro s v hparse
    obtain ⟨m, hm, rfl, rfl⟩ := (EnumType.parse_eq_ok_iff wf s v).mp hparse
    exact ⟨m, Keyed.filter_eq_singleton (·.value) wf.values hm, wf.externalName m hm,
      EnumType.stringify_of_mem wf hm⟩

/-- The laws where a member has the name that values without a member get. -/
theorem stringify_parse_inverse_level :
    ∃ e, (Definition.mk "Level" [.explicit "Low" (-1), .explicit "Unknown" 10] false
        false).resolve = .ok e ∧
      e.stringify (-1) = "low" ∧ e.parse (e.stringify 10) = .ok 10 ∧
      e.members.filter (·.value == 10) = [⟨"Unknown", "UNKNOWN", "unknown", 10⟩] ∧
      e.parse "Low" = .error { typeName := "Level", value := "Low" } := by
  have resolved : (Definition.mk "Level" [.explicit "Low" (-1), .explicit "Unknown" 10] false
      false).resolve = .ok ⟨"Level", .i32, false, false,
        [⟨"Low", "LOW", "low", -1⟩, ⟨"Unknown", "UNKNOWN", "unknown", 10⟩]⟩ := by decide
  obtain ⟨members, -, others⟩ := stringify_parse_inverse resolved
  have low := members ⟨"Low", "LOW", "low", -1⟩ (by decide)
  have unknown := members ⟨"Unknown", "UNKNOWN", "unknown", 10⟩ (by decide)
  refine ⟨_, resolved, low.1, unknown.2, by decide, others "Low" (by decide)⟩

/-! ## Values without a member -/

/-- No member has the external name that values without a member get. -/
def Definition.SparesUnknown (d : Definition) : Prop :=
  ∀ spec ∈ d.members, Name.lowerHyphen spec.name ≠ EnumType.unknownName

theorem Definition.sparesUnknown_iff {d : Definition} {e : EnumType}
    (resolved : d.resolve = .ok e) :
    d.SparesUnknown ↔ EnumType.unknownName ∉ e.members.map (·.externalName) := by
  obtain ⟨-, rfl⟩ := (d.resolve_eq_ok_iff e).mp resolved
  rw [d.map_enumType_members (·.externalName) (fun spec => Name.lowerHyphen spec.name)
    fun _ _ => rfl]
  simp [SparesUnknown]

/-- A value without a member is refused on its way back exactly where no member has the name
that it was given, and exactly there that name tells values without a member from the others.
Where a member has the name, every value without a member comes back as the value of that
member. -/
theorem unknown_never_parses_iff {d : Definition} {e : EnumType} (resolved : d.resolve = .ok e) :
    (∀ v, v ∉ e.members.map (·.value) →
      (e.parse (e.stringify v) = .error ⟨e.name, EnumType.unknownName⟩ ↔ d.SparesUnknown)) ∧
    ((∀ v, e.stringify v = EnumType.unknownName ↔ v ∉ e.members.map (·.value)) ↔
      d.SparesUnknown) ∧
    ∀ m ∈ e.members, m.externalName = EnumType.unknownName →
      ∀ v, v ∉ e.members.map (·.value) → e.parse (e.stringify v) = .ok m.value := by
  have wf := Definition.wellFormed_of_resolve resolved
  have hspares := Definition.sparesUnknown_iff resolved
  refine ⟨?_, ?_, ?_⟩
  · intro v hv
    rw [EnumType.stringify_of_not_mem hv, EnumType.parse_eq_error_iff wf, hspares]
  · rw [hspares]
    constructor
    · intro htells hmem
      obtain ⟨m, hm, hname⟩ := List.mem_map.mp hmem
      -- the member with the name is declared although it is shown as a value that is not
      have hshown : e.stringify m.value = EnumType.unknownName := by
        rw [EnumType.stringify_of_mem wf hm, hname]
      exact (htells m.value).mp hshown (List.mem_map_of_mem hm)
    · intro hfree v
      constructor
      · intro hshown hmem
        obtain ⟨m, hm, rfl⟩ := List.mem_map.mp hmem
        rw [EnumType.stringify_of_mem wf hm] at hshown
        exact hfree (List.mem_map.mpr ⟨m, hm, hshown⟩)
      · exact EnumType.stringify_of_not_mem
  · intro m hm hname v hv
    rw [EnumType.stringify_of_not_mem hv, ← hname]
    exact EnumType.parse_of_mem wf hm

/-- A flag combination without a member, in a flag set whose members leave the name free. -/
theorem unknown_never_parses_access :
    ∃ e, (Definition.mk "Access" [.explicit "Read" 1, .explicit "Write" 2147483648] true
        false).resolve = .ok e ∧
      (Definition.mk "Access" [.explicit "Read" 1, .explicit "Write" 2147483648] true
        false).SparesUnknown ∧
      e.stringify 3 = "unknown" ∧ e.parse (e.stringify 3) = .error ⟨"Access", "unknown"⟩ := by
  have resolved : (Definition.mk "Access" [.explicit "Read" 1, .explicit "Write" 2147483648] true
      false).resolve = .ok ⟨"Access", .u32, false, false,
        [⟨"Read", "READ", "read", 1⟩, ⟨"Write", "WRITE", "write", 2147483648⟩]⟩ := by decide
  have spares := (Definition.sparesUnknown_iff resolved).mpr (by decide)
  obtain ⟨refused, tells, -⟩ := unknown_never_parses_iff resolved
  exact ⟨_, resolved, spares, (tells.mpr spares 3).mpr (by decide),
    (refused 3 (by decide)).mpr spares⟩

/-- A definition is accepted in which a value without a member comes back as a member. -/
theorem unknown_parses_as_member :
    ∃ e, (Definition.mk "Level" [.named "Low", .named "Unknown"] false false).resolve = .ok e ∧
      7 ∉ e.members.map (·.value) ∧ e.parse (e.stringify 7) = .ok 1 := by
  refine ⟨⟨"Level", .i32, false, true,
    [⟨"Low", "LOW", "low", 0⟩, ⟨"Unknown", "UNKNOWN", "unknown", 1⟩]⟩, ?_, ?_, ?_⟩
  · decide
  · decide
  · rfl

end EnumBindings
