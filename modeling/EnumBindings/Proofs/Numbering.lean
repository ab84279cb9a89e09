import EnumBindings.Artifact
import EnumBindings.Proofs.Go.ConstantBlock

/-!
# Numbering by position

A member that is a bare name is numbered by its position. A definition that gives every member the
number of its position says the same in other words: both are refused for one reason, or describe
enum types that differ in the `positional` flag alone (`resolve_numbered`). Only the block of
constants in Go is written differently for the flag, and it gives every constant the same value
(`positions_number_members`).
-/

namespace EnumBindings

open EnumBindings.Text

/-! ## The two definitions -/

/-- Members that are bare names. -/
def MemberSpec.bare (names : List String) : List MemberSpec := names.map .named

/-- Members that have their positions as values, from a position on. -/
def MemberSpec.numbered (index : Nat) (names : List String) : List MemberSpec :=
  (names.zipIdx index).map fun p => .explicit p.1 p.2

/-- The definition that lists bare names. -/
def Definition.bare (name : String) (preserve : Bool) (names : List String) : Definition :=
  ⟨name, MemberSpec.bare names, false, preserve⟩

/-- The definition that gives the member at position `i` the value `i`. -/
def Definition.numbered (name : String) (preserve : Bool) (names : List String) : Definition :=
  ⟨name, MemberSpec.numbered 0 names, false, preserve⟩

namespace Resolve

theorem isPositional_bare (name : String) (preserve : Bool) (names : List String) :
    isPositional (.bare name preserve names) = true :=
  (isPositional_iff _).mpr (List.forall_mem_map.mpr fun _ _ => rfl)

/-! ## Resolving both -/

section Both

variable (d d' : Definition) (name : d'.name = d.name) (sequential : d.bitset = false)
  (sequential' : d'.bitset = false) (positional : isPositional d = true)
  (explicit : isPositional d' = false)

include name sequential sequential' positional explicit

/-- A bare name passes the checks of a member exactly as it does with its position for a value. -/
theorem member_explicit_eq (x : String) (index : Nat) :
    member d' (.explicit x index) index = member d (.named x) index := by
  have hvalue : memberValue d index (.named x) = .ok index := by
    simp [memberValue, sequential, positional]
  have hrepresentation : representation d' = representation d := by
    rw [representation, representation, sequential, sequential']
  have hvalue' : memberValue d' index (.explicit x index) = .ok index := by
    simp [memberValue, explicit]
  simp only [member, MemberSpec.name, hvalue, hvalue', hrepresentation, name]

/-- So the two traversals find the same first fault, or the same members. -/
theorem membersFrom_numbered (names : List String) (index : Nat) :
    membersFrom d' index (MemberSpec.numbered index names) =
      membersFrom d index (MemberSpec.bare names) := by
  induction names generalizing index with
  | nil => rfl
  | cons x rest ih =>
      have hfirst := member_explicit_eq d d' name sequential sequential' positional explicit x index
      have hnumbered : MemberSpec.numbered index (x :: rest) =
          .explicit x index :: MemberSpec.numbered (index + 1) rest := rfl
      have hbare : MemberSpec.bare (x :: rest) = .named x :: MemberSpec.bare rest := rfl
      rw [hnumbered, hbare, membersFrom, membersFrom, hfirst, ih (index + 1)]

end Both

end Resolve

/-- The numbered definition resolves as the bare one, but for the flag. -/
theorem Definition.resolve_numbered (name : String) (preserve : Bool) (names : List String) :
    (numbered name preserve names).resolve =
      (bare name preserve names).resolve.map fun e => { e with positional := false } := by
  have hmembers : Resolve.membersFrom (numbered name preserve names) 0
      (numbered name preserve names).members =
        Resolve.membersFrom (bare name preserve names) 0 (bare name preserve names).members := by
    cases names with
    | nil => rfl
    | cons x rest =>
      exact Resolve.membersFrom_numbered (bare name preserve (x :: rest))
        (numbered name preserve (x :: rest)) rfl rfl rfl (Resolve.isPositional_bare ..) rfl
        (x :: rest) 0
  have hname : (numbered name preserve names).name = (bare name preserve names).name := rfl
  unfold Definition.resolve
  rw [hname, hmembers]
  cases Resolve.checkIdentifier (bare name preserve names).name (bare name preserve names).name with
  | error e => rfl
  | ok _ =>
    cases names with
    | nil => rfl
    | cons x rest =>
      cases Resolve.membersFrom (bare name preserve (x :: rest)) 0
          (bare name preserve (x :: rest)).members with
      | error e => rfl
      | ok members =>
        cases hunique : Resolve.checkUnique (bare name preserve (x :: rest)).name [] members <;>
          simp only [bind, Except.bind, hunique] <;> rfl

/-! ## Use of the enum types -/

/-- Two enum types whose generated code works alike. -/
structure Interchangeable (e e' : EnumType) : Prop where
  stringify : ∀ v, e'.stringify v = e.stringify v
  parse : ∀ s, e'.parse s = e.parse s
  rust : unlines (Rust.enumLines e') = unlines (Rust.enumLines e)
  /-- Among any other enum types the check of Go names says the same about both. -/
  checked : ∀ before after : List EnumType,
    Go.checkNames (before ++ e' :: after) = Go.checkNames (before ++ e :: after)
  /-- Both blocks of constants, read line by line, have the constants of the members. -/
  constants : ∀ block ∈ [e, e'],
    Go.Reserved.none.constants? (unlines (Go.constantLines block)) =
      some (e.members.map fun m => ⟨Go.constantName e m, some e.name, m.value⟩)
  /-- Where the names pass the check, both blocks are programs of these constants. -/
  program : Go.checkNames [e] = .ok () → ∀ block ∈ [e, e'],
    ∃ p, Go.program? (unlines (Go.constantLines block)) = some p ∧
      p.constants = e.members.map fun m => ⟨Go.constantName e m, some e.name, m.value⟩

theorem interchangeable_of_wellFormed {e e' : EnumType} (wf : e.WellFormed) (wf' : e'.WellFormed)
    (flag : ∃ positional, e' = { e with positional := positional }) : Interchangeable e e' := by
  obtain ⟨positional, rfl⟩ := flag
  have hread : ∀ (r : Go.Reserved), (∀ x ∈ Go.declaredNames e, x ∉ r.words) →
      ∀ block ∈ [e, { e with positional := positional }],
        r.constants? (unlines (Go.constantLines block)) =
          some (e.members.map (Go.memberConstant e)) := by
    intro r free
    have hfirst := Go.Reserved.constants?_constantLines wf free
    have hsecond := Go.Reserved.constants?_constantLines wf' free
    exact List.forall_mem_cons.mpr ⟨hfirst, List.forall_mem_singleton.mpr hsecond⟩
  exact {
    stringify := fun _ => rfl
    parse := fun _ => rfl
    rust := rfl
    checked := fun before after => by
      simp only [Go.checkNames, List.flatMap_append, List.flatMap_cons]
      rfl
    constants := hread .none fun _ _ => List.not_mem_nil
    program := fun checked block hblock => Go.program?_of_constants?
      (hread .all (Go.not_mem_keywords_of_checkNames checked) block hblock) }

/-- Bare names and names with their positions for values are refused alike, or describe enum types
that differ in nothing but the `positional` flag and are used alike: the functions answer the same,
the Rust text is the same, Go names are checked the same among any others, and the two Go blocks
of constants, one that counts and one with a literal on each line, give equal values. -/
theorem positions_number_members (name : String) (preserve : Bool) (names : List String) :
    (∃ error, (Definition.bare name preserve names).resolve = .error error ∧
      (Definition.numbered name preserve names).resolve = .error error) ∨
    ∃ e, (Definition.bare name preserve names).resolve = .ok e ∧ e.positional = true ∧
      (Definition.numbered name preserve names).resolve = .ok { e with positional := false } ∧
      Interchangeable e { e with positional := false } := by
  have hnumbered := Definition.resolve_numbered name preserve names
  cases hbare : (Definition.bare name preserve names).resolve with
  | error error =>
      rw [hbare] at hnumbered
      exact .inl ⟨error, rfl, hnumbered⟩
  | ok e =>
      rw [hbare] at hnumbered
      obtain ⟨-, rfl⟩ := (Definition.resolve_eq_ok_iff ..).mp hbare
      exact .inr ⟨_, rfl, Resolve.isPositional_bare name preserve names, hnumbered,
        interchangeable_of_wellFormed (Definition.wellFormed_of_resolve hbare)
          (Definition.wellFormed_of_resolve hnumbered) ⟨false, rfl⟩⟩

end EnumBindings
