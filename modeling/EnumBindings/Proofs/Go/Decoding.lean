import EnumBindings.Proofs.Alike
import EnumBindings.Proofs.Go.Lookup

/-!
# Enum types from a Go file

The declarations of an enum type tell everything about it (`eq_of_enumDeclarations`): the type
declaration its name and its representation, the block of constants the symbolic names and the
values and whether these were numbered, and the array behind the functions that constants are
preserved. The rendered names follow from the symbolic ones.

A file is a list of such blocks, each opened by its type declaration, so two files with one text
have the same enum types (`enums_eq_of_text_eq`).
-/

namespace EnumBindings.Go

open EnumBindings.Source EnumBindings.Text

/-- Enum types open with the declaration of their type. -/
def opensBlock : Declaration → Bool
  | .defined _ _ => true
  | _ => false

/-- A block with its parts side by side. -/
theorem enumDeclarations_eq (e : EnumType) :
    enumDeclarations e = .defined e.name (integerType e.representation)
      :: .constants (constantSpecs e) :: (countDeclarations e
        ++ .function (stringFunction e) :: .function (parseFunction e)
          :: keepAliveDeclarations e) :=
  rfl

theorem opened_enumDeclarations (e : EnumType) : Opened opensBlock (enumDeclarations e) := by
  have hcount : ∀ d ∈ countDeclarations e, opensBlock d = false := by
    unfold countDeclarations
    split
    · simp
    · simp [opensBlock]
  have hkeepAlive : ∀ d ∈ keepAliveDeclarations e, opensBlock d = false := by
    unfold keepAliveDeclarations
    split
    · simp [opensBlock]
    · simp
  refine ⟨_, _, enumDeclarations_eq e, rfl, ?_⟩
  refine List.forall_mem_cons.mpr ⟨rfl, ?_⟩
  refine List.forall_mem_append.mpr ⟨hcount, ?_⟩
  exact List.forall_mem_cons.mpr ⟨rfl, List.forall_mem_cons.mpr ⟨rfl, hkeepAlive⟩⟩

theorem integerType_injective : Function.Injective integerType := by
  intro r r' h
  cases r <;> cases r' <;> first | rfl | exact absurd h (by decide)

section Blocks

variable {e e' : EnumType}

theorem length_countDeclarations (h : e.representation = e'.representation) :
    (countDeclarations e).length = (countDeclarations e').length := by
  unfold countDeclarations EnumType.isBitset
  rw [h]
  split <;> rfl

theorem preserve_of_keepAliveDeclarations
    (h : keepAliveDeclarations e = keepAliveDeclarations e') : e.preserve = e'.preserve := by
  unfold keepAliveDeclarations at h
  cases hpreserve : e.preserve <;> cases hpreserve' : e'.preserve
  · rfl
  · simp [hpreserve, hpreserve'] at h
  · simp [hpreserve, hpreserve'] at h
  · rfl

/-- The parts of a block that tell something. -/
theorem parts_of_enumDeclarations (h : enumDeclarations e = enumDeclarations e') :
    e.name = e'.name ∧ e.representation = e'.representation ∧
      constantSpecs e = constantSpecs e' ∧ e.preserve = e'.preserve := by
  rw [enumDeclarations_eq, enumDeclarations_eq] at h
  obtain ⟨htype, h⟩ := List.cons.inj h
  obtain ⟨hconstants, h⟩ := List.cons.inj h
  obtain ⟨hname, hinteger⟩ := Declaration.defined.inj htype
  have hrepresentation := integerType_injective hinteger
  -- both blocks declare a count or neither does, so the rest stands side by side
  obtain ⟨-, h⟩ := List.append_inj h (length_countDeclarations hrepresentation)
  obtain ⟨-, h⟩ := List.cons.inj h
  obtain ⟨-, h⟩ := List.cons.inj h
  exact ⟨hname, hrepresentation, Declaration.constants.inj hconstants,
    preserve_of_keepAliveDeclarations h⟩

/-- The first constant of an enum type says whether its constants are numbered. -/
theorem head?_constantSpecs (wf : e.WellFormed) :
    ∃ spec, (constantSpecs e).head? = some spec ∧
      (spec.value = some (.name "iota") ↔ e.positional = true) := by
  obtain ⟨first, rest, hmembers⟩ := List.exists_cons_of_ne_nil wf.nonempty
  unfold constantSpecs
  cases hpos : e.positional with
  | true =>
      rw [if_pos rfl, positionalSpecs, hmembers]
      exact ⟨_, rfl, by simp⟩
  | false =>
      rw [if_neg Bool.false_ne_true, explicitSpecs, hmembers]
      exact ⟨_, rfl, by simp⟩

theorem positional_of_constantSpecs (wf : e.WellFormed) (wf' : e'.WellFormed)
    (h : constantSpecs e = constantSpecs e') : e.positional = e'.positional := by
  obtain ⟨spec, hspec, hiota⟩ := head?_constantSpecs wf
  obtain ⟨spec', hspec', hiota'⟩ := head?_constantSpecs wf'
  rw [h, hspec'] at hspec
  cases hspec
  rw [Bool.eq_iff_iff, ← hiota, ← hiota']

/-- The constants of a type of some name tell its members. -/
theorem members_of_constantSpecs (wf : e.WellFormed) (wf' : e'.WellFormed)
    (hname : e.name = e'.name) (h : constantSpecs e = constantSpecs e') :
    e.members = e'.members := by
  have hconstants : List.Forall₂ (fun m m' => memberConstant e m = memberConstant e' m')
      e.members e'.members := by
    apply forall₂_of_map_eq
    rw [← blockConstants_constantSpecs wf, ← blockConstants_constantSpecs wf', h]
  refine eq_of_forall₂ hconstants fun m hm m' hm' hconstant => ?_
  -- in a constant the symbolic name stands behind the name of the type
  have hsymbol : m.name = m'.name := by
    have hjoined : e.name ++ m.name = e'.name ++ m'.name := congrArg Constant.name hconstant
    rw [hname] at hjoined
    exact (String.append_right_inj _).mp hjoined
  have hconstantName : m.constantName = m'.constantName := by
    rw [wf.constantName m hm, wf'.constantName m' hm', hsymbol]
  have hexternalName : m.externalName = m'.externalName := by
    rw [wf.externalName m hm, wf'.externalName m' hm', hsymbol]
  have hvalue : m.value = m'.value := congrArg Constant.value hconstant
  cases m
  cases m'
  rw [Member.mk.injEq]
  exact ⟨hsymbol, hconstantName, hexternalName, hvalue⟩

/-- The declarations of an enum type tell which one it is. -/
theorem eq_of_enumDeclarations (wf : e.WellFormed) (wf' : e'.WellFormed)
    (h : enumDeclarations e = enumDeclarations e') : e = e' := by
  obtain ⟨hname, hrepresentation, hspecs, hpreserve⟩ := parts_of_enumDeclarations h
  have hpositional := positional_of_constantSpecs wf wf' hspecs
  have hmembers := members_of_constantSpecs wf wf' hname hspecs
  cases e
  cases e'
  rw [EnumType.mk.injEq]
  exact ⟨hname, hrepresentation, hpreserve, hpositional, hmembers⟩

end Blocks

/-- Files of one package under one header have the same text only for the same enum types. -/
theorem enums_eq_of_text_eq {table table' : EnumTable} {package : String} {header : Header}
    {artifact artifact' : Artifact} (accepted : table.generate (.go package) header = .ok artifact)
    (accepted' : table'.generate (.go package) header = .ok artifact')
    (same : artifact.text = artifact'.text) : artifact.enums = artifact'.enums := by
  have hbody : unlines (bodyLines artifact.enums) = unlines (bodyLines artifact'.enums) := by
    rw [text_of_generate accepted, text_of_generate accepted'] at same
    exact (String.append_right_inj _).mp same
  have hprogram : program artifact.enums = program artifact'.enums := by
    have hread := program?_of_generate accepted
    rw [hbody, program?_of_generate accepted'] at hread
    exact (Option.some.inj hread).symm
  have hblocks := forall₂_of_flatMap_eq opened_enumDeclarations
    (List.append_cancel_left (congrArg Program.declarations hprogram))
  refine eq_of_forall₂ hblocks fun e he e' he' hblock => ?_
  have wf : e.WellFormed := (compatible_of_generate accepted).wellFormed e he
  have wf' : e'.WellFormed := (compatible_of_generate accepted').wellFormed e' he'
  exact eq_of_enumDeclarations wf wf' hblock

end EnumBindings.Go
