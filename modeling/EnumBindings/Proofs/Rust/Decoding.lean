import EnumBindings.Proofs.Alike
import EnumBindings.Proofs.Rust.Lookup

/-!
# Enum types from a Rust module

The items of an enum type tell what it looks like (`alike_of_enumItems`): the tuple structure its
name and its representation, the associated constants their names and values, `from_str` the
external names, and the keep-alive static that constants are preserved. No item holds a symbolic
name or whether values were numbered.

A module is a list of such blocks, each opened by its tuple structure.
-/

namespace EnumBindings.Rust

open EnumBindings.Source EnumBindings.Text

/-- Enum types open with the structure around their integer. -/
def opensBlock (i : Item) : Bool :=
  match i.kind with
  | .tuple _ _ => true
  | _ => false

/-- A block with its parts side by side. -/
theorem enumItems_eq (e : EnumType) :
    enumItems e = tupleItem e :: ⟨[], .implementation none e.name (inherentItems e)⟩
      :: displayItem e.name (.invoke "f" "write_str" (.method "self" "as_str"))
      :: ⟨[], .implementation (some ["FromStr"]) e.name (parseItems e)⟩
      :: (operationsItems e ++ keepAliveItems e) :=
  rfl

theorem opened_enumItems (e : EnumType) : Opened opensBlock (enumItems e) := by
  have hoperations : ∀ i ∈ operationsItems e, opensBlock i = false := by
    unfold operationsItems
    split
    · simp [opensBlock]
    · simp
  have hkeepAlive : ∀ i ∈ keepAliveItems e, opensBlock i = false := by
    unfold keepAliveItems
    split
    · simp [opensBlock]
    · simp
  refine ⟨_, _, enumItems_eq e, rfl, ?_⟩
  refine List.forall_mem_cons.mpr ⟨rfl, List.forall_mem_cons.mpr ⟨rfl, ?_⟩⟩
  refine List.forall_mem_cons.mpr ⟨rfl, ?_⟩
  exact List.forall_mem_append.mpr ⟨hoperations, hkeepAlive⟩

theorem integerType_injective : Function.Injective integerType := by
  intro r r' h
  cases r <;> cases r' <;> first | rfl | exact absurd h (by decide)

section Blocks

variable {e e' : EnumType}

theorem length_operationsItems (h : e.representation = e'.representation) :
    (operationsItems e).length = (operationsItems e').length := by
  unfold operationsItems EnumType.isBitset
  rw [h]
  split <;> rfl

theorem preserve_of_keepAliveItems (h : keepAliveItems e = keepAliveItems e') :
    e.preserve = e'.preserve := by
  unfold keepAliveItems at h
  cases hpreserve : e.preserve <;> cases hpreserve' : e'.preserve
  · rfl
  · simp [hpreserve, hpreserve'] at h
  · simp [hpreserve, hpreserve'] at h
  · rfl

/-- The parts of a block that tell something. -/
theorem parts_of_enumItems (h : enumItems e = enumItems e') :
    e.name = e'.name ∧ e.representation = e'.representation ∧
      inherentItems e = inherentItems e' ∧ parseItems e = parseItems e' ∧
      e.preserve = e'.preserve := by
  rw [enumItems_eq, enumItems_eq] at h
  obtain ⟨htuple, h⟩ := List.cons.inj h
  obtain ⟨hinherent, h⟩ := List.cons.inj h
  obtain ⟨-, h⟩ := List.cons.inj h
  obtain ⟨hparse, h⟩ := List.cons.inj h
  obtain ⟨hname, hinteger⟩ := Kind.tuple.inj (congrArg Item.kind htuple)
  have hrepresentation := integerType_injective hinteger
  -- both blocks have operations or neither does, so the statics stand side by side
  obtain ⟨-, h⟩ := List.append_inj h (length_operationsItems hrepresentation)
  obtain ⟨-, -, hinherent⟩ := Kind.implementation.inj (congrArg Item.kind hinherent)
  obtain ⟨-, -, hparse⟩ := Kind.implementation.inj (congrArg Item.kind hparse)
  exact ⟨hname, hrepresentation, hinherent, hparse, preserve_of_keepAliveItems h⟩

/-- The associated constants, which stand before three functions. -/
theorem constants_of_inherentItems (h : inherentItems e = inherentItems e') :
    List.Forall₂ (fun m m' => m.constantName = m'.constantName ∧ m.value = m'.value)
      e.members e'.members := by
  have hconstants := (List.append_inj' h rfl).1
  refine (forall₂_of_map_eq hconstants).imp fun m m' hconstant => ?_
  obtain ⟨hname, -, hvalue⟩ := Associated.constant.inj hconstant
  obtain ⟨-, hnumber⟩ := Expression.call.inj hvalue
  exact ⟨hname, Operand.number.inj hnumber⟩

/-- The arms of `from_str`. -/
theorem externalNames_of_parseItems (h : parseItems e = parseItems e') :
    List.Forall₂ (fun m m' => m.externalName = m'.externalName) e.members e'.members := by
  obtain ⟨hfunction, -⟩ := List.cons.inj (List.cons.inj h).2
  have hbody := congrArg Function.body (Associated.function.inj hfunction)
  obtain ⟨-, harms, -⟩ := Body.choice.inj hbody
  refine (forall₂_of_map_eq harms).imp fun m m' harm => ?_
  exact Pattern.text.inj (Prod.mk.inj harm).1

/-- The items of an enum type tell what it looks like. -/
theorem alike_of_enumItems (h : enumItems e = enumItems e') : e.Alike e' := by
  obtain ⟨hname, hrepresentation, hinherent, hparse, hpreserve⟩ := parts_of_enumItems h
  have hconstants := constants_of_inherentItems hinherent
  have hexternal := externalNames_of_parseItems hparse
  refine ⟨hname, hrepresentation, hpreserve, ?_⟩
  rw [List.forall₂_iff_zip] at hconstants hexternal ⊢
  refine ⟨hconstants.1, fun {m m'} hpair => ?_⟩
  obtain ⟨hconstantName, hvalue⟩ := hconstants.2 hpair
  exact ⟨hconstantName, hexternal.2 hpair, hvalue⟩

end Blocks

/-- Modules under one header have the same text only for enum types that look alike. -/
theorem alike_of_text_eq {table table' : EnumTable} {header : Header}
    {artifact artifact' : Artifact} (accepted : table.generate .rust header = .ok artifact)
    (accepted' : table'.generate .rust header = .ok artifact')
    (same : artifact.text = artifact'.text) :
    List.Forall₂ EnumType.Alike artifact.enums artifact'.enums := by
  have hbody : unlines (bodyLines artifact.enums) = unlines (bodyLines artifact'.enums) := by
    rw [text_of_generate accepted, text_of_generate accepted'] at same
    exact (String.append_right_inj _).mp same
  have hmodule : module artifact.enums = module artifact'.enums := by
    have hread := module?_of_generate accepted
    rw [hbody, module?_of_generate accepted'] at hread
    exact (Option.some.inj hread).symm
  have hblocks := forall₂_of_flatMap_eq opened_enumItems
    (List.append_cancel_left (congrArg Module.items hmodule))
  exact hblocks.imp fun e e' => alike_of_enumItems

end EnumBindings.Rust
