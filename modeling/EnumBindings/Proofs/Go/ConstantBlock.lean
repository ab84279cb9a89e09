import EnumBindings.Proofs.Go.Lookup

/-!
# Blocks of constants

A block of constants is read by itself, apart from a file around it, and every constant in it is
given its value: the number of its line where the block counts, else that of its literal. A text can
be written for enum types that no file can hold, such as one named `type`, so blocks are read here
by readers that know some of the keywords only. For the reader that knows them all, this is what the
language makes of the text (`program?_of_constants?`).
-/

namespace EnumBindings.Go

open EnumBindings.Source EnumBindings.Text

/-! ## Reading a block -/

/-- Words that a reader takes for names. -/
def Reserved.isName (r : Reserved) (letters : String) : Bool :=
  letters.toList.head?.any (fun c => !c.isDigit) && !r.words.contains letters

/-- One line of a block, in the shapes of the language. -/
def Reserved.constantSpec? (r : Reserved) : List Tree → Option ConstantSpec
  | [.word name] => if r.isName name then some ⟨name, .none, .none⟩ else .none
  | .word name :: .mark c :: value =>
    if c = '=' && r.isName name then (operand? value).map fun v => ⟨name, .none, some v⟩
    else .none
  | .word name :: .word type :: .mark c :: value =>
    if c = '=' && r.isName name && r.isName type then
      (operand? value).map fun v => ⟨name, some type, some v⟩
    else .none
  | _ => .none

/-- The constants of a text that is one block of them. -/
def Reserved.constants? (r : Reserved) (text : String) : Option (List Constant) := do
  match ← r.statements? text with
  | [[.word keyword, .group .round specs]] =>
    if keyword = "const" then
      return blockConstants .none .none 0 (← (pieces ';' specs).mapM r.constantSpec?)
    else .none
  | _ => .none

/-! ## Blocks of the language -/

theorem Reserved.constantSpec?_all : Reserved.all.constantSpec? = Go.constantSpec? := rfl

/-- A block that is read with all keywords is a program of these constants. -/
theorem program?_of_constants? {text : String} {constants : List Constant}
    (h : Reserved.all.constants? text = some constants) :
    ∃ p, program? text = some p ∧ p.constants = constants := by
  rw [Reserved.constants?, Reserved.statements?_all] at h
  obtain ⟨statements, hstatements, h⟩ := Option.bind_eq_some_iff.mp h
  split at h
  · rename_i keyword content
    split at h
    · rename_i hkeyword
      obtain ⟨specs, hspecs, h⟩ := Option.bind_eq_some_iff.mp h
      cases h
      refine ⟨⟨[.constants specs]⟩, ?_, ?_⟩
      · have hdeclaration : declaration? [.word keyword, .group .round content] =
            some (.constants specs) := by
          rw [Reserved.constantSpec?_all] at hspecs
          simp [declaration?, hkeyword, constDeclaration?, hspecs]
        simp [program?, hstatements, hdeclaration]
      · simp [Program.constants, Declaration.constantValues]
    · cases h
  · cases h

/-! ## Written blocks -/

section Written

variable {r : Reserved} {e : EnumType}

theorem Reserved.isName_of_isIdentifier {x : String} (h : Name.IsIdentifier x)
    (free : x ∉ r.words) : r.isName x = true := by
  obtain ⟨first, rest, heq, hfirst, -⟩ := h
  simp [Reserved.isName, heq, hfirst.isDigit_eq_false, free]

variable (wf : e.WellFormed) (free : ∀ x ∈ declaredNames e, x ∉ r.words)

include wf free

theorem Reserved.isName_of_mem_declaredNames {x : String} (hx : x ∈ declaredNames e) :
    r.isName x = true :=
  Reserved.isName_of_isIdentifier (isIdentifier_of_mem_declaredNames wf x hx) (free x hx)

theorem spelled_of_free : Spelled r e :=
  { spelled_of_wellFormed wf with
    free := fun _ hm => free _ (constantName_mem_declaredNames hm) }

/-- The lines of a written block are read as its specifications, whether they count or give
their values. -/
theorem Reserved.mapM_constantSpec?_specTrees :
    (specTrees e).mapM r.constantSpec? = some (constantSpecs e) := by
  have htype : r.isName e.name = true :=
    Reserved.isName_of_mem_declaredNames wf free (name_mem_declaredNames e)
  have hname : ∀ m ∈ e.members, r.isName (constantName e m) = true := fun m hm =>
    Reserved.isName_of_mem_declaredNames wf free (constantName_mem_declaredNames hm)
  refine mapM_specTrees_of (fun m hm value o hvalue => ?_) (fun m hm => ?_) wf.range
  · simp [Reserved.constantSpec?, htype, hname m hm, hvalue]
  · simp [Reserved.constantSpec?, hname m hm]

/-- A written block gives every constant the value of its member, in the type of the block. -/
theorem Reserved.constants?_constantLines :
    r.constants? (unlines (constantLines e)) = some (e.members.map (memberConstant e)) := by
  have hstatements : r.statements? (unlines (constantLines e)) = some [constantTrees e] :=
    Reserved.statements?_unlines (reads_constantLines (spelled_of_free wf free))
      (List.forall_mem_singleton.mpr (isStatement_constantTrees e))
  have hspecs := Reserved.mapM_constantSpec?_specTrees wf free
  simp [Reserved.constants?, hstatements, constantTrees, pieces_ended (isMark_of_mem_specTrees e),
    hspecs, blockConstants_constantSpecs wf]

end Written

/-- Names that pass the check are free for the language. -/
theorem not_mem_keywords_of_checkNames {e : EnumType} (checked : checkNames [e] = .ok ()) :
    ∀ x ∈ declaredNames e, x ∉ Reserved.all.words := fun x hx hkey =>
  ((checkNames_eq_ok_iff [e]).mp checked).2 x (by simpa using hx) (.inl hkey)

end EnumBindings.Go
