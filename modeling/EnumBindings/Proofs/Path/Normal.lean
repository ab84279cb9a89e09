import EnumBindings.Path.Normal
import EnumBindings.Proofs.Path.Components

/-!
# Normal paths by a stack

A path is made normal step by step, and every step reads the path that was written so far. The same
can be said with a stack of components, of which `..` takes a name away: the path written so far is
the path of the stack (`foldl_follow`). Going through what is left on the stack does to any other
stack what going through all the components does (`foldl_normalComponents`), so a normal path is its
own normal path, and the parts of a path can be made normal first.
-/

namespace EnumBindings.Path

/-! ## The stack -/

/-- What one component does to the components read so far, the last one first. `..` takes a name
away, goes nowhere from the root, and stays where nothing can be taken away. -/
def normalStep (stack : List Component) : Component → List Component
  | .here => stack
  | .up =>
    match stack with
    | .name _ :: rest => rest
    | .root :: rest => .root :: rest
    | other => .up :: other
  | c => c :: stack

/-- The components that are left on the stack, in order. -/
def normalComponents (components : List Component) : List Component :=
  (components.foldl normalStep []).reverse

/-- Going through what is left of some components is going through all of them. -/
theorem foldl_normalComponents (cs stack : List Component) :
    (normalComponents cs).foldl normalStep stack = cs.foldl normalStep stack := by
  induction cs using List.reverseRecOn with
  | nil => rfl
  | append_singleton cs c ih =>
      rw [normalComponents, List.foldl_append, List.foldl_append, List.foldl_cons, List.foldl_nil,
        List.foldl_cons, List.foldl_nil, ← ih, normalComponents]
      cases c with
      | here => rfl
      | root => simp [normalStep]
      | name text => simp [normalStep]
      | up =>
          -- what `..` meets on the small stack, it meets on the large one as well
          rcases cs.foldl normalStep [] with _ | ⟨top, rest⟩
          · rfl
          · cases top <;> simp [normalStep]

/-! ## Writing the stack down -/

/-- Stacks that can be written down. -/
inductive Spells : List Component → Prop
  | nil : Spells []
  | root : Spells [.root]
  | move {c : Component} {stack : List Component} (moves : c.IsMove) (below : Spells stack) :
      Spells (c :: stack)

namespace Spells

variable {stack : List Component}

/-- A lead lies below all moves. -/
theorem exists_lead (h : Spells stack) : ∃ lead steps, lead ≠ Lead.here ∧
    (∀ c ∈ steps, c.IsMove) ∧ stack.reverse = lead.components ++ steps := by
  induction h with
  | nil => exact ⟨.none, [], by decide, List.forall_mem_nil _, rfl⟩
  | root => exact ⟨.root, [], by decide, List.forall_mem_nil _, rfl⟩
  | @move c stack hc _ ih =>
      obtain ⟨lead, steps, written, moves, heq⟩ := ih
      refine ⟨lead, steps ++ [c], written,
        List.forall_mem_append.mpr ⟨moves, List.forall_mem_singleton.mpr hc⟩, ?_⟩
      rw [List.reverse_cons, heq, List.append_assoc]

/-- The path of a stack is read as the stack. -/
theorem components_ofComponents (h : Spells stack) :
    (ofComponents stack.reverse).components = stack.reverse := by
  obtain ⟨lead, steps, written, moves, heq⟩ := h.exists_lead
  rw [heq, Path.components_ofComponents written moves]

/-- Without its last component the path of a stack is that of the stack below. -/
theorem pop_ofComponents (h : Spells stack) {c : Component} (hc : c.IsMove) :
    (ofComponents (c :: stack).reverse).pop = ofComponents stack.reverse := by
  obtain ⟨lead, steps, written, moves, heq⟩ := h.exists_lead
  have hall : ∀ d ∈ steps ++ [c], d.IsMove :=
    List.forall_mem_append.mpr ⟨moves, List.forall_mem_singleton.mpr hc⟩
  rw [List.reverse_cons, heq, List.append_assoc, pop, parent?_ofComponents_concat written hall]
  rfl

theorem normalStep (h : Spells stack) {c : Component} (hc : c.IsMove) :
    Spells (normalStep stack c) := by
  cases hc with
  | name named => exact .move (.name named) h
  | up =>
      cases h with
      | nil => exact .move .up .nil
      | root => exact .root
      | move hd below =>
          cases hd with
          | up => exact .move .up (.move .up below)
          | name named => exact below

/-- One step on the path is one step on the stack. -/
theorem follow_ofComponents (h : Spells stack) {c : Component} (hc : c.IsMove) :
    follow (ofComponents stack.reverse) c = ofComponents (Path.normalStep stack c).reverse := by
  have hjoin : ∀ d : Component, (ofComponents stack.reverse).join ⟨d.bytes⟩ =
      ofComponents (d :: stack).reverse := fun d => by
    rw [List.reverse_cons, ofComponents_concat]
  cases hc with
  | name named => exact hjoin _
  | up =>
      -- the last component that is read is the top of the stack
      rw [follow, h.components_ofComponents, List.getLast?_reverse]
      cases h with
      | nil => exact hjoin .up
      | root => rfl
      | move hd below =>
          cases hd with
          | up => exact hjoin .up
          | name named => exact below.pop_ofComponents (.name named)

end Spells

/-- The path that is written so far is the path of the stack. -/
theorem foldl_follow {steps : List Component} (moves : ∀ c ∈ steps, c.IsMove)
    {stack : List Component} (h : Spells stack) :
    Spells (steps.foldl normalStep stack) ∧
      steps.foldl follow (ofComponents stack.reverse) =
        ofComponents (steps.foldl normalStep stack).reverse := by
  induction steps generalizing stack with
  | nil => exact ⟨h, rfl⟩
  | cons c rest ih =>
      obtain ⟨hc, hrest⟩ := List.forall_mem_cons.mp moves
      rw [List.foldl_cons, List.foldl_cons, h.follow_ofComponents hc]
      exact ih hrest (h.normalStep hc)

/-- The stack behind a lead. -/
def Lead.stack : Lead → List Component
  | root => [.root]
  | here => []
  | none => []

theorem Lead.spells_stack (lead : Lead) : Spells lead.stack := by
  cases lead with
  | root => exact .root
  | here => exact .nil
  | none => exact .nil

theorem stack_splitLead (p : Path) :
    (splitLead p.bytes.toList).1.stack = if p.isAbsolute then [.root] else [] := by
  have habs := isAbsolute_iff p
  cases hlead : (splitLead p.bytes.toList).1 with
  | root => rw [if_pos (habs.mpr hlead)]; rfl
  | here => rw [if_neg (fun h => by rw [habs.mp h] at hlead; cases hlead)]; rfl
  | none => rw [if_neg (fun h => by rw [habs.mp h] at hlead; cases hlead)]; rfl

/-- The stack of a path: its lead decides where its moves begin. -/
theorem foldl_components (p : Path) :
    p.components.foldl normalStep [] =
      ((spoken p.bytes.toList).map componentOf).foldl normalStep
        (splitLead p.bytes.toList).1.stack := by
  rw [components_eq, List.foldl_append]
  cases (splitLead p.bytes.toList).1 <;> rfl

/-- The normal path is the path of the stack, and is read as the stack. -/
theorem normalize_eq (p : Path) :
    p.normalize = ofComponents (normalComponents p.components) ∧
      p.normalize.components = normalComponents p.components := by
  have hlead : (splitLead p.bytes.toList).1.components.foldl follow ⟨""⟩ =
      ofComponents (splitLead p.bytes.toList).1.stack.reverse := by
    cases (splitLead p.bytes.toList).1 <;> rfl
  obtain ⟨hspells, hfold⟩ := foldl_follow (isMove_of_mem_spoken p.bytes.toList)
    (splitLead p.bytes.toList).1.spells_stack
  have hpath : p.normalize = ofComponents (normalComponents p.components) := by
    rw [normalComponents, foldl_components, ← hfold, ← hlead, ← List.foldl_append, ← components_eq]
    rfl
  refine ⟨hpath, ?_⟩
  rw [hpath, normalComponents, foldl_components]
  exact hspells.components_ofComponents

example : normalize ⟨"/project/src/../gen/./a.rs"⟩ = ⟨"/project/gen/a.rs"⟩ := by
  decide

/-- Normal paths with the same components are spelled the same. -/
theorem normalize_eq_iff_components (p q : Path) :
    p.normalize = q.normalize ↔ p.normalize.components = q.normalize.components := by
  constructor
  · intro h
    rw [h]
  · intro h
    rw [p.normalize_eq.2, q.normalize_eq.2] at h
    rw [p.normalize_eq.1, q.normalize_eq.1, h]

/-! ## Normal forms -/

/-- What is left of an absolute path is names. -/
theorem foldl_normalStep_root {steps : List Component} (moves : ∀ c ∈ steps, c.IsMove)
    (names : List String) : ∃ left : List String,
      steps.foldl normalStep (names.map .name ++ [.root]) = left.map .name ++ [.root] := by
  induction steps generalizing names with
  | nil => exact ⟨names, rfl⟩
  | cons c rest ih =>
      obtain ⟨hc, hrest⟩ := List.forall_mem_cons.mp moves
      cases hc with
      | name named => exact ih hrest (_ :: names)
      | up =>
          cases names with
          | nil => exact ih hrest []
          | cons top below => exact ih hrest below

/-- What is left of a relative path is names, below some `..`. -/
theorem foldl_normalStep_ups {steps : List Component} (moves : ∀ c ∈ steps, c.IsMove)
    (names : List String) (ups : Nat) : ∃ (left : List String) (above : Nat),
      steps.foldl normalStep (names.map .name ++ List.replicate ups .up) =
        left.map .name ++ List.replicate above .up := by
  induction steps generalizing names ups with
  | nil => exact ⟨names, ups, rfl⟩
  | cons c rest ih =>
      obtain ⟨hc, hrest⟩ := List.forall_mem_cons.mp moves
      cases hc with
      | name named => exact ih hrest (_ :: names) ups
      | up =>
          cases names with
          | nil =>
              have hup : normalStep (List.replicate ups .up) .up =
                  List.replicate (ups + 1) .up := by
                cases ups <;> rfl
              obtain ⟨left, above, hleft⟩ := ih hrest [] (ups + 1)
              exact ⟨left, above, (congrArg (rest.foldl normalStep) hup).trans hleft⟩
          | cons top below => exact ih hrest below ups

/-- The components of a normal path: names behind a root, or names behind some `..`. -/
inductive NormalForm : Bool → List Component → Prop
  | absolute (names : List String) : NormalForm true (.root :: names.map .name)
  | relative (ups : Nat) (names : List String) :
      NormalForm false (List.replicate ups .up ++ names.map .name)

theorem normalForm_normalComponents (p : Path) :
    NormalForm p.isAbsolute (normalComponents p.components) := by
  have hmoves := isMove_of_mem_spoken p.bytes.toList
  rw [normalComponents, foldl_components]
  by_cases habs : p.isAbsolute = true
  · obtain ⟨left, hleft⟩ := foldl_normalStep_root hmoves []
    have hroot : (splitLead p.bytes.toList).1.stack = [].map Component.name ++ [.root] := by
      rw [stack_splitLead, if_pos habs]
      rfl
    have hreverse : (left.map Component.name ++ [Component.root]).reverse =
        .root :: left.reverse.map .name := by simp
    rw [habs, hroot, hleft, hreverse]
    exact .absolute left.reverse
  · obtain ⟨left, above, hleft⟩ := foldl_normalStep_ups hmoves [] 0
    have hempty : (splitLead p.bytes.toList).1.stack =
        [].map Component.name ++ List.replicate 0 .up := by
      rw [stack_splitLead, if_neg habs]
      rfl
    have hreverse : (left.map Component.name ++ List.replicate above Component.up).reverse =
        List.replicate above .up ++ left.reverse.map .name := by simp
    rw [Bool.eq_false_iff.mpr habs, hempty, hleft, hreverse]
    exact .relative above left.reverse

/-- Only a root makes a path absolute. -/
theorem isAbsolute_iff_head? (p : Path) :
    p.isAbsolute = true ↔ p.components.head? = some .root := by
  rw [isAbsolute_iff, components_eq]
  cases (splitLead p.bytes.toList).1 with
  | root => exact iff_of_true rfl rfl
  | here => exact iff_of_false (by decide) (by simp [Lead.components])
  | none =>
      refine iff_of_false (by decide) fun hroot => ?_
      have hmoves := isMove_of_mem_spoken _ _ (List.mem_of_mem_head? hroot)
      cases hmoves

/-- There is no `.` in a normal path. -/
theorem NormalForm.here_not_mem {absolute : Bool} {cs : List Component}
    (h : NormalForm absolute cs) : .here ∉ cs := by
  cases h <;> simp

theorem NormalForm.head?_eq_root_iff {absolute : Bool} {cs : List Component}
    (h : NormalForm absolute cs) : cs.head? = some .root ↔ absolute = true := by
  cases h with
  | absolute names => exact iff_of_true rfl rfl
  | relative ups names => cases ups <;> cases names <;> simp [List.replicate_succ]

theorem isAbsolute_normalize (p : Path) : p.normalize.isAbsolute = p.isAbsolute := by
  rw [Bool.eq_iff_iff, isAbsolute_iff_head?, p.normalize_eq.2]
  exact (normalForm_normalComponents p).head?_eq_root_iff

/-- A normal path is its own normal path. -/
theorem normalize_normalize (p : Path) : p.normalize.normalize = p.normalize := by
  have hagain := foldl_normalComponents p.components []
  rw [p.normalize.normalize_eq.1, p.normalize_eq.2, normalComponents, hagain, ← normalComponents,
    ← p.normalize_eq.1]

/-! ## Paths below others -/

/-- A relative path goes on from the stack of the path that it is below. -/
theorem foldl_components_join {base p : Path} (relative : p.isAbsolute = false) :
    (base.join p).components.foldl normalStep [] =
      p.components.foldl normalStep (base.components.foldl normalStep []) := by
  have hlead : (splitLead (base.join p).bytes.toList).1.stack =
      (splitLead base.bytes.toList).1.stack := by
    rw [stack_splitLead, stack_splitLead, isAbsolute_join_of_relative relative]
  have hmoves : ∀ stack, p.components.foldl normalStep stack =
      ((spoken p.bytes.toList).map componentOf).foldl normalStep stack := fun stack => by
    have hroot := mt (isAbsolute_iff p).mpr (Bool.eq_false_iff.mp relative)
    rw [components_eq, List.foldl_append]
    cases hp : (splitLead p.bytes.toList).1 with
    | root => exact absurd hp hroot
    | here => rfl
    | none => rfl
  rw [foldl_components, foldl_components base, hlead, spoken_join relative, List.map_append,
    List.foldl_append, hmoves]

/-- The parts of a path can be made normal first. -/
theorem normalize_join (base p : Path) :
    (base.join p).normalize = (base.normalize.join p.normalize).normalize := by
  by_cases habs : p.isAbsolute = true
  · have hjoin : base.join p = p := if_pos habs
    have hnormal : base.normalize.join p.normalize = p.normalize :=
      if_pos (p.isAbsolute_normalize.trans habs)
    rw [hjoin, hnormal, normalize_normalize]
  · have hrelative : p.isAbsolute = false := Bool.eq_false_iff.mpr habs
    have hnormal : p.normalize.isAbsolute = false := p.isAbsolute_normalize.trans hrelative
    rw [(base.join p).normalize_eq.1, (base.normalize.join p.normalize).normalize_eq.1,
      normalComponents, normalComponents, foldl_components_join hrelative,
      foldl_components_join hnormal, base.normalize_eq.2, p.normalize_eq.2,
      foldl_normalComponents, foldl_normalComponents]

end EnumBindings.Path
