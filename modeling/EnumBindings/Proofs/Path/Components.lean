import EnumBindings.Proofs.Path.Moves

/-!
# Paths that are made of components

A path is put together from components by writing them down one behind the other, and taken apart
by reading its text. Where the components are those of some path, both undo each other: the path is
read as its components (`components_ofComponents`), and without the last of them it is the path of
the others (`parent?_ofComponents_concat`).
-/

namespace EnumBindings.Path

/-! ## Names and moves -/

/-- What leads from a directory to something in it. -/
structure IsName (name : String) : Prop where
  spoken : isSilent name.toList = false
  notUp : name ≠ ".."
  noSlash : '/' ∉ name.toList

instance (name : String) : Decidable (IsName name) :=
  decidable_of_iff (isSilent name.toList = false ∧ name ≠ ".." ∧ '/' ∉ name.toList)
    ⟨fun h => ⟨h.1, h.2.1, h.2.2⟩, fun h => ⟨h.spoken, h.notUp, h.noSlash⟩⟩

theorem IsName.ne_nil {name : String} (h : IsName name) : name.toList ≠ [] := by
  intro hnil
  have hspoken := h.spoken
  rw [hnil] at hspoken
  cases hspoken

/-- A component behind the lead of a path. -/
inductive Component.IsMove : Component → Prop
  | up : IsMove .up
  | name {text : String} (named : IsName text) : IsMove (.name text)

/-- The characters of a component. -/
def Component.chars (c : Component) : List Char := c.bytes.toList

namespace Component.IsMove

variable {c : Component}

theorem spoken (h : c.IsMove) : isSilent c.chars = false := by
  cases h with
  | up => rfl
  | name named => exact named.spoken

theorem noSlash (h : c.IsMove) : '/' ∉ c.chars := by
  cases h with
  | up => decide
  | name named => exact named.noSlash

theorem componentOf_chars (h : c.IsMove) : componentOf c.chars = c := by
  cases h with
  | up => rfl
  | name named =>
      rename_i text
      have hup : text.toList ≠ ['.', '.'] := fun heq =>
        named.notUp (String.toList_inj.mp heq)
      simp [Component.chars, Component.bytes, componentOf, hup]

theorem ne_nil (h : c.IsMove) : c.chars ≠ [] := by
  intro hnil
  have hspoken := h.spoken
  rw [hnil] at hspoken
  cases hspoken

end Component.IsMove

/-- A segment that says something is a move. -/
theorem isMove_componentOf {segment : List Char} (spoken : isSilent segment = false)
    (noSlash : '/' ∉ segment) : (componentOf segment).IsMove := by
  rw [componentOf]
  split
  · exact .up
  · rename_i hup
    refine .name ⟨?_, ?_, ?_⟩
    · rwa [String.toList_ofList]
    · exact fun heq => hup (String.ofList_inj.mp heq)
    · rwa [String.toList_ofList]

/-- A path has a lead, and moves behind it. -/
theorem components_eq (p : Path) : p.components =
    (splitLead p.bytes.toList).1.components ++ (spoken p.bytes.toList).map componentOf := by
  rw [← spoken_splitLead]
  rfl

theorem isMove_of_mem_spoken (chars : List Char) :
    ∀ c ∈ (spoken chars).map componentOf, c.IsMove := by
  refine List.forall_mem_map.mpr fun segment hsegment => ?_
  obtain ⟨hmem, hspoken⟩ := List.mem_filter.mp hsegment
  exact isMove_componentOf (by simpa using hspoken) (not_mem_of_mem_splitOn hmem)

/-! ## Joined segments -/

theorem intercalate_concat {segments : List (List Char)} (h : segments ≠ []) (last : List Char) :
    ['/'].intercalate (segments ++ [last]) = ['/'].intercalate segments ++ '/' :: last := by
  induction segments with
  | nil => exact absurd rfl h
  | cons first rest ih =>
      cases rest with
      | nil => simp [List.intercalate_cons_cons]
      | cons second others =>
          rw [List.cons_append, List.cons_append, List.intercalate_cons_cons,
            List.intercalate_cons_cons, ← List.cons_append, ih (List.cons_ne_nil _ _),
            ← List.append_assoc]

/-- A joined text ends as its last segment does. -/
theorem getLast?_intercalate_concat (segments : List (List Char)) {last : List Char}
    (h : last ≠ []) :
    (['/'].intercalate (segments ++ [last])).getLast? = last.getLast? := by
  by_cases hnil : segments = []
  · rw [hnil, List.nil_append, List.intercalate_singleton]
  · rw [intercalate_concat hnil, List.getLast?_append_of_ne_nil _ (List.cons_ne_nil _ _),
      List.getLast?_cons_of_ne_nil h]

theorem getLast?_lead_append (lead : Lead) (segments : List (List Char)) {last : List Char}
    (h : last ≠ []) :
    (lead.chars ++ ['/'].intercalate (segments ++ [last])).getLast? = last.getLast? := by
  have hjoined := getLast?_intercalate_concat segments h
  have hne : ['/'].intercalate (segments ++ [last]) ≠ [] := by
    intro hnil
    rw [hnil] at hjoined
    exact h (List.getLast?_eq_none_iff.mp hjoined.symm)
  rw [List.getLast?_append_of_ne_nil _ hne, hjoined]

/-! ## Writing down -/

theorem ofComponents_concat (cs : List Component) (c : Component) :
    ofComponents (cs ++ [c]) = (ofComponents cs).join ⟨c.bytes⟩ := by
  rw [ofComponents, List.foldl_append]
  rfl

/-- A move is written behind a slash, unless there is one or nothing is written yet. -/
theorem toList_join_move (base : Path) {c : Component} (h : c.IsMove) :
    (base.join ⟨c.bytes⟩).bytes.toList = base.bytes.toList ++
      if base.bytes.toList = [] ∨ base.bytes.toList.getLast? = some '/' then c.chars
      else '/' :: c.chars := by
  have hrelative : Path.isAbsolute ⟨c.bytes⟩ = false := by
    refine Bool.eq_false_iff.mpr fun habs => h.noSlash ?_
    exact List.mem_of_mem_head? (by simpa [isAbsolute, Component.chars] using habs)
  have hdivided : (base.isEmpty || base.bytes.toList.getLast? == some '/') = true ↔
      base.bytes.toList = [] ∨ base.bytes.toList.getLast? = some '/' := by
    simp [isEmpty]
  simp only [join, hrelative, Bool.false_eq_true, if_false, hdivided]
  split <;> simp [Component.chars]

/-- A text that opens with a move has no lead. -/
theorem splitLead_move {c : Component} (h : c.IsMove) (rest : List Char) :
    splitLead (c.chars ++ rest) = (.none, c.chars ++ rest) := by
  have hspoken := h.spoken
  have hslash := h.noSlash
  rcases hchars : c.chars with _ | ⟨a, as⟩
  · exact absurd hchars h.ne_nil
  · rw [hchars] at hspoken hslash
    have ha : a ≠ '/' := fun heq => hslash (heq ▸ List.mem_cons_self)
    rw [splitLead.eq_def]
    split
    · rename_i heq
      exact absurd (List.cons.inj heq).1 ha
    · rename_i heq
      obtain ⟨rfl, hnone⟩ := List.cons.inj heq
      rw [(List.append_eq_nil_iff.mp hnone).1] at hspoken
      cases hspoken
    · rename_i heq
      obtain ⟨rfl, hmore⟩ := List.cons.inj heq
      cases as with
      | nil => cases hspoken
      | cons b bs =>
          obtain ⟨rfl, -⟩ := List.cons.inj hmore
          simp at hslash
    · rfl

theorem Lead.root_ne_here : Lead.root ≠ .here := by
  decide

section Written

variable {lead : Lead} (written : lead ≠ .here) {steps : List Component}
  (moves : ∀ c ∈ steps, c.IsMove)

include written moves

/-- The text of some components: the lead, then the segments with slashes in between. -/
theorem toList_ofComponents : (ofComponents (lead.components ++ steps)).bytes.toList =
    lead.chars ++ ['/'].intercalate (steps.map Component.chars) := by
  induction steps using List.reverseRecOn with
  | nil =>
      cases lead with
      | root => decide
      | here => exact absurd rfl written
      | none => decide
  | append_singleton steps last ih =>
      obtain ⟨hsteps, hlast⟩ := List.forall_mem_append.mp moves
      have hmove := List.forall_mem_singleton.mp hlast
      rw [← List.append_assoc, ofComponents_concat, toList_join_move _ hmove, ih hsteps,
        List.map_append, List.map_singleton]
      -- the lead needs no slash behind it, and every move does
      rcases List.eq_nil_or_concat' steps with rfl | ⟨before, z, rfl⟩
      · cases lead with
        | root => simp [Lead.chars]
        | here => exact absurd rfl written
        | none => simp [Lead.chars]
      · have hz := hsteps z (by simp)
        have hends : (lead.chars ++ ['/'].intercalate
            ((before ++ [z]).map Component.chars)).getLast? = z.chars.getLast? := by
          rw [List.map_append, List.map_singleton]
          exact getLast?_lead_append lead _ hz.ne_nil
        have hopen : ¬(lead.chars ++ ['/'].intercalate ((before ++ [z]).map Component.chars) = [] ∨
            (lead.chars ++ ['/'].intercalate ((before ++ [z]).map Component.chars)).getLast? =
              some '/') := by
          rw [hends, ← List.getLast?_eq_none_iff, hends, not_or, List.getLast?_eq_none_iff]
          exact ⟨hz.ne_nil, fun heq => hz.noSlash (List.mem_of_getLast? heq)⟩
        rw [if_neg hopen, intercalate_concat (by simp), List.append_assoc]

/-- No part of the moves is taken for a part of the lead. -/
theorem splitLead_ofComponents : splitLead (ofComponents (lead.components ++ steps)).bytes.toList =
    (lead, ['/'].intercalate (steps.map Component.chars)) := by
  rw [toList_ofComponents written moves]
  cases lead with
  | root => rfl
  | here => exact absurd rfl written
  | none =>
      cases steps with
      | nil => rfl
      | cons first rest =>
          have htext : ∃ tail, ['/'].intercalate ((first :: rest).map Component.chars) =
              first.chars ++ tail := by
            cases rest with
            | nil => exact ⟨[], by simp⟩
            | cons second others =>
                exact ⟨_, List.intercalate_cons_cons.trans (List.append_assoc ..)⟩
          obtain ⟨tail, htail⟩ := htext
          rw [htail]
          exact splitLead_move (moves first List.mem_cons_self) tail

/-- A path that was made of components is read as these components. -/
theorem components_ofComponents :
    (ofComponents (lead.components ++ steps)).components = lead.components ++ steps := by
  have hslash : ∀ s ∈ steps.map Component.chars, '/' ∉ s :=
    List.forall_mem_map.mpr fun c hc => (moves c hc).noSlash
  have hspoken : (steps.map Component.chars).filter (!isSilent ·) = steps.map Component.chars :=
    List.filter_eq_self.mpr (List.forall_mem_map.mpr fun c hc => by simp [(moves c hc).spoken])
  have hback : steps.map (componentOf ∘ Component.chars) = steps.map id :=
    List.map_congr_left fun c hc => (moves c hc).componentOf_chars
  simp only [components, splitLead_ofComponents written moves]
  rw [← spoken, spoken_intercalate hslash, hspoken, List.map_map, hback, List.map_id]

omit written in
theorem dropSilent_chars : dropSilent (steps.map Component.chars) = steps.map Component.chars := by
  induction steps using List.reverseRecOn with
  | nil => rfl
  | append_singleton before last _ =>
      have hlast := (moves last (by simp)).spoken
      rw [List.map_append, List.map_singleton, dropSilent_concat, hlast,
        if_neg Bool.false_ne_true]

end Written

/-- Without its last move a path is the path of the components before it. -/
theorem parent?_ofComponents_concat {lead : Lead} (written : lead ≠ .here)
    {steps : List Component} {last : Component} (moves : ∀ c ∈ steps ++ [last], c.IsMove) :
    (ofComponents (lead.components ++ (steps ++ [last]))).parent? =
      some (ofComponents (lead.components ++ steps)) := by
  have hsteps : ∀ c ∈ steps, c.IsMove := fun c hc => moves c (List.mem_append_left _ hc)
  have hslash : ∀ s ∈ (steps ++ [last]).map Component.chars, '/' ∉ s :=
    List.forall_mem_map.mpr fun c hc => (moves c hc).noSlash
  have hsegments : dropSilent ((['/'].intercalate
      ((steps ++ [last]).map Component.chars)).splitOn '/') =
        (steps ++ [last]).map Component.chars := by
    rw [List.splitOn_intercalate '/' hslash (by simp), dropSilent_chars moves]
  have hbefore : dropSilent ((steps ++ [last]).map Component.chars).dropLast =
      steps.map Component.chars := by
    rw [List.map_append, List.map_singleton, List.dropLast_concat]
    exact dropSilent_chars hsteps
  simp only [parent?, splitLead_ofComponents written moves, hsegments]
  split
  · rename_i hnil
    simp at hnil
  · rw [hbefore, ← toList_ofComponents written hsteps, String.ofList_toList]

end EnumBindings.Path
