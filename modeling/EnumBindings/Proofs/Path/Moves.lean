import EnumBindings.Path
import EnumBindings.Proofs.Lines
import Mathlib.Data.List.DropRight

/-!
# Moves of a path

Most of the text of a path says nothing: what is left are its moves, the names and the `..` in
it. `destination` is the place that moves lead to by text alone, and `Above` says of a place that
a path comes by on its way. The directory that holds a path has all its moves but the last
(`moves_parent?`), so whatever is above the path by text is one of the places it comes by.
-/

namespace EnumBindings.Path

/-! ## Segments -/

/-- The segments of some characters that say something. -/
def spoken (chars : List Char) : List (List Char) := (chars.splitOn '/').filter (!isSilent ·)

theorem spoken_nil : spoken [] = [] := by
  rw [spoken, List.splitOn_nil]
  rfl

theorem spoken_dot : spoken ['.'] = [] := by
  decide

theorem spoken_append_slash (a b : List Char) : spoken (a ++ '/' :: b) = spoken a ++ spoken b := by
  rw [spoken, List.splitOn_append_cons_self, List.filter_append]
  rfl

theorem spoken_slash (chars : List Char) : spoken ('/' :: chars) = spoken chars := by
  have h := spoken_append_slash [] chars
  rwa [spoken_nil] at h

/-- What a joined text says is what its segments say. -/
theorem spoken_intercalate {segments : List (List Char)} (h : ∀ s ∈ segments, '/' ∉ s) :
    spoken (['/'].intercalate segments) = segments.filter (!isSilent ·) := by
  cases segments with
  | nil => rw [List.intercalate_nil, spoken_nil]; rfl
  | cons first rest => rw [spoken, List.splitOn_intercalate '/' h (by simp)]

/-! ## Segments at the end -/

theorem dropSilent_concat (segments : List (List Char)) (last : List Char) :
    dropSilent (segments ++ [last]) =
      if isSilent last then dropSilent segments else segments ++ [last] := by
  simp only [dropSilent]
  exact List.rdropWhile_concat ..

theorem filter_dropSilent (segments : List (List Char)) :
    (dropSilent segments).filter (!isSilent ·) = segments.filter (!isSilent ·) := by
  induction segments using List.reverseRecOn with
  | nil => rfl
  | append_singleton segments last ih =>
      rw [dropSilent_concat]
      split
      · rename_i hsilent
        simp [ih, hsilent]
      · rfl

/-- Without the silent segments at the end the last segment says something. -/
theorem filter_dropLast_dropSilent (segments : List (List Char)) :
    (dropSilent segments).dropLast.filter (!isSilent ·) =
      (segments.filter (!isSilent ·)).dropLast := by
  induction segments using List.reverseRecOn with
  | nil => rfl
  | append_singleton segments last ih =>
      rw [dropSilent_concat]
      split
      · rename_i hsilent
        simp [ih, hsilent]
      · rename_i hspoken
        simp [hspoken]

theorem dropSilent_isPrefix (segments : List (List Char)) : dropSilent segments <+: segments :=
  List.rdropWhile_prefix (p := isSilent) segments

/-- Joining fewer segments leaves a prefix of the text. -/
theorem intercalate_isPrefix {a b : List (List Char)} (h : a <+: b) :
    ['/'].intercalate a <+: ['/'].intercalate b := by
  obtain ⟨c, rfl⟩ := h
  induction a with
  | nil => exact List.nil_prefix
  | cons first rest ih =>
      cases rest with
      | nil =>
          cases c with
          | nil => exact List.prefix_rfl
          | cons next others =>
              rw [List.singleton_append, List.intercalate_cons_cons, List.append_assoc,
                List.intercalate_singleton]
              exact List.prefix_append ..
      | cons second others =>
          rw [List.cons_append, List.cons_append, List.intercalate_cons_cons,
            List.intercalate_cons_cons]
          exact (List.prefix_append_right_inj _).mpr ih

/-! ## Leads -/

theorem splitLead_eq (chars : List Char) :
    (splitLead chars).1.chars ++ (splitLead chars).2 = chars := by
  rw [splitLead.eq_def]
  split <;> rfl

theorem spoken_splitLead (chars : List Char) : spoken (splitLead chars).2 = spoken chars := by
  rw [splitLead.eq_def]
  split
  · rw [spoken_slash]
  · rw [spoken_nil, spoken_dot]
  · rename_i rest
    have h := spoken_append_slash ['.'] rest
    rw [spoken_dot, List.nil_append] at h
    rw [spoken_slash]
    exact h.symm
  · rfl

theorem splitLead_eq_root_iff (chars : List Char) :
    (splitLead chars).1 = .root ↔ chars.head? = some '/' := by
  rw [splitLead.eq_def]
  split
  · simp
  · simp
  · simp
  · rename_i hroot _ _
    cases chars with
    | nil => simp
    | cons c rest =>
        have hc : c ≠ '/' := fun heq => hroot rest (by rw [heq])
        simp [hc]

theorem isAbsolute_iff (p : Path) :
    p.isAbsolute = true ↔ (splitLead p.bytes.toList).1 = .root := by
  rw [splitLead_eq_root_iff, isAbsolute, beq_iff_eq]

/-- What stands behind the leading `.` of a path is nothing, or starts with a slash. -/
theorem head?_splitLead_here {chars : List Char} (h : (splitLead chars).1 = .here) :
    (splitLead chars).2 = [] ∨ (splitLead chars).2.head? = some '/' := by
  rw [splitLead.eq_def] at h ⊢
  split <;> simp_all

/-- What stands behind no lead does not start with a slash. -/
theorem head?_splitLead_none {chars : List Char} (h : (splitLead chars).1 = .none) :
    (splitLead chars).2.head? ≠ some '/' := by
  intro hslash
  have heq := splitLead_eq chars
  rw [h] at heq
  have hroot := (splitLead_eq_root_iff chars).mpr (heq ▸ hslash)
  rw [h] at hroot
  cases hroot

/-! ## Moves -/

/-- The segments of a path that say something. -/
def moves (p : Path) : List String := (spoken p.bytes.toList).map String.ofList

/-- A path without the component `..` has no such move. -/
theorem up_not_mem_moves {p : Path} (h : Component.up ∉ p.components) : ".." ∉ p.moves := by
  intro hmem
  obtain ⟨segment, hsegment, hup⟩ := List.mem_map.mp hmem
  have hchars : segment = ['.', '.'] := String.ofList_inj.mp hup
  rw [← spoken_splitLead] at hsegment
  exact h (List.mem_append_right _ (List.mem_map.mpr ⟨segment, hsegment, by rw [hchars]; rfl⟩))

/-- The segments that the directory above some characters is written with. -/
def segmentsAbove (rest : List Char) : List (List Char) :=
  dropSilent (dropSilent (rest.splitOn '/')).dropLast

theorem segmentsAbove_isPrefix (rest : List Char) : segmentsAbove rest <+: rest.splitOn '/' :=
  (dropSilent_isPrefix _).trans ((List.dropLast_prefix _).trans (dropSilent_isPrefix _))

theorem filter_segmentsAbove (rest : List Char) :
    (segmentsAbove rest).filter (!isSilent ·) = (spoken rest).dropLast := by
  rw [segmentsAbove, filter_dropSilent, filter_dropLast_dropSilent, spoken]

/-- The directory above is written with a part of the text. -/
theorem joined_segmentsAbove_isPrefix (rest : List Char) :
    ['/'].intercalate (segmentsAbove rest) <+: rest := by
  have h := intercalate_isPrefix (segmentsAbove_isPrefix rest)
  rwa [List.intercalate_splitOn] at h

theorem spoken_joined_segmentsAbove (rest : List Char) :
    spoken (['/'].intercalate (segmentsAbove rest)) = (spoken rest).dropLast := by
  have hslash : ∀ s ∈ segmentsAbove rest, '/' ∉ s := fun s hs =>
    not_mem_of_mem_splitOn ((segmentsAbove_isPrefix rest).subset hs)
  rw [spoken_intercalate hslash, filter_segmentsAbove]

/-- The lead of a path can stand before a part of its rest. -/
theorem spoken_lead_append {chars part : List Char} (h : part <+: (splitLead chars).2) :
    spoken ((splitLead chars).1.chars ++ part) = spoken part ∧
      (((splitLead chars).1.chars ++ part).head? = some '/' ↔ (splitLead chars).1 = .root) := by
  obtain ⟨tail, htail⟩ := h
  cases hlead : (splitLead chars).1 with
  | root => exact ⟨spoken_slash part, by simp [Lead.chars]⟩
  | here =>
      refine ⟨?_, by simp [Lead.chars]⟩
      cases part with
      | nil => rw [List.append_nil, Lead.chars, spoken_dot, spoken_nil]
      | cons c rest =>
          -- a part that is not empty starts with the slash behind the `.`
          have hslash : c = '/' := by
            have hrest := head?_splitLead_here hlead
            rw [← htail] at hrest
            simpa using hrest
          subst hslash
          rw [Lead.chars, spoken_append_slash, spoken_dot, List.nil_append, spoken_slash]
  | none =>
      refine ⟨rfl, ?_⟩
      have hrest := head?_splitLead_none hlead
      rw [← htail] at hrest
      cases part with
      | nil => simp [Lead.chars]
      | cons c rest => simpa [Lead.chars] using hrest

/-- The directory that holds a path has all its moves but the last. -/
theorem moves_parent? {p q : Path} (h : p.parent? = some q) :
    q.moves = p.moves.dropLast ∧ q.isAbsolute = p.isAbsolute := by
  have hmoves : ∀ {r : Path}, spoken r.bytes.toList = (spoken p.bytes.toList).dropLast →
      r.moves = p.moves.dropLast := fun {r} heq => by
    rw [moves, moves, heq, List.map_dropLast]
  simp only [parent?] at h
  split at h
  · rename_i hsilent
    split at h
    · rename_i hhere
      cases h
      -- nothing is said, so there is no last move
      have hnone : spoken p.bytes.toList = [] := by
        rw [← spoken_splitLead, spoken, ← filter_dropSilent, hsilent]
        rfl
      refine ⟨hmoves ?_, ?_⟩
      · rw [hnone]
        exact spoken_nil
      · have hlead : ¬p.isAbsolute = true := fun habs => by
          rw [isAbsolute_iff, hhere] at habs
          cases habs
        rw [Bool.eq_false_iff.mpr hlead]
        rfl
    · cases h
  · cases h
    obtain ⟨hspoken, hhead⟩ := spoken_lead_append
      (joined_segmentsAbove_isPrefix (splitLead p.bytes.toList).2)
    refine ⟨hmoves ?_, ?_⟩
    · rw [String.toList_ofList]
      exact hspoken.trans (by rw [spoken_joined_segmentsAbove, spoken_splitLead])
    · rw [Bool.eq_iff_iff, isAbsolute_iff p, isAbsolute, beq_iff_eq, String.toList_ofList]
      exact hhead

/-- Below a path comes first what the path itself says. -/
theorem spoken_join {base p : Path} (h : p.isAbsolute = false) :
    spoken (base.join p).bytes.toList = spoken base.bytes.toList ++ spoken p.bytes.toList := by
  simp only [join, h, Bool.false_eq_true, if_false]
  split
  · rename_i hend
    rw [String.toList_append]
    rcases (Bool.or_eq_true ..).mp hend with hempty | hslash
    · have htext : base.bytes.toList = [] := by simpa [isEmpty] using hempty
      rw [htext, spoken_nil]
      rfl
    · -- the slash at the end is the one in between
      obtain ⟨before, hbefore⟩ := List.getLast?_eq_some_iff.mp (beq_iff_eq.mp hslash)
      rw [hbefore, List.append_assoc, List.singleton_append, spoken_append_slash,
        spoken_append_slash, spoken_nil, List.append_nil]
  · rw [String.toList_append, String.toList_append, List.append_assoc]
    exact spoken_append_slash ..

/-- Below a path come its own moves first. -/
theorem moves_join {base p : Path} (h : p.isAbsolute = false) :
    (base.join p).moves = base.moves ++ p.moves := by
  rw [moves, moves, moves, spoken_join h, List.map_append]

theorem isAbsolute_join {base p : Path} (h : base.isAbsolute = true) :
    (base.join p).isAbsolute = true := by
  obtain ⟨rest, hrest⟩ : ∃ rest, base.bytes.toList = '/' :: rest :=
    List.head?_eq_some_iff.mp (beq_iff_eq.mp h)
  rw [join]
  split
  · assumption
  · split <;> simp [isAbsolute, hrest]

/-- A relative path below another one is absolute as that one is. -/
theorem isAbsolute_join_of_relative {base p : Path} (h : p.isAbsolute = false) :
    (base.join p).isAbsolute = base.isAbsolute := by
  have hp : p.bytes.toList.head? ≠ some '/' := by simpa [isAbsolute] using h
  have hbase : base.bytes.toList = [] ∨ ∃ c rest, base.bytes.toList = c :: rest := by
    cases base.bytes.toList <;> simp
  rcases hbase with hnil | ⟨c, rest, hcons⟩
  · have hempty : base.isEmpty = true := by simpa [isEmpty] using hnil
    simp [join, hempty, isAbsolute, hnil, hp]
  · simp only [join, h, Bool.false_eq_true, if_false]
    split <;> simp [isAbsolute, hcons]

/-! ## Directories above -/

/-- A path without moves is held by nothing. -/
theorem moves_eq_nil_of_parent? {p : Path} (h : p.parent? = none) : p.moves = [] := by
  have hspoken : spoken p.bytes.toList = [] := by
    simp only [parent?] at h
    split at h
    · rename_i hsilent
      rw [← spoken_splitLead, spoken, ← filter_dropSilent, hsilent]
      rfl
    · cases h
  rw [moves, hspoken, List.map_nil]

/-- The directories above a path have the first of its moves. -/
theorem moves_of_mem_ancestorsFrom {fuel : Nat} {p q : Path} (h : q ∈ ancestorsFrom fuel p) :
    q.moves <+: p.moves ∧ q.isAbsolute = p.isAbsolute := by
  induction fuel generalizing p with
  | zero =>
      rw [ancestorsFrom, List.mem_singleton] at h
      subst h
      exact ⟨List.prefix_rfl, rfl⟩
  | succ fuel ih =>
      rw [ancestorsFrom] at h
      cases hparent : p.parent? with
      | none =>
          rw [hparent] at h
          obtain rfl := List.mem_singleton.mp h
          exact ⟨List.prefix_rfl, rfl⟩
      | some above =>
          rw [hparent] at h
          obtain ⟨hmoves, habsolute⟩ := moves_parent? hparent
          rcases List.mem_cons.mp h with rfl | hrest
          · exact ⟨List.prefix_rfl, rfl⟩
          · obtain ⟨hinitial, hsame⟩ := ih hrest
            rw [hmoves] at hinitial
            exact ⟨hinitial.trans (List.dropLast_prefix _), hsame.trans habsolute⟩

theorem moves_of_mem_ancestors {p q : Path} (h : q ∈ p.ancestors) :
    q.moves <+: p.moves ∧ q.isAbsolute = p.isAbsolute :=
  moves_of_mem_ancestorsFrom h

theorem moves_here : moves ⟨"."⟩ = [] := by
  decide

/-- The directory of a path has all its moves but the last. A path without moves has the current
directory for its own, also if it is absolute. -/
theorem moves_directory (p : Path) :
    p.directory.moves = p.moves.dropLast ∧
      (p.moves ≠ [] → p.directory.isAbsolute = p.isAbsolute) := by
  rw [directory]
  cases hparent : p.parent? with
  | none =>
      have hnone := moves_eq_nil_of_parent? hparent
      exact ⟨by rw [moves_here, hnone]; rfl, fun hsome => absurd hnone hsome⟩
  | some q =>
      obtain ⟨hmoves, habsolute⟩ := moves_parent? hparent
      by_cases hempty : q.isEmpty = true
      · -- the directory of a bare name is written `.` and not as an empty text
        have htext : q.bytes.toList = [] := by simpa [isEmpty] using hempty
        have hnone : q.moves = [] := by rw [moves, htext, spoken_nil, List.map_nil]
        have hrelative : q.isAbsolute = false := by rw [isAbsolute, htext]; rfl
        simp only [hempty, if_true]
        exact ⟨by rw [moves_here, ← hmoves, hnone], fun _ => by rw [← habsolute, hrelative]; rfl⟩
      · simp only [hempty, if_false, Bool.false_eq_true]
        exact ⟨hmoves, fun _ => habsolute⟩

end EnumBindings.Path
