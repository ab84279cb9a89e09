import EnumBindings.Proofs.Store.Requests

/-!
# Where temporary files stand

The name of a temporary file is its stem with some underscores behind it. If the stem is a name,
then the file stands in the directory that it was asked for (`temporary_of_createAt_name`), and it
is another file than the one beside it whose name is not made in this way
(`destination_ne_of_getLast?`).
-/

namespace EnumBindings

open EnumBindings.Path (IsName destination walk)

/-- The names that are made from a stem. -/
def Store.temporaryName (stem : String) (n : Nat) : String :=
  stem ++ String.ofList (List.replicate n '_')

/-- A path whose last move is no name that is made from a stem. -/
def Path.Spared (stem : String) (p : Path) : Prop :=
  ∀ n, p.moves.getLast? ≠ some (Store.temporaryName stem n)

namespace Path

/-- Underscores behind a name make a name. -/
theorem isName_temporaryName {stem : String} (h : IsName stem) (n : Nat) :
    IsName (Store.temporaryName stem n) := by
  have hchars : (Store.temporaryName stem n).toList =
      stem.toList ++ List.replicate n '_' := by simp [Store.temporaryName]
  cases n with
  | zero =>
      have hsame : Store.temporaryName stem 0 = stem := by simp [Store.temporaryName]
      rwa [hsame]
  | succ n =>
      have hmem : '_' ∈ (Store.temporaryName stem (n + 1)).toList := by simp [hchars]
      refine ⟨?_, ?_, ?_⟩
      · refine Bool.eq_false_iff.mpr fun hsilent => ?_
        rcases Bool.or_eq_true_iff.mp hsilent with hnil | hdot
        · rw [eq_of_beq hnil] at hmem
          cases hmem
        · rw [eq_of_beq hdot] at hmem
          revert hmem
          decide
      · intro hup
        rw [hup] at hmem
        revert hmem
        decide
      · rw [hchars, List.mem_append]
        rintro (hslash | hslash)
        · exact h.noSlash hslash
        · cases List.eq_of_mem_replicate hslash

/-- A name below a path leads one step down from the place of the path. -/
theorem destination_join_name {name : String} (h : IsName name) (current : Location)
    (base : Path) : destination current (base.join ⟨name⟩) = destination current base ++ [name] := by
  have hspoken : spoken name.toList = [name.toList] := by
    have hjoined := spoken_intercalate (List.forall_mem_singleton.mpr h.noSlash)
    rw [List.intercalate_singleton, List.filter_cons_of_pos (by simp [h.spoken]),
      List.filter_nil] at hjoined
    exact hjoined
  have hmoves : moves ⟨name⟩ = [name] := by simp [moves, hspoken]
  have hrelative : isAbsolute ⟨name⟩ = false := by
    refine Bool.eq_false_iff.mpr fun habsolute => ?_
    have hhead : name.toList.head? = some '/' := eq_of_beq habsolute
    exact h.noSlash (List.mem_of_head? hhead)
  have hwalk : walk (destination current base) name = destination current base ++ [name] :=
    if_neg h.notUp
  rw [← hwalk, destination, moves_join hrelative, hmoves, List.foldl_append, Store.start,
    isAbsolute_join_of_relative hrelative]
  rfl

/-- The directory of a relative path is relative. -/
theorem isAbsolute_of_directory {p : Path} (h : p.directory.isAbsolute = true) :
    p.isAbsolute = true := by
  have hhere : isAbsolute ⟨"."⟩ = false := by decide
  rw [directory] at h
  cases hparent : p.parent? with
  | none =>
      rw [hparent] at h
      rw [hhere] at h
      cases h
  | some q =>
      rw [hparent] at h
      dsimp only at h
      split at h
      · rw [hhere] at h
        cases h
      · rw [← (moves_parent? hparent).2]
        exact h

/-- What stands in the directory of a path under another name stands somewhere else. -/
theorem destination_ne_of_getLast? {p : Path} {name : String} (current : Location)
    (h : p.moves.getLast? ≠ some name) :
    destination current p.directory ++ [name] ≠ destination current p := by
  obtain ⟨hmoves, habsolute⟩ := moves_directory p
  intro heq
  by_cases hnil : p.moves = []
  · -- the path leads to where it starts, and its directory is the current one
    have hplace : destination current p = Store.start current p := by rw [destination, hnil]; rfl
    have hdirectory : destination current p.directory = Store.start current p.directory := by
      rw [destination, hmoves, hnil]
      rfl
    rw [hplace, hdirectory, Store.start, Store.start] at heq
    by_cases habs : p.isAbsolute = true
    · rw [if_pos habs] at heq
      exact List.concat_ne_nil _ _ heq
    · have hrelative : ¬p.directory.isAbsolute = true := fun h => habs (isAbsolute_of_directory h)
      rw [if_neg habs, if_neg hrelative] at heq
      simp at heq
  · obtain ⟨before, last, hsplit⟩ : ∃ before last, p.moves = before ++ [last] :=
      ⟨_, _, (List.dropLast_append_getLast hnil).symm⟩
    have hplace : destination current p = walk (destination current p.directory) last := by
      rw [destination, destination, hmoves, Store.start, Store.start, habsolute hnil, hsplit,
        List.foldl_append, List.dropLast_concat]
      rfl
    rw [hplace, walk] at heq
    split at heq
    · have hlength := congrArg List.length heq
      rw [List.length_append, List.length_singleton, List.length_dropLast] at hlength
      omega
    · rw [hsplit, List.getLast?_concat] at h
      exact h (congrArg some (List.singleton_inj.mp (List.append_cancel_left heq)).symm)

end Path

namespace Store

theorem exists_freshName_eq (store : Store) (directory : Location) (stem : String) :
    ∃ n, store.freshName directory stem = temporaryName stem n := by
  have hname : store.freshName directory stem =
      (((List.range (store.entries.length + 1)).map (temporaryName stem)).find?
        fun name => (store.find? (directory ++ [name])).isNone).getD stem := rfl
  rw [hname]
  cases hfind : ((List.range (store.entries.length + 1)).map (temporaryName stem)).find?
      fun name => (store.find? (directory ++ [name])).isNone with
  | none => exact ⟨0, (String.append_empty).symm⟩
  | some name =>
      obtain ⟨n, -, hn⟩ := List.mem_map.mp (List.mem_of_find?_eq_some hfind)
      exact ⟨n, hn.symm⟩

/-- A temporary file stands in the directory that it was asked for. -/
theorem temporary_of_createAt_name {store after : Store} {current : Location} {stem : String}
    {directory t : Path} (hstem : IsName stem)
    (h : store.createAt current stem directory = .ok (t, after)) :
    ∃ n, Temporary store current t
      (destination current directory ++ [temporaryName stem n]) .empty after := by
  obtain ⟨location, htemporary⟩ := temporary_of_createAt h
  obtain ⟨here, -, h⟩ := bind_eq_ok_iff.mp h
  obtain ⟨n, hn⟩ := store.exists_freshName_eq here stem
  have ht : t = directory.join ⟨temporaryName stem n⟩ := by
    obtain ⟨_ | s, -, h⟩ := bind_eq_ok_iff.mp h
    · cases h
    dsimp only at h
    split at h
    · cases h
    split at h
    · cases h
    cases h
    rw [hn]
  have hlocation := locate_eq_ok htemporary.found
  rw [ht, Path.destination_join_name (Path.isName_temporaryName hstem n)] at hlocation
  exact ⟨n, hlocation ▸ htemporary⟩

end Store

end EnumBindings
