import EnumBindings.Proofs.Disk.Placeless
import EnumBindings.Proofs.Generate.CompletedRun

/-!
# Files at absolute paths

Reading, making directories and replacing go by the requests that they make: at an absolute path
they do not depend on the current directory. One path is special, the absolute one without a
move, because the directory that would hold it is `.`; but there nothing can be read, so nothing
is ever replaced (`placeless_readIfExists`).
-/

namespace EnumBindings

open Files

/-! ## Reading -/

section Reading

variable {p : Path} (h : p.isAbsolute = true)

include h

theorem placeless_readText :
    Placeless (fun _ => True) (readText p : StateM Machine (Except DiskError String)) := by
  refine (placeless_read h).bind fun result _ => ?_
  cases result with
  | error error => exact .pure trivial
  | ok bytes =>
      dsimp only
      split <;> exact .pure trivial

omit h in
/-- Segments that say nothing lead nowhere. -/
theorem foldlM_step_of_silent {store : Store} {segments : List String} {here : Location}
    (hdirectory : store.isDirectory here = true)
    (hsilent : ∀ s ∈ segments, Path.isSilent s.toList = true) :
    segments.foldlM store.step here = .ok here := by
  induction segments with
  | nil => rfl
  | cons s rest ih =>
      obtain ⟨hs, hrest⟩ := List.forall_mem_cons.mp hsilent
      have hstep : store.step here s = .ok here := by
        refine Store.step_eq_ok_iff.mpr ⟨hdirectory, ?_, fun hspoken => ?_⟩
        · rw [Store.lead, if_pos hs]
        · rw [hs] at hspoken
          cases hspoken
      rw [List.foldlM_cons, hstep]
      exact ih hrest

/-- At the root nothing can be read, and it is not that nothing is there. -/
theorem readAt_of_moves_eq_nil (hmoves : p.moves = []) (store : Store) (current : Location) :
    ∃ error, store.readAt current p = .error error ∧ error ≠ .notFound := by
  have hempty : p.isEmpty = false := by
    refine Bool.eq_false_iff.mpr fun hnil => ?_
    have htext : p.bytes.toList = [] := by simpa [Path.isEmpty] using hnil
    rw [Path.isAbsolute, htext] at h
    cases h
  have hsilent : ∀ s ∈ Store.segments p, Path.isSilent s.toList = true := by
    rw [Store.moves_eq_filter_segments, List.filter_eq_nil_iff] at hmoves
    intro s hs
    simpa using hmoves s hs
  have hlocate : store.locate current p = Store.checkPath p >>= fun _ => .ok [] := by
    unfold Store.locate Store.start
    rw [if_pos h, foldlM_step_of_silent rfl hsilent]
  unfold Store.readAt
  rw [hlocate]
  unfold Store.checkPath
  rw [hempty, if_neg Bool.false_ne_true]
  by_cases hnul : p.holdsNul = true
  · rw [if_pos hnul]
    exact ⟨.invalidName, rfl, by simp⟩
  · rw [if_neg hnul]
    by_cases hlong : Store.pathLimit ≤ p.bytes.length
    · rw [if_pos hlong]
      exact ⟨.nameTooLong, rfl, by simp⟩
    · rw [if_neg hlong]
      exact ⟨.isDirectory, rfl, by simp⟩

/-- Where something is read, or nothing is there, the path has a move. -/
theorem placeless_readIfExists :
    PlacelessTask (fun _ => p.moves ≠ [])
      (readIfExists p : Task (StateM Machine) (Option String)) := by
  have hread : PlacelessTask (fun _ => True)
      (readIfExists p : Task (StateM Machine) (Option String)) := by
    refine (PlacelessTask.lift (placeless_readText h)).bind fun result _ => ?_
    split
    · exact .pure trivial
    · exact .pure trivial
    · exact .throw _
  intro machine
  refine ⟨fun current hcurrent hmoves => ?_, (hread machine).2⟩
  obtain ⟨error, herror, hother⟩ :=
    readAt_of_moves_eq_nil h hmoves machine.store machine.directory
  have htext : machine.textAt p = .error error := by
    rw [Machine.textAt, herror]
    rfl
  obtain ⟨failure, hfailed⟩ : ∃ failure,
      (outcome (readIfExists p) machine).1 = .error failure := by
    rw [Machine.outcome_readIfExists, htext]
    cases error with
    | notFound => exact absurd rfl hother
    | _ => exact ⟨_, rfl⟩
  cases hfailed.symm.trans hcurrent

end Reading

/-! ## Directories -/

theorem placeless_makeNearest {paths : List Path} (h : ∀ q ∈ paths, q.isAbsolute = true) :
    Placeless (fun result => ∀ missing, result = .ok missing → missing ⊆ paths)
      (makeNearest paths : StateM Machine (Except DiskError (List Path))) := by
  induction paths with
  | nil => exact .pure fun missing hmissing => by cases hmissing; exact List.Subset.refl _
  | cons q above ih =>
      obtain ⟨hq, habove⟩ := List.forall_mem_cons.mp h
      rw [makeNearest]
      split
      · exact .pure fun missing hmissing => by cases hmissing; exact List.nil_subset _
      · refine (placeless_makeDirectory hq).bind fun result _ => ?_
        split
        · exact .pure fun missing hmissing => by cases hmissing; exact List.nil_subset _
        · refine (ih habove).bind fun result hresult => ?_
          split
          · rename_i missing
            refine .pure fun all hall => ?_
            cases hall
            exact List.cons_subset_cons _ (hresult missing rfl)
          · exact .pure fun missing hmissing => by cases hmissing
        · refine (placeless_kind? hq).bind fun kind _ => ?_
          split
          · exact .pure fun missing hmissing => by cases hmissing; exact List.nil_subset _
          · exact .pure fun missing hmissing => by cases hmissing
        · exact .pure fun missing hmissing => by cases hmissing

theorem placeless_makeAll {paths : List Path} (h : ∀ q ∈ paths, q.isAbsolute = true) :
    Placeless (fun _ => True) (makeAll paths : StateM Machine (Except DiskError Unit)) := by
  induction paths with
  | nil => exact .pure trivial
  | cons q rest ih =>
      obtain ⟨hq, hrest⟩ := List.forall_mem_cons.mp h
      rw [makeAll]
      refine (placeless_makeDirectory hq).bind fun result _ => ?_
      split
      · exact ih hrest
      · refine (placeless_kind? hq).bind fun kind _ => ?_
        split
        · exact ih hrest
        · exact .pure trivial

section Replacing

variable {p : Path} (h : p.isAbsolute = true)

include h

theorem placeless_makeDirectories :
    Placeless (fun _ => True) (makeDirectories p : StateM Machine (Except DiskError Unit)) := by
  have hancestors : ∀ q ∈ p.ancestors, q.isAbsolute = true := by
    intro q hq
    rw [(Path.moves_of_mem_ancestors hq).2, h]
  refine (placeless_makeNearest hancestors).bind fun result hresult => ?_
  split
  · rename_i missing
    refine placeless_makeAll fun q hq => hancestors q ?_
    exact hresult missing rfl (List.mem_reverse.mp hq)
  · exact .pure trivial

theorem placeless_ensureDirectory :
    PlacelessTask (fun _ => True) (ensureDirectory p : Task (StateM Machine) Unit) := by
  refine (PlacelessTask.lift (placeless_kind? h)).bind fun kind _ => ?_
  split
  · exact .request ((placeless_makeDirectories h).mono fun _ _ _ _ => trivial)
  · exact .pure trivial

theorem placeless_requestOrRemove {context : String}
    {answer : StateM Machine (Except DiskError Unit)} (hanswer : Placeless (fun _ => True) answer) :
    PlacelessTask (fun _ => True) (requestOrRemove p context answer) := by
  refine (PlacelessTask.lift hanswer).bind fun result _ => ?_
  split
  · exact .pure trivial
  · exact (PlacelessTask.lift (placeless_remove h)).bind fun _ _ => .throw _

/-- A file is replaced in the directory of its path, which is absolute if the path has a move. -/
theorem placeless_replace (hmoves : p.moves ≠ []) (text : String) :
    PlacelessTask (fun _ => True) (replace p text : Task (StateM Machine) Unit) := by
  have hdirectory : p.directory.isAbsolute = true := by
    rw [(Path.moves_directory p).2 hmoves, h]
  refine (placeless_ensureDirectory hdirectory).bind fun _ _ => ?_
  refine (PlacelessTask.request (placeless_createTemporary hdirectory)).bind fun t ht => ?_
  refine (placeless_requestOrRemove ht (placeless_write ht _)).bind fun _ _ => ?_
  refine (placeless_requestOrRemove ht (placeless_flush ht)).bind fun _ _ => ?_
  exact placeless_requestOrRemove ht (placeless_rename ht h)

end Replacing

end EnumBindings
