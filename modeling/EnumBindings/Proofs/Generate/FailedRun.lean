import EnumBindings.Proofs.Disk.Trial
import EnumBindings.Proofs.Generate.Prepare
import EnumBindings.Proofs.Generate.Quiet
import EnumBindings.Proofs.Store.Tree

/-!
# Runs that fail

Whatever fails in a run, and wherever a request to the disk meets a fault, the run leaves a state
that can be described: nothing has changed if it was refused, and otherwise the outputs before the
one that failed are complete and no other file is touched (`failed_run_keeps_files`).
-/

namespace EnumBindings.Generate

open EnumBindings.Files
open EnumBindings.Path (destination Above)
open Placed (store here)

/-- What is left of a run that failed at an output: the files before it are complete, its own file
and those behind it are untouched, and there may be new directories on the way to them. -/
structure LeftAt (options : GenerateOptions) (table : EnumTable) (before : List Output)
    (output : Output) (after : List Output) (start finish : Machine) : Prop where
  split : options.outputs = before ++ output :: after
  complete : options.check = false → ∀ o ∈ before, ∃ made,
    table.generate (Style.ofLanguage o.language o.package) options.header = .ok made ∧
      finish.store.readAt finish.directory o.path = .ok made.text.toUTF8
  untouched : ∀ o ∈ output :: after, ∀ bytes,
    finish.store.find? (destination start.directory o.path) = some (.file bytes) ↔
      start.store.find? (destination start.directory o.path) = some (.file bytes)
  stays : finish.directory = start.directory
  others : start.store.Changes (fun l => ∃ o ∈ before, l = destination start.directory o.path)
    (fun l => ∃ o ∈ before ++ [output], Above start.directory o.path l) finish.store

variable {options : GenerateOptions} {start finish : Trial}

/-- A run that was prepared and failed did so at one of its outputs. -/
theorem exists_leftAt {table : EnumTable} {made : List (Output × Artifact)} {m : Trial}
    {failure : Failure} (hprepared : Prepared options start table made) (hsame : Same start m)
    (h : outcome (settleAll options.check made) m = (.error failure, finish)) :
    ∃ before output after artifact middle,
      table.generate (Style.ofLanguage output.language output.package) options.header =
          .ok artifact ∧
        outcome (settle options.check output artifact.text) middle = (.error failure, finish) ∧
        LeftAt options table before output after start.machine finish.machine := by
  obtain ⟨before, item, after, first, middle, rfl, hbefore, hitem⟩ := of_settleAll_eq_error h
  have hdone := alters_of_settleAll hbefore
  have hfailed := of_settle_eq_error hitem
  have hall : Alters
      (fun here l => ∃ o ∈ before.map Prod.fst, l = destination here o.path)
      (fun here l => ∃ o ∈ before.map Prod.fst ++ [item.1], Above here o.path l) start finish := by
    refine trans_of _ hsame.alters (trans_of _ (hdone.mono ?_ ?_) (hfailed.mono ?_ ?_))
    · exact fun l ⟨other, hmem, hl⟩ => ⟨other.1, List.mem_map_of_mem hmem, hl⟩
    · exact fun l ⟨other, hmem, hl⟩ =>
        ⟨other.1, List.mem_append_left _ (List.mem_map_of_mem hmem), hl⟩
    · exact fun _ => False.elim
    · exact fun l hl => ⟨item.1, List.mem_append_right _ (List.mem_singleton_self _), hl⟩
  have hsplit : options.outputs = before.map Prod.fst ++ item.1 :: after.map Prod.fst := by
    rw [← hprepared.outputs, List.map_append, List.map_cons]
  have hdistinct := hprepared.distinct
  rw [hsplit, List.map_append] at hdistinct
  obtain ⟨hfirst, -, happart⟩ := List.nodup_append.mp hdistinct
  have hitem' := artifact_eq_ok_iff.mp
    (hprepared.artifacts item (List.mem_append_right _ List.mem_cons_self))
  refine ⟨_, _, _, item.2, middle, hitem', hitem, hsplit, fun hwrite => ?_, fun o ho bytes => ?_,
    hall.1, hall.2⟩
  · refine List.forall_mem_map.mpr fun other hmem => ⟨other.2, ?_, ?_⟩
    · exact artifact_eq_ok_iff.mp (hprepared.artifacts other (List.mem_append_left _ hmem))
    · rw [hwrite] at hbefore
      rw [List.map_map, ← hsame.2] at hfirst
      exact readAt_of_alters hfailed (readAt_of_settleAll hfirst hbefore other hmem) id
  · refine hall.2.file_iff fun ⟨other, hmem, heq⟩ => ?_
    exact happart _ (List.mem_map_of_mem hmem) _ (List.mem_map_of_mem ho) heq.symm

/-- What a run leaves that fails. A run that is refused always fails, and the disk is as it was
before; a run that fails for another reason failed to settle one of its outputs, and is left
there. A check never changes the disk. -/
theorem failed_run_keeps_files {result : Except Failure GenerateReport}
    (tree : start.machine.store.Tree) (h : outcome (run options) start = (result, finish)) :
    (Refused options start →
      (∃ failure, result = .error failure) ∧ finish.machine.store = start.machine.store) ∧
    (∀ failure, result = .error failure → ¬Refused options start →
      ∃ table before output after artifact middle,
        NamedTable start.machine.store start.machine.directory options.table table ∧
        table.generate (Style.ofLanguage output.language output.package) options.header =
          .ok artifact ∧
        outcome (settle options.check output artifact.text) middle = (.error failure, finish) ∧
        LeftAt options table before output after start.machine finish.machine) ∧
    (options.check = true → finish.machine.store = start.machine.store) := by
  rcases outcome_run tree.names_of_isDirectory h with
    ⟨hrefused, herror, hsame⟩ | ⟨table, made, m, hprepared, hsame, hsettled⟩
  · exact ⟨fun _ => ⟨herror, hsame.1⟩, fun _ _ hnot => absurd hrefused hnot, fun _ => hsame.1⟩
  refine ⟨fun hrefused => absurd hrefused hprepared.not_refused, ?_, fun hcheck => ?_⟩
  · rintro failure rfl -
    rcases hsettled with ⟨_, hfailure, hsettle⟩ | ⟨reports, hreport, -⟩
    · cases hfailure
      obtain ⟨before, output, after, artifact, middle, hleft⟩ :=
        exists_leftAt hprepared hsame hsettle
      exact ⟨table, before, output, after, artifact, middle, hprepared.named, hleft⟩
    · cases hreport
  · rw [hcheck] at hsettled
    have hkept : Same m finish := by
      rcases hsettled with ⟨_, -, hsettle⟩ | ⟨_, -, hsettle⟩ <;>
        exact relates_of_leads (leads_same_settleAll made) hsettle
    exact (trans_of Same hsame hkept).1

/-- On a disk that is full in the middle of the second output a run leaves the first. -/
theorem failed_run_keeps_panel : ∃ failure finish,
    outcome (run Panel.options) (Panel.filling 12) = (.error failure, finish) ∧
    ¬Refused Panel.options (Panel.filling 12) ∧
    ∃ table before output after,
      LeftAt Panel.options table before output after Panel.machine finish.machine := by
  have tree : (Panel.filling 12).machine.store.Tree := by decide +kernel
  obtain ⟨failure, finish, hrun⟩ := Panel.exists_failure
  have accepted := (Panel.prepared_filling 10).not_refused
  obtain ⟨-, left, -⟩ := failed_run_keeps_files tree hrun
  obtain ⟨table, before, output, after, -, -, -, -, -, hleft⟩ := left failure rfl accepted
  exact ⟨failure, finish, hrun, accepted, table, before, output, after, hleft⟩

end EnumBindings.Generate
