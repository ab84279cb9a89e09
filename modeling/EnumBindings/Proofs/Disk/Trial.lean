import EnumBindings.Proofs.Disk.Lawful

/-!
# Machines and trials

A machine is a lawful disk that never fails by chance. A trial is a machine with a plan of faults:
each request looks at the next entry of the plan and fails if a fault stands there, with any error
and, where it writes, after any number of bytes. So whatever holds of every trial holds wherever
requests fail. Only the removal of a file is never refused.
-/

namespace EnumBindings

open Placed (store here)

/-! ## Machines -/

namespace Machine

instance : Placed Machine where
  store := Machine.store
  here := Machine.directory

theorem ask_answered {α : Type} (answer : Store → Location → Except DiskError α)
    (machine : Machine) :
    Answered (asking answer) machine
      (StateT.run (m := Id) (ask answer) machine) := by
  change Answered _ machine (answer machine.store machine.directory, machine)
  cases h : answer machine.store machine.directory with
  | ok a => exact .done (congrArg (Except.map (·, machine.store)) h) rfl
  | error e => exact .failed ⟨rfl, rfl⟩

theorem run_change (request : Store → Location → Except DiskError Store) (machine : Machine) :
    StateT.run (m := Id) (change request) machine =
      match request machine.store machine.directory with
      | .ok store => (.ok (), { machine with store })
      | .error error => (.error error, machine) := by
  simp only [change, StateT.run_bind, StateT.run_get, pure_bind]
  cases request machine.store machine.directory <;> rfl

theorem change_answered (request : Store → Location → Except DiskError Store)
    (machine : Machine) :
    Answered (changing request) machine
      (StateT.run (m := Id) (change request) machine) := by
  rw [run_change]
  cases h : request machine.store machine.directory with
  | ok store => exact .done (congrArg (Except.map ((), ·)) h) rfl
  | error e => exact .failed ⟨rfl, rfl⟩

theorem run_createTemporary (p : Path) (machine : Machine) :
    StateT.run (m := Id) (createTemporary p) machine =
      match machine.store.createAt machine.directory machine.temporaryStem
        ((pathOf machine.directory).join p) with
      | .ok (path, store) => (.ok path, { machine with store })
      | .error error => (.error (.located error
          (((pathOf machine.directory).join p).join ⟨machine.temporaryStem⟩)), machine) := by
  simp only [createTemporary, StateT.run_bind, StateT.run_get, pure_bind]
  rcases machine.store.createAt machine.directory machine.temporaryStem
    ((pathOf machine.directory).join p) with error | ⟨path, store⟩ <;> rfl

theorem createTemporary_answered (p : Path) (machine : Machine) :
    Answered (fun store here => store.createAt here machine.temporaryStem
        ((pathOf machine.directory).join p)) machine
      (StateT.run (m := Id) (createTemporary p) machine) := by
  rw [run_createTemporary]
  rcases h : machine.store.createAt machine.directory machine.temporaryStem
    ((pathOf machine.directory).join p) with error | ⟨path, store⟩
  · exact .failed ⟨rfl, rfl⟩
  · exact .done h rfl

instance : LawfulDisk Machine where
  currentDirectory machine := ask_answered _ machine
  kind? _ _ := ⟨rfl, rfl⟩
  read p machine := ask_answered (fun store here => store.readAt here p) machine
  makeDirectory p machine :=
    change_answered (fun store here => store.makeDirectoryAt here p) machine
  createTemporary p machine := ⟨_, _, createTemporary_answered p machine⟩
  write p bytes machine :=
    .inl (change_answered (fun store here => store.writeAt here p bytes) machine)
  flush p machine := by
    have h := change_answered (fun store here => (store.readAt here p).map fun _ => store) machine
    change Same machine (StateT.run (m := Id) (change _) machine).2
    generalize StateT.run (m := Id) (change _) machine = result at h ⊢
    cases h with
    | failed same => exact same
    | done answer stays =>
        obtain ⟨hread, hstays⟩ := Answered.changed (.done answer stays)
        obtain ⟨bytes, -, hstore⟩ := of_map_eq_ok hread
        exact ⟨hstore.symm, hstays⟩
  rename source target machine :=
    change_answered (fun store here => store.renameAt here source target) machine
  remove _ _ := ⟨rfl, rfl⟩
  log _ _ _ := ⟨rfl, rfl⟩

end Machine

/-! ## Trials -/

/-- How a request fails. -/
structure Fault where
  error : DiskError
  /-- The number of bytes that a write leaves behind. -/
  kept : Nat

/-- A machine and what its next requests will meet. -/
structure Trial where
  machine : Machine
  faults : List (Option Fault)

namespace Trial

/-- A request of the machine, or what is left of it if it meets a fault. -/
def attempt {α : Type} (refused : Fault → StateM Machine α) (request : StateM Machine α) :
    StateM Trial α := fun trial =>
  let (answer, machine) := match trial.faults.head?.join with
    | some fault => (refused fault).run trial.machine
    | none => request.run trial.machine
  (answer, ⟨machine, trial.faults.tail⟩)

/-- A request that never meets a fault. -/
def always {α : Type} (request : StateM Machine α) : StateM Trial α := fun trial =>
  let (answer, machine) := request.run trial.machine
  (answer, { trial with machine })

/-- Nothing but an error. -/
def refuse {α : Type} (fault : Fault) : StateM Machine (Except DiskError α) :=
  return .error fault.error

/-- A part of the bytes and an error. -/
def tear (p : Path) (bytes : ByteArray) (fault : Fault) :
    StateM Machine (Except DiskError Unit) := do
  discard (Disk.write p (bytes.extract 0 fault.kept))
  return .error fault.error

instance : Disk (StateM Trial) where
  currentDirectory := attempt refuse Disk.currentDirectory
  kind? p := attempt (fun _ => return none) (Disk.kind? p)
  read p := attempt refuse (Disk.read p)
  makeDirectory p := attempt refuse (Disk.makeDirectory p)
  createTemporary p := attempt refuse (Disk.createTemporary p)
  write p bytes := attempt (tear p bytes) (Disk.write p bytes)
  flush p := attempt refuse (Disk.flush p)
  rename source target := attempt refuse (Disk.rename source target)
  remove p := always (Disk.remove p)

instance : Journal (StateM Trial) where
  log level message := always (Journal.log level message)

instance : Placed Trial where
  store trial := trial.machine.store
  here trial := trial.machine.directory

/-- A request either meets a fault or is the request of the machine. -/
theorem run_attempt {α : Type} (refused : Fault → StateM Machine α) (request : StateM Machine α)
    (trial : Trial) : ∃ given : StateM Machine α,
      (given = request ∨ ∃ fault, given = refused fault) ∧
      StateT.run (m := Id) (attempt refused request) trial =
        ((given.run trial.machine).1, ⟨(given.run trial.machine).2, trial.faults.tail⟩) := by
  cases h : trial.faults.head?.join with
  | some fault =>
      refine ⟨refused fault, .inr ⟨fault, rfl⟩, ?_⟩
      simp only [attempt, StateT.run, h]
      rfl
  | none =>
      refine ⟨request, .inl rfl, ?_⟩
      simp only [attempt, StateT.run, h]
      rfl

/-- What the machine did is what the trial did. -/
theorem answered_of_machine {α : Type} {asked : Store → Location → Except DiskError (α × Store)}
    {trial : Trial} {result : Except DiskError α × Machine} {faults : List (Option Fault)}
    (h : Answered asked trial.machine result) :
    Answered asked trial (result.1, ⟨result.2, faults⟩) := by
  cases h with
  | done answer stays => exact .done answer stays
  | failed same => exact .failed same

theorem attempt_answered {α : Type} {asked : Store → Location → Except DiskError (α × Store)}
    {request : StateM Machine (Except DiskError α)} (trial : Trial)
    (hrequest : Answered asked trial.machine (StateT.run (m := Id) request trial.machine)) :
    Answered asked trial (StateT.run (m := Id) (attempt refuse request) trial) := by
  obtain ⟨given, hgiven, hrun⟩ := run_attempt refuse request trial
  rw [hrun]
  rcases hgiven with rfl | ⟨fault, rfl⟩
  · exact answered_of_machine hrequest
  · exact .failed ⟨rfl, rfl⟩

theorem attempt_same {α : Type} {refused : Fault → StateM Machine α} {request : StateM Machine α}
    (trial : Trial) (hrequest : Same trial.machine (StateT.run (m := Id) request trial.machine).2)
    (hrefused : ∀ fault, Same trial.machine
      (StateT.run (m := Id) (refused fault) trial.machine).2) :
    Same trial (StateT.run (m := Id) (attempt refused request) trial).2 := by
  obtain ⟨given, hgiven, hrun⟩ := run_attempt refused request trial
  rw [hrun]
  rcases hgiven with rfl | ⟨fault, rfl⟩
  · exact hrequest
  · exact hrefused fault

/-- A write that meets a fault has written a part, or could not have written at all. -/
theorem write_lawful (p : Path) (bytes : ByteArray) (trial : Trial) :
    Answered (changing fun store here => store.writeAt here p bytes) trial
      (StateT.run (m := Id) (Disk.write p bytes) trial) ∨
    ∃ e part s', StateT.run (m := Id) (Disk.write p bytes) trial = (.error e, s') ∧
      here s' = here trial ∧
      (store trial).writeAt (here trial) p part = .ok (store s') := by
  obtain ⟨given, hgiven, hrun⟩ := run_attempt (tear p bytes) (Disk.write p bytes) trial
  change StateT.run (m := Id) (Disk.write p bytes) trial = _ at hrun
  have hmachine := fun part =>
    Machine.change_answered (fun store here => store.writeAt here p part) trial.machine
  rw [hrun]
  rcases hgiven with rfl | ⟨fault, rfl⟩
  · exact .inl (answered_of_machine (hmachine bytes))
  · have htear : StateT.run (m := Id) (tear p bytes fault) trial.machine = (.error fault.error,
        (StateT.run (m := Id) (Disk.write p (bytes.extract 0 fault.kept)) trial.machine).2) := rfl
    have hpart := hmachine (bytes.extract 0 fault.kept)
    rw [htear]
    change Answered _ trial.machine (StateT.run (m := Id) (Disk.write p _) trial.machine) at hpart
    generalize StateT.run (m := Id) (Disk.write p _) trial.machine = result at hpart ⊢
    cases hpart with
    | failed same => exact .inl (.failed same)
    | done answer stays =>
        obtain ⟨hwrite, hstays⟩ := Answered.changed (.done answer stays)
        exact .inr ⟨fault.error, _, _, rfl, hstays, hwrite⟩

instance : LawfulDisk Trial where
  currentDirectory trial := attempt_answered trial (LawfulDisk.currentDirectory trial.machine)
  kind? p trial := attempt_same trial (LawfulDisk.kind? p trial.machine) fun _ => ⟨rfl, rfl⟩
  read p trial := attempt_answered trial (LawfulDisk.read p trial.machine)
  makeDirectory p trial := attempt_answered trial (LawfulDisk.makeDirectory p trial.machine)
  createTemporary p trial :=
    let ⟨stem, directory, h⟩ := LawfulDisk.createTemporary p trial.machine
    ⟨stem, directory, attempt_answered trial h⟩
  write p bytes trial := write_lawful p bytes trial
  flush p trial := attempt_same trial (LawfulDisk.flush p trial.machine) fun _ => ⟨rfl, rfl⟩
  rename source target trial :=
    attempt_answered trial (LawfulDisk.rename source target trial.machine)
  remove _ _ := ⟨rfl, rfl⟩
  log _ _ _ := ⟨rfl, rfl⟩

end Trial

end EnumBindings
