import EnumBindings.Proofs.Disk.Trial
import EnumBindings.Proofs.Generate.Prepare
import EnumBindings.Proofs.Go.Lookup
import EnumBindings.Proofs.Rust.Refinement

/-!
# Runs without a log

Where the log is off a note leaves no trace. Then nothing of what comes before the outputs is left
in the state but what the disk makes of two requests, and a run can be followed up to its first
output (`outcome_run_of_quiet`).
-/

namespace EnumBindings.Generate

open EnumBindings.Files

/-! ## States without a log -/

/-- Notes leave the state. -/
def Quiet {σ : Type} [Journal (StateM σ)] (s : σ) : Prop :=
  ∀ level message, StateT.run (m := Id) (Journal.log level message) s = ((), s)

/-- A machine whose log is off notes nothing. -/
theorem quiet_of_off {machine : Machine} (h : machine.logStyle = .off) : Quiet machine := by
  intro level message
  change ((), { machine with
    stderr := machine.stderr ++ machine.logStyle.line level message }) = ((), machine)
  have hline : machine.logStyle.line level message = "" := by rw [h]; rfl
  rw [hline, String.append_empty]

/-- A trial notes what its machine does. -/
theorem quiet_trial {trial : Trial} (h : Quiet trial.machine) : Quiet trial := by
  intro level message
  change ((), { trial with
    machine := (StateT.run (m := Id) (Journal.log level message) trial.machine).2 }) = ((), trial)
  rw [h]

namespace Quiet

variable {σ : Type} [Disk (StateM σ)] [Journal (StateM σ)] {s : σ}

omit [Disk (StateM σ)] in
theorem outcome_note (h : Quiet s) (level : LogLevel) (message : String) :
    outcome (note level message) s = (.ok (), s) := by
  rw [note, outcome_lift, h]

omit [Disk (StateM σ)] in
theorem outcome_noteEnums (h : Quiet s) (language : Language) (enums : List EnumType) :
    outcome (noteEnums language enums) s = (.ok (), s) := by
  induction enums with
  | nil => rfl
  | cons e rest ih => rw [noteEnums, outcome_bind_of_ok (h.outcome_note ..), ih]

omit [Disk (StateM σ)] in
/-- Artifacts that can be made are made in order. -/
theorem outcome_artifacts (h : Quiet s) {table : EnumTable} {header : Header}
    {outputs : List Output} {make : Output → Artifact}
    (hmake : ∀ o ∈ outputs, artifact table header o = .ok (make o)) :
    outcome (artifacts table header outputs) s = (.ok (outputs.map fun o => (o, make o)), s) := by
  induction outputs with
  | nil => rfl
  | cons output rest ih =>
      obtain ⟨hfirst, hrest⟩ := List.forall_mem_cons.mp hmake
      have hlift : outcome (artifacts.liftExcept (artifact table header output)) s =
          (.ok (make output), s) := by
        rw [hfirst]
        rfl
      rw [artifacts, outcome_bind_of_ok hlift, outcome_bind_of_ok (h.outcome_noteEnums ..),
        outcome_bind_of_ok (ih hrest)]
      rfl

/-- A table that can be read is loaded. -/
theorem outcome_loadTable {m : σ} (h : Quiet m) {p : Path} {text : String} {table : EnumTable}
    (hread : StateT.run (m := Id) (Disk.read p) s = (.ok text.toUTF8, m))
    (hparse : EnumTable.parse text p.shown = .ok table) :
    outcome (loadTable (some p)) s = (.ok table, m) := by
  rw [outcome_loadTable_of_read hread hparse, h]

end Quiet

/-- A run that is not refused does nothing but settle its outputs. -/
theorem outcome_run_of_quiet {σ : Type} [Disk (StateM σ)] [Journal (StateM σ)] {s m₁ m : σ}
    {options : GenerateOptions} {here : Path} {table : EnumTable} {make : Output → Artifact}
    (hnonempty : options.outputs ≠ [])
    (hhome : outcome Project.currentDirectory s = (.ok here, m₁))
    (hdistinct : checkDistinct here [] options.outputs = .ok ())
    (hload : outcome (loadTable options.table) m₁ = (.ok table, m)) (hquiet : Quiet m)
    (hmake : ∀ o ∈ options.outputs, artifact table options.header o = .ok (make o)) :
    outcome (run options) s = outcome (do
      let reports ← settleAll options.check (options.outputs.map fun o => (o, make o))
      return (⟨table.size, reports⟩ : GenerateReport)) m := by
  have hcheck : outcome (ExceptT.mk (pure (checkDistinct here [] options.outputs))) m₁ =
      (.ok (), m₁) := by
    rw [hdistinct]
    rfl
  unfold run
  rw [if_neg (by simpa using hnonempty), outcome_bind_of_ok hhome, outcome_bind_of_ok hcheck,
    outcome_bind_of_ok hload, outcome_bind_of_ok (hquiet.outcome_artifacts hmake)]

/-- A task that is seen to succeed has a result. -/
theorem exists_of_isOk {σ α : Type} {x : Task (StateM σ) α} {s : σ}
    (h : (outcome x s).1.isOk = true) : ∃ a s', outcome x s = (.ok a, s') := by
  rcases hx : outcome x s with ⟨failure | a, s'⟩
  · rw [hx] at h
    cases h
  · exact ⟨a, s', rfl⟩

end EnumBindings.Generate

/-! ## A small project -/

namespace EnumBindings.Panel

open EnumBindings.Files EnumBindings.Generate

/-- A machine with nothing but the document. -/
def machine : Machine :=
  .boot ⟨[(["w"], .directory), (["w", "panel.toml"], .file document.toUTF8)]⟩ ["w"] ".tmp"

/-- Two outputs, one of them in a directory that is not there. -/
def options : GenerateOptions where
  table := some ⟨"panel.toml"⟩
  header := ⟨["MIT"]⟩
  outputs := [⟨.go, ⟨"./panel.go"⟩, some "ui"⟩, ⟨.rust, ⟨"/w//lib/./panel.rs"⟩, none⟩]
  check := false

/-- The machine on a disk that will be full after some requests and three bytes. -/
def filling (requests : Nat) : Trial :=
  ⟨machine, List.replicate requests none ++ [some ⟨.other "disk full", 3⟩]⟩

/-- What is made for an output. -/
def make (output : Output) : Artifact :=
  let style := Style.ofLanguage output.language output.package
  let enums := [access, align, phase]
  ⟨enums, Text.unlines (style.fileLines options.header enums)⟩

theorem artifact_table (header : Header) (output : Output) :
    artifact table header output = .ok ⟨[access, align, phase], Text.unlines
      ((Style.ofLanguage output.language output.package).fileLines header
        [access, align, phase])⟩ := by
  have hnames : ∀ style : Style, style.checkNames [access, align, phase] = .ok ()
    | .go _ => Go.checkNames_panel
    | .rust => Rust.checkNames_panel
  exact artifact_eq_ok_iff.mpr (EnumTable.generate_of_checks _ resolve_table (hnames _) header)

theorem artifact_make (output : Output) :
    artifact table options.header output = .ok (make output) :=
  artifact_table options.header output

theorem checkDistinct_options : checkDistinct ⟨"/w"⟩ [] options.outputs = .ok () := by
  decide +kernel

theorem nodup_destination :
    (options.outputs.map fun o => Path.destination ["w"] o.path).Nodup := by
  decide +kernel

theorem isDirectory_here : machine.store.isDirectory machine.directory = true := by
  decide +kernel

theorem readAt_document :
    machine.store.readAt machine.directory ⟨"panel.toml"⟩ = .ok document.toUTF8 := by
  decide +kernel

/-- On the machine a run settles both outputs. -/
theorem outcome_run_machine :
    outcome (run options) machine = outcome (do
      let reports ← settleAll false (options.outputs.map fun o => (o, make o))
      return (⟨table.size, reports⟩ : GenerateReport)) machine := by
  have hhome : outcome Project.currentDirectory machine = (.ok ⟨"/w"⟩, machine) :=
    outcome_request_eq_ok.mpr rfl
  have hquiet : Quiet machine := quiet_of_off rfl
  have hload : outcome (loadTable options.table) machine = (.ok table, machine) :=
    hquiet.outcome_loadTable (congrArg (·, machine) readAt_document) (parse_document _)
  exact outcome_run_of_quiet (by decide) hhome checkDistinct_options hload hquiet
    fun o _ => artifact_make o

/-- A run on the machine writes both outputs. -/
theorem exists_written : ∃ report finish,
    outcome (run options) machine = (.ok report, finish) ∧
    report.outputs.map (fun r => (r.language, r.path, r.state)) =
      [(.go, ⟨"./panel.go"⟩, .written), (.rust, ⟨"/w//lib/./panel.rs"⟩, .written)] := by
  rw [outcome_run_machine]
  have hwritten : ((outcome (do
      let reports ← settleAll false (options.outputs.map fun o => (o, make o))
      return (⟨table.size, reports⟩ : GenerateReport)) machine).1.toOption.map fun report =>
        report.outputs.map fun r => (r.language, r.path, r.state)) =
      some [(.go, ⟨"./panel.go"⟩, .written), (.rust, ⟨"/w//lib/./panel.rs"⟩, .written)] := by
    decide +kernel
  generalize outcome _ machine = reached at hwritten ⊢
  obtain ⟨_ | report, finish⟩ := reached
  · cases hwritten
  · exact ⟨report, finish, rfl, Option.some.inj hwritten⟩

/-! ### A disk that fills up -/

variable (requests : Nat)

theorem here_filling : Placed.here (filling requests) = ["w"] := rfl

theorem quiet_filling : Quiet (filling requests) := quiet_trial (quiet_of_off rfl)

theorem outcome_currentDirectory_filling :
    outcome Project.currentDirectory (filling (requests + 2)) =
      (.ok ⟨"/w"⟩, filling (requests + 1)) :=
  outcome_request_eq_ok.mpr rfl

theorem outcome_loadTable_filling :
    outcome (loadTable options.table) (filling (requests + 1)) = (.ok table, filling requests) :=
  (quiet_filling requests).outcome_loadTable
    (congrArg (·, filling requests) readAt_document) (parse_document _)

/-- Two requests are enough to prepare the outputs. -/
theorem prepared_filling : Prepared options (filling (requests + 2)) table
    (options.outputs.map fun o => (o, make o)) where
  nonempty := by decide
  distinct := by rw [here_filling]; exact nodup_destination
  home := isDirectory_here
  loaded :=
    ⟨_, _, _, outcome_currentDirectory_filling requests, outcome_loadTable_filling requests⟩
  outputs := by rw [List.map_map]; exact List.map_id _
  artifacts := List.forall_mem_map.mpr fun o _ => artifact_make o

/-- Behind these two requests a run settles both outputs. -/
theorem outcome_run_filling :
    outcome (run options) (filling (requests + 2)) = outcome (do
      let reports ← settleAll false (options.outputs.map fun o => (o, make o))
      return (⟨table.size, reports⟩ : GenerateReport)) (filling requests) :=
  outcome_run_of_quiet (by decide) (outcome_currentDirectory_filling requests)
    checkDistinct_options (outcome_loadTable_filling requests) (quiet_filling requests)
    fun o _ => artifact_make o

/-- A run fails where the disk is full when the second output is written. -/
theorem exists_failure :
    ∃ failure finish, outcome (run options) (filling 12) = (.error failure, finish) := by
  rw [outcome_run_filling]
  have hfailed : (outcome (do
      let reports ← settleAll false (options.outputs.map fun o => (o, make o))
      return (⟨table.size, reports⟩ : GenerateReport)) (filling 10)).1.isOk = false := by
    decide +kernel
  generalize outcome _ (filling 10) = reached at hfailed ⊢
  obtain ⟨failure | _, finish⟩ := reached
  · exact ⟨failure, finish, rfl⟩
  · cases hfailed

end EnumBindings.Panel
