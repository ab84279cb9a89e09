import EnumBindings.Proofs.Disk.Trial
import EnumBindings.Proofs.Generate.Prepare
import EnumBindings.Proofs.Generate.Quiet
import EnumBindings.Proofs.Store.Tree

/-!
# Runs that succeed

A run on a machine that succeeds has put every output in its place, and its report says so, one
entry for each output in order (`completed_run_delivers`). What an entry says about a file is what
stood there when the run came to it.
-/

namespace EnumBindings.Machine

open EnumBindings.Files

/-! ## Reading on a machine -/

/-- The text at a path. -/
def textAt (machine : Machine) (p : Path) : Except DiskError String :=
  machine.store.readAt machine.directory p >>= decode

theorem textAt_eq_ok_iff {machine : Machine} {p : Path} {text : String} :
    machine.textAt p = .ok text ↔
      machine.store.readAt machine.directory p = .ok text.toUTF8 := by
  rw [textAt]
  cases machine.store.readAt machine.directory p with
  | error e => simp [bind, Except.bind]
  | ok bytes =>
      rw [Except.ok.injEq, ← decode_eq_ok_iff]
      rfl

theorem run_readText (machine : Machine) (p : Path) :
    StateT.run (m := Id) (readText p) machine = (machine.textAt p, machine) :=
  Files.run_readText p machine

/-- What a run finds at a path: a text, or nothing. -/
theorem outcome_readIfExists (machine : Machine) (p : Path) :
    outcome (readIfExists p) machine =
      (match machine.textAt p with
        | .ok text => .ok (some text)
        | .error .notFound => .ok none
        | .error e => .error ⟨["failed to read file: " ++ p.shown], .disk e⟩, machine) := by
  rw [readIfExists, outcome_bind, outcome_lift, run_readText]
  change outcome _ machine = _
  generalize machine.textAt p = found
  rcases found with e | text
  · cases e <;> rfl
  · rfl

/-- A run finds a text exactly if its bytes are there, and looking for it changes nothing. -/
theorem of_readIfExists_eq_ok {machine machine' : Machine} {p : Path} {current : Option String}
    (h : outcome (readIfExists p) machine = (.ok current, machine')) :
    machine' = machine ∧ ∀ text, current = some text ↔
      machine.store.readAt machine.directory p = .ok text.toUTF8 := by
  rw [outcome_readIfExists] at h
  obtain ⟨hcurrent, rfl⟩ := Prod.mk.inj h
  refine ⟨rfl, fun text => ?_⟩
  rw [← textAt_eq_ok_iff]
  split at hcurrent
  · rename_i found hfound
    cases hcurrent
    simp [hfound]
  · rename_i hmissing
    cases hcurrent
    simp [hmissing]
  · cases hcurrent

end EnumBindings.Machine

namespace EnumBindings.Generate

open EnumBindings.Files
open EnumBindings.Path (destination Above)
open Placed (store here)

/-- What an entry of a report says about an output, given the machine when the run came to it and
the machine at the end. -/
structure Delivered (artifact : Artifact) (output : Output) (entry : OutputReport)
    (middle finish : Machine) : Prop where
  holds : finish.store.readAt finish.directory output.path = .ok artifact.text.toUTF8
  language : entry.language = output.language
  path : entry.path = output.path
  checksum : entry.checksum = Sha256.ofText artifact.text
  /-- The file was missing, or it was another one. -/
  written : entry.state = .written ↔
    middle.store.readAt middle.directory output.path ≠ .ok artifact.text.toUTF8
  unchanged : entry.state = .unchanged ↔
    middle.store.readAt middle.directory output.path = .ok artifact.text.toUTF8

variable {options : GenerateOptions} {start finish : Machine}

/-- The state of an entry says what the file held. -/
theorem delivered_of_settle {output : Output} {artifact : Artifact} {entry : OutputReport}
    {middle next : Machine}
    (h : outcome (settle false output artifact.text) middle = (.ok entry, next))
    (hholds : finish.store.readAt finish.directory output.path = .ok artifact.text.toUTF8) :
    Delivered artifact output entry middle finish := by
  obtain ⟨current, m, hread, rfl⟩ := reportOf_of_settle h
  obtain ⟨-, hcurrent⟩ := Machine.of_readIfExists_eq_ok hread
  have hstate : (reportOf false output artifact.text current).state =
      if current = some artifact.text then .unchanged else .written := rfl
  refine ⟨hholds, rfl, rfl, rfl, ?_, ?_⟩
  · rw [hstate, ne_eq, ← hcurrent]
    by_cases hheld : current = some artifact.text <;> simp [hheld]
  · rw [hstate, ← hcurrent]
    by_cases hheld : current = some artifact.text <;> simp [hheld]

/-- What a run leaves that succeeds. The report has an entry for each output, in order, and says
of it what the run found when it came to the output: the state `middle`, in which the outputs
before it are settled. In the end every output holds its text, and nothing else has changed but
for new directories on the way to outputs. -/
theorem completed_run_delivers {report : GenerateReport} (tree : start.store.Tree)
    (hwrite : options.check = false)
    (h : outcome (run options) start = (.ok report, finish)) :
    ∃ table first made,
      NamedTable start.store start.directory options.table table ∧
      report.enums = table.size ∧ report.outputs.length = options.outputs.length ∧
      Same start first ∧ made.map Prod.fst = options.outputs ∧
      outcome (settleAll false made) first = (.ok report.outputs, finish) ∧
      (∀ before output after, options.outputs = before ++ output :: after →
        ∃ artifact entry earlier middle,
          table.generate (Style.ofLanguage output.language output.package) options.header =
            .ok artifact ∧
          report.outputs[before.length]? = some entry ∧
          outcome (settleAll false (made.take before.length)) first = (.ok earlier, middle) ∧
          Delivered artifact output entry middle finish) ∧
      finish.directory = start.directory ∧
      start.store.Changes
        (fun l => ∃ output ∈ options.outputs, l = destination start.directory output.path)
        (fun l => ∃ output ∈ options.outputs, Above start.directory output.path l)
        finish.store := by
  obtain ⟨table, made, first, hprepared, hsame, henums, hsettle⟩ :=
    of_run_eq_ok tree.names_of_isDirectory h
  rw [hwrite] at hsettle
  have halters := alters_of_settleAll hsettle
  have hholds := readAt_of_settleAll (hsame.2 ▸ hprepared.distinct_made) hsettle
  refine ⟨table, first, made, hprepared.named, henums, ?_, hsame, hprepared.outputs, hsettle, ?_,
    ?_, ?_⟩
  · rw [length_of_settleAll hsettle, ← hprepared.outputs, List.length_map]
  · intro before output after hsplit
    rw [← hprepared.outputs] at hsplit
    obtain ⟨mb, rest, rfl, rfl, hrest⟩ := List.map_eq_append_iff.mp hsplit
    obtain ⟨item, ma, rfl, rfl, -⟩ := List.map_eq_cons_iff.mp hrest
    obtain ⟨earlier, middle, others, hreports, hearlier, hothers⟩ :=
      outcome_settleAll_append hsettle
    obtain ⟨entry, next, later, rfl, hentry, -⟩ := outcome_settleAll_cons hothers
    have hmem : item ∈ mb ++ item :: ma := List.mem_append_right _ List.mem_cons_self
    refine ⟨item.2, entry, earlier, middle,
      artifact_eq_ok_iff.mp (hprepared.artifacts item hmem), ?_, ?_,
      delivered_of_settle hentry (hholds item hmem)⟩
    · rw [hreports, List.length_map, ← length_of_settleAll hearlier]
      simp
    · rw [List.length_map, List.take_left]
      exact hearlier
  · exact halters.1.trans hsame.2
  · refine (trans_of _ hsame.alters halters).2.mono ?_ ?_
    · exact fun l ⟨item, hmem, hl⟩ => ⟨item.1, hprepared.mem_outputs hmem, hl⟩
    · exact fun l ⟨item, hmem, hl⟩ => ⟨item.1, hprepared.mem_outputs hmem, hl⟩

/-- Two outputs are both found in the end, spelled from the current directory and from the root. -/
theorem completed_run_delivers_panel : ∃ report finish,
    outcome (run Panel.options) Panel.machine = (.ok report, finish) ∧
    report.outputs.length = 2 ∧ finish.directory = ["w"] ∧
    ∀ output ∈ Panel.options.outputs, ∃ table artifact,
      EnumTable.generate table (Style.ofLanguage output.language output.package)
        Panel.options.header = .ok artifact ∧
      finish.store.readAt finish.directory output.path = .ok artifact.text.toUTF8 := by
  have tree : Panel.machine.store.Tree := by decide +kernel
  obtain ⟨report, finish, hrun, -⟩ := Panel.exists_written
  obtain ⟨table, first, made, -, -, hlength, -, -, -, hentries, hstays, -⟩ :=
    completed_run_delivers tree rfl hrun
  refine ⟨report, finish, hrun, hlength, hstays, fun output hmem => ?_⟩
  obtain ⟨before, after, hsplit⟩ := List.append_of_mem hmem
  obtain ⟨artifact, entry, earlier, middle, hartifact, -, -, hdelivered⟩ :=
    hentries before output after hsplit
  exact ⟨table, artifact, hartifact, hdelivered.holds⟩

end EnumBindings.Generate
