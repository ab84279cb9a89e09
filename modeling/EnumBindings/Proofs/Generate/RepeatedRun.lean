import EnumBindings.Proofs.Generate.CompletedRun
import Mathlib.Data.Prod.Basic

/-!
# Runs and checks that agree

A check before a run says what the run is going to do, and after the run there is nothing left to
do (`repeated_run_agrees`). The run reads an output when the outputs before it are settled, the
check reads all of them at the start: for paths without `..` both find the same
(`readIfExists_of_later`).
-/

namespace EnumBindings

open EnumBindings.Files

/-- What a check calls the state of an output that was written or left. -/
def OutputState.checked : OutputState → OutputState
  | .written => .stale
  | .unchanged => .fresh
  | state => state

/-- What a check reports where a run reports this. -/
def GenerateReport.checked (report : GenerateReport) : GenerateReport :=
  { report with
    outputs := report.outputs.map fun entry => { entry with state := entry.state.checked } }

/-- The report with every output in one state. -/
def GenerateReport.allIn (report : GenerateReport) (state : OutputState) : GenerateReport :=
  { report with outputs := report.outputs.map fun entry => { entry with state } }

/-- What is found at a path depends on the disk only. -/
theorem Same.textAt {machine machine' : Machine} (h : Same machine machine') (p : Path) :
    machine'.textAt p = machine.textAt p := by
  rw [Machine.textAt, Machine.textAt, show machine'.store = machine.store from h.1,
    show machine'.directory = machine.directory from h.2]

namespace Generate

open EnumBindings.Path (Component IsName destination Above)
open Machine (pathOf)
open Placed (store here)

/-- A check calls the state of an output by another name. -/
theorem reportOf_checked (output : Output) (text : String) (current : Option String) :
    reportOf true output text current =
      { reportOf false output text current with
        state := (reportOf false output text current).state.checked } := by
  by_cases h : current = some text <;> simp [reportOf, stateOf, h, OutputState.checked]

/-! ## Reading early and late -/

section Reading

variable {files directories : Location → Location → Prop} {base m m' : Machine} {p : Path}
  {current : Option String}

/-- What is found at a path without `..` while other files change was found there before. -/
theorem readIfExists_of_later (tree : base.store.Tree)
    (home : base.store.isDirectory base.directory = true)
    (halters : Alters files directories base m)
    (hapart : ¬files base.directory (destination base.directory p)) (hup : ".." ∉ p.moves)
    (h : outcome (readIfExists p) m = (.ok current, m')) :
    outcome (readIfExists p) base = (.ok current, base) := by
  have hhere : m.directory = base.directory := halters.1
  have hchanges := halters.2
  have htext : base.textAt p = m.textAt p := by
    rw [Machine.textAt, Machine.textAt, hhere]
    cases hbase : base.store.readAt base.directory p with
    | ok bytes =>
        have hread : m.store.readAt m.directory p = .ok bytes :=
          readAt_of_alters halters hbase hapart
        rw [← hhere, hread]
    | error e =>
        by_cases hmissing : e = .notFound
        · subst hmissing
          rw [← hhere]
          cases hlater : m.store.readAt m.directory p with
          | ok bytes =>
              have hread := Store.readAt_of_later tree hchanges hapart hup
                (hhere ▸ hlater : m.store.readAt base.directory p = .ok bytes)
              rw [show base.store.readAt base.directory p = .ok bytes from hread] at hbase
              cases hbase
          | error e' =>
              -- a run that went on has found a file or nothing
              rw [Machine.outcome_readIfExists, Machine.textAt, hlater] at h
              cases e' <;> first | rfl | cases h
        · have hlater := Store.readAt_error_of_grows hchanges.grows home hup hbase hmissing
          rw [show m.store.readAt base.directory p = .error e from hlater]
  rw [Machine.outcome_readIfExists] at h ⊢
  rw [htext]
  exact congrArg (·, base) (Prod.mk.inj h).1

end Reading

/-! ## Settling without a change -/

section Settled

variable {made : List (Output × Artifact)}

/-- Outputs that hold their texts are settled, and nothing changes. -/
theorem settleAll_of_settled (check : Bool) {machine : Machine}
    (h : ∀ item ∈ made, machine.store.readAt machine.directory item.1.path =
      .ok item.2.text.toUTF8) :
    ∃ machine', outcome (settleAll check made) machine = (.ok (made.map fun item =>
        reportOf check item.1 item.2.text (some item.2.text)), machine') ∧
      Same machine machine' := by
  induction made generalizing machine with
  | nil => exact ⟨machine, rfl, refl _⟩
  | cons item rest ih =>
      obtain ⟨hitem, hrest⟩ := List.forall_mem_cons.mp h
      have hread : outcome (readIfExists item.1.path) machine =
          (.ok (some item.2.text), machine) := by
        rw [Machine.outcome_readIfExists, Machine.textAt_eq_ok_iff.mpr hitem]
      obtain ⟨m, hsettle, hsame⟩ : ∃ m, outcome (settle check item.1 item.2.text) machine =
          (.ok (reportOf check item.1 item.2.text (some item.2.text)), m) ∧ Same machine m :=
        outcome_settle_of_read hread (.inr rfl)
      have hkept : ∀ other ∈ rest, m.store.readAt m.directory other.1.path =
          .ok other.2.text.toUTF8 := by
        intro other hmem
        rw [show m.store = machine.store from hsame.1, show m.directory = machine.directory from
          hsame.2]
        exact hrest other hmem
      obtain ⟨machine', hothers, hsame'⟩ := ih hkept
      refine ⟨machine', ?_, trans_of Same hsame hsame'⟩
      rw [settleAll, outcome_bind_of_ok hsettle, outcome_bind_of_ok hothers]
      rfl

/-- A check at the start finds what a run finds on its way. -/
theorem settleAll_check_of_settleAll {files directories : Location → Location → Prop}
    {base c m m' : Machine} {reports : List OutputReport} (tree : base.store.Tree)
    (home : base.store.isDirectory base.directory = true)
    (halters : Alters files directories base m) (hsame : Same base c)
    (hup : ∀ item ∈ made, ".." ∉ item.1.path.moves)
    (hapart : ∀ item ∈ made, ¬files base.directory (destination base.directory item.1.path))
    (hdistinct : (made.map fun item => destination base.directory item.1.path).Nodup)
    (h : outcome (settleAll false made) m = (.ok reports, m')) :
    ∃ c', outcome (settleAll true made) c =
      (.ok (reports.map fun entry => { entry with state := entry.state.checked }), c') := by
  induction made generalizing files directories c m reports with
  | nil => cases h; exact ⟨c, rfl⟩
  | cons item rest ih =>
      obtain ⟨report, next, others, rfl, hreport, hothers⟩ := outcome_settleAll_cons h
      obtain ⟨hupItem, hupRest⟩ := List.forall_mem_cons.mp hup
      obtain ⟨hapartItem, hapartRest⟩ := List.forall_mem_cons.mp hapart
      obtain ⟨hdistinctItem, hdistinctRest⟩ := List.nodup_cons.mp hdistinct
      obtain ⟨current, _, hread, rfl⟩ := reportOf_of_settle hreport
      have hfound := readIfExists_of_later tree home halters hapartItem hupItem hread
      have hcheck : outcome (readIfExists item.1.path) c = (.ok current, c) := by
        rw [Machine.outcome_readIfExists] at hfound ⊢
        rw [hsame.textAt]
        exact congrArg (·, c) (Prod.mk.inj hfound).1
      obtain ⟨c₁, hsettle, hkept⟩ : ∃ c₁, outcome (settle true item.1 item.2.text) c =
          (.ok (reportOf true item.1 item.2.text current), c₁) ∧ Same c c₁ :=
        outcome_settle_of_read hcheck (.inl rfl)
      have hnext : Alters (fun here l => files here l ∨ l = destination here item.1.path)
          (fun here l => directories here l ∨ Above here item.1.path l) base next :=
        trans_of _ (halters.mono (fun _ => .inl) fun _ => .inl)
          ((of_settle_eq_ok hreport).1.mono (fun _ => .inr) fun _ => .inr)
      obtain ⟨c', hrest⟩ := ih hnext (trans_of Same hsame hkept) hupRest
        (fun other hmem => not_or.mpr ⟨hapartRest other hmem, fun heq =>
          hdistinctItem (List.mem_map.mpr ⟨other, hmem, heq⟩)⟩) hdistinctRest hothers
      refine ⟨c', ?_⟩
      rw [settleAll, outcome_bind_of_ok hsettle, outcome_bind_of_ok hrest, List.map_cons,
        reportOf_checked]
      rfl

/-- A run reports outputs as written or unchanged. -/
theorem state_of_settleAll {s s' : Machine} {reports : List OutputReport}
    (h : outcome (settleAll false made) s = (.ok reports, s')) :
    ∀ entry ∈ reports, entry.state = .written ∨ entry.state = .unchanged := by
  induction made generalizing s reports with
  | nil => cases h; exact List.forall_mem_nil _
  | cons item rest ih =>
      obtain ⟨report, m, others, rfl, hreport, hothers⟩ := outcome_settleAll_cons h
      refine List.forall_mem_cons.mpr ⟨?_, ih hothers⟩
      obtain ⟨current, -, -, rfl⟩ := reportOf_of_settle hreport
      by_cases hcurrent : current = some item.2.text <;> simp [reportOf, stateOf, hcurrent]

end Settled

/-! ## Preparing again -/

section Again

variable {options : GenerateOptions} {s again : Machine} {table : EnumTable}
  {made : List (Output × Artifact)}

/-- The table that is named can be loaded. -/
theorem loadTable_of_namedTable {path : Option Path}
    (h : NamedTable s.store s.directory path table) :
    ∃ m, outcome (loadTable path) s = (.ok table, m) := by
  cases path with
  | none => cases h; exact ⟨_, rfl⟩
  | some p =>
      obtain ⟨text, hread, hparse⟩ := h
      have hanswer : StateT.run (m := Id) (Disk.read p) s = (.ok text.toUTF8, s) :=
        congrArg (·, s) hread
      exact ⟨_, outcome_loadTable_of_read hanswer hparse⟩

/-- The table that is named stays the same while other files change. -/
theorem NamedTable.of_alters {files directories : Location → Location → Prop}
    {path : Option Path} (h : NamedTable s.store s.directory path table)
    (halters : Alters files directories s again)
    (hapart : ∀ p, path = some p → ¬files s.directory (destination s.directory p)) :
    NamedTable again.store again.directory path table := by
  cases path with
  | none => exact h
  | some p =>
      obtain ⟨text, hread, hparse⟩ := h
      exact ⟨text, readAt_of_alters halters hread (hapart p rfl), hparse⟩

/-- What was prepared once is prepared on any machine with the same table and the same current
directory, whether files are compared or replaced. -/
theorem Prepared.transfer (h : Prepared options s table made) (check : Bool)
    (hhere : again.directory = s.directory)
    (hhome : again.store.isDirectory again.directory = true)
    (htable : NamedTable again.store again.directory options.table table) :
    Prepared { options with check } again table made where
  nonempty := h.nonempty
  distinct := by
    have hdistinct := h.distinct
    rwa [show here s = here again from hhere.symm] at hdistinct
  home := hhome
  loaded := by
    obtain ⟨m, hload⟩ := loadTable_of_namedTable htable
    have hcurrent : outcome Project.currentDirectory again =
        (.ok (pathOf again.directory), again) := by
      refine outcome_request_eq_ok.mpr ?_
      change ((if again.store.isDirectory again.directory then _ else _ : Except _ _), again) = _
      rw [if_pos hhome]
    exact ⟨_, again, m, hcurrent, hload⟩
  outputs := h.outputs
  artifacts := h.artifacts

/-- What was made is what the outputs ask for. -/
theorem Prepared.map_made (h : Prepared options s table made) :
    made.map (Prod.map id Except.ok) =
      options.outputs.map fun o => (o, artifact table options.header o) := by
  rw [← h.outputs, List.map_map]
  refine List.map_congr_left fun item hmem => ?_
  rw [Function.comp, h.artifacts item hmem]
  rfl

/-- There is one way to be prepared. -/
theorem Prepared.unique {table' : EnumTable} {made' : List (Output × Artifact)}
    (h : Prepared options s table made) (h' : Prepared options s table' made') :
    table' = table ∧ made' = made := by
  obtain ⟨p, m, m₁, hhome, hload⟩ := h.loaded
  obtain ⟨p', m', m₁', hhome', hload'⟩ := h'.loaded
  obtain ⟨-, rfl⟩ := Prod.mk.inj (hhome.symm.trans hhome')
  obtain ⟨htable, -⟩ := Prod.mk.inj (hload.symm.trans hload')
  cases htable
  refine ⟨rfl, ?_⟩
  have hinjective : Function.Injective (Prod.map id Except.ok :
      Output × Artifact → Output × Except Failure Artifact) :=
    Function.Injective.prodMap Function.injective_id fun _ _ => Except.ok.inj
  exact List.map_injective_iff.mpr hinjective (h'.map_made.trans h.map_made.symm)

/-- A run that is prepared does nothing but settle its outputs. -/
theorem Prepared.outcome_run (names : ∀ n ∈ s.directory, IsName n)
    (h : Prepared options s table made) :
    ∃ m, Same s m ∧ ∀ reports s', outcome (settleAll options.check made) m = (.ok reports, s') →
      outcome (run options) s = (.ok ⟨table.size, reports⟩, s') := by
  rcases hrun : outcome (run options) s with ⟨result, finish⟩
  rcases Generate.outcome_run (fun _ => names) hrun with
    ⟨hrefused, -⟩ | ⟨table', made', m, hprepared, hsame, hsettled⟩
  · exact absurd hrefused h.not_refused
  obtain ⟨rfl, rfl⟩ := h.unique hprepared
  refine ⟨m, hsame, fun reports s' hsettle => ?_⟩
  rcases hsettled with ⟨failure, -, hfailed⟩ | ⟨reports', rfl, hdone⟩
  · cases hsettle.symm.trans hfailed
  · cases hsettle.symm.trans hdone
    rfl

/-- A run that finds its outputs in place says so and changes nothing. -/
theorem Prepared.run_of_settled (names : ∀ n ∈ s.directory, IsName n)
    (h : Prepared options s table made) (hholds : ∀ item ∈ made,
      s.store.readAt s.directory item.1.path = .ok item.2.text.toUTF8) :
    ∃ after, outcome (run options) s = (.ok ⟨table.size, made.map fun item =>
        reportOf options.check item.1 item.2.text (some item.2.text)⟩, after) ∧ Same s after := by
  obtain ⟨m, hsame, hrun⟩ := h.outcome_run names
  have hkept : ∀ item ∈ made, m.store.readAt m.directory item.1.path =
      .ok item.2.text.toUTF8 := by
    rw [show m.store = s.store from hsame.1, show m.directory = s.directory from hsame.2]
    exact hholds
  obtain ⟨after, hsettle, hsame'⟩ := settleAll_of_settled options.check hkept
  exact ⟨after, hrun _ _ hsettle, trans_of Same hsame hsame'⟩

end Again

/-! ## Runs and checks -/

section Runs

variable {options : GenerateOptions} {start first finish again : Machine} {table : EnumTable}
  {made : List (Output × Artifact)} {reports : List OutputReport}

/-- A check on the disk before a run says what the run will do. -/
theorem Prepared.outcome_check (tree : start.store.Tree)
    (hprepared : Prepared options start table made)
    (hup : ∀ output ∈ options.outputs, Component.up ∉ output.path.components)
    (hsame : Same start first)
    (hsettle : outcome (settleAll false made) first = (.ok reports, finish)) :
    ∃ after, outcome (run { options with check := true }) start =
      (.ok (GenerateReport.checked ⟨table.size, reports⟩), after) ∧ Same start after := by
  have hcheck := hprepared.transfer true rfl hprepared.home hprepared.named
  obtain ⟨m, hsame', hrun⟩ := hcheck.outcome_run (tree.names_of_isDirectory hprepared.home)
  have huntouched : Alters (fun _ _ => False) (fun _ _ => False) start first := hsame.alters
  have hsilent : ∀ item ∈ made, ".." ∉ item.1.path.moves := fun item hmem =>
    Path.up_not_mem_moves (hup item.1 (hprepared.mem_outputs hmem))
  obtain ⟨after, hafter⟩ := settleAll_check_of_settleAll tree hprepared.home huntouched hsame'
    hsilent (fun _ _ => id) hprepared.distinct_made hsettle
  exact ⟨after, hrun _ _ hafter,
    trans_of Same hsame' (relates_of_leads (leads_same_settleAll made) hafter)⟩

/-- On the disk after a run another one finds every output as it should be, and so does a
check. -/
theorem Prepared.outcome_again (tree : start.store.Tree)
    (hprepared : Prepared options start table made)
    (htable : ∀ p, options.table = some p → ∀ output ∈ options.outputs,
      destination start.directory p ≠ destination start.directory output.path)
    (hsame : Same start first)
    (hsettle : outcome (settleAll false made) first = (.ok reports, finish))
    (hagain : Same finish again) (check : Bool) :
    ∃ after, outcome (run { options with check }) again =
      (.ok (GenerateReport.allIn ⟨table.size, reports⟩ (if check then .fresh else .unchanged)),
        after) ∧ Same finish after := by
  have halters := trans_of _ (trans_of _ hsame.alters (alters_of_settleAll hsettle)) hagain.alters
  have hhere : again.directory = start.directory := halters.1
  have hhome : again.store.isDirectory again.directory = true := by
    rw [hhere]
    exact halters.2.grows.isDirectory hprepared.home
  have hnamed : NamedTable again.store again.directory options.table table := by
    refine hprepared.named.of_alters halters fun p hp => not_exists.mpr fun item => ?_
    exact not_and.mpr fun hmem => htable p hp item.1 (hprepared.mem_outputs hmem)
  have hnames : ∀ n ∈ again.directory, IsName n := by
    rw [hhere]
    exact tree.names_of_isDirectory hprepared.home
  have hholds : ∀ item ∈ made, again.store.readAt again.directory item.1.path =
      .ok item.2.text.toUTF8 := by
    rw [show again.store = finish.store from hagain.1,
      show again.directory = finish.directory from hagain.2]
    exact readAt_of_settleAll (hsame.2 ▸ hprepared.distinct_made) hsettle
  have hready := hprepared.transfer check hhere hhome hnamed
  obtain ⟨after, hrun, hkept⟩ := hready.run_of_settled hnames hholds
  refine ⟨after, ?_, trans_of Same hagain hkept⟩
  rw [hrun, GenerateReport.allIn, map_of_settleAll hsettle]
  simp [reportOf, stateOf]

end Runs

variable {options : GenerateOptions} {start finish : Machine} {report : GenerateReport}

/-- What a run leaves that succeeds, for paths without `..` and a table that is no output. It
reports all its outputs in order. A check on the same disk before succeeds and says of each output
what the run will do with it. After the run another one finds every output as it should be and
changes nothing, and so does a check. -/
theorem repeated_run_agrees (tree : start.store.Tree) (hwrite : options.check = false)
    (hup : ∀ output ∈ options.outputs, Component.up ∉ output.path.components)
    (htable : ∀ p, options.table = some p → ∀ output ∈ options.outputs,
      destination start.directory p ≠ destination start.directory output.path)
    (h : outcome (run options) start = (.ok report, finish)) :
    report.outputs.map subjectOf = options.outputs.map (fun o => (o.language, o.path)) ∧
    (∃ after, outcome (run { options with check := true }) start = (.ok report.checked, after) ∧
      after.store = start.store) ∧
    (∀ entry ∈ report.outputs, entry.state = .written ∨ entry.state = .unchanged) ∧
    ∀ again : Machine, again.store = finish.store → again.directory = finish.directory →
      (∃ after, outcome (run options) again = (.ok (report.allIn .unchanged), after) ∧
        after.store = finish.store ∧ after.directory = finish.directory) ∧
      ∃ after, outcome (run { options with check := true }) again =
          (.ok (report.allIn .fresh), after) ∧ after.store = finish.store := by
  have hsubjects := (reports_of_run h).1
  obtain ⟨enums, reports⟩ := report
  obtain ⟨table, made, first, hprepared, hsame, rfl, hsettle⟩ :=
    of_run_eq_ok tree.names_of_isDirectory h
  rw [hwrite] at hsettle
  refine ⟨hsubjects, ?_, state_of_settleAll hsettle, fun again hstore hdirectory => ?_⟩
  · obtain ⟨after, hrun, hkept⟩ := hprepared.outcome_check tree hup hsame hsettle
    exact ⟨after, hrun, hkept.1⟩
  · have hoptions : { options with check := false } = options := by rw [← hwrite]
    have hagain := hprepared.outcome_again tree htable hsame hsettle ⟨hstore, hdirectory⟩
    obtain ⟨after, hrun, hkept⟩ := hagain false
    rw [hoptions] at hrun
    obtain ⟨checked, hcheck, hunchanged⟩ := hagain true
    exact ⟨⟨after, hrun, hkept.1, hkept.2⟩, checked, hcheck, hunchanged.1⟩

/-- The same project again: both outputs are written, as a check says before, and then neither. -/
theorem repeated_run_agrees_panel : ∃ report finish,
    outcome (run Panel.options) Panel.machine = (.ok report, finish) ∧
    report.outputs.map (fun r => (r.language, r.path, r.state)) =
      [(.go, ⟨"./panel.go"⟩, .written), (.rust, ⟨"/w//lib/./panel.rs"⟩, .written)] ∧
    report.outputs.map subjectOf = Panel.options.outputs.map (fun o => (o.language, o.path)) ∧
    (∃ after, outcome (run { Panel.options with check := true }) Panel.machine =
      (.ok report.checked, after)) ∧
    ∃ after, outcome (run Panel.options) finish = (.ok (report.allIn .unchanged), after) ∧
      after.store = finish.store := by
  have tree : Panel.machine.store.Tree := by decide +kernel
  have silent : ∀ output ∈ Panel.options.outputs, Component.up ∉ output.path.components := by
    decide +kernel
  have apart : ∀ output ∈ Panel.options.outputs, destination Panel.machine.directory
      ⟨"panel.toml"⟩ ≠ destination Panel.machine.directory output.path := by
    decide +kernel
  obtain ⟨report, finish, hrun, hwritten⟩ := Panel.exists_written
  obtain ⟨hsubjects, ⟨checked, hcheck, -⟩, -, hagain⟩ := repeated_run_agrees tree rfl silent
    (fun p hp => Option.some.inj hp ▸ apart) hrun
  obtain ⟨⟨after, hafter, hkept, -⟩, -⟩ := hagain finish rfl rfl
  exact ⟨report, finish, hrun, hwritten, hsubjects, ⟨checked, hcheck⟩, after, hafter, hkept⟩

end Generate

end EnumBindings
