import EnumBindings.Proofs.Generate.Settle
import Mathlib.Data.List.Nodup

/-!
# What comes before the first output

A run looks for reasons to be refused before it looks at any output: `Refused` lists them, and
nothing of it changes the disk. A run that is not refused has the artifacts of all its outputs,
and then settles them (`outcome_run`).
-/

namespace EnumBindings.Generate

open EnumBindings.Files
open EnumBindings.Path (IsName destination)
open Machine (pathOf)
open Placed (store here)

/-! ## Distinct outputs -/

section Distinct

variable {outputs : List Output}

theorem checkDistinct_eq_ok_iff {here : Path} {earlier : List Path} (h : earlier.Nodup) :
    checkDistinct here earlier outputs = .ok () ↔
      (earlier ++ outputs.map (placeOf here)).Nodup := by
  induction outputs generalizing earlier with
  | nil => simpa [checkDistinct] using h
  | cons output rest ih =>
      rw [checkDistinct, List.map_cons]
      by_cases hmem : placeOf here output ∈ earlier
      · have hagain : ¬(earlier ++ placeOf here output :: rest.map (placeOf here)).Nodup :=
          fun hnodup => (List.nodup_append.mp hnodup).2.2 _ hmem _ List.mem_cons_self rfl
        simp [hmem, hagain]
      · have hmore : (earlier ++ [placeOf here output]).Nodup := by
          rw [← List.concat_eq_append]
          exact List.Nodup.concat hmem h
        simp only [List.contains_eq_mem, hmem, decide_false, Bool.false_eq_true, if_false]
        rw [ih hmore, List.append_assoc, List.singleton_append]

section Absolute

variable {here : Path} (absolute : here.isAbsolute = true)

include absolute

/-- The normal path of an output is the path of its destination. -/
theorem placeOf_eq_pathOf (output : Output) :
    placeOf here output = pathOf (destination (destination [] here) output.path) := by
  rw [placeOf, Path.normalize_eq_pathOf (Path.isAbsolute_join absolute) [],
    Path.destination_join absolute]

/-- Outputs are told apart by text exactly if they lead to different places. -/
theorem checkDistinct_iff_destination :
    checkDistinct here [] outputs = .ok () ↔
      (outputs.map fun output => destination (destination [] here) output.path).Nodup := by
  have hplaces : outputs.map (placeOf here) =
      (outputs.map fun output => destination (destination [] here) output.path).map pathOf := by
    rw [List.map_map]
    exact List.map_congr_left fun output _ => placeOf_eq_pathOf absolute output
  rw [checkDistinct_eq_ok_iff List.nodup_nil, List.nil_append, hplaces]
  refine ⟨.of_map pathOf, List.Nodup.map_on ?_⟩
  intro l hl l' hl' heq
  have hhere : ∀ n ∈ destination [] here, IsName n :=
    Path.isName_of_mem_destination (List.forall_mem_nil _)
  have hnames : ∀ l ∈ outputs.map fun output => destination (destination [] here) output.path,
      ∀ n ∈ l, IsName n :=
    List.forall_mem_map.mpr fun output _ => Path.isName_of_mem_destination hhere
  exact (Path.pathOf_inj (hnames l hl) (hnames l' hl')).mp heq

end Absolute

theorem checkDistinct_pathOf {location : Location} (names : ∀ n ∈ location, IsName n) :
    checkDistinct (pathOf location) [] outputs = .ok () ↔
      (outputs.map fun output => destination location output.path).Nodup := by
  rw [checkDistinct_iff_destination (Path.isAbsolute_pathOf location),
    Path.destination_pathOf names]

end Distinct

variable {σ : Type} [Placed σ] [Disk (StateM σ)] [Journal (StateM σ)] [LawfulDisk σ]

/-! ## The table -/

/-- The table that a run is asked to use: the built-in one, or the one in a file. -/
def NamedTable (store : Store) (here : Location) : Option Path → EnumTable → Prop
  | none, table => table = EnumTable.builtIn
  | some p, table => ∃ text, store.readAt here p = .ok text.toUTF8 ∧
      EnumTable.parse text p.shown = .ok table

theorem namedTable_of_readTable {p : Path} {s s' : σ} {table : EnumTable}
    (h : outcome (readTable p) s = (.ok table, s')) :
    NamedTable (store s) (here s) (some p) table := by
  rw [readTable, outcome_bind_eq_ok] at h
  obtain ⟨result, m, hread, h⟩ := h
  rw [outcome_lift] at hread
  split at h
  · cases h
  rename_i text
  split at h
  · cases h
  rename_i parsed hparse
  rw [outcome_bind_of_ok (outcome_note ..)] at h
  cases h
  obtain ⟨hok, rfl⟩ := Prod.mk.inj hread
  exact ⟨text, readAt_of_readText (Prod.ext (Except.ok.inj hok) rfl), hparse⟩

theorem namedTable_of_loadTable {path : Option Path} {s s' : σ} {table : EnumTable}
    (h : outcome (loadTable path) s = (.ok table, s')) :
    NamedTable (store s) (here s) path table := by
  cases path with
  | none => cases h; rfl
  | some p =>
      rw [loadTable, outcome_tryCatch] at h
      rcases hread : outcome (readTable p) s with ⟨result, m⟩
      rw [hread] at h
      cases result with
      | ok read =>
          cases h
          exact namedTable_of_readTable hread
      | error failure => cases h

omit [Placed σ] [LawfulDisk σ] in
/-- A table that can be read and parsed is loaded, and a note says so. -/
theorem outcome_loadTable_of_read {p : Path} {s m : σ} {text : String} {table : EnumTable}
    (hread : StateT.run (m := Id) (Disk.read p) s = (.ok text.toUTF8, m))
    (hparse : EnumTable.parse text p.shown = .ok table) :
    outcome (loadTable (some p)) s = (.ok table, (StateT.run (m := Id)
      (Journal.log .debug ("loaded enum table from " ++ p.shown) : StateM σ Unit) m).2) := by
  have hlift : outcome (liftM (readText p : StateM σ (Except DiskError String))) s =
      (.ok (.ok text), m) := by
    rw [outcome_lift, run_readText, hread]
    exact congrArg (fun found => (Except.ok found, m)) (decode_eq_ok_iff.mpr rfl)
  rw [loadTable, outcome_tryCatch, readTable, outcome_bind_of_ok hlift]
  dsimp only
  rw [hparse]
  dsimp only
  rw [outcome_bind_of_ok (outcome_note ..)]
  rfl

/-- The current directory is where the state says, and it is there. -/
theorem of_currentDirectory_eq_ok {s s' : σ} {p : Path}
    (h : outcome Project.currentDirectory s = (.ok p, s')) :
    p = pathOf (here s) ∧ (store s).isDirectory (here s) = true := by
  have hlaw := LawfulDisk.currentDirectory s
  rw [outcome_request_eq_ok.mp h] at hlaw
  obtain ⟨hanswer, -⟩ := hlaw.told
  split at hanswer
  · rename_i hdirectory
    cases hanswer
    exact ⟨rfl, hdirectory⟩
  · cases hanswer

/-! ## Artifacts -/

section Artifacts

variable {table : EnumTable} {header : Header} {outputs : List Output}
  {made : List (Output × Artifact)} {s s' : σ} {failure : Failure}

omit [Placed σ] [Disk (StateM σ)] [Journal (StateM σ)] [LawfulDisk σ] in
theorem artifact_eq_ok_iff {output : Output} {made : Artifact} :
    artifact table header output = .ok made ↔
      table.generate (Style.ofLanguage output.language output.package) header = .ok made := by
  rw [artifact]
  cases table.generate (Style.ofLanguage output.language output.package) header <;>
    simp [Except.mapError]

omit [Placed σ] [Disk (StateM σ)] [LawfulDisk σ] in
/-- Notes never fail. -/
theorem outcome_noteEnums (language : Language) (enums : List EnumType) (s : σ) :
    ∃ m, outcome (noteEnums language enums) s = (.ok (), m) := by
  induction enums generalizing s with
  | nil => exact ⟨s, rfl⟩
  | cons e rest ih =>
      rw [noteEnums, outcome_bind_of_ok (outcome_note ..)]
      exact ih _

omit [Placed σ] [Disk (StateM σ)] [LawfulDisk σ] in
/-- Artifacts that were made belong to the outputs in order. -/
theorem of_artifacts_eq_ok (h : outcome (artifacts table header outputs) s = (.ok made, s')) :
    made.map Prod.fst = outputs ∧ ∀ item ∈ made, artifact table header item.1 = .ok item.2 := by
  induction outputs generalizing s made with
  | nil => cases h; exact ⟨rfl, List.forall_mem_nil _⟩
  | cons output rest ih =>
      rw [artifacts, outcome_bind_eq_ok] at h
      obtain ⟨first, m, hfirst, h⟩ := h
      rw [outcome_bind_eq_ok] at h
      obtain ⟨_, m', -, h⟩ := h
      rw [outcome_bind_eq_ok] at h
      obtain ⟨others, m'', hothers, h⟩ := h
      cases h
      obtain ⟨hmap, hall⟩ := ih hothers
      have hartifact : artifact table header output = .ok first := (Prod.mk.inj hfirst).1
      exact ⟨congrArg (output :: ·) hmap, List.forall_mem_cons.mpr ⟨hartifact, hall⟩⟩

omit [Placed σ] [Disk (StateM σ)] [LawfulDisk σ] in
/-- Where artifacts cannot be made, one of them is refused. -/
theorem of_artifacts_eq_error
    (h : outcome (artifacts table header outputs) s = (.error failure, s')) :
    ∃ output ∈ outputs, artifact table header output = .error failure := by
  induction outputs generalizing s with
  | nil => cases h
  | cons output rest ih =>
      rw [artifacts] at h
      rcases outcome_bind_cases h with ⟨_, hfailure, hfirst⟩ | ⟨first, m, -, h⟩
      · cases hfailure
        exact ⟨output, List.mem_cons_self, (Prod.mk.inj hfirst).1⟩
      obtain ⟨m', hnoted⟩ := outcome_noteEnums output.language first.enums m
      rw [outcome_bind_of_ok hnoted] at h
      rcases outcome_bind_cases h with ⟨_, hfailure, hrest⟩ | ⟨others, m'', -, h⟩
      · cases hfailure
        obtain ⟨other, hmem, hother⟩ := ih hrest
        exact ⟨other, List.mem_cons_of_mem _ hmem, hother⟩
      · cases h

end Artifacts

/-! ## Refusals -/

/-- Why a run is refused before it looks at any output. -/
inductive Refused (options : GenerateOptions) (s : σ) : Prop
  | noOutputs (none : options.outputs = [])
  /-- The current directory is not there. -/
  | lost {failure : Failure} {m : σ}
      (home : outcome Project.currentDirectory s = (.error failure, m))
  /-- Two outputs lead to one place. -/
  | coinciding (twice : ¬(options.outputs.map fun o => destination (here s) o.path).Nodup)
  | table {p : Path} {failure : Failure} {m m' : σ}
      (home : outcome Project.currentDirectory s = (.ok p, m))
      (load : outcome (loadTable options.table) m = (.error failure, m'))
  /-- The table cannot be resolved, or the names clash in the language of an output. -/
  | artifact {p : Path} {table : EnumTable} {failure : Failure} {m m' : σ} {output : Output}
      (home : outcome Project.currentDirectory s = (.ok p, m))
      (load : outcome (loadTable options.table) m = (.ok table, m'))
      (asked : output ∈ options.outputs)
      (refuse : artifact table options.header output = .error failure)

/-- A run has its table and its artifacts. -/
structure Prepared (options : GenerateOptions) (s : σ) (table : EnumTable)
    (made : List (Output × Artifact)) : Prop where
  nonempty : options.outputs ≠ []
  distinct : (options.outputs.map fun o => destination (here s) o.path).Nodup
  home : (store s).isDirectory (here s) = true
  loaded : ∃ p m m', outcome Project.currentDirectory s = (.ok p, m) ∧
    outcome (loadTable options.table) m = (.ok table, m')
  outputs : made.map Prod.fst = options.outputs
  artifacts : ∀ item ∈ made, artifact table options.header item.1 = .ok item.2

section Run

variable {options : GenerateOptions} {s s' : σ} {table : EnumTable}
  {made : List (Output × Artifact)}

omit [LawfulDisk σ] in
/-- What is prepared is not refused. -/
theorem Prepared.not_refused (h : Prepared options s table made) : ¬Refused options s := by
  obtain ⟨p, m, m', hhome, hload⟩ := h.loaded
  intro hrefused
  cases hrefused with
  | noOutputs none => exact h.nonempty none
  | lost home => rw [hhome] at home; cases home
  | coinciding twice => exact twice h.distinct
  | table home load =>
      obtain ⟨-, rfl⟩ := Prod.mk.inj (hhome.symm.trans home)
      rw [hload] at load
      cases load
  | artifact home load asked refuse =>
      obtain ⟨-, rfl⟩ := Prod.mk.inj (hhome.symm.trans home)
      obtain ⟨htable, -⟩ := Prod.mk.inj (hload.symm.trans load)
      cases htable
      rw [← h.outputs] at asked
      obtain ⟨item, hmem, rfl⟩ := List.mem_map.mp asked
      rw [h.artifacts item hmem] at refuse
      cases refuse

omit [LawfulDisk σ] in
theorem Prepared.mem_outputs (h : Prepared options s table made) {item : Output × Artifact}
    (hmem : item ∈ made) : item.1 ∈ options.outputs :=
  h.outputs ▸ List.mem_map_of_mem hmem

omit [LawfulDisk σ] in
/-- What was made leads to different places. -/
theorem Prepared.distinct_made (h : Prepared options s table made) :
    (made.map fun item => destination (here s) item.1.path).Nodup := by
  have hdistinct := h.distinct
  rwa [← h.outputs, List.map_map] at hdistinct

/-- The table of a run is the one that its options name. -/
theorem Prepared.named (h : Prepared options s table made) :
    NamedTable (store s) (here s) options.table table := by
  obtain ⟨p, m, m', hhome, hload⟩ := h.loaded
  have hsame := relates_of_leads looks_same.leads_currentDirectory hhome
  rw [← hsame.1, ← hsame.2]
  exact namedTable_of_loadTable hload

/-- A run is refused and leaves the disk, or everything is prepared and then the outputs are
settled. -/
theorem outcome_run {result : Except Failure GenerateReport}
    (names : (store s).isDirectory (here s) = true → ∀ n ∈ here s, IsName n)
    (h : outcome (run options) s = (result, s')) :
    (Refused options s ∧ (∃ failure, result = .error failure) ∧ Same s s') ∨
    ∃ table made m, Prepared options s table made ∧ Same s m ∧
      ((∃ failure, result = .error failure ∧
          outcome (settleAll options.check made) m = (.error failure, s')) ∨
        ∃ reports, result = .ok ⟨table.size, reports⟩ ∧
          outcome (settleAll options.check made) m = (.ok reports, s')) := by
  unfold run at h
  by_cases hnone : options.outputs.isEmpty = true
  · rw [if_pos hnone, outcome_bind_of_error outcome_throw] at h
    cases h
    exact .inl ⟨.noOutputs (List.isEmpty_iff.mp hnone), ⟨_, rfl⟩, refl s⟩
  rw [if_neg hnone] at h
  rcases outcome_bind_cases h with ⟨failure, rfl, hhome⟩ | ⟨p, m₁, hhome, h⟩
  · exact .inl ⟨.lost hhome, ⟨_, rfl⟩, relates_of_leads looks_same.leads_currentDirectory hhome⟩
  have hsame₁ := relates_of_leads looks_same.leads_currentDirectory hhome
  obtain ⟨rfl, hdirectory⟩ := of_currentDirectory_eq_ok hhome
  have hdistinct : checkDistinct (pathOf (here s)) [] options.outputs = .ok () ↔
      (options.outputs.map fun o => destination (here s) o.path).Nodup :=
    checkDistinct_pathOf (names hdirectory)
  rcases outcome_bind_cases h with ⟨failure, rfl, hcheck⟩ | ⟨_, m₂, hcheck, h⟩
  · obtain ⟨hrefuse, rfl⟩ := Prod.mk.inj hcheck
    refine .inl ⟨.coinciding fun hnodup => ?_, ⟨_, rfl⟩, hsame₁⟩
    rw [hdistinct.mpr hnodup] at hrefuse
    cases hrefuse
  obtain ⟨haccept, rfl⟩ := Prod.mk.inj hcheck
  rcases outcome_bind_cases h with ⟨failure, rfl, hload⟩ | ⟨table, m₃, hload, h⟩
  · have hsame₂ := relates_of_leads (looks_same.leads_loadTable options.table) hload
    exact .inl ⟨.table hhome hload, ⟨_, rfl⟩, trans_of Same hsame₁ hsame₂⟩
  have hsame₂ := trans_of Same hsame₁ (relates_of_leads (looks_same.leads_loadTable _) hload)
  rcases outcome_bind_cases h with ⟨failure, rfl, hmade⟩ | ⟨made, m₄, hmade, h⟩
  · obtain ⟨output, hmem, hrefuse⟩ := of_artifacts_eq_error hmade
    exact .inl ⟨.artifact hhome hload hmem hrefuse, ⟨_, rfl⟩,
      trans_of Same hsame₂ (relates_of_leads (looks_same.leads_artifacts _ _ _) hmade)⟩
  have hsame₃ := trans_of Same hsame₂ (relates_of_leads (looks_same.leads_artifacts _ _ _) hmade)
  obtain ⟨houtputs, hartifacts⟩ := of_artifacts_eq_ok hmade
  refine .inr ⟨table, made, m₄, ⟨fun hnil => hnone (List.isEmpty_iff.mpr hnil),
    hdistinct.mp haccept, hdirectory, ⟨_, _, _, hhome, hload⟩, houtputs, hartifacts⟩, hsame₃, ?_⟩
  rcases outcome_bind_cases h with ⟨failure, rfl, hsettle⟩ | ⟨reports, m₅, hsettle, h⟩
  · exact .inl ⟨failure, rfl, hsettle⟩
  · cases h
    exact .inr ⟨reports, rfl, hsettle⟩

/-- A run that succeeds was prepared and has settled its outputs. -/
theorem of_run_eq_ok {report : GenerateReport}
    (names : (store s).isDirectory (here s) = true → ∀ n ∈ here s, IsName n)
    (h : outcome (run options) s = (.ok report, s')) :
    ∃ table made m, Prepared options s table made ∧ Same s m ∧ report.enums = table.size ∧
      outcome (settleAll options.check made) m = (.ok report.outputs, s') := by
  rcases outcome_run names h with ⟨-, ⟨failure, hfailed⟩, -⟩ |
    ⟨table, made, m, hprepared, hsame, ⟨failure, hfailed, -⟩ | ⟨reports, hreport, hsettle⟩⟩
  · cases hfailed
  · cases hfailed
  · cases hreport
    exact ⟨table, made, m, hprepared, hsame, rfl, hsettle⟩

end Run

/-! ## Reports -/

section Reports

variable {s s' : σ}

/-- Which output a report is about. -/
def subjectOf (report : OutputReport) : Language × Path := (report.language, report.path)

omit [Placed σ] [LawfulDisk σ] in
theorem subjectOf_of_settle {check : Bool} {output : Output} {text : String}
    {report : OutputReport}
    (h : outcome (settle check output text) s = (.ok report, s')) :
    subjectOf report = (output.language, output.path) ∧ (report.state = .stale → check = true) := by
  unfold settle at h
  obtain ⟨current, m, -, h⟩ := outcome_bind_eq_ok.mp h
  dsimp only at h
  cases check with
  | true =>
      split at h <;> cases h <;> exact ⟨rfl, fun _ => rfl⟩
  | false =>
      rw [if_neg Bool.false_ne_true, if_neg Bool.false_ne_true] at h
      split at h
      · rw [outcome_bind_of_ok (outcome_note ..)] at h
        cases h
        exact ⟨rfl, nofun⟩
      · obtain ⟨_, m', -, h⟩ := outcome_bind_eq_ok.mp h
        rw [outcome_bind_of_ok (outcome_note ..)] at h
        cases h
        exact ⟨rfl, nofun⟩

omit [Placed σ] [LawfulDisk σ] in
theorem subjectOf_of_settleAll {check : Bool} {made : List (Output × Artifact)}
    {reports : List OutputReport}
    (h : outcome (settleAll check made) s = (.ok reports, s')) :
    reports.map subjectOf = made.map (fun item => (item.1.language, item.1.path)) ∧
      ∀ report ∈ reports, report.state = .stale → check = true := by
  induction made generalizing s reports with
  | nil => cases h; exact ⟨rfl, List.forall_mem_nil _⟩
  | cons item rest ih =>
      obtain ⟨report, m, others, rfl, hreport, hothers⟩ := outcome_settleAll_cons h
      obtain ⟨hsubject, hstale⟩ := subjectOf_of_settle hreport
      obtain ⟨hsubjects, hall⟩ := ih hothers
      refine ⟨?_, List.forall_mem_cons.mpr ⟨hstale, hall⟩⟩
      rw [List.map_cons, List.map_cons, hsubject, hsubjects]

omit [Placed σ] [LawfulDisk σ] in
/-- A run reports its outputs in order, and only a check finds any of them stale. -/
theorem reports_of_run {options : GenerateOptions} {report : GenerateReport}
    (h : outcome (run options) s = (.ok report, s')) :
    report.outputs.map subjectOf = options.outputs.map (fun o => (o.language, o.path)) ∧
      ∀ r ∈ report.outputs, r.state = .stale → options.check = true := by
  unfold run at h
  split at h
  · cases h
  obtain ⟨here, m₁, -, h⟩ := outcome_bind_eq_ok.mp h
  obtain ⟨_, m₂, -, h⟩ := outcome_bind_eq_ok.mp h
  obtain ⟨table, m₃, -, h⟩ := outcome_bind_eq_ok.mp h
  obtain ⟨made, m₄, hmade, h⟩ := outcome_bind_eq_ok.mp h
  obtain ⟨reports, m₅, hsettle, h⟩ := outcome_bind_eq_ok.mp h
  cases h
  obtain ⟨houtputs, -⟩ := of_artifacts_eq_ok hmade
  rw [← houtputs, List.map_map]
  exact subjectOf_of_settleAll hsettle

end Reports

end EnumBindings.Generate
