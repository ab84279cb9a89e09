import EnumBindings.Proofs.Disk.AbsolutePaths
import EnumBindings.Proofs.Path.Ancestors
import EnumBindings.Proofs.Store.Tree
import Mathlib.Data.List.Find

/-!
# Runs from another directory

The settings of a project are found from the current directory upwards, and their paths mean
places below the directory they are found in. Behind that nothing looks at the current directory
but the check that outputs differ, which joins it with absolute paths. So a run from anywhere in a
project does what the run from its root does (`nearest_project_generates`), as long as no file on
the way is taken for the settings.
-/

namespace EnumBindings

open Files
open EnumBindings.Path (IsName destination)
open Machine (pathOf)

namespace Generate

/-! ## Outputs -/

theorem placeless_note (level : LogLevel) (message : String) :
    PlacelessTask (fun _ => True) (note level message : Task (StateM Machine) Unit) :=
  .lift (placeless_log level message)

theorem placeless_settle {output : Output} (h : output.path.isAbsolute = true) (check : Bool)
    (text : String) :
    PlacelessTask (fun _ => True) (settle check output text : Task (StateM Machine) OutputReport) := by
  unfold settle
  refine (placeless_readIfExists h).bind fun current hmoves => ?_
  dsimp only
  split
  · split
    · exact .pure trivial
    · exact (placeless_note _ _).bind fun _ _ => .pure trivial
  · split
    · exact .pure trivial
    · refine (placeless_replace h hmoves text).bind fun _ _ => ?_
      exact (placeless_note _ _).bind fun _ _ => .pure trivial

theorem placeless_settleAll {made : List (Output × Artifact)}
    (h : ∀ item ∈ made, item.1.path.isAbsolute = true) (check : Bool) :
    PlacelessTask (fun _ => True)
      (settleAll check made : Task (StateM Machine) (List OutputReport)) := by
  induction made with
  | nil => exact .pure trivial
  | cons item rest ih =>
      obtain ⟨hitem, hrest⟩ := List.forall_mem_cons.mp h
      refine (placeless_settle hitem check _).bind fun report _ => ?_
      exact (ih hrest).bind fun reports _ => .pure trivial

/-! ## Preparing -/

theorem placeless_loadTable {table : Option Path} (h : ∀ p, table = some p → p.isAbsolute = true) :
    PlacelessTask (fun _ => True) (loadTable table : Task (StateM Machine) EnumTable) := by
  cases table with
  | none => exact (placeless_note _ _).bind fun _ _ => .pure trivial
  | some p =>
      refine .tryCatch ?_ fun failure => .throw _
      refine (PlacelessTask.lift (placeless_readText (h p rfl))).bind fun result _ => ?_
      split
      · exact .throw _
      · split
        · exact .throw _
        · exact (placeless_note _ _).bind fun _ _ => .pure trivial

theorem placeless_noteEnums (language : Language) (enums : List EnumType) :
    PlacelessTask (fun _ => True) (noteEnums language enums : Task (StateM Machine) Unit) := by
  induction enums with
  | nil => exact .pure trivial
  | cons e rest ih => exact (placeless_note _ _).bind fun _ _ => ih

/-- What was made belongs to the outputs. -/
theorem placeless_artifacts (table : EnumTable) (header : Header) (outputs : List Output) :
    PlacelessTask (fun made => made.map Prod.fst = outputs)
      (artifacts table header outputs : Task (StateM Machine) (List (Output × Artifact))) := by
  induction outputs with
  | nil => exact .pure rfl
  | cons output rest ih =>
      have hfirst : PlacelessTask (fun _ => True) (artifacts.liftExcept
          (artifact table header output) : Task (StateM Machine) Artifact) :=
        Placeless.pure fun _ _ => trivial
      refine hfirst.bind fun made _ => ?_
      refine (placeless_noteEnums _ _).bind fun _ _ => ?_
      exact ih.bind fun others hothers => .pure (by rw [List.map_cons, hothers])

end Generate

/-! ## Runs -/

/-- Options of which no path depends on the current directory. -/
structure GenerateOptions.Anchored (options : GenerateOptions) : Prop where
  table : ∀ p, options.table = some p → p.isAbsolute = true
  outputs : ∀ output ∈ options.outputs, output.path.isAbsolute = true

/-- Settings mean places below an absolute directory. -/
theorem Config.anchored_below {root : Path} (h : root.isAbsolute = true) (config : Config) :
    (GenerateOptions.ofConfig (config.below root)).Anchored where
  table := by
    intro p hp
    obtain ⟨q, -, rfl⟩ := Option.map_eq_some_iff.mp hp
    exact Path.isAbsolute_join h
  outputs := by
    intro output houtput
    obtain ⟨o, -, rfl⟩ := List.mem_map.mp houtput
    exact Path.isAbsolute_join h

namespace Generate

theorem outcome_currentDirectory (machine : Machine)
    (home : machine.store.isDirectory machine.directory = true) :
    outcome Project.currentDirectory machine = (.ok (pathOf machine.directory), machine) := by
  refine outcome_request_eq_ok.mpr ?_
  show ((if machine.store.isDirectory machine.directory then _ else _ : Except _ _), machine) = _
  rw [if_pos home]

section Run

variable {options : GenerateOptions} (h : options.Anchored)

include h

/-- Absolute outputs are told apart in the same way from every directory. -/
theorem checkDistinct_of_anchored (here here' : Path) (earlier : List Path) :
    checkDistinct here earlier options.outputs = checkDistinct here' earlier options.outputs := by
  have houtputs := h.outputs
  generalize options.outputs = outputs at houtputs
  induction outputs generalizing earlier with
  | nil => rfl
  | cons output rest ih =>
      obtain ⟨houtput, hrest⟩ := List.forall_mem_cons.mp houtputs
      have hplace : placeOf here output = placeOf here' output := by
        unfold placeOf
        rw [join_of_isAbsolute houtput, join_of_isAbsolute houtput]
      rw [checkDistinct, checkDistinct, hplace, ih _ hrest]

theorem outcome_run_within (machine : Machine) {place : Location}
    (home : machine.store.isDirectory machine.directory = true)
    (home' : machine.store.isDirectory place = true) :
    outcome (run options) (machine.within place) =
      ((outcome (run options) machine).1, (outcome (run options) machine).2.within place) := by
  unfold run
  by_cases hnone : options.outputs.isEmpty = true
  · rw [if_pos hnone, outcome_bind_of_error outcome_throw, outcome_bind_of_error outcome_throw]
  rw [if_neg hnone, outcome_bind_of_ok (outcome_currentDirectory machine home),
    outcome_bind_of_ok (outcome_currentDirectory (machine.within place) home'),
    checkDistinct_of_anchored h _ (pathOf machine.directory)]
  -- from here on no path depends on the current directory
  refine PlacelessTask.outcome_within (Q := fun _ => True) ?_ machine place
  refine PlacelessTask.bind (Q := fun _ => True) (Placeless.pure fun _ _ => trivial) fun _ _ => ?_
  refine (placeless_loadTable h.table).bind fun table _ => ?_
  refine (placeless_artifacts table options.header options.outputs).bind fun made hmade => ?_
  have hpaths : ∀ item ∈ made, item.1.path.isAbsolute = true := by
    intro item hitem
    apply h.outputs
    rw [← hmade]
    exact List.mem_map_of_mem hitem
  exact (placeless_settleAll hpaths options.check).bind fun reports _ => .pure trivial

end Run

end Generate

/-! ## The nearest settings -/

namespace Project

/-- Looking for the first file of a list changes nothing. -/
theorem run_firstFile (paths : List Path) (machine : Machine) :
    StateT.run (m := Id) (firstFile paths) machine =
      (paths.find? fun p => machine.store.kindAt machine.directory p = some .file, machine) := by
  induction paths with
  | nil => rfl
  | cons p rest ih =>
      rw [firstFile, StateT.run_bind]
      show StateT.run (m := Id) (if machine.store.kindAt machine.directory p = some .file then _
        else _) machine = _
      by_cases hfile : machine.store.kindAt machine.directory p = some .file
      · rw [if_pos hfile, List.find?_cons_of_pos (by simpa using hfile)]
        rfl
      · rw [if_neg hfile, List.find?_cons_of_neg (by simpa using hfile)]
        exact ih

/-- Where settings can be, from a place upwards. -/
def candidates (place : Location) : List Path :=
  (pathOf place).ancestors.map fun directory => directory.join ⟨Config.fileName⟩

/-- The settings nearest to a place. -/
def nearest? (store : Store) (place : Location) : Option Path :=
  (candidates place).find? fun p => store.kindAt place p = some .file

/-- The project of the settings that were found, if there were any. -/
def ofFound : Option Path → Task (StateM Machine) Project
  | some p => load p
  | none => do
    liftM (Journal.log .debug "no Flexgen.toml found; using defaults" : StateM Machine Unit)
    return blank

theorem outcome_choose (machine : Machine)
    (home : machine.store.isDirectory machine.directory = true) :
    outcome (choose none) machine =
      outcome (ofFound (nearest? machine.store machine.directory)) machine := by
  have hfind : outcome (liftM (find? (pathOf machine.directory) : StateM Machine (Option Path)))
      machine = (.ok (nearest? machine.store machine.directory), machine) := by
    rw [outcome_lift, find?, run_firstFile]
    rfl
  unfold choose
  dsimp only
  rw [outcome_bind_of_ok (Generate.outcome_currentDirectory machine home), outcome_bind_of_ok hfind]
  cases nearest? machine.store machine.directory <;> rfl

/-- Settings that can be read are loaded. -/
theorem outcome_load {machine : Machine} (hquiet : Generate.Quiet machine) {p : Path}
    {text : String} {config : Config} (hread : machine.textAt p = .ok text)
    (hparse : Config.ofText text = .ok config) : outcome (load p) machine =
      (.ok ⟨config.below p.directory, some p.directory⟩, machine) := by
  have hrequest : outcome (request ("failed to read config file: " ++ p.shown) (readText p))
      machine = (.ok text, machine) := by
    rw [outcome_request_eq_ok, ← hread]
    exact Machine.run_readText machine p
  unfold load
  rw [outcome_bind_of_ok hrequest, hparse]
  exact outcome_bind_of_ok (hquiet.outcome_note ..)

/-- A project that was found has options that are anchored. -/
theorem placeless_ofFound {found : Option Path}
    (h : ∀ p, found = some p → p.isAbsolute = true ∧ p.moves ≠ []) :
    PlacelessTask (fun project => (GenerateOptions.ofConfig project.config).Anchored)
      (ofFound found) := by
  cases found with
  | none =>
      refine (PlacelessTask.lift (placeless_log _ _)).bind fun _ _ => .pure ?_
      exact ⟨nofun, nofun⟩
  | some p =>
      obtain ⟨habsolute, hmoves⟩ := h p rfl
      have hdirectory : p.directory.isAbsolute = true := by
        rw [(Path.moves_directory p).2 hmoves, habsolute]
      have htext := (placeless_readText habsolute).mono
        (P := fun result => ∀ text, result = .ok text → True) fun _ _ _ _ => trivial
      refine (PlacelessTask.request htext).bind fun text _ => ?_
      split
      · exact .throw _
      · rename_i config _
        refine (PlacelessTask.lift (placeless_log _ _)).bind fun _ _ => .pure ?_
        exact Config.anchored_below hdirectory config

/-- Loading settings changes nothing on the disk. -/
theorem leads_same_ofFound (found : Option Path) :
    Leads Same (fun _ => True) (ofFound found).run := by
  cases found with
  | none => exact leads_task_bind (leads_lift (looks_same.log _ _)) fun _ => .pure trivial
  | some p => exact looks_same.leads_load p

/-! ## From below a project -/

section Nearest

variable {store : Store} {root below : Location}

/-- Settings stand in a directory under their own name. -/
theorem join_fileName {place : Location} (names : ∀ n ∈ place, IsName n) :
    (pathOf place).join ⟨Config.fileName⟩ = pathOf (place ++ [Config.fileName]) :=
  Path.join_pathOf_name names (by decide)

/-- A file is only seen where one stands. -/
theorem exists_file_of_kindAt {current : Location} {p : Path}
    (h : store.kindAt current p = some .file) :
    ∃ bytes, store.find? (destination current p) = some (.file bytes) := by
  unfold Store.kindAt at h
  cases hlocate : store.locate current p with
  | error error => rw [hlocate] at h; cases h
  | ok location =>
      rw [hlocate] at h
      obtain ⟨entry, hentry, hkind⟩ := Option.map_eq_some_iff.mp h
      rw [← Store.locate_eq_ok hlocate, hentry]
      cases entry with
      | directory => cases hkind
      | file bytes => exact ⟨bytes, rfl⟩

theorem nearest?_append (names : ∀ n ∈ root ++ below, IsName n)
    (nearest : ∀ l, root <+: l → l <+: root ++ below → l ≠ root →
      ∀ bytes, store.find? (l ++ [Config.fileName]) ≠ some (.file bytes)) :
    nearest? store (root ++ below) = nearest? store root := by
  obtain ⟨between, hancestors, hbetween⟩ := Path.ancestors_pathOf_append names
  -- no file in between can be taken for settings
  have hnone : (between.map fun l => (pathOf l).join ⟨Config.fileName⟩).find?
      (fun p => store.kindAt (root ++ below) p = some .file) = none := by
    rw [List.find?_eq_none, List.forall_mem_map]
    intro l hl hfile
    obtain ⟨hroot, hinitial, hne⟩ := hbetween l hl
    have hnames : ∀ n ∈ l, IsName n := fun n hn => names n (hinitial.subset hn)
    obtain ⟨bytes, hbytes⟩ := exists_file_of_kindAt (of_decide_eq_true hfile)
    rw [Path.destination_join_pathOf hnames] at hbytes
    exact nearest l hroot hinitial hne bytes hbytes
  -- and the candidates above are absolute, so both places see the same of them
  have hsame : (candidates root).find? (fun p => store.kindAt (root ++ below) p = some .file) =
      nearest? store root := by
    refine List.find?_congr fun p hp => ?_
    obtain ⟨q, hq, rfl⟩ := List.mem_map.mp hp
    have habsolute : (q.join ⟨Config.fileName⟩).isAbsolute = true := by
      apply Path.isAbsolute_join
      rw [(Path.moves_of_mem_ancestors hq).2, Path.isAbsolute_pathOf]
    rw [Store.kindAt_of_isAbsolute habsolute store (root ++ below) root]
  unfold nearest? candidates
  rw [hancestors, List.map_append, List.map_map, List.find?_append]
  show ((between.map fun l => (pathOf l).join ⟨Config.fileName⟩).find? _).or _ = _
  rw [hnone]
  exact hsame

/-- Settings that can be seen in the directory itself are the nearest. -/
theorem nearest?_eq_own {place : Location} (names : ∀ n ∈ place, IsName n)
    (h : store.kindAt place (pathOf (place ++ [Config.fileName])) = some .file) :
    nearest? store place = some (pathOf (place ++ [Config.fileName])) := by
  obtain ⟨above, habove⟩ := Path.exists_ancestors_eq_cons (pathOf place)
  unfold nearest? candidates
  rw [habove, List.map_cons, join_fileName names]
  exact List.find?_cons_of_pos (decide_eq_true h)

/-- What is found can be loaded from everywhere. -/
theorem nearest?_eq_some {place : Location} (names : ∀ n ∈ place, IsName n) {p : Path}
    (h : nearest? store place = some p) : p.isAbsolute = true ∧ p.moves ≠ [] := by
  have hmem : p ∈ candidates place := List.mem_of_find?_eq_some h
  obtain ⟨q, hq, rfl⟩ := List.mem_map.mp hmem
  rw [Path.ancestors_pathOf names] at hq
  obtain ⟨l, hl, rfl⟩ := List.mem_map.mp hq
  have hinitial : l <+: place := (List.mem_inits _ _).mp (List.mem_reverse.mp hl)
  have hnames : ∀ n ∈ l ++ [Config.fileName], IsName n :=
    List.forall_mem_append.mpr ⟨fun n hn => names n (hinitial.subset hn), by decide⟩
  rw [join_fileName fun n hn => names n (hinitial.subset hn), Path.moves_pathOf hnames]
  exact ⟨Path.isAbsolute_pathOf _, by simp⟩

end Nearest

end Project

/-! ## Runs from below a project -/

namespace Generate

/-- A run with the nearest settings. -/
def generateNearest (check : Bool) : Task (StateM Machine) GenerateReport := do
  let project ← Project.choose none
  run { GenerateOptions.ofConfig project.config with check }

/-- The root of a project and a directory at or below it, with no file on the way back that
would be taken for the settings of another project. -/
structure InProject (store : Store) (root below : Location) : Prop where
  tree : store.Tree
  settings : ∃ bytes, store.find? (root ++ [Config.fileName]) = some (.file bytes)
  inside : store.isDirectory (root ++ below) = true
  /-- Anything but a file may stand there under the name of settings. -/
  nearest : ∀ l, root <+: l → l <+: root ++ below → l ≠ root →
    ∀ bytes, store.find? (l ++ [Config.fileName]) ≠ some (.file bytes)

section Nearest

variable {start : Machine} {root below : Location} (h : InProject start.store root below)

include h

theorem InProject.isDirectory_root : start.store.isDirectory root = true := by
  obtain ⟨bytes, hbytes⟩ := h.settings
  have hsome : (start.store.find? (root ++ [Config.fileName])).isSome := by
    rw [hbytes]
    rfl
  exact h.tree.isDirectory_of_isPrefix hsome (List.prefix_append _ _) (by simp)

theorem InProject.names : ∀ n ∈ root ++ below, IsName n :=
  h.tree.names_of_isDirectory h.inside

/-- From both directories the same settings are found and loaded in the same way. -/
theorem InProject.outcome_choose :
    outcome (Project.choose none) (start.within root) =
        outcome (Project.ofFound (Project.nearest? start.store root)) (start.within root) ∧
      outcome (Project.choose none) (start.within (root ++ below)) =
        outcome (Project.ofFound (Project.nearest? start.store root))
          (start.within (root ++ below)) := by
  constructor
  · exact Project.outcome_choose (start.within root) h.isDirectory_root
  · have hbelow := Project.outcome_choose (start.within (root ++ below)) h.inside
    rw [Machine.store_within, Machine.directory_within,
      Project.nearest?_append h.names h.nearest] at hbelow
    exact hbelow

/-- A project is used in the same way from its root and from any directory below it: the same
project is chosen, the one in the root if its settings can be seen there, and a run with it gives
the same report or failure and leaves the same machine, but for the current directory. -/
theorem nearest_project_generates :
    (∃ (chosen : Except Failure Project) (loaded : Machine),
      outcome (Project.choose none) (start.within root) = (chosen, loaded.within root) ∧
      outcome (Project.choose none) (start.within (root ++ below)) =
        (chosen, loaded.within (root ++ below)) ∧
      (start.store.kindAt root (pathOf (root ++ [Config.fileName])) = some .file →
        outcome (Project.load (pathOf (root ++ [Config.fileName]))) (start.within root) =
          (chosen, loaded.within root))) ∧
    ∀ check, ∃ (result : Except Failure GenerateReport) (finish : Machine),
      outcome (generateNearest check) (start.within root) = (result, finish.within root) ∧
      outcome (generateNearest check) (start.within (root ++ below)) =
        (result, finish.within (root ++ below)) := by
  obtain ⟨hroot, hbelow⟩ := h.outcome_choose
  have hnames : ∀ n ∈ root, IsName n := fun n hn => h.names n (List.mem_append_left _ hn)
  have hplaceless : PlacelessTask _
      (Project.ofFound (Project.nearest? start.store root)) :=
    Project.placeless_ofFound fun p hp => Project.nearest?_eq_some hnames hp
  rcases hfound : outcome (Project.ofFound (Project.nearest? start.store root)) start with
    ⟨chosen, loaded⟩
  have hwithin (place : Location) :
      outcome (Project.ofFound (Project.nearest? start.store root)) (start.within place) =
        (chosen, loaded.within place) := by
    rw [hplaceless.outcome_within, hfound]
  rw [hwithin] at hroot hbelow
  -- the same project is chosen; a run with it has anchored options
  refine ⟨⟨chosen, loaded, hroot, hbelow, fun hseen => ?_⟩, fun check => ?_⟩
  · rw [Project.nearest?_eq_own hnames hseen] at hwithin
    exact hwithin root
  · unfold generateNearest
    cases chosen with
    | error failure =>
        rw [outcome_bind_of_error hroot, outcome_bind_of_error hbelow]
        exact ⟨_, loaded, rfl, rfl⟩
    | ok project =>
        rw [outcome_bind_of_ok hroot, outcome_bind_of_ok hbelow]
        have hanchored := hplaceless.of_outcome hfound
        have hoptions : { GenerateOptions.ofConfig project.config with check }.Anchored :=
          ⟨hanchored.table, hanchored.outputs⟩
        have hstore : loaded.store = start.store :=
          (relates_of_leads (Project.leads_same_ofFound _) hfound).1
        have home : loaded.store.isDirectory root = true := hstore ▸ h.isDirectory_root
        have hinside : loaded.store.isDirectory (root ++ below) = true := hstore ▸ h.inside
        exact ⟨_, _, outcome_run_within hoptions (loaded.within root) home home,
          outcome_run_within hoptions (loaded.within root) home hinside⟩

end Nearest

end Generate

/-! ## A project with a directory named like settings -/

namespace Panel

open Generate

/-- Settings with relative and absolute paths. -/
def settings : String :=
  "table = \"panel.toml\"\n\n[header]\nlicense = [\"MIT\"]\n\n" ++
  "[[output]]\nlanguage = \"go\"\npath = \"panel.go\"\npackage = \"ui\"\n\n" ++
  "[[output]]\nlanguage = \"rust\"\npath = \"/out/panel.rs\"\n"

/-- What the settings say. -/
def config : Config where
  table := some ⟨"panel.toml"⟩
  license := ["MIT"]
  outputs := [⟨.go, ⟨"panel.go"⟩, some "ui"⟩, ⟨.rust, ⟨"/out/panel.rs"⟩, none⟩]
  libraries := none
  headers := none

/-- The project in `p`. A directory on the way up from `p/a/b` has the name of settings. -/
def nested : Machine :=
  .boot ⟨[(["p"], .directory), (["p", "panel.toml"], .file document.toUTF8),
    (["p", "Flexgen.toml"], .file settings.toUTF8), (["p", "a"], .directory),
    (["p", "a", "Flexgen.toml"], .directory), (["p", "a", "b"], .directory)]⟩ [] ".tmp"

theorem inProject_nested : InProject nested.store ["p"] ["a", "b"] where
  tree := by decide +kernel
  settings := ⟨settings.toUTF8, rfl⟩
  inside := by decide +kernel
  nearest := by
    intro l _ hinitial hne bytes
    have hmem : l ∈ [[], ["p"], ["p", "a"], ["p", "a", "b"]] := (List.mem_inits _ _).mpr hinitial
    simp only [List.mem_cons, List.not_mem_nil, or_false] at hmem
    rcases hmem with rfl | rfl | rfl | rfl
    · nofun
    · exact absurd rfl hne
    · nofun
    · nofun

theorem ofText_settings : Config.ofText settings = .ok config := by
  have hread : (Config.ofText settings).toOption = some config := by decide +kernel
  revert hread
  cases Config.ofText settings <;> simp [Except.toOption]

/-- The settings are loaded with paths below `p`. -/
theorem outcome_load_nested : outcome (Project.load (pathOf ["p", "Flexgen.toml"]))
    (nested.within ["p"]) = (.ok ⟨config.below ⟨"/p"⟩, some ⟨"/p"⟩⟩, nested.within ["p"]) := by
  have hread : (nested.within ["p"]).textAt (pathOf ["p", "Flexgen.toml"]) = .ok settings := by
    rw [Machine.textAt_eq_ok_iff]
    decide +kernel
  have hdirectory : (pathOf ["p", "Flexgen.toml"]).directory = ⟨"/p"⟩ := by decide +kernel
  rw [Project.outcome_load (quiet_of_off rfl) hread ofText_settings, hdirectory]

/-- With these settings a run succeeds. -/
theorem exists_report_nested : ∃ report finish,
    outcome (run (GenerateOptions.ofConfig (config.below ⟨"/p"⟩))) (nested.within ["p"]) =
      (.ok report, finish) := by
  have hhome : outcome Project.currentDirectory (nested.within ["p"]) =
      (.ok ⟨"/p"⟩, nested.within ["p"]) := outcome_request_eq_ok.mpr rfl
  have hquiet : Quiet (nested.within ["p"]) := quiet_of_off rfl
  have hdocument : nested.store.readAt ["p"] ⟨"/p/panel.toml"⟩ = .ok document.toUTF8 := by
    decide +kernel
  have htable : (GenerateOptions.ofConfig (config.below ⟨"/p"⟩)).table = some ⟨"/p/panel.toml"⟩ := by
    decide +kernel
  have hload : outcome (loadTable (GenerateOptions.ofConfig (config.below ⟨"/p"⟩)).table)
      (nested.within ["p"]) = (.ok table, nested.within ["p"]) := by
    rw [htable]
    exact hquiet.outcome_loadTable (congrArg (·, nested.within ["p"]) hdocument) (parse_document _)
  have hdistinct : checkDistinct ⟨"/p"⟩ []
      (GenerateOptions.ofConfig (config.below ⟨"/p"⟩)).outputs = .ok () := by
    decide +kernel
  have hmake : ∀ o ∈ (GenerateOptions.ofConfig (config.below ⟨"/p"⟩)).outputs,
      artifact table (GenerateOptions.ofConfig (config.below ⟨"/p"⟩)).header o = .ok (make o) :=
    fun o _ => artifact_make o
  rw [outcome_run_of_quiet (by decide) hhome hdistinct hload hquiet hmake]
  exact exists_of_isOk (by decide +kernel)

/-- From `p/a/b` the project in `p` is found, and a run succeeds as it does from `p`. -/
theorem nearest_project_generates_nested :
    InProject nested.store ["p"] ["a", "b"] ∧
      outcome (Project.choose none) (nested.within ["p", "a", "b"]) =
        (.ok ⟨config.below ⟨"/p"⟩, some ⟨"/p"⟩⟩, nested.within ["p", "a", "b"]) ∧
      ∃ (report : GenerateReport) (finish : Machine),
        outcome (generateNearest false) (nested.within ["p"]) =
            (.ok report, finish.within ["p"]) ∧
          outcome (generateNearest false) (nested.within ["p", "a", "b"]) =
            (.ok report, finish.within ["p", "a", "b"]) := by
  obtain ⟨⟨chosen, loaded, hroot, hbelow, hload⟩, hgenerate⟩ :=
    nearest_project_generates inProject_nested
  have hseen : nested.store.kindAt ["p"] (pathOf (["p"] ++ ["Flexgen.toml"])) = some .file := by
    decide +kernel
  obtain ⟨rfl, hloaded⟩ := Prod.mk.inj (outcome_load_nested.symm.trans (hload hseen))
  have hnested (place : Location) : loaded.within place = nested.within place := by
    show (loaded.within ["p"]).within place = (nested.within ["p"]).within place
    rw [← hloaded]
  refine ⟨inProject_nested, hbelow.trans (by rw [hnested]; rfl), ?_⟩
  obtain ⟨result, finish, hfirst, hsecond⟩ := hgenerate false
  obtain ⟨report, reached, hrun⟩ := exists_report_nested
  have hsame : outcome (generateNearest false) (nested.within ["p"]) = (.ok report, reached) := by
    rw [generateNearest, outcome_bind_of_ok hroot, hnested]
    exact hrun
  obtain ⟨rfl, -⟩ := Prod.mk.inj (hfirst.symm.trans hsame)
  exact ⟨report, finish, hfirst, hsecond⟩

end Panel

end EnumBindings
