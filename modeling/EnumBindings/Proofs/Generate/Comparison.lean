import EnumBindings.Proofs.Elementwise
import EnumBindings.Proofs.Generate.RepeatedRun
import EnumBindings.Proofs.Generate.TableKept
import EnumBindings.Proofs.Store.Fillable
import Mathlib

/-!
# What an output is compared with

A run compares an output with the text of its file. So it compares bytes as long as these are text
(`verdict_of_readable`), and fails at the first output whose file is something else, in a check
and also where the file would be replaced (`verdict_of_not_readable`). For outputs that name files,
or nothing yet, in directories that are there, nothing else can stop a run as soon as temporary
files can be made (`outcome_settleAll_of_fillable`, `compares_text_by_bytes`).
-/

namespace EnumBindings

open EnumBindings.Files
open EnumBindings.Path (IsName destination)
open Machine (pathOf)
open Placed (store here)
open Store (Fillable Temporary)

/-! ## The stem of temporary files -/

namespace Machine

/-- Temporary files are named as before. -/
def SameStem (machine after : Machine) : Prop := after.temporaryStem = machine.temporaryStem

instance : IsPreorder Machine SameStem where
  refl _ := rfl
  trans _ _ _ h h' := h'.trans h

theorem run_change_of_ok {request : Store → Location → Except DiskError Store}
    {machine : Machine} {store : Store}
    (h : request machine.store machine.directory = .ok store) :
    StateT.run (m := Id) (change request) machine = (.ok (), { machine with store }) := by
  rw [run_change, h]

theorem sameStem_change (request : Store → Location → Except DiskError Store) :
    Leads SameStem (fun _ => True) (change request) :=
  .of_state fun machine => by
    change (StateT.run (m := Id) (change request) machine).2.temporaryStem = _
    rw [run_change]
    split <;> rfl

/-- No request changes how temporary files are named. -/
theorem works_sameStem : Works SameStem where
  currentDirectory := .of_state fun _ => rfl
  kind? _ := .of_state fun _ => rfl
  read _ := .of_state fun _ => rfl
  log _ _ := .of_state fun _ => rfl
  makeDirectory _ := sameStem_change _
  createTemporary p := .of_state fun machine => by
    change (StateT.run (m := Id) (createTemporary p) machine).2.temporaryStem = _
    rw [run_createTemporary]
    split <;> rfl
  write _ _ := sameStem_change _
  flush _ := sameStem_change _
  rename _ _ := sameStem_change _
  remove _ := .of_state fun _ => rfl

end Machine

namespace Generate

/-! ## Replacing what can be replaced -/

/-- A temporary file can be made beside a path, whatever some files hold, and can be given the
path for its name. -/
structure Roomy (machine : Machine) (files : Location → Prop) (p : Path) : Prop where
  creates : ∀ store, machine.store.Changes files (fun _ => False) store →
    ∃ made, store.createAt machine.directory machine.temporaryStem
      ((pathOf machine.directory).join p.directory) = .ok made
  /-- The path does not ask for a directory. -/
  nameable : ∃ s, machine.store.slot? machine.directory p = .ok (some s) ∧ s.slash = false

section Replacing

variable {machine : Machine} {files : Location → Prop} {p : Path} {text : String}

theorem outcome_replace_of_fillable (hfill : machine.store.Fillable machine.directory p)
    (hroom : Roomy machine files p) :
    ∃ after, outcome (replace p text) machine = (.ok (), after) ∧
      Alters (fun here l => l = destination here p) (fun _ _ => False) machine after := by
  obtain ⟨s, hslot, hslash⟩ := hroom.nameable
  have hensure : outcome (ensureDirectory p.directory) machine = (.ok (), machine) := by
    have hkind : outcome (liftM (Disk.kind? p.directory : StateM Machine (Option EntryKind)))
        machine = (.ok (some .directory), machine) :=
      congrArg (fun kind => (Except.ok kind, machine)) (Store.kindAt_directory hslot)
    rw [ensureDirectory, outcome_bind_of_ok hkind]
    rfl
  obtain ⟨⟨t, created⟩, hcreate⟩ := hroom.creates machine.store (.refl _)
  have hcreated : StateT.run (m := Id) (Disk.createTemporary p.directory) machine =
      (.ok t, { machine with store := created }) := by
    change StateT.run (m := Id) (Machine.createTemporary p.directory) machine = _
    rw [Machine.run_createTemporary, hcreate]
  obtain ⟨location, hempty⟩ := Store.temporary_of_createAt hcreate
  obtain ⟨filled, hwrite⟩ := Store.writeAt_of_file hempty.found hempty.holds text.toUTF8
  have hfilled := hempty.write hwrite
  have hread : filled.readAt machine.directory t = .ok text.toUTF8 :=
    Store.readAt_eq_ok_iff.mpr ⟨_, hfilled.found, hfilled.holds⟩
  have hkept : machine.store.Changes (· = location) (fun _ => False) filled := hfilled.changes
  have hfree : filled.isDirectory s.location = false := by
    rw [hkept.isDirectory_eq, (Store.location_of_slot? hslot).1]
    exact hfill.isDirectory_eq_false
  obtain ⟨renamed, hrename⟩ := Store.renameAt_of_slot?
    (Store.slot?_of_directories hslot fun l => hkept.grows.isDirectory) hslash hfree
    hfilled.found hfilled.holds
  have hreplaced := hfilled.rename hrename
  refine ⟨{ machine with store := renamed }, ?_, rfl, hreplaced.changes⟩
  have hwritten : StateT.run (m := Id) (Disk.write t text.toUTF8)
      { machine with store := created } = (.ok (), { machine with store := filled }) :=
    Machine.run_change_of_ok hwrite
  have hflushed : StateT.run (m := Id) (Disk.flush t) { machine with store := filled } =
      (.ok (), { machine with store := filled }) :=
    Machine.run_change_of_ok (congrArg (Except.map fun _ => filled) hread)
  have hrenamed : StateT.run (m := Id) (Disk.rename t p) { machine with store := filled } =
      (.ok (), { machine with store := renamed }) :=
    Machine.run_change_of_ok hrename
  unfold replace
  dsimp only
  rw [outcome_bind_of_ok hensure, outcome_bind_of_ok (outcome_request_eq_ok.mpr hcreated),
    outcome_bind_of_ok (outcome_requestOrRemove_eq_ok.mpr hwritten),
    outcome_bind_of_ok (outcome_requestOrRemove_eq_ok.mpr hflushed)]
  exact outcome_requestOrRemove_eq_ok.mpr hrenamed

/-- There is room where the name that temporary files are made from is not in use. -/
theorem roomy_of_free {s t : Store.Slot} {location : Location} {above temporary : Path}
    (hslot : machine.store.slot? machine.directory p = .ok (some s)) (hslash : s.slash = false)
    (habove : (pathOf machine.directory).join p.directory = above)
    (hlocate : machine.store.locate machine.directory above = .ok location)
    (hname : above.join ⟨machine.temporaryStem⟩ = temporary)
    (htemporary : machine.store.slot? machine.directory temporary = .ok (some t))
    (hfile : t.slash = false) (hplace : t.location = location ++ [machine.temporaryStem])
    (hfree : machine.store.find? t.location = none) (hother : ¬files t.location) :
    Roomy machine files p where
  creates store hchanges := by
    subst habove hname
    refine Store.createAt_of_free (hchanges.grows.locate hlocate)
      (Store.slot?_of_directories htemporary fun l => hchanges.grows.isDirectory) hfile hplace ?_
    rw [hchanges.find?_eq hother id, hfree]
  nameable := ⟨s, hslot, hslash⟩

end Replacing

/-! ## Verdicts -/

/-- There is no file, or its bytes are text. -/
def Readable (held : Option ByteArray) : Prop := ∀ bytes ∈ held, ∃ text : String, bytes = text.toUTF8

/-- What becomes of an output by the bytes of its file. -/
def compared (check : Bool) (held : Option ByteArray) (text : String) : OutputState :=
  if held = some text.toUTF8 then if check then .fresh else .unchanged
  else if check then .stale else .written

/-- What is found in a file of some bytes, or where no file is. -/
def textOf (p : Path) : Option ByteArray → Except Failure (Option String)
  | none => .ok none
  | some bytes =>
    match decode bytes with
    | .ok text => .ok (some text)
    | .error e => .error ⟨["failed to read file: " ++ p.shown], .disk e⟩

/-- What a run says of an output. -/
def verdict (check : Bool) (output : Output) (text : String) (held : Option ByteArray) :
    Except Failure OutputReport :=
  (textOf output.path held).map (reportOf check output text)

section Verdict

variable {check : Bool} {output : Output} {text : String} {held : Option ByteArray}

theorem toUTF8_inj {text text' : String} : text.toUTF8 = text'.toUTF8 ↔ text = text' := by
  refine ⟨fun h => ?_, congrArg _⟩
  have hself : decode text.toUTF8 = .ok text := decode_eq_ok_iff.mpr rfl
  rw [h, decode_eq_ok_iff.mpr rfl] at hself
  exact (Except.ok.inj hself).symm

/-- Comparing texts is comparing bytes. -/
theorem verdict_of_readable (h : Readable held) : verdict check output text held =
    .ok ⟨output.language, output.path, Sha256.ofText text, compared check held text⟩ := by
  cases held with
  | none => rfl
  | some bytes =>
      obtain ⟨current, rfl⟩ := h bytes rfl
      rw [verdict, textOf, decode_eq_ok_iff.mpr rfl]
      simp only [Except.map, reportOf, stateOf, compared, Option.some.injEq, toUTF8_inj]

theorem verdict_of_not_readable (h : ¬Readable held) : verdict check output text held =
    .error ⟨["failed to read file: " ++ output.path.shown], .disk .notText⟩ := by
  cases held with
  | none => exact absurd (fun _ hmem => (Option.not_mem_none _ hmem).elim) h
  | some bytes =>
      have hnever : ∀ current, decode bytes ≠ .ok current := fun current hdecode =>
        h fun other hmem => ⟨current, (Option.mem_some_iff.mp hmem) ▸ decode_eq_ok_iff.mp hdecode⟩
      rw [verdict, textOf]
      cases hdecode : decode bytes with
      | ok current => exact absurd hdecode (hnever current)
      | error e =>
          rw [decode] at hdecode
          split at hdecode
          · cases hdecode
          · cases hdecode
            rfl

end Verdict

/-! ## Settling -/

/-- The file of an output. -/
def heldBy (machine : Machine) (output : Output) : Option ByteArray :=
  machine.store.bytesAt? (destination machine.directory output.path)

section Settling

variable {check : Bool} {machine : Machine} {files : Location → Prop}

/-- A path has as much room on a disk where only these files have changed. -/
theorem Roomy.of_changes {after : Machine} {p : Path} (h : Roomy machine files p)
    (hchanges : machine.store.Changes files (fun _ => False) after.store)
    (hhere : after.directory = machine.directory) (hstem : machine.SameStem after) :
    Roomy after files p := by
  obtain ⟨s, hslot, hslash⟩ := h.nameable
  rw [← hhere] at hslot
  refine ⟨fun store hstore => ?_, s,
    Store.slot?_of_directories hslot fun l => hchanges.grows.isDirectory, hslash⟩
  rw [hhere, show after.temporaryStem = machine.temporaryStem from hstem]
  exact h.creates store (hchanges.trans hstore)

theorem outcome_readIfExists_of_fillable {output : Output}
    (hfill : machine.store.Fillable machine.directory output.path) :
    outcome (readIfExists output.path) machine =
      (textOf output.path (heldBy machine output), machine) := by
  rw [Machine.outcome_readIfExists, Machine.textAt, hfill.readAt_eq, heldBy]
  cases machine.store.bytesAt? (destination machine.directory output.path) with
  | none => rfl
  | some bytes =>
      have htext : ((Except.ok bytes : Except DiskError ByteArray) >>= decode) = decode bytes := rfl
      dsimp only
      rw [htext, textOf, decode]
      cases String.fromUTF8? bytes <;> rfl

/-- Settling an output comes to a verdict on its file, and changes no other one. -/
theorem outcome_settle_of_fillable {output : Output} {text : String}
    (hfill : machine.store.Fillable machine.directory output.path)
    (hroom : check = false → Roomy machine files output.path) :
    ∃ after, outcome (settle check output text) machine =
        (verdict check output text (heldBy machine output), after) ∧
      Alters (fun here l => l = destination here output.path) (fun _ _ => False) machine after := by
  have hread := outcome_readIfExists_of_fillable hfill
  rcases hrun : outcome (settle check output text) machine with ⟨result, after⟩
  rcases outcome_settle hrun with ⟨failure, rfl, hfailed⟩ | ⟨current, m, hread', hrest⟩
  · obtain ⟨hfound, rfl⟩ := Prod.mk.inj (hread.symm.trans hfailed)
    exact ⟨_, by rw [verdict, hfound]; rfl, refl _⟩
  obtain ⟨hfound, rfl⟩ := Prod.mk.inj (hread.symm.trans hread')
  rw [verdict, hfound]
  rcases hrest with ⟨-, hsame, rfl⟩ | ⟨hcheck, -, hreplaced⟩
  · exact ⟨_, rfl, hsame.alters⟩
  obtain ⟨done, hreplace, halters⟩ : ∃ done, outcome (replace output.path text) machine =
      (.ok (), done) ∧ Alters (fun here l => l = destination here output.path) (fun _ _ => False)
        machine done := outcome_replace_of_fillable hfill (hroom hcheck)
  rw [hreplace] at hreplaced
  rcases hreplaced with ⟨failure, -, hfailed⟩ | ⟨rfl, m', hdone, hsame⟩
  · cases hfailed
  · cases hdone
    exact ⟨_, rfl, trans_of _ halters hsame.alters⟩

/-- Outputs that can be settled one after the other: each is the file of one path that can be
filled, and holds what was found in the beginning. -/
structure Settleable (check : Bool) (files : Location → Prop) (held : Output → Option ByteArray)
    (made : List (Output × Artifact)) (machine : Machine) : Prop where
  held : ∀ item ∈ made, heldBy machine item.1 = held item.1
  fillable : ∀ item ∈ made, machine.store.Fillable machine.directory item.1.path
  roomy : check = false → ∀ item ∈ made, Roomy machine files item.1.path
  files : ∀ item ∈ made, files (destination machine.directory item.1.path)
  distinct : (made.map fun item => destination machine.directory item.1.path).Nodup

namespace Settleable

variable {held : Output → Option ByteArray} {item : Output × Artifact}
  {made : List (Output × Artifact)}

/-- The first output is settled with a verdict on its file, and the others can be settled then. -/
theorem outcome_settle (h : Settleable check files held (item :: made) machine) :
    ∃ next, outcome (settle check item.1 item.2.text) machine =
        (verdict check item.1 item.2.text (held item.1), next) ∧
      Settleable check files held made next := by
  obtain ⟨hheld, hheldRest⟩ := List.forall_mem_cons.mp h.held
  obtain ⟨hfill, hfillRest⟩ := List.forall_mem_cons.mp h.fillable
  obtain ⟨hfiles, hfilesRest⟩ := List.forall_mem_cons.mp h.files
  obtain ⟨hapart, hdistinct⟩ := List.nodup_cons.mp h.distinct
  obtain ⟨next, hsettle, hhere, hchanges⟩ : ∃ next, outcome (settle check item.1 item.2.text)
      machine = (verdict check item.1 item.2.text (heldBy machine item.1), next) ∧
    Alters (fun here l => l = destination here item.1.path) (fun _ _ => False) machine next :=
    outcome_settle_of_fillable hfill fun hcheck => h.roomy hcheck item List.mem_cons_self
  change next.directory = machine.directory at hhere
  rw [hheld] at hsettle
  have hother : ∀ other ∈ made, destination machine.directory other.1.path ≠
      destination machine.directory item.1.path := fun other hmem heq =>
    hapart (List.mem_map.mpr ⟨other, hmem, heq⟩)
  refine ⟨next, hsettle, fun other hmem => ?_, fun other hmem => ?_, fun hcheck other hmem => ?_,
    hhere ▸ hfilesRest, hhere ▸ hdistinct⟩
  · rw [← hheldRest other hmem, heldBy, heldBy, hhere]
    exact hchanges.bytesAt?_eq (hother other hmem)
  · rw [hhere]
    exact (hfillRest other hmem).of_changes hchanges (hother other hmem)
  · have hroom := h.roomy hcheck other (List.mem_cons_of_mem _ hmem)
    refine hroom.of_changes (hchanges.mono (fun l hl => hl ▸ hfiles) fun _ => id) hhere ?_
    exact relates_of_leads (Machine.works_sameStem.leads_settle check item.1 item.2.text) hsettle

/-- Settling outputs comes to verdicts on their files, up to the first that cannot be read. -/
theorem outcome_settleAll (h : Settleable check files held made machine) :
    ∃ finish, outcome (settleAll check made) machine =
      (made.mapM fun item => verdict check item.1 item.2.text (held item.1), finish) := by
  induction made generalizing machine with
  | nil => exact ⟨machine, rfl⟩
  | cons item rest ih =>
      obtain ⟨next, hsettle, hnext⟩ := h.outcome_settle
      rw [settleAll, List.mapM_cons]
      cases hverdict : verdict check item.1 item.2.text (held item.1) with
      | error failure =>
          rw [hverdict] at hsettle
          exact ⟨next, outcome_bind_of_error hsettle⟩
      | ok report =>
          rw [hverdict] at hsettle
          obtain ⟨finish, hrest⟩ := ih hnext
          refine ⟨finish, ?_⟩
          rw [outcome_bind_of_ok hsettle, outcome_bind, hrest]
          cases rest.mapM fun item => verdict check item.1 item.2.text (held item.1) <;> rfl

end Settleable

end Settling

/-! ## Runs -/

section Runs

variable {options : GenerateOptions} {start finish : Machine} {table : EnumTable}
  {made : List (Output × Artifact)} {result : Except Failure GenerateReport}

/-- The result of a run is told by the files that it finds. -/
theorem Prepared.result_eq (tree : start.store.Tree) (prepared : Prepared options start table made)
    (fillable : ∀ output ∈ options.outputs, start.store.Fillable start.directory output.path)
    (roomy : options.check = false → ∀ output ∈ options.outputs, Roomy start
      (fun l => ∃ o ∈ options.outputs, l = destination start.directory o.path) output.path)
    (h : outcome (run options) start = (result, finish)) :
    result = (made.mapM fun item =>
      verdict options.check item.1 item.2.text (heldBy start item.1)).map
        fun reports => ⟨table.size, reports⟩ := by
  have hlead := relates_of_leads (Machine.works_sameStem.leads_run options) h
  rcases Generate.outcome_run tree.names_of_isDirectory h with
    ⟨hrefused, -⟩ | ⟨table', made', m, hprepared, ⟨hstore, hhere⟩, hsettled⟩
  · exact absurd hrefused prepared.not_refused
  obtain ⟨rfl, rfl⟩ := prepared.unique hprepared
  change m.store = start.store at hstore
  change m.directory = start.directory at hhere
  have hsettleAll : ∃ reports, outcome (settleAll options.check made') m = (reports, finish) ∧
      result = reports.map fun reports => ⟨table'.size, reports⟩ := by
    rcases hsettled with ⟨failure, rfl, hsettle⟩ | ⟨reports, rfl, hsettle⟩
    · exact ⟨_, hsettle, rfl⟩
    · exact ⟨_, hsettle, rfl⟩
  obtain ⟨reports, hsettle, rfl⟩ := hsettleAll
  have hstem : m.temporaryStem = start.temporaryStem :=
    (relates_of_leads (Machine.works_sameStem.leads_settleAll options.check made') hsettle).symm.trans
      hlead
  have hmem : ∀ item ∈ made', item.1 ∈ options.outputs := fun item => prepared.mem_outputs
  have hready : Settleable options.check
      (fun l => ∃ o ∈ options.outputs, l = destination start.directory o.path) (heldBy start)
      made' m := by
    refine ⟨fun item _ => ?_, fun item hitem => ?_, fun hcheck item hitem => ?_,
      fun item hitem => ⟨item.1, hmem item hitem, by rw [hhere]⟩, ?_⟩
    · rw [heldBy, heldBy, hstore, hhere]
    · rw [hstore, hhere]
      exact fillable item.1 (hmem item hitem)
    · refine (roomy hcheck item.1 (hmem item hitem)).of_changes ?_ hhere hstem
      rw [hstore]
      exact .refl _
    · rw [hhere]
      exact prepared.distinct_made
  obtain ⟨finish', hverdicts⟩ := hready.outcome_settleAll
  rw [(Prod.mk.inj (hsettle.symm.trans hverdicts)).1]

/-- What a run finds is text, and then it compares bytes: a run succeeds exactly if the files of its
outputs are text as far as they are there. Then a check finds an output fresh exactly if its file
holds the very bytes of its text, and a run replaces the file unless it holds them. The first file
that is no text makes the run fail. -/
theorem compares_text_by_bytes (tree : start.store.Tree)
    (prepared : Prepared options start table made)
    (fillable : ∀ output ∈ options.outputs, start.store.Fillable start.directory output.path)
    (roomy : options.check = false → ∀ output ∈ options.outputs, Roomy start
      (fun l => ∃ o ∈ options.outputs, l = destination start.directory o.path) output.path) :
    ((∃ report finish, outcome (run options) start = (.ok report, finish)) ↔
      ∀ output ∈ options.outputs, Readable (heldBy start output)) ∧
    (∀ report finish, outcome (run options) start = (.ok report, finish) →
      report = ⟨table.size, made.map fun item => ⟨item.1.language, item.1.path,
        Sha256.ofText item.2.text,
        compared options.check (heldBy start item.1) item.2.text⟩⟩ ∧
      (options.check = false → ∀ item ∈ made,
        finish.store.readAt finish.directory item.1.path = .ok item.2.text.toUTF8)) ∧
    (∀ before item after, made = before ++ item :: after →
      (∀ earlier ∈ before, Readable (heldBy start earlier.1)) → ¬Readable (heldBy start item.1) →
      ∃ finish, outcome (run options) start =
        (.error ⟨["failed to read file: " ++ item.1.path.shown], .disk .notText⟩, finish)) := by
  rcases hrun : outcome (run options) start with ⟨result, finish⟩
  have hresult := prepared.result_eq tree fillable roomy hrun
  have hfailed : ∀ before item after, made = before ++ item :: after →
      (∀ earlier ∈ before, Readable (heldBy start earlier.1)) → ¬Readable (heldBy start item.1) →
      result = .error ⟨["failed to read file: " ++ item.1.path.shown], .disk .notText⟩ := by
    rintro before item after rfl hbefore hitem
    rw [hresult, mapM_eq_error (fun earlier hmem =>
      ⟨_, verdict_of_readable (hbefore earlier hmem)⟩) (verdict_of_not_readable hitem)]
    rfl
  have hreadable : (∀ output ∈ options.outputs, Readable (heldBy start output)) ↔
      ∀ item ∈ made, Readable (heldBy start item.1) := by
    rw [← prepared.outputs, List.forall_mem_map]
  have hcompared : (∀ item ∈ made, Readable (heldBy start item.1)) →
      result = .ok ⟨table.size, made.map fun item => ⟨item.1.language, item.1.path,
        Sha256.ofText item.2.text,
        compared options.check (heldBy start item.1) item.2.text⟩⟩ := by
    intro hall
    rw [hresult, mapM_eq_ok fun item hmem => verdict_of_readable (hall item hmem)]
    rfl
  have hsucceeds : ∀ report, result = .ok report →
      ∀ item ∈ made, Readable (heldBy start item.1) := by
    intro report hok
    refine Classical.byContradiction fun hnot => ?_
    obtain ⟨before, item, after, hsplit, hbefore, hitem⟩ := exists_first_not hnot
    rw [hfailed before item after hsplit hbefore hitem] at hok
    cases hok
  refine ⟨⟨?_, fun hall => ?_⟩, ?_, fun before item after hsplit hbefore hitem => ?_⟩
  · rintro ⟨report, _, hok⟩
    exact hreadable.mpr (hsucceeds report (Prod.mk.inj hok).1)
  · exact ⟨_, finish, congrArg (·, finish) (hcompared (hreadable.mp hall))⟩
  · intro report finish' hok
    obtain ⟨rfl, rfl⟩ := Prod.mk.inj hok
    refine ⟨Except.ok.inj (hcompared (hsucceeds report rfl)), fun hwrite => ?_⟩
    obtain ⟨table', made', m, hprepared, hsame, -, hsettle⟩ :=
      of_run_eq_ok tree.names_of_isDirectory hrun
    obtain ⟨rfl, rfl⟩ := prepared.unique hprepared
    rw [hwrite] at hsettle
    exact readAt_of_settleAll (hsame.2 ▸ hprepared.distinct_made) hsettle
  · exact ⟨finish, congrArg (·, finish) (hfailed before item after hsplit hbefore hitem)⟩

end Runs

end Generate

/-! ## A file in the way -/

namespace Panel

open Generate

/-- The machine with a file where an output goes. -/
def holding (bytes : ByteArray) : Machine :=
  .boot ⟨[(["w"], .directory), (["w", "panel.toml"], .file document.toUTF8),
    (["w", "panel.go"], .file bytes)]⟩ ["w"] ".tmp"

/-- This output. -/
def output : Output := ⟨.go, ⟨"./panel.go"⟩, some "ui"⟩

def single (check : Bool) : GenerateOptions := { options with outputs := [output], check }

variable (bytes : ByteArray) (check : Bool)

theorem readAt_holding :
    (holding bytes).store.readAt (holding bytes).directory ⟨"panel.toml"⟩ = .ok document.toUTF8 := by
  rfl

theorem prepared_holding : Prepared (single check) (holding bytes) table
    ((single check).outputs.map fun o => (o, make o)) where
  nonempty := List.cons_ne_nil _ _
  distinct := List.nodup_singleton _
  home := rfl
  loaded := ⟨⟨"/w"⟩, holding bytes, _, outcome_request_eq_ok.mpr rfl,
    (quiet_of_off rfl).outcome_loadTable (congrArg (·, holding bytes) (readAt_holding bytes))
      (parse_document _)⟩
  outputs := rfl
  artifacts := List.forall_mem_map.mpr fun o _ => artifact_make o

theorem fillable_holding : ∀ output ∈ (single check).outputs,
    (holding bytes).store.Fillable (holding bytes).directory output.path := by
  refine List.forall_mem_singleton.mpr ⟨⟨["w"], "panel.go", false⟩, ?_, .inr ⟨rfl, bytes, rfl⟩⟩
  rfl

theorem roomy_holding : ∀ output ∈ (single check).outputs, Roomy (holding bytes)
    (fun l => ∃ o ∈ (single check).outputs, l = destination (holding bytes).directory o.path)
    output.path := by
  have hslot : (holding bytes).store.slot? (holding bytes).directory ⟨"./panel.go"⟩ =
      .ok (some ⟨["w"], "panel.go", false⟩) := rfl
  have habove : (pathOf ["w"]).join (Path.directory ⟨"./panel.go"⟩) = ⟨"/w/."⟩ := by
    decide +kernel
  have hlocate : (holding bytes).store.locate (holding bytes).directory ⟨"/w/."⟩ =
      .ok ["w"] := rfl
  have hname : Path.join ⟨"/w/."⟩ ⟨".tmp"⟩ = ⟨"/w/./.tmp"⟩ := by decide +kernel
  have htemporary : (holding bytes).store.slot? (holding bytes).directory ⟨"/w/./.tmp"⟩ =
      .ok (some ⟨["w"], ".tmp", false⟩) := rfl
  have hother : ["w", ".tmp"] ≠ destination ["w"] ⟨"./panel.go"⟩ := by decide +kernel
  refine List.forall_mem_singleton.mpr
    (roomy_of_free hslot rfl habove hlocate hname htemporary rfl rfl rfl ?_)
  rintro ⟨o, hmem, heq⟩
  obtain rfl := List.mem_singleton.mp hmem
  exact hother heq

theorem tree_holding : (holding bytes).store.Tree := of_decide_eq_true rfl

/-- A file with another text is replaced. -/
theorem compares_text_panel : ∃ report finish,
    outcome (run (single false)) (holding "before".toUTF8) = (.ok report, finish) ∧
    report.outputs.map OutputReport.state = [.written] ∧
    finish.store.readAt finish.directory output.path = .ok (make output).text.toUTF8 := by
  obtain ⟨hok, hreport, -⟩ := compares_text_by_bytes (tree_holding _) (prepared_holding _ false)
    (fillable_holding _ false) fun _ => roomy_holding _ false
  have hreadable : ∀ output ∈ (single false).outputs,
      Readable (heldBy (holding "before".toUTF8) output) :=
    List.forall_mem_singleton.mpr fun bytes hmem => ⟨"before", (Option.mem_some_iff.mp hmem).symm⟩
  have hother : some "before".toUTF8 ≠ some (make output).text.toUTF8 := by
    intro hsame
    obtain ⟨rest, hopens⟩ :=
      EnumTable.opens_of_generate (artifact_eq_ok_iff.mp (artifact_make output))
    rw [← toUTF8_inj.mp (Option.some.inj hsame)] at hopens
    cases hopens
  obtain ⟨report, finish, hrun⟩ := hok.mpr hreadable
  obtain ⟨hstates, hholds⟩ := hreport report finish hrun
  refine ⟨report, finish, hrun, ?_, ?_⟩
  · have hheld : heldBy (holding "before".toUTF8) output = some "before".toUTF8 := rfl
    rw [hstates]
    simp only [single, List.map_cons, List.map_nil, hheld, compared, if_neg hother,
      Bool.false_eq_true, if_false]
  · exact hholds rfl (output, make output) List.mem_cons_self

/-- A check does not call a file stale that is no text: it fails, although it could compare the
bytes. -/
theorem check_fails_on_binary_file :
    Prepared (single true) (holding ⟨#[255]⟩) table ((single true).outputs.map fun o => (o, make o)) ∧
    (∀ output ∈ (single true).outputs,
      (holding ⟨#[255]⟩).store.Fillable (holding ⟨#[255]⟩).directory output.path) ∧
    ¬∃ report finish, outcome (run (single true)) (holding ⟨#[255]⟩) = (.ok report, finish) := by
  refine ⟨prepared_holding _ true, fillable_holding _ true, ?_⟩
  rintro ⟨report, finish, hrun⟩
  have hresult := (prepared_holding _ true).result_eq (tree_holding _) (fillable_holding _ true)
    (fun hwrite => nomatch hwrite) hrun
  cases hresult

end Panel

end EnumBindings
