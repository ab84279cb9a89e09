import EnumBindings.Generate
import EnumBindings.Proofs.Disk.Lawful

/-!
# Relations along a run

What every single request keeps to, whole tasks keep to. `Looks R` says that the requests which
change no file lead along a relation, and `Works R` that all of them do; from the first it follows
for what is read, looked up and noted, from the second for a whole run (`Works.leads_run`).
-/

namespace EnumBindings

open EnumBindings.Files

section Requests

variable {σ : Type} [Disk (StateM σ)] [Journal (StateM σ)]

/-- Requests that change no file lead along a relation. -/
structure Looks (R : σ → σ → Prop) : Prop where
  currentDirectory : Leads R (fun _ => True)
    (Disk.currentDirectory : StateM σ (Except DiskError Path))
  kind? (p : Path) : Leads R (fun _ => True) (Disk.kind? p : StateM σ (Option EntryKind))
  read (p : Path) : Leads R (fun _ => True) (Disk.read p : StateM σ (Except DiskError ByteArray))
  log (level : LogLevel) (message : String) :
    Leads R (fun _ => True) (Journal.log level message : StateM σ Unit)

/-- All requests lead along a relation. -/
structure Works (R : σ → σ → Prop) : Prop extends Looks R where
  makeDirectory (p : Path) :
    Leads R (fun _ => True) (Disk.makeDirectory p : StateM σ (Except DiskError Unit))
  createTemporary (p : Path) :
    Leads R (fun _ => True) (Disk.createTemporary p : StateM σ (Except DiskError Path))
  write (p : Path) (bytes : ByteArray) :
    Leads R (fun _ => True) (Disk.write p bytes : StateM σ (Except DiskError Unit))
  flush (p : Path) : Leads R (fun _ => True) (Disk.flush p : StateM σ (Except DiskError Unit))
  rename (source target : Path) :
    Leads R (fun _ => True) (Disk.rename source target : StateM σ (Except DiskError Unit))
  remove (p : Path) : Leads R (fun _ => True) (Disk.remove p : StateM σ Unit)

end Requests

variable {σ : Type} [Disk (StateM σ)] [Journal (StateM σ)] {R : σ → σ → Prop} [IsPreorder σ R]

/-! ## Looking -/

namespace Looks

variable (h : Looks R)

include h

theorem leads_readText (p : Path) :
    Leads R (fun _ => True) (readText p : StateM σ (Except DiskError String)) := by
  refine (h.read p).bind fun result _ => ?_
  cases result with
  | error e => exact .pure trivial
  | ok bytes =>
      dsimp only
      split <;> exact .pure trivial

theorem leads_readIfExists (p : Path) :
    Leads R (fun _ => True) (readIfExists p : Task (StateM σ) (Option String)).run := by
  refine leads_task_bind (leads_lift (h.leads_readText p)) fun result => ?_
  split <;> exact .pure trivial

theorem leads_currentDirectory :
    Leads R (fun _ => True) (Project.currentDirectory : Task (StateM σ) Path).run :=
  leads_request h.currentDirectory

/-! ### Tables and artifacts -/

theorem leads_note (level : LogLevel) (message : String) :
    Leads R (fun _ => True) (Generate.note level message : Task (StateM σ) Unit).run :=
  leads_lift (h.log level message)

theorem leads_readTable (p : Path) :
    Leads R (fun _ => True) (Generate.readTable p : Task (StateM σ) EnumTable).run := by
  refine leads_task_bind (leads_lift (h.leads_readText p)) fun result => ?_
  split
  · exact .pure trivial
  · split
    · exact .pure trivial
    · exact leads_task_bind (h.leads_note _ _) fun _ => .pure trivial

theorem leads_loadTable (table : Option Path) :
    Leads R (fun _ => True) (Generate.loadTable table : Task (StateM σ) EnumTable).run := by
  cases table with
  | none => exact leads_task_bind (h.leads_note _ _) fun _ => .pure trivial
  | some p => exact leads_tryCatch (h.leads_readTable p) fun _ => .pure trivial

theorem leads_noteEnums (language : Language) (enums : List EnumType) :
    Leads R (fun _ => True) (Generate.noteEnums language enums : Task (StateM σ) Unit).run := by
  induction enums with
  | nil => exact .pure trivial
  | cons e rest ih => exact leads_task_bind (h.leads_note _ _) fun _ => ih

theorem leads_artifacts (table : EnumTable) (header : Header) (outputs : List Output) :
    Leads R (fun _ => True)
      (Generate.artifacts table header outputs : Task (StateM σ) (List (Output × Artifact))).run := by
  induction outputs with
  | nil => exact .pure trivial
  | cons output rest ih =>
      refine leads_task_bind (.pure trivial) fun first => ?_
      refine leads_task_bind (h.leads_noteEnums _ _) fun _ => ?_
      exact leads_task_bind ih fun _ => .pure trivial

/-! ### Projects -/

theorem leads_load (p : Path) :
    Leads R (fun _ => True) (Project.load p : Task (StateM σ) Project).run := by
  refine leads_task_bind (leads_request (h.leads_readText p)) fun text => ?_
  split
  · exact .pure trivial
  · exact leads_task_bind (leads_lift (h.log _ _)) fun _ => .pure trivial

theorem leads_firstFile (paths : List Path) :
    Leads R (fun _ => True) (Project.firstFile paths : StateM σ (Option Path)) := by
  induction paths with
  | nil => exact .pure trivial
  | cons p rest ih =>
      refine (h.kind? p).bind fun kind _ => ?_
      split
      · exact .pure trivial
      · exact ih

theorem leads_choose (given : Option Path) :
    Leads R (fun _ => True) (Project.choose given : Task (StateM σ) Project).run := by
  cases given with
  | some p => exact h.leads_load p
  | none =>
      refine leads_task_bind h.leads_currentDirectory fun here => ?_
      refine leads_task_bind (leads_lift (h.leads_firstFile _)) fun found => ?_
      split
      · exact h.leads_load _
      · exact leads_task_bind (leads_lift (h.log _ _)) fun _ => .pure trivial

end Looks

/-! ## Making directories -/

section Making

omit [Journal (StateM σ)]

section Directories

variable {paths : List Path}
  (hmake : ∀ q ∈ paths, Leads R (fun _ => True)
    (Disk.makeDirectory q : StateM σ (Except DiskError Unit)))
  (hkind : ∀ q, Leads R (fun _ => True) (Disk.kind? q : StateM σ (Option EntryKind)))

include hmake hkind

/-- What is reported as missing is among the directories that were asked for. -/
theorem leads_makeNearest :
    Leads R (fun result => ∀ missing, result = .ok missing → missing ⊆ paths)
      (makeNearest paths : StateM σ (Except DiskError (List Path))) := by
  induction paths with
  | nil => exact .pure fun missing hmissing => by cases hmissing; exact List.Subset.refl _
  | cons q above ih =>
      obtain ⟨hq, habove⟩ := List.forall_mem_cons.mp hmake
      rw [makeNearest]
      split
      · exact .pure fun missing hmissing => by cases hmissing; exact List.nil_subset _
      · refine hq.bind fun result _ => ?_
        split
        · exact .pure fun missing hmissing => by cases hmissing; exact List.nil_subset _
        · refine (ih habove).bind fun result hresult => ?_
          split
          · rename_i missing
            refine .pure fun all hall => ?_
            cases hall
            exact List.cons_subset_cons _ (hresult missing rfl)
          · exact .pure fun missing hmissing => by cases hmissing
        · refine (hkind q).bind fun kind _ => ?_
          split
          · exact .pure fun missing hmissing => by cases hmissing; exact List.nil_subset _
          · exact .pure fun missing hmissing => by cases hmissing
        · exact .pure fun missing hmissing => by cases hmissing

theorem leads_makeAll :
    Leads R (fun _ => True) (makeAll paths : StateM σ (Except DiskError Unit)) := by
  induction paths with
  | nil => exact .pure trivial
  | cons q rest ih =>
      obtain ⟨hq, hrest⟩ := List.forall_mem_cons.mp hmake
      rw [makeAll]
      refine hq.bind fun result _ => ?_
      split
      · exact ih hrest
      · refine (hkind q).bind fun kind _ => ?_
        split
        · exact ih hrest
        · exact .pure trivial

end Directories

/-- Directories are made one by one, all of them above the path or the path itself. -/
theorem leads_makeDirectories {p : Path}
    (hmake : ∀ q ∈ p.ancestors, Leads R (fun _ => True)
      (Disk.makeDirectory q : StateM σ (Except DiskError Unit)))
    (hkind : ∀ q, Leads R (fun _ => True) (Disk.kind? q : StateM σ (Option EntryKind))) :
    Leads R (fun _ => True) (makeDirectories p : StateM σ (Except DiskError Unit)) := by
  refine (leads_makeNearest hmake hkind).bind fun result hresult => ?_
  split
  · rename_i missing
    refine leads_makeAll (fun q hq => ?_) hkind
    exact hmake q (hresult missing rfl (List.mem_reverse.mp hq))
  · exact .pure trivial

end Making

/-! ## Working -/

namespace Works

variable (h : Works R)

include h

theorem leads_ensureDirectory (p : Path) :
    Leads R (fun _ => True) (ensureDirectory p : Task (StateM σ) Unit).run := by
  refine leads_task_bind (leads_lift (h.kind? p)) fun kind => ?_
  split
  · exact leads_request (leads_makeDirectories (fun q _ => h.makeDirectory q) h.kind?)
  · exact .pure trivial

theorem leads_requestOrRemove (temporary : Path) (context : String)
    {answer : StateM σ (Except DiskError Unit)} (hanswer : Leads R (fun _ => True) answer) :
    Leads R (fun _ => True) (requestOrRemove temporary context answer).run := by
  refine leads_task_bind (leads_lift hanswer) fun result => ?_
  split
  · exact .pure trivial
  · exact leads_task_bind (leads_lift (h.remove temporary)) fun _ => .pure trivial

theorem leads_replace (p : Path) (text : String) :
    Leads R (fun _ => True) (replace p text : Task (StateM σ) Unit).run := by
  refine leads_task_bind (h.leads_ensureDirectory _) fun _ => ?_
  refine leads_task_bind (leads_request (h.createTemporary _)) fun temporary => ?_
  refine leads_task_bind (h.leads_requestOrRemove _ _ (h.write _ _)) fun _ => ?_
  refine leads_task_bind (h.leads_requestOrRemove _ _ (h.flush _)) fun _ => ?_
  exact h.leads_requestOrRemove _ _ (h.rename _ _)

theorem leads_settle (check : Bool) (output : Output) (text : String) :
    Leads R (fun _ => True)
      (Generate.settle check output text : Task (StateM σ) OutputReport).run := by
  refine leads_task_bind (h.leads_readIfExists _) fun current => ?_
  dsimp only
  split
  · split
    · exact .pure trivial
    · exact leads_task_bind (h.leads_note _ _) fun _ => .pure trivial
  · split
    · exact .pure trivial
    · refine leads_task_bind (h.leads_replace _ _) fun _ => ?_
      exact leads_task_bind (h.leads_note _ _) fun _ => .pure trivial

theorem leads_settleAll (check : Bool) (made : List (Output × Artifact)) :
    Leads R (fun _ => True)
      (Generate.settleAll check made : Task (StateM σ) (List OutputReport)).run := by
  induction made with
  | nil => exact .pure trivial
  | cons item rest ih =>
      refine leads_task_bind (h.leads_settle check item.1 item.2.text) fun report => ?_
      exact leads_task_bind ih fun reports => .pure trivial

/-- A run keeps to what all requests keep to. -/
theorem leads_run (options : GenerateOptions) :
    Leads R (fun _ => True) (Generate.run options : Task (StateM σ) GenerateReport).run := by
  unfold Generate.run
  split
  · exact Leads.pure (a := Except.error (Failure.of (.complaint .noOutputs))) trivial
  refine leads_task_bind h.leads_currentDirectory fun here => ?_
  refine leads_task_bind (.pure trivial) fun _ => ?_
  refine leads_task_bind (h.leads_loadTable _) fun table => ?_
  refine leads_task_bind (h.leads_artifacts _ _ _) fun made => ?_
  exact leads_task_bind (h.leads_settleAll _ _) fun reports => .pure trivial

end Works

end EnumBindings
