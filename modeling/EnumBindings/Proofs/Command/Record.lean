import EnumBindings.Command.Execute
import EnumBindings.Proofs.Disk.Along
import EnumBindings.Proofs.Disk.Trial

/-!
# What a run writes

A terminal keeps a record of what was written on both outputs. Whatever the disk answers, nothing
that a run does with files writes anything but lines of the log (`works_noted`).
-/

namespace EnumBindings

/-! ## Records -/

/-- What was written so far, and how the log is written. -/
structure Record where
  stdout : String
  stderr : String
  logStyle : LogStyle

/-- Some notes as they stand in the log. -/
def LogStyle.text (style : LogStyle) (notes : List (LogLevel × String)) : String :=
  String.join (notes.map fun note => style.line note.1 note.2)

theorem LogStyle.text_append (style : LogStyle) (notes notes' : List (LogLevel × String)) :
    style.text (notes ++ notes') = style.text notes ++ style.text notes' := by
  rw [text, List.map_append, String.join_append]
  rfl

/-- A state with a terminal in it. -/
class Recorded (σ : Type) where
  record : σ → Record

open Recorded (record)

section States

variable {σ α : Type} [Recorded σ]

/-- A request that writes nothing. -/
def Unwritten (x : StateM σ α) : Prop := ∀ s, record (x.run s).2 = record s

/-- Some text was written on standard output, and nothing but notes on standard error. -/
def Said (text : String) (s s' : σ) : Prop :=
  ∃ notes, record s' = ⟨(record s).stdout ++ text,
    (record s).stderr ++ (record s).logStyle.text notes, (record s).logStyle⟩

/-- Nothing but notes was written. -/
def Noted (s s' : σ) : Prop := Said "" s s'

theorem noted_of_record_eq {s s' : σ} (h : record s' = record s) : Noted s s' := by
  refine ⟨[], ?_⟩
  rw [h, LogStyle.text, List.map_nil, String.join_nil, String.append_empty, String.append_empty]

theorem Said.trans {text text' : String} {s m s' : σ} (h : Said text s m) (h' : Said text' m s') :
    Said (text ++ text') s s' := by
  obtain ⟨notes, hnotes⟩ := h
  obtain ⟨notes', hnotes'⟩ := h'
  refine ⟨notes ++ notes', ?_⟩
  rw [hnotes', hnotes, LogStyle.text_append, String.append_assoc, String.append_assoc]

instance : IsPreorder σ Noted where
  refl _ := noted_of_record_eq rfl
  trans _ _ _ h h' := h.trans h'

end States

/-- A terminal that writes what it is asked to, beside a disk that never writes on it. -/
class LawfulTerminal (σ : Type) [Recorded σ] [Disk (StateM σ)] [Terminal (StateM σ)] : Prop where
  currentDirectory : Unwritten (Disk.currentDirectory : StateM σ (Except DiskError Path))
  kind? (p : Path) : Unwritten (Disk.kind? p : StateM σ (Option EntryKind))
  read (p : Path) : Unwritten (Disk.read p : StateM σ (Except DiskError ByteArray))
  makeDirectory (p : Path) : Unwritten (Disk.makeDirectory p : StateM σ (Except DiskError Unit))
  createTemporary (p : Path) :
    Unwritten (Disk.createTemporary p : StateM σ (Except DiskError Path))
  write (p : Path) (bytes : ByteArray) :
    Unwritten (Disk.write p bytes : StateM σ (Except DiskError Unit))
  flush (p : Path) : Unwritten (Disk.flush p : StateM σ (Except DiskError Unit))
  rename (source target : Path) :
    Unwritten (Disk.rename source target : StateM σ (Except DiskError Unit))
  remove (p : Path) : Unwritten (Disk.remove p : StateM σ Unit)
  isInteractive : Unwritten (Terminal.isInteractive : StateM σ Bool)
  now : Unwritten (Terminal.now : StateM σ Nat)
  startLog (style : LogStyle) (s : σ) :
    record (StateT.run (m := Id) (Terminal.startLog style) s).2 =
      { record s with logStyle := style }
  log (level : LogLevel) (message : String) (s : σ) :
    record (StateT.run (m := Id) (Journal.log level message) s).2 =
      { record s with stderr := (record s).stderr ++ (record s).logStyle.line level message }
  print (text : String) (s : σ) :
    record (StateT.run (m := Id) (Terminal.print text) s).2 =
      { record s with stdout := (record s).stdout ++ text }
  printError (text : String) (s : σ) :
    record (StateT.run (m := Id) (Terminal.printError text) s).2 =
      { record s with stderr := (record s).stderr ++ text }

/-! ## Machines and trials -/

namespace Machine

instance : Recorded Machine where
  record machine := ⟨machine.stdout, machine.stderr, machine.logStyle⟩

theorem unwritten_ask {α : Type} (answer : Store → Location → α) : Unwritten (ask answer) :=
  fun _ => rfl

theorem unwritten_change (request : Store → Location → Except DiskError Store) :
    Unwritten (change request) := by
  intro machine
  rw [run_change]
  cases request machine.store machine.directory <;> rfl

theorem unwritten_createTemporary (p : Path) : Unwritten (createTemporary p) := by
  intro machine
  rw [run_createTemporary]
  split <;> rfl

instance : LawfulTerminal Machine where
  currentDirectory := unwritten_ask _
  kind? _ := unwritten_ask _
  read _ := unwritten_ask _
  makeDirectory _ := unwritten_change _
  createTemporary := unwritten_createTemporary
  write _ _ := unwritten_change _
  flush _ := unwritten_change _
  rename _ _ := unwritten_change _
  remove _ _ := rfl
  isInteractive _ := rfl
  now _ := rfl
  startLog _ _ := rfl
  log _ _ _ := rfl
  print _ _ := rfl
  printError _ _ := rfl

end Machine

namespace Trial

instance : Recorded Trial where
  record trial := record trial.machine

instance : Terminal (StateM Trial) where
  startLog style := always (Terminal.startLog style)
  print text := always (Terminal.print text)
  printError text := always (Terminal.printError text)
  isInteractive := always Terminal.isInteractive
  now := always Terminal.now

theorem unwritten_attempt {α : Type} {refused : Fault → StateM Machine α}
    {request : StateM Machine α} (hrequest : Unwritten request)
    (hrefused : ∀ fault, Unwritten (refused fault)) : Unwritten (attempt refused request) := by
  intro trial
  obtain ⟨given, hgiven, hrun⟩ := run_attempt refused request trial
  rw [hrun]
  rcases hgiven with rfl | ⟨fault, rfl⟩
  · exact hrequest trial.machine
  · exact hrefused fault trial.machine

theorem unwritten_refuse {α : Type} (fault : Fault) :
    Unwritten (refuse fault : StateM Machine (Except DiskError α)) := fun _ => rfl

theorem unwritten_tear (p : Path) (bytes : ByteArray) (fault : Fault) :
    Unwritten (tear p bytes fault) :=
  fun machine => LawfulTerminal.write p (bytes.extract 0 fault.kept) machine

/-- A disk that fails writes nothing either. -/
instance : LawfulTerminal Trial where
  currentDirectory := unwritten_attempt LawfulTerminal.currentDirectory unwritten_refuse
  kind? p := unwritten_attempt (LawfulTerminal.kind? p) fun _ _ => rfl
  read p := unwritten_attempt (LawfulTerminal.read p) unwritten_refuse
  makeDirectory p := unwritten_attempt (LawfulTerminal.makeDirectory p) unwritten_refuse
  createTemporary p := unwritten_attempt (LawfulTerminal.createTemporary p) unwritten_refuse
  write p bytes := unwritten_attempt (LawfulTerminal.write p bytes) (unwritten_tear p bytes)
  flush p := unwritten_attempt (LawfulTerminal.flush p) unwritten_refuse
  rename source target := unwritten_attempt (LawfulTerminal.rename source target) unwritten_refuse
  remove _ _ := rfl
  isInteractive _ := rfl
  now _ := rfl
  startLog _ _ := rfl
  log _ _ _ := rfl
  print _ _ := rfl
  printError _ _ := rfl

end Trial

/-! ## What runs write -/

section Runs

variable {σ : Type} [Recorded σ] [Disk (StateM σ)] [Terminal (StateM σ)] [LawfulTerminal σ]

omit [Disk (StateM σ)] [Terminal (StateM σ)] [LawfulTerminal σ] in
theorem leads_noted_of_unwritten {α : Type} {x : StateM σ α} (h : Unwritten x) :
    Leads Noted (fun _ => True) x :=
  .of_state fun s => noted_of_record_eq (h s)

theorem leads_noted_log (level : LogLevel) (message : String) :
    Leads Noted (fun _ => True) (Journal.log level message : StateM σ Unit) := by
  refine .of_state fun s => ⟨[(level, message)], ?_⟩
  rw [LawfulTerminal.log]
  simp [LogStyle.text]

/-- No request writes anything but notes, and so no run does, on whatever disk. -/
theorem works_noted : Works (Noted : σ → σ → Prop) where
  currentDirectory := leads_noted_of_unwritten LawfulTerminal.currentDirectory
  kind? p := leads_noted_of_unwritten (LawfulTerminal.kind? p)
  read p := leads_noted_of_unwritten (LawfulTerminal.read p)
  log := leads_noted_log
  makeDirectory p := leads_noted_of_unwritten (LawfulTerminal.makeDirectory p)
  createTemporary p := leads_noted_of_unwritten (LawfulTerminal.createTemporary p)
  write p bytes := leads_noted_of_unwritten (LawfulTerminal.write p bytes)
  flush p := leads_noted_of_unwritten (LawfulTerminal.flush p)
  rename source target := leads_noted_of_unwritten (LawfulTerminal.rename source target)
  remove p := leads_noted_of_unwritten (LawfulTerminal.remove p)

end Runs

end EnumBindings
