import EnumBindings.Proofs.Disk.Trial
import EnumBindings.Proofs.Store.Requests

/-!
# Computations that do not depend on the current directory

Two runs on one machine that start in different directories are compared request by request: a
computation is `Placeless` if from every directory it gives the same value and leaves the same
machine, but for that directory. Every request about an absolute path is placeless
(`placeless_kind?` to `placeless_remove`), and placeless computations are closed under sequences,
where the next one may rely on a property of the value before it.
-/

namespace EnumBindings

open Files

namespace Machine

/-- A machine with another current directory. -/
def within (machine : Machine) (place : Location) : Machine := { machine with directory := place }

@[simp] theorem store_within (machine : Machine) (place : Location) :
    (machine.within place).store = machine.store := rfl

@[simp] theorem directory_within (machine : Machine) (place : Location) :
    (machine.within place).directory = place := rfl

@[simp] theorem temporaryStem_within (machine : Machine) (place : Location) :
    (machine.within place).temporaryStem = machine.temporaryStem := rfl

end Machine

/-- A computation that gives one value, of which `Q` holds, from every current directory, and
leaves one machine but for that directory. -/
def Placeless {α : Type} (Q : α → Prop) (x : StateM Machine α) : Prop :=
  ∀ machine : Machine, Q (x.run machine).1 ∧
    ∀ place, x.run (machine.within place) = ((x.run machine).1, (x.run machine).2.within place)

namespace Placeless

variable {α β : Type} {Q : α → Prop} {Q' : β → Prop}

theorem pure {a : α} (h : Q a) : Placeless Q (Pure.pure a) := fun _ => ⟨h, fun _ => rfl⟩

theorem bind {x : StateM Machine α} {f : α → StateM Machine β} (hx : Placeless Q x)
    (hf : ∀ a, Q a → Placeless Q' (f a)) : Placeless Q' (x >>= f) := by
  intro machine
  obtain ⟨hvalue, hsame⟩ := hx machine
  obtain ⟨hvalue', hsame'⟩ := hf _ hvalue (x.run machine).2
  refine ⟨hvalue', fun place => ?_⟩
  rw [StateT.run_bind, hsame place]
  exact hsame' place

/-- The value and the machine left have to be named only once for all directories. -/
theorem of_run {x : StateM Machine α} (h : ∀ machine : Machine, ∃ a finish, Q a ∧
    ∀ place, x.run (machine.within place) = (a, Machine.within finish place)) : Placeless Q x := by
  intro machine
  obtain ⟨a, finish, hvalue, hrun⟩ := h machine
  have hhere : x.run machine = (a, finish.within machine.directory) := hrun machine.directory
  rw [hhere]
  exact ⟨hvalue, hrun⟩

theorem mono {P : α → Prop} {x : StateM Machine α} (hx : Placeless Q x) (h : ∀ a, Q a → P a) :
    Placeless P x := fun machine => ⟨h _ (hx machine).1, (hx machine).2⟩

end Placeless

/-! ## Absolute paths -/

namespace Store

variable {p : Path} (h : p.isAbsolute = true) (store : Store) (current current' : Location)

include h

theorem start_of_isAbsolute : start current p = start current' p := by
  unfold start
  rw [if_pos h, if_pos h]

theorem locate_of_isAbsolute : store.locate current p = store.locate current' p := by
  unfold locate
  rw [start_of_isAbsolute h current current']

theorem kindAt_of_isAbsolute : store.kindAt current p = store.kindAt current' p := by
  unfold kindAt
  rw [locate_of_isAbsolute h store current current']

theorem slot?_of_isAbsolute : store.slot? current p = store.slot? current' p := by
  unfold slot?
  rw [start_of_isAbsolute h current current']

end Store

/-! ## Requests -/

section Requests

theorem placeless_ask {α : Type} {answer : Store → Location → α}
    (h : ∀ store current current', answer store current = answer store current') :
    Placeless (fun _ => True) (Machine.ask answer) := by
  intro machine
  refine ⟨trivial, fun place => ?_⟩
  show (answer machine.store place, machine.within place) =
    (answer machine.store machine.directory, machine.within place)
  rw [h machine.store place machine.directory]

theorem placeless_change {request : Store → Location → Except DiskError Store}
    (h : ∀ store current current', request store current = request store current') :
    Placeless (fun _ => True) (Machine.change request) := by
  intro machine
  refine ⟨trivial, fun place => ?_⟩
  rw [Machine.run_change, Machine.run_change, Machine.store_within, Machine.directory_within,
    h machine.store place machine.directory]
  cases request machine.store machine.directory <;> rfl

theorem placeless_log (level : LogLevel) (message : String) :
    Placeless (fun _ => True) (Journal.log level message : StateM Machine Unit) := by
  intro machine
  exact ⟨trivial, fun place => rfl⟩

variable {p : Path} (h : p.isAbsolute = true)

include h

theorem placeless_kind? :
    Placeless (fun _ => True) (Disk.kind? p : StateM Machine (Option EntryKind)) :=
  placeless_ask (Store.kindAt_of_isAbsolute h)

theorem placeless_read :
    Placeless (fun _ => True) (Disk.read p : StateM Machine (Except DiskError ByteArray)) := by
  refine placeless_ask fun store current current' => ?_
  unfold Store.readAt
  rw [Store.locate_of_isAbsolute h store current current']

theorem placeless_makeDirectory :
    Placeless (fun _ => True) (Disk.makeDirectory p : StateM Machine (Except DiskError Unit)) := by
  refine placeless_change fun store current current' => ?_
  unfold Store.makeDirectoryAt
  rw [Store.slot?_of_isAbsolute h store current current']

theorem placeless_write (bytes : ByteArray) :
    Placeless (fun _ => True) (Disk.write p bytes : StateM Machine (Except DiskError Unit)) := by
  refine placeless_change fun store current current' => ?_
  unfold Store.writeAt
  rw [Store.locate_of_isAbsolute h store current current']

theorem placeless_flush :
    Placeless (fun _ => True) (Disk.flush p : StateM Machine (Except DiskError Unit)) := by
  refine placeless_change fun store current current' => ?_
  unfold Store.readAt
  rw [Store.locate_of_isAbsolute h store current current']

theorem placeless_rename {target : Path} (htarget : target.isAbsolute = true) :
    Placeless (fun _ => True)
      (Disk.rename p target : StateM Machine (Except DiskError Unit)) := by
  refine placeless_change fun store current current' => ?_
  unfold Store.renameAt
  rw [Store.locate_of_isAbsolute h store current current',
    Store.slot?_of_isAbsolute htarget store current current']

theorem placeless_remove :
    Placeless (fun _ => True) (Disk.remove p : StateM Machine Unit) := by
  intro machine
  refine ⟨trivial, fun place => ?_⟩
  show ((), { machine.within place with store := machine.store.removeAt place p }) =
    ((), { machine.within place with store := machine.store.removeAt machine.directory p })
  unfold Store.removeAt
  rw [Store.locate_of_isAbsolute h machine.store place machine.directory]

omit h in
/-- Below no directory an absolute path stands for itself. -/
theorem join_of_isAbsolute (h : p.isAbsolute = true) (base : Path) : base.join p = p := by
  unfold Path.join
  rw [if_pos h]

theorem createAt_of_isAbsolute (store : Store) (current current' : Location) (stem : String) :
    store.createAt current stem p = store.createAt current' stem p := by
  unfold Store.createAt
  rw [Store.locate_of_isAbsolute h store current current']
  cases store.locate current' p with
  | error error => simp only [bind, Except.bind]
  | ok here =>
      have hjoined : (p.join ⟨store.freshName here stem⟩).isAbsolute = true :=
        Path.isAbsolute_join h
      simp only [bind, Except.bind, Store.slot?_of_isAbsolute hjoined store current current']

theorem isAbsolute_of_createAt {store after : Store} {current : Location} {stem : String} {t : Path}
    (hcreate : store.createAt current stem p = .ok (t, after)) : t.isAbsolute = true := by
  obtain ⟨here, -, hcreate⟩ := bind_eq_ok_iff.mp hcreate
  obtain ⟨_ | s, -, hcreate⟩ := bind_eq_ok_iff.mp hcreate
  · cases hcreate
  dsimp only at hcreate
  split at hcreate
  · cases hcreate
  split at hcreate
  · cases hcreate
  cases hcreate
  exact Path.isAbsolute_join h

/-- A temporary file has an absolute path, too. -/
theorem placeless_createTemporary :
    Placeless (fun result => ∀ t, result = .ok t → t.isAbsolute = true)
      (Disk.createTemporary p : StateM Machine (Except DiskError Path)) := by
  refine Placeless.of_run fun machine => ?_
  have hsame (place : Location) :
      machine.store.createAt place machine.temporaryStem p =
        machine.store.createAt machine.directory machine.temporaryStem p :=
    createAt_of_isAbsolute h machine.store place machine.directory machine.temporaryStem
  rcases hcreate : machine.store.createAt machine.directory machine.temporaryStem p with
    error | ⟨t, store⟩
  · have hrun (place : Location) :
        StateT.run (m := Id) (Disk.createTemporary p) (machine.within place) =
          (.error (.located error (p.join ⟨machine.temporaryStem⟩)), machine.within place) := by
      show StateT.run (m := Id) (Machine.createTemporary p) (machine.within place) = _
      simp only [Machine.run_createTemporary, join_of_isAbsolute h, Machine.store_within,
        Machine.directory_within, Machine.temporaryStem_within, hsame, hcreate]
    refine ⟨_, machine, ?_, hrun⟩
    intro t ht
    cases ht
  · have hrun (place : Location) :
        StateT.run (m := Id) (Disk.createTemporary p) (machine.within place) =
          (.ok t, { machine with store }.within place) := by
      show StateT.run (m := Id) (Machine.createTemporary p) (machine.within place) = _
      simp only [Machine.run_createTemporary, join_of_isAbsolute h, Machine.store_within,
        Machine.directory_within, Machine.temporaryStem_within, hsame, hcreate]
      rfl
    refine ⟨_, { machine with store }, ?_, hrun⟩
    intro t' ht
    cases ht
    exact isAbsolute_of_createAt h hcreate

end Requests

/-! ## Tasks -/

/-- A task that goes one way from every current directory; `Q` holds of what it succeeds with. -/
def PlacelessTask {α : Type} (Q : α → Prop) (x : Task (StateM Machine) α) : Prop :=
  Placeless (fun result => ∀ a, result = .ok a → Q a) x.run

namespace PlacelessTask

variable {α β : Type} {Q : α → Prop} {Q' : β → Prop}

theorem outcome_within {x : Task (StateM Machine) α} (h : PlacelessTask Q x) (machine : Machine)
    (place : Location) : outcome x (machine.within place) =
      ((outcome x machine).1, (outcome x machine).2.within place) :=
  (h machine).2 place

theorem of_outcome {x : Task (StateM Machine) α} (h : PlacelessTask Q x) {machine m : Machine}
    {a : α} (hx : outcome x machine = (.ok a, m)) : Q a :=
  (h machine).1 a (congrArg Prod.fst hx)

theorem pure {a : α} (h : Q a) : PlacelessTask Q (Pure.pure a) :=
  Placeless.pure fun _ hb => Except.ok.inj hb ▸ h

theorem throw (failure : Failure) : PlacelessTask Q (throw failure) :=
  Placeless.pure fun a ha => by cases ha

theorem lift {y : StateM Machine α} (h : Placeless Q y) : PlacelessTask Q (liftM y) :=
  h.bind fun _ ha => Placeless.pure fun _ hb => Except.ok.inj hb ▸ ha

theorem bind {x : Task (StateM Machine) α} {f : α → Task (StateM Machine) β}
    (hx : PlacelessTask Q x) (hf : ∀ a, Q a → PlacelessTask Q' (f a)) :
    PlacelessTask Q' (x >>= f) := by
  unfold PlacelessTask at *
  rw [ExceptT.run_bind]
  refine Placeless.bind hx fun result hresult => ?_
  cases result with
  | ok a => exact hf a (hresult a rfl)
  | error failure => exact .pure fun b hb => by cases hb

theorem tryCatch {x : Task (StateM Machine) α} {y : Failure → Task (StateM Machine) α}
    (hx : PlacelessTask Q x) (hy : ∀ failure, PlacelessTask Q (y failure)) :
    PlacelessTask Q (tryCatch x y) := by
  unfold PlacelessTask at *
  rw [ExceptT.run_tryCatch]
  refine Placeless.bind hx fun result hresult => ?_
  cases result with
  | ok a => exact .pure hresult
  | error failure => exact hy failure

theorem request {context : String} {answer : StateM Machine (Except DiskError α)}
    (h : Placeless (fun result => ∀ a, result = .ok a → Q a) answer) :
    PlacelessTask Q (Files.request context answer) := by
  refine (lift h).bind fun result hresult => ?_
  split
  · rename_i a
    exact .pure (hresult a rfl)
  · exact .throw _

end PlacelessTask

end EnumBindings
