import EnumBindings.Files
import EnumBindings.Machine
import EnumBindings.Proofs.Store.Places
import Mathlib.Order.Defs.Unbundled

/-!
# Disks that work on a store

A lawful disk does with every request what the request means for the store behind it, or it fails
and leaves the store alone; only a write may fail half done. A machine is such a disk, and so is a
machine on which requests fail (`Trial`). `Leads` says what a computation may change, whatever it
meets: `Leads Same` that it changes nothing, `Leads (Alters files directories)` that it puts files
and directories only where it may.
-/

namespace EnumBindings

/-- A state with a disk in it: its store and the place of its current directory. -/
class Placed (σ : Type) where
  store : σ → Store
  here : σ → Location

open Placed (store here)

section States

variable {σ : Type} [Placed σ]

/-- The disk stayed as it was. -/
def Same (s s' : σ) : Prop := store s' = store s ∧ here s' = here s

/-- The disk changed at most at some places. Which ones depends on the current directory, which
stayed. -/
def Alters (files directories : Location → Location → Prop) (s s' : σ) : Prop :=
  here s' = here s ∧ (store s).Changes (files (here s)) (directories (here s)) (store s')

instance : IsPreorder σ Same where
  refl _ := ⟨rfl, rfl⟩
  trans _ _ _ h h' := ⟨h'.1.trans h.1, h'.2.trans h.2⟩

variable {files directories files' directories' : Location → Location → Prop} {s s' : σ}

instance : IsPreorder σ (Alters files directories) where
  refl _ := ⟨rfl, .refl _⟩
  trans _ _ _ h h' := ⟨h'.1.trans h.1, h.2.trans (h.1 ▸ h'.2)⟩

theorem Same.alters (h : Same s s') : Alters files directories s s' :=
  ⟨h.2, h.1 ▸ Store.Changes.refl _⟩

theorem Alters.mono (h : Alters files directories s s') (hfiles : ∀ l, files (here s) l →
    files' (here s) l) (hdirectories : ∀ l, directories (here s) l → directories' (here s) l) :
    Alters files' directories' s s' :=
  ⟨h.1, h.2.mono hfiles hdirectories⟩

/-- A request gave what the store gives and left the store that this leaves, or it failed and
left everything. -/
inductive Answered {α : Type} (request : Store → Location → Except DiskError (α × Store))
    (s : σ) : Except DiskError α × σ → Prop
  | done {a : α} {s' : σ} (answer : request (store s) (here s) = .ok (a, store s'))
    (stays : here s' = here s) : Answered request s (.ok a, s')
  | failed {e : DiskError} {s' : σ} (same : Same s s') : Answered request s (.error e, s')

theorem Answered.of_ok {α : Type} {request : Store → Location → Except DiskError (α × Store)}
    {a : α} (h : Answered request s (.ok a, s')) :
    request (store s) (here s) = .ok (a, store s') ∧ here s' = here s := by
  cases h with
  | done answer stays => exact ⟨answer, stays⟩

theorem Answered.of_error {α : Type} {request : Store → Location → Except DiskError (α × Store)}
    {e : DiskError} (h : Answered request s (.error e, s')) : Same s s' := by
  cases h with
  | failed same => exact same

/-- A request that leaves the store. -/
def asking {α : Type} (answer : Store → Location → Except DiskError α) :
    Store → Location → Except DiskError (α × Store) :=
  fun store here => (answer store here).map (·, store)

/-- A request that says nothing. -/
def changing (change : Store → Location → Except DiskError Store) :
    Store → Location → Except DiskError (Unit × Store) :=
  fun store here => (change store here).map ((), ·)

theorem of_map_eq_ok {ε α β : Type} {f : α → β} {x : Except ε α} {b : β}
    (h : x.map f = .ok b) : ∃ a, x = .ok a ∧ f a = b := by
  cases x with
  | ok a => exact ⟨a, rfl, Except.ok.inj h⟩
  | error e => cases h

theorem Answered.told {α : Type} {answer : Store → Location → Except DiskError α} {a : α}
    (h : Answered (asking answer) s (.ok a, s')) :
    answer (store s) (here s) = .ok a ∧ Same s s' := by
  obtain ⟨hanswer, hstays⟩ := h.of_ok
  obtain ⟨b, hb, hpair⟩ := of_map_eq_ok hanswer
  obtain ⟨rfl, hsame⟩ := Prod.mk.inj hpair
  exact ⟨hb, hsame.symm, hstays⟩

theorem Answered.changed {change : Store → Location → Except DiskError Store} {u : Unit}
    (h : Answered (changing change) s (.ok u, s')) :
    change (store s) (here s) = .ok (store s') ∧ here s' = here s := by
  obtain ⟨hanswer, hstays⟩ := h.of_ok
  obtain ⟨after, hafter, hpair⟩ := of_map_eq_ok hanswer
  obtain ⟨-, rfl⟩ := Prod.mk.inj hpair
  exact ⟨hafter, hstays⟩

/-- A request that only asks leaves the disk, whatever comes of it. -/
theorem Answered.same {α : Type} {answer : Store → Location → Except DiskError α}
    {result : Except DiskError α × σ} (h : Answered (asking answer) s result) :
    Same s result.2 := by
  cases h with
  | done answer stays => exact (Answered.told (.done answer stays)).2
  | failed same => exact same

end States

/-- A disk whose requests are those of the store behind it. -/
class LawfulDisk (σ : Type) [Placed σ] [Disk (StateM σ)] [Journal (StateM σ)] : Prop where
  currentDirectory (s : σ) : Answered (asking fun store here =>
      if store.isDirectory here then .ok (Machine.pathOf here) else .error .notFound)
    s (StateT.run (m := Id) Disk.currentDirectory s)
  kind? (p : Path) (s : σ) : Same s (StateT.run (m := Id) (Disk.kind? p) s).2
  read (p : Path) (s : σ) : Answered (asking fun store here => store.readAt here p)
    s (StateT.run (m := Id) (Disk.read p) s)
  makeDirectory (p : Path) (s : σ) : Answered
    (changing fun store here => store.makeDirectoryAt here p)
    s (StateT.run (m := Id) (Disk.makeDirectory p) s)
  /-- The name of a temporary file is made from anything, and its path may start anywhere. -/
  createTemporary (p : Path) (s : σ) : ∃ stem directory, Answered
    (fun store here => store.createAt here stem directory)
    s (StateT.run (m := Id) (Disk.createTemporary p) s)
  /-- A write that fails may have written something else. -/
  write (p : Path) (bytes : ByteArray) (s : σ) :
    Answered (changing fun store here => store.writeAt here p bytes)
      s (StateT.run (m := Id) (Disk.write p bytes) s) ∨
    ∃ e part s', StateT.run (m := Id) (Disk.write p bytes) s = (.error e, s') ∧
      here s' = here s ∧ (store s).writeAt (here s) p part = .ok (store s')
  flush (p : Path) (s : σ) : Same s (StateT.run (m := Id) (Disk.flush p) s).2
  rename (source target : Path) (s : σ) : Answered
    (changing fun store here => store.renameAt here source target)
    s (StateT.run (m := Id) (Disk.rename source target) s)
  remove (p : Path) (s : σ) :
    store (StateT.run (m := Id) (Disk.remove p) s).2 = (store s).removeAt (here s) p ∧
      here (StateT.run (m := Id) (Disk.remove p) s).2 = here s
  log (level : LogLevel) (message : String) (s : σ) :
    Same s (StateT.run (m := Id) (Journal.log level message) s).2

/-! ## What a computation may change -/

/-- From every state a computation leads along a relation to a value with some property. -/
def Leads {σ α : Type} (R : σ → σ → Prop) (Q : α → Prop) (x : StateM σ α) : Prop :=
  ∀ s, R s (x.run s).2 ∧ Q (x.run s).1

namespace Leads

variable {σ α β : Type} {R : σ → σ → Prop} {Q : α → Prop} {Q' : β → Prop}

theorem pure [IsPreorder σ R] {a : α} (h : Q a) : Leads R Q (Pure.pure a) :=
  fun s => ⟨refl s, h⟩

theorem bind [IsPreorder σ R] {x : StateM σ α} {f : α → StateM σ β} (hx : Leads R Q x)
    (hf : ∀ a, Q a → Leads R Q' (f a)) : Leads R Q' (x >>= f) := fun s =>
  have hfirst := hx s
  have hthen := hf _ hfirst.2 (x.run s).2
  ⟨trans_of R hfirst.1 hthen.1, hthen.2⟩

/-- Without a word about the value. -/
theorem of_state {x : StateM σ α} (h : ∀ s, R s (x.run s).2) : Leads R (fun _ => True) x :=
  fun s => ⟨h s, trivial⟩

end Leads

/-! ## Tasks -/

namespace Files

variable {σ α β : Type}

/-- The result of a task on a state, and the state it leaves. -/
def outcome (task : Task (StateM σ) α) (s : σ) : Except Failure α × σ := task.run.run s

variable {x : Task (StateM σ) α} {f : α → Task (StateM σ) β} {s s' : σ} {a : α} {b : β}
  {failure : Failure}

@[simp] theorem outcome_throw :
    outcome (throw failure : Task (StateM σ) α) s = (.error failure, s) := rfl

@[simp] theorem outcome_lift (y : StateM σ α) :
    outcome (liftM y) s = (.ok (y.run s).1, (y.run s).2) := rfl

theorem outcome_bind : outcome (x >>= f) s =
    match outcome x s with
    | (.ok a, m) => outcome (f a) m
    | (.error failure, m) => (.error failure, m) := by
  rw [outcome, ExceptT.run_bind, StateT.run_bind]
  rcases h : x.run.run s with ⟨result, m⟩
  cases result <;> simp only [outcome, h] <;> rfl

theorem outcome_bind_of_ok {m : σ} (h : outcome x s = (.ok a, m)) :
    outcome (x >>= f) s = outcome (f a) m := by
  rw [outcome_bind, h]

theorem outcome_bind_of_error {m : σ} (h : outcome x s = (.error failure, m)) :
    outcome (x >>= f) s = (.error failure, m) := by
  rw [outcome_bind, h]

theorem outcome_tryCatch {y : Failure → Task (StateM σ) α} : outcome (tryCatch x y) s =
    match outcome x s with
    | (.ok a, m) => (.ok a, m)
    | (.error failure, m) => outcome (y failure) m := by
  rw [outcome, ExceptT.run_tryCatch, StateT.run_bind]
  rcases h : x.run.run s with ⟨result, m⟩
  cases result <;> simp only [outcome, h] <;> rfl

/-- A sequence fails in its first part, or its second part decides. -/
theorem outcome_bind_cases {result : Except Failure β} (h : outcome (x >>= f) s = (result, s')) :
    (∃ failure, result = .error failure ∧ outcome x s = (.error failure, s')) ∨
      ∃ a m, outcome x s = (.ok a, m) ∧ outcome (f a) m = (result, s') := by
  rw [outcome_bind] at h
  rcases hx : outcome x s with ⟨first, m⟩
  rw [hx] at h
  cases first with
  | ok a => exact .inr ⟨a, m, rfl, h⟩
  | error failure =>
      obtain ⟨rfl, rfl⟩ := Prod.mk.inj h
      exact .inl ⟨failure, rfl, rfl⟩

/-- A sequence succeeds if both of its parts do. -/
theorem outcome_bind_eq_ok : outcome (x >>= f) s = (.ok b, s') ↔
    ∃ a m, outcome x s = (.ok a, m) ∧ outcome (f a) m = (.ok b, s') := by
  rw [outcome_bind]
  rcases outcome x s with ⟨result, m⟩
  cases result <;> simp

/-- Where a task leads, that is where it ends. -/
theorem relates_of_leads {R : σ → σ → Prop} {Q : Except Failure α → Prop}
    {result : Except Failure α} (h : Leads R Q x.run) (hx : outcome x s = (result, s')) :
    R s s' := by
  have hstate : (x.run.run s).2 = s' := congrArg Prod.snd hx
  exact hstate ▸ (h s).1

theorem leads_lift {R : σ → σ → Prop} [IsPreorder σ R] {y : StateM σ α}
    (h : Leads R (fun _ => True) y) :
    Leads R (fun _ => True) (liftM y : Task (StateM σ) α).run :=
  h.bind fun _ _ => .pure trivial

theorem leads_task_bind {R : σ → σ → Prop} [IsPreorder σ R]
    (hx : Leads R (fun _ => True) x.run) (hf : ∀ a, Leads R (fun _ => True) (f a).run) :
    Leads R (fun _ => True) (x >>= f).run := by
  rw [ExceptT.run_bind]
  refine hx.bind fun result _ => ?_
  cases result with
  | ok a => exact hf a
  | error failure => exact .pure trivial

theorem leads_tryCatch {R : σ → σ → Prop} [IsPreorder σ R] {y : Failure → Task (StateM σ) α}
    (hx : Leads R (fun _ => True) x.run) (hy : ∀ failure, Leads R (fun _ => True) (y failure).run) :
    Leads R (fun _ => True) (tryCatch x y).run := by
  rw [ExceptT.run_tryCatch]
  refine hx.bind fun result _ => ?_
  cases result with
  | ok a => exact .pure trivial
  | error failure => exact hy failure

/-! ## Requests of tasks -/

section Requests

variable {context : String} {answer : StateM σ (Except DiskError α)}

theorem outcome_request : outcome (request context answer) s =
    ((answer.run s).1.mapError fun e => ⟨[context], .disk e⟩, (answer.run s).2) := by
  rw [request, outcome_bind, outcome_lift]
  cases (answer.run s).1 <;> rfl

theorem outcome_request_eq_ok : outcome (request context answer) s = (.ok a, s') ↔
    answer.run s = (.ok a, s') := by
  rw [outcome_request]
  change _ ↔ @Eq (Except DiskError α × σ) (answer.run s) _
  rcases answer.run s with ⟨result, m⟩
  cases result <;> simp [Except.mapError]

theorem outcome_request_eq_error : outcome (request context answer) s = (.error failure, s') ↔
    ∃ e, answer.run s = (.error e, s') ∧ failure = ⟨[context], .disk e⟩ := by
  rw [outcome_request]
  change _ ↔ ∃ e, @Eq (Except DiskError α × σ) (answer.run s) _ ∧ _
  rcases answer.run s with ⟨result, m⟩
  cases result <;> simp [Except.mapError, and_comm, @eq_comm _ failure]

theorem leads_request {R : σ → σ → Prop} [IsPreorder σ R] (h : Leads R (fun _ => True) answer) :
    Leads R (fun _ => True) (request context answer).run := by
  refine leads_task_bind (leads_lift h) fun result => ?_
  split <;> exact .pure trivial

end Requests

end Files

end EnumBindings
