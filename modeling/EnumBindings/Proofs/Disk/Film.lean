import EnumBindings.Proofs.Disk.Lawful

/-!
# Films of a run

A film keeps, behind every request to a disk, the state that the request left. So the frames of a
film are the states that a run can be stopped in, and what holds of all of them holds at every
moment. A film changes nothing about a run: `Shows P G Q x y` says that from a state in `P` a
computation `x` on films does on the disk what `y` does, passes states in `G` only, and ends with a
value and a state in `Q`. It is closed under sequences, like what a run keeps without a film.
-/

namespace EnumBindings

open Files

/-- A disk with the states that the requests so far have left. -/
structure Film (σ : Type) where
  now : σ
  frames : List σ

variable {σ : Type}

namespace Film

/-- A film that begins. -/
def of (s : σ) : Film σ := ⟨s, []⟩

/-- A request with one more frame. -/
def shoot {α : Type} (request : StateM σ α) : StateM (Film σ) α := fun film =>
  let (answer, now) := request.run film.now
  (answer, ⟨now, film.frames ++ [now]⟩)

instance [Disk (StateM σ)] : Disk (StateM (Film σ)) where
  currentDirectory := shoot Disk.currentDirectory
  kind? p := shoot (Disk.kind? p)
  read p := shoot (Disk.read p)
  makeDirectory p := shoot (Disk.makeDirectory p)
  createTemporary p := shoot (Disk.createTemporary p)
  write p bytes := shoot (Disk.write p bytes)
  flush p := shoot (Disk.flush p)
  rename source target := shoot (Disk.rename source target)
  remove p := shoot (Disk.remove p)

end Film

/-! ## Computations -/

/-- From a state in `P` a computation on films does what `y` does on the disk. Every state on the
way is in `G`, and the value and the last state are in `Q`. -/
def Shows {α : Type} (P G : σ → Prop) (Q : α → σ → Prop) (x : StateM (Film σ) α)
    (y : StateM σ α) : Prop :=
  ∀ film : Film σ, P film.now → ∃ frames,
    x.run film = ((y.run film.now).1, ⟨(y.run film.now).2, film.frames ++ frames⟩) ∧
    (∀ m ∈ frames, G m) ∧ Q (y.run film.now).1 (y.run film.now).2

namespace Shows

variable {α β : Type} {P P' G : σ → Prop} {Q Q' : α → σ → Prop} {Q'' : β → σ → Prop}

theorem pure {a : α} (h : ∀ s, P s → Q a s) : Shows P G Q (Pure.pure a) (Pure.pure a) := by
  intro film hstart
  exact ⟨[], by rw [List.append_nil]; rfl, List.forall_mem_nil _, h _ hstart⟩

/-- One request is one frame. -/
theorem shoot {y : StateM σ α} (h : ∀ s, P s → G (y.run s).2 ∧ Q (y.run s).1 (y.run s).2) :
    Shows P G Q (Film.shoot y) y := by
  intro film hstart
  obtain ⟨hframe, hend⟩ := h film.now hstart
  exact ⟨[(y.run film.now).2], rfl, List.forall_mem_singleton.mpr hframe, hend⟩

theorem bind {x : StateM (Film σ) α} {y : StateM σ α} {f : α → StateM (Film σ) β}
    {g : α → StateM σ β} (hx : Shows P G Q x y) (hf : ∀ a, Shows (Q a) G Q'' (f a) (g a)) :
    Shows P G Q'' (x >>= f) (y >>= g) := by
  intro film hstart
  obtain ⟨first, hrun, hfirst, hmiddle⟩ := hx film hstart
  obtain ⟨second, hrest, hsecond, hend⟩ :=
    hf _ ⟨(y.run film.now).2, film.frames ++ first⟩ hmiddle
  refine ⟨first ++ second, ?_, List.forall_mem_append.mpr ⟨hfirst, hsecond⟩, hend⟩
  rw [StateT.run_bind, hrun, ← List.append_assoc]
  exact hrest

theorem mono {x : StateM (Film σ) α} {y : StateM σ α} (h : Shows P G Q x y)
    (hstart : ∀ s, P' s → P s) (hend : ∀ a s, Q a s → Q' a s) : Shows P' G Q' x y := by
  intro film hfilm
  obtain ⟨frames, hrun, hframes, hlast⟩ := h film (hstart _ hfilm)
  exact ⟨frames, hrun, hframes, hend _ _ hlast⟩

end Shows

/-! ## Tasks -/

/-- What holds behind a task: `Q` if it succeeds and `E` if it fails. -/
def Either {α ε : Type} (Q : α → σ → Prop) (E : σ → Prop) : Except ε α → σ → Prop
  | .ok a, s => Q a s
  | .error _, s => E s

theorem Either.cases {α ε : Type} {Q : α → σ → Prop} {E : σ → Prop} {result : Except ε α} {s : σ}
    (h : Either Q E result s) : (∃ a, Q a s) ∨ E s := by
  cases result with
  | ok a => exact .inl ⟨a, h⟩
  | error e => exact .inr h

theorem Either.both {α ε : Type} {P : σ → Prop} {s : σ} (h : P s) (result : Except ε α) :
    Either (fun _ => P) P result s := by
  cases result <;> exact h

namespace Shows

variable {α β : Type} {P G E T : σ → Prop} {Q : α → σ → Prop} {Q' : β → σ → Prop}

theorem task_bind {x : Task (StateM (Film σ)) α} {y : Task (StateM σ) α}
    {f : α → Task (StateM (Film σ)) β} {g : α → Task (StateM σ) β}
    (hx : Shows P G (Either Q E) x.run y.run)
    (hf : ∀ a, Shows (Q a) G (Either Q' E) (f a).run (g a).run) :
    Shows P G (Either Q' E) (x >>= f).run (y >>= g).run := by
  rw [ExceptT.run_bind, ExceptT.run_bind]
  refine hx.bind fun result => ?_
  cases result with
  | ok a => exact hf a
  | error failure => exact .pure fun s hs => hs

theorem lift {x : StateM (Film σ) α} {y : StateM σ α} (h : Shows P G Q x y) :
    Shows P G (Either Q E) (liftM x : Task (StateM (Film σ)) α).run
      (liftM y : Task (StateM σ) α).run := by
  have hok : ∀ a, Shows (Q a) G (Either Q E) (Pure.pure (Except.ok (ε := Failure) a))
      (Pure.pure (Except.ok a)) := fun a => .pure fun s hs => hs
  exact h.bind hok

theorem request {context : String} {x : StateM (Film σ) (Except DiskError α)}
    {y : StateM σ (Except DiskError α)} (h : Shows P G (Either Q E) x y) :
    Shows P G (Either Q E) (request context x).run (request context y).run := by
  refine task_bind (lift h) fun result => ?_
  cases result with
  | ok a => exact .pure fun s hs => hs
  | error e => exact .pure fun s hs => hs

variable [Disk (StateM σ)]

/-- Behind a request that fails the temporary file is removed. -/
theorem requestOrRemove {t : Path} {context : String} {Q : Unit → σ → Prop}
    {x : StateM (Film σ) (Except DiskError Unit)} {y : StateM σ (Except DiskError Unit)}
    (h : Shows P G (Either Q T) x y)
    (hremove : ∀ s, T s → G (StateT.run (m := Id) (Disk.remove t) s).2 ∧
      E (StateT.run (m := Id) (Disk.remove t) s).2) :
    Shows P G (Either Q E) (requestOrRemove t context x).run
      (requestOrRemove t context y).run := by
  refine task_bind (lift h) fun result => ?_
  cases result with
  | ok u => exact .pure fun s hs => hs
  | error e =>
      refine task_bind (lift (.shoot (Q := fun _ => E) hremove)) fun u => ?_
      exact .pure fun s hs => hs

end Shows

/-! ## Directories -/

namespace Shows

variable {P G : σ → Prop} (hkept : ∀ s, P s → G s)

include hkept

/-- A request that stays in `P` shows nothing else. -/
theorem keep {α : Type} {y : StateM σ α} (h : ∀ s, P s → P (y.run s).2) :
    Shows P G (fun _ => P) (Film.shoot y) y :=
  .shoot fun s hs => ⟨hkept _ (h s hs), h s hs⟩

variable [Disk (StateM σ)] (hkind : ∀ q s, P s → P (StateT.run (m := Id) (Disk.kind? q) s).2)

include hkind

section Making

variable {paths : List Path}
  (hmake : ∀ q ∈ paths, ∀ s, P s → P (StateT.run (m := Id) (Disk.makeDirectory q) s).2)

include hmake

theorem makeNearest : Shows P G
    (fun result s => P s ∧ ∀ missing, result = .ok missing → missing ⊆ paths)
    (makeNearest paths) (makeNearest paths) := by
  induction paths with
  | nil =>
      refine .pure fun s hs => ⟨hs, fun missing h => ?_⟩
      cases h
      exact List.Subset.refl _
  | cons q above ih =>
      unfold Files.makeNearest
      by_cases hempty : q.isEmpty = true
      · rw [if_pos hempty, if_pos hempty]
        refine .pure fun s hs => ⟨hs, fun missing h => ?_⟩
        cases h
        exact List.nil_subset _
      rw [if_neg hempty, if_neg hempty]
      refine (keep hkept (hmake q List.mem_cons_self)).bind fun result => ?_
      have hnothing : ∀ s, P s → P s ∧ ∀ missing,
          (Except.ok [] : Except DiskError (List Path)) = .ok missing → missing ⊆ q :: above := by
        intro s hs
        refine ⟨hs, fun missing h => ?_⟩
        cases h
        exact List.nil_subset _
      have hfailed (e : DiskError) : ∀ s, P s → P s ∧ ∀ missing,
          (Except.error e : Except DiskError (List Path)) = .ok missing → missing ⊆ q :: above := by
        intro s hs
        exact ⟨hs, fun missing h => nomatch h⟩
      split
      · exact .pure hnothing
      · refine (ih fun r hr => hmake r (List.mem_cons_of_mem _ hr)).bind fun result => ?_
        cases result with
        | ok missing =>
            refine .pure fun s ⟨hs, hmissing⟩ => ⟨hs, fun all h => ?_⟩
            cases h
            exact List.cons_subset_cons _ (hmissing missing rfl)
        | error e => exact .pure fun s hs => hfailed e s hs.1
      · refine (keep hkept (hkind q)).bind fun kind => ?_
        by_cases hdirectory : kind = some .directory
        · rw [if_pos hdirectory, if_pos hdirectory]
          exact .pure hnothing
        · rw [if_neg hdirectory, if_neg hdirectory]
          exact .pure (hfailed _)
      · exact .pure (hfailed _)

theorem makeAll : Shows P G (fun _ => P) (makeAll paths) (makeAll paths) := by
  induction paths with
  | nil => exact .pure fun s hs => hs
  | cons q rest ih =>
      have hrest := ih fun r hr => hmake r (List.mem_cons_of_mem _ hr)
      unfold Files.makeAll
      refine (keep hkept (hmake q List.mem_cons_self)).bind fun result => ?_
      cases result with
      | ok u => exact hrest
      | error e =>
          refine (keep hkept (hkind q)).bind fun kind => ?_
          split
          · exact hrest
          · exact .pure fun s hs => hs

end Making

theorem makeDirectories {p : Path}
    (hmake : ∀ q ∈ p.ancestors, ∀ s, P s → P (StateT.run (m := Id) (Disk.makeDirectory q) s).2) :
    Shows P G (fun _ => P) (makeDirectories p) (makeDirectories p) := by
  refine (makeNearest hkept hkind hmake).bind fun result => ?_
  cases result with
  | error e => exact .pure fun s hs => hs.1
  | ok missing =>
      -- only directories above the path are made, so the second round stays in `P` like the first
      by_cases hmissing : missing ⊆ p.ancestors
      · have hrest : Shows P G (fun _ => P) (Files.makeAll missing.reverse)
            (Files.makeAll missing.reverse) :=
          makeAll hkept hkind fun q hq => hmake q (hmissing (List.mem_reverse.mp hq))
        exact hrest.mono (fun s hs => hs.1) fun _ _ hs => hs
      · intro film hfilm
        exact absurd (hfilm.2 missing rfl) hmissing

theorem ensureDirectory {p : Path}
    (hmake : ∀ q ∈ p.ancestors, ∀ s, P s → P (StateT.run (m := Id) (Disk.makeDirectory q) s).2) :
    Shows P G (Either (fun _ => P) P) (ensureDirectory p).run (ensureDirectory p).run := by
  refine task_bind (lift (keep hkept (hkind p))) fun kind => ?_
  split
  · refine request ((makeDirectories hkept hkind hmake).mono (fun _ hs => hs) ?_)
    intro result s hs
    cases result <;> exact hs
  · exact .pure fun s hs => hs

end Shows

end EnumBindings
