import EnumBindings.Proofs.Disk.Film
import EnumBindings.Proofs.Disk.Trial
import EnumBindings.Proofs.Files
import EnumBindings.Proofs.Store.Fillable
import EnumBindings.Proofs.Store.TemporaryName

/-!
# Replacing a file at every moment

A replacement makes directories, then a temporary file, fills and flushes it and gives it the name
of the target; where a request fails, the temporary file is removed. So it stands before the
temporary file (`Ready`), at it (`Staged`) or behind it (`Done`). Every request leads from one of
these states to another one, and in none of them does the target hold a part of the text
(`between_of_made` to `between_of_done`). Hence no frame of a film of the replacement shows a part
of it (`shows_replace`, `whole_at_every_moment`).
-/

namespace EnumBindings.Files

open EnumBindings.Path (IsName Spared destination Above)
open Placed (store here)
open Store (temporaryName)

/-! ## What may be seen -/

section Between

variable (p : Path) (bytes : ByteArray) (start now : Trial)

/-- What may be seen while a file is replaced: the target holds what it held or all of the bytes;
beside it there may be one new file, and there may be new directories on the way to it. -/
structure Between : Prop where
  stays : now.machine.directory = start.machine.directory
  contents : now.machine.store.bytesAt? (destination start.machine.directory p) =
      start.machine.store.bytesAt? (destination start.machine.directory p) ∨
    now.machine.store.bytesAt? (destination start.machine.directory p) = some bytes
  /-- Only a path that comes by its own target can make a directory there. -/
  entry : ¬Above start.machine.directory p (destination start.machine.directory p) →
    now.machine.store.find? (destination start.machine.directory p) =
        start.machine.store.find? (destination start.machine.directory p) ∨
      now.machine.store.find? (destination start.machine.directory p) = some (.file bytes)
  others : ∃ temporary : Option Location,
    (∀ l ∈ temporary, l.dropLast = destination start.machine.directory p.directory ∧
      l ≠ destination start.machine.directory p ∧ start.machine.store.find? l = none) ∧
    start.machine.store.Changes
      (fun l => l = destination start.machine.directory p ∨ l ∈ temporary)
      (Above start.machine.directory p) now.machine.store

/-- No more than directories on the way to the target were made. -/
def Made : Prop :=
  Alters (fun _ _ => False) (fun here => Above here p) start now

/-- A temporary file can be made now. -/
def Ready : Prop :=
  Made p start now ∧ now.machine.temporaryStem = start.machine.temporaryStem

/-- A temporary file stands in the directory of the target. -/
def Staged (t : Path) : Prop :=
  (∃ n, destination start.machine.directory t =
    destination start.machine.directory p.directory ++
      [temporaryName start.machine.temporaryStem n]) ∧
  ∃ s, Ready p start s ∧ Beside t bytes s now

/-- The target holds the bytes. -/
def Done : Prop :=
  ∃ s, Ready p start s ∧ here now = here s ∧ (store s).Replaced (here s) p bytes (store now)

end Between

section Moments

variable {p t : Path} {bytes held : ByteArray} {start now s s' : Trial}

theorem Made.trans (h : Made p start s)
    (h' : Alters (fun _ _ => False) (fun here => Above here p) s s') : Made p start s' :=
  trans_of (Alters (fun _ _ => False) fun here => Above here p) h h'

theorem between_of_made (h : Made p start now) : Between p bytes start now := by
  obtain ⟨hstays, hchanges⟩ := h
  refine ⟨hstays, .inl (hchanges.bytesAt?_eq id), fun hway => .inl (hchanges.find?_eq id hway),
    none, fun l hl => (Option.not_mem_none l hl).elim, ?_⟩
  exact hchanges.mono (fun _ => False.elim) fun _ => id

/-- A temporary file does not stand at the target: either something was there before, or the name
of the target is none of those that are made for such files. -/
theorem between_of_staged (spared : start.machine.store.find?
      (destination start.machine.directory p) = none → Spared start.machine.temporaryStem p)
    (h : Staged p held start now t) : Between p bytes start now := by
  obtain ⟨⟨n, hplace⟩, s, ⟨⟨hmade, hchanges⟩, -⟩, hbeside, location, htemporary⟩ := h
  have hlocation := Store.locate_eq_ok htemporary.found
  rw [hmade] at hlocation
  change location = destination start.machine.directory t at hlocation
  rw [hplace] at hlocation
  have hnew : start.machine.store.find? location = none := hchanges.find?_eq_none htemporary.new
  have happart : destination start.machine.directory p ≠ location := fun heq =>
    Path.destination_ne_of_getLast? start.machine.directory (spared (heq ▸ hnew) n)
      (hlocation ▸ heq.symm)
  have hall : start.machine.store.Changes (· = location) (Above start.machine.directory p)
      now.machine.store :=
    (hchanges.mono (fun _ => False.elim) fun _ => id).trans htemporary.changes
  refine ⟨hbeside.trans hmade, .inl (hall.bytesAt?_eq happart),
    fun hway => .inl (hall.find?_eq happart hway), some location, ?_, ?_⟩
  · intro l hl
    obtain rfl := Option.mem_some_iff.mp hl
    refine ⟨?_, happart.symm, hnew⟩
    rw [hlocation, List.dropLast_concat]
  · exact hall.mono (fun l hl => .inr (Option.mem_some_iff.mpr hl.symm)) fun _ => id

theorem changes_of_done (h : Done p bytes start now) :
    now.machine.directory = start.machine.directory ∧
      now.machine.store.readAt now.machine.directory p = .ok bytes ∧
      start.machine.store.Changes (· = destination start.machine.directory p)
        (Above start.machine.directory p) now.machine.store := by
  obtain ⟨s, ⟨⟨hmade, hchanges⟩, -⟩, hstays, hreplaced⟩ := h
  have hhere : now.machine.directory = start.machine.directory := hstays.trans hmade
  rw [hmade] at hreplaced
  refine ⟨hhere, ?_, ?_⟩
  · rw [hhere]
    exact hreplaced.readAt_eq
  · exact (hchanges.mono (fun _ => False.elim) fun _ => id).trans hreplaced.changes

theorem between_of_done (h : Done p bytes start now) : Between p bytes start now := by
  obtain ⟨hstays, -, hchanges⟩ := changes_of_done h
  obtain ⟨s, ⟨⟨hmade, -⟩, -⟩, -, hreplaced⟩ := h
  have hholds : now.machine.store.find? (destination start.machine.directory p) =
      some (.file bytes) := by
    have hfile := hreplaced.holds
    rw [hmade] at hfile
    exact hfile
  refine ⟨hstays, .inr (Store.bytesAt?_eq_some_iff.mpr hholds), fun _ => .inr hholds, none,
    fun l hl => (Option.not_mem_none l hl).elim, ?_⟩
  exact hchanges.mono (fun _ => .inl) fun _ => id

end Moments

/-! ## Requests -/

section Requests

variable {p t : Path} {bytes : ByteArray} {start s : Trial}

theorem temporaryStem_kind? (q : Path) (s : Trial) :
    (StateT.run (m := Id) (Disk.kind? q) s).2.machine.temporaryStem =
      s.machine.temporaryStem := by
  obtain ⟨given, hgiven, hrun⟩ := Trial.run_attempt (fun _ => return none) (Disk.kind? q) s
  change StateT.run (m := Id) (Disk.kind? q) s = _ at hrun
  rw [hrun]
  rcases hgiven with rfl | ⟨fault, rfl⟩ <;> rfl

theorem temporaryStem_makeDirectory (q : Path) (s : Trial) :
    (StateT.run (m := Id) (Disk.makeDirectory q) s).2.machine.temporaryStem =
      s.machine.temporaryStem := by
  obtain ⟨given, hgiven, hrun⟩ := Trial.run_attempt Trial.refuse (Disk.makeDirectory q) s
  change StateT.run (m := Id) (Disk.makeDirectory q) s = _ at hrun
  rw [hrun]
  rcases hgiven with rfl | ⟨fault, rfl⟩
  · change (StateT.run (m := Id) (Machine.change _) s.machine).2.temporaryStem = _
    rw [Machine.run_change]
    split <;> rfl
  · rfl

theorem ready_kind? (q : Path) (h : Ready p start s) :
    Ready p start (StateT.run (m := Id) (Disk.kind? q) s).2 :=
  ⟨h.1.trans (LawfulDisk.kind? q s).alters, (temporaryStem_kind? q s).trans h.2⟩

theorem ready_makeDirectory {q : Path} (hq : q ∈ p.directory.ancestors) (h : Ready p start s) :
    Ready p start (StateT.run (m := Id) (Disk.makeDirectory q) s).2 :=
  ⟨h.1.trans (alters_makeDirectory (above_of_mem_ancestors_directory hq) s),
    (temporaryStem_makeDirectory q s).trans h.2⟩

/-- A trial makes temporary files as its machine does. -/
theorem createAt_of_createTemporary {s' : Trial}
    (h : StateT.run (m := Id) (Disk.createTemporary p) s = (.ok t, s')) :
    here s' = here s ∧ (store s).createAt (here s) s.machine.temporaryStem
      ((Machine.pathOf (here s)).join p) = .ok (t, store s') := by
  obtain ⟨given, hgiven, hrun⟩ := Trial.run_attempt Trial.refuse (Disk.createTemporary p) s
  change StateT.run (m := Id) (Disk.createTemporary p) s = _ at hrun
  rw [hrun] at h
  rcases hgiven with rfl | ⟨fault, rfl⟩
  · have hlaw : Answered _ s (.ok t, s') :=
      h ▸ Trial.answered_of_machine (Machine.createTemporary_answered p s.machine)
    exact hlaw.of_ok.symm
  · cases congrArg Prod.fst h

/-- A temporary file is made in the directory of the target, or nothing is. -/
theorem createTemporary_of_ready (names : ∀ n ∈ start.machine.directory, IsName n)
    (stem : IsName start.machine.temporaryStem) (h : Ready p start s) :
    Either (fun t s => Staged p .empty start s t) (Made p start)
      (StateT.run (m := Id) (Disk.createTemporary p.directory) s).1
      (StateT.run (m := Id) (Disk.createTemporary p.directory) s).2 := by
  rcases hrun : StateT.run (m := Id) (Disk.createTemporary p.directory) s with ⟨result, s'⟩
  have hhere : here s = start.machine.directory := h.1.1
  cases result with
  | ok t =>
      obtain ⟨hstays, hcreate⟩ := createAt_of_createTemporary hrun
      rw [h.2, hhere] at hcreate
      obtain ⟨n, htemporary⟩ := Store.temporary_of_createAt_name stem hcreate
      rw [Path.destination_join_pathOf names] at htemporary
      exact ⟨⟨n, (Store.locate_eq_ok htemporary.found).symm⟩, s, h, hstays, _,
        hhere ▸ htemporary⟩
  | error e =>
      obtain ⟨stem, directory, hlaw⟩ := LawfulDisk.createTemporary p.directory s
      rw [hrun] at hlaw
      exact h.1.trans hlaw.of_error.alters

theorem write_of_staged (bytes : ByteArray) (h : Staged p .empty start s t) :
    Either (fun _ s => Staged p bytes start s t) (fun s => ∃ held, Staged p held start s t)
      (StateT.run (m := Id) (Disk.write t bytes) s).1
      (StateT.run (m := Id) (Disk.write t bytes) s).2 := by
  obtain ⟨hplace, before, hready, hbeside⟩ := h
  rcases hrun : StateT.run (m := Id) (Disk.write t bytes) s with ⟨result, s'⟩
  obtain ⟨held, hheld, hall⟩ := hbeside.write hrun
  cases result with
  | ok u => exact ⟨hplace, before, hready, hall rfl ▸ hheld⟩
  | error e => exact ⟨held, hplace, before, hready, hheld⟩

theorem flush_of_staged (h : Staged p bytes start s t) :
    Staged p bytes start (StateT.run (m := Id) (Disk.flush t) s).2 t := by
  obtain ⟨hplace, before, hready, hbeside⟩ := h
  exact ⟨hplace, before, hready, hbeside.same (LawfulDisk.flush t s)⟩

theorem rename_of_staged (h : Staged p bytes start s t) :
    Either (fun _ => Done p bytes start) (fun s => Staged p bytes start s t)
      (StateT.run (m := Id) (Disk.rename t p) s).1
      (StateT.run (m := Id) (Disk.rename t p) s).2 := by
  obtain ⟨hplace, before, hready, hbeside⟩ := h
  have hrename := LawfulDisk.rename t p s
  rcases hrun : StateT.run (m := Id) (Disk.rename t p) s with ⟨result, s'⟩
  rw [hrun] at hrename
  cases result with
  | ok u =>
      obtain ⟨hrenamed, hstays⟩ := hrename.changed
      obtain ⟨hhere, location, htemporary⟩ := hbeside
      rw [hhere] at hrenamed
      exact ⟨before, hready, hstays.trans hhere, htemporary.rename hrenamed⟩
  | error e => exact ⟨hplace, before, hready, hbeside.same hrename.of_error⟩

/-- Without the temporary file there are no more than new directories. -/
theorem remove_of_staged (h : Staged p bytes start s t) :
    Made p start (StateT.run (m := Id) (Disk.remove t) s).2 := by
  obtain ⟨-, before, hready, hbeside⟩ := h
  exact hready.1.trans (hbeside.remove.mono (fun _ => id) fun _ => False.elim)

end Requests

/-! ## Replacements -/

section Replacement

variable {p : Path} {start : Trial} (names : ∀ n ∈ start.machine.directory, IsName n)
  (stem : IsName start.machine.temporaryStem)
  (spared : start.machine.store.find? (destination start.machine.directory p) = none →
    Spared start.machine.temporaryStem p)

include names stem spared

/-- A replacement goes from `Ready` to `Staged` to `Done`, and back to `Made` where it fails. -/
theorem shows_replace (text : String) :
    Shows (Ready p start) (Between p text.toUTF8 start)
      (Either (fun _ => Done p text.toUTF8 start) (Made p start))
      (replace p text : Task (StateM (Film Trial)) Unit).run
      (replace p text : Task (StateM Trial) Unit).run := by
  have hready : ∀ s, Ready p start s → Between p text.toUTF8 start s :=
    fun s hs => between_of_made hs.1
  have hstaged : ∀ held t s, Staged p held start s t → Between p text.toUTF8 start s :=
    fun held t s => between_of_staged spared
  have hremove : ∀ held t s, Staged p held start s t →
      Between p text.toUTF8 start (StateT.run (m := Id) (Disk.remove t) s).2 ∧
        Made p start (StateT.run (m := Id) (Disk.remove t) s).2 :=
    fun held t s hs => ⟨between_of_made (remove_of_staged hs), remove_of_staged hs⟩
  unfold replace
  dsimp only
  refine .task_bind (Q := fun _ => Ready p start) ?_ fun _ => ?_
  · refine (Shows.ensureDirectory hready (fun q s => ready_kind? q)
      fun q hq s => ready_makeDirectory hq).mono (fun _ hs => hs) fun result s hs => ?_
    cases result with
    | ok u => exact hs
    | error failure => exact hs.1
  refine .task_bind (Q := fun t s => Staged p .empty start s t) (.request (.shoot fun s hs => ?_))
    fun t => ?_
  · have hcreate := createTemporary_of_ready names stem hs
    refine ⟨?_, hcreate⟩
    rcases hcreate.cases with ⟨t, hs⟩ | hs
    · exact hstaged _ _ _ hs
    · exact between_of_made hs
  refine .task_bind (Q := fun _ s => Staged p text.toUTF8 start s t)
    (.requestOrRemove (T := fun s => ∃ held, Staged p held start s t) (.shoot fun s hs => ?_) ?_)
    fun _ => ?_
  · have hwrite := write_of_staged text.toUTF8 hs
    refine ⟨?_, hwrite⟩
    rcases hwrite.cases with ⟨-, hs⟩ | ⟨held, hs⟩
    · exact hstaged _ _ _ hs
    · exact hstaged _ _ _ hs
  · rintro s ⟨held, hs⟩
    exact hremove held t s hs
  refine .task_bind (Q := fun _ s => Staged p text.toUTF8 start s t)
    (.requestOrRemove (T := fun s => Staged p text.toUTF8 start s t) (.shoot fun s hs => ?_)
      (hremove _ t)) fun _ => ?_
  · have hflush := flush_of_staged hs
    refine ⟨hstaged _ _ _ hflush, ?_⟩
    exact .both (P := fun s => Staged p text.toUTF8 start s t) hflush _
  refine .requestOrRemove (T := fun s => Staged p text.toUTF8 start s t) (.shoot fun s hs => ?_)
    (hremove _ t)
  have hrename := rename_of_staged hs
  refine ⟨?_, hrename⟩
  rcases hrename.cases with ⟨-, hs⟩ | hs
  · exact between_of_done hs
  · exact hstaged _ _ _ hs

/-- Whatever requests fail, in every state that a replacement leaves on its way the target holds
what it held or all of the text: no file is there in part. No other file changes, apart from one
new file beside the target, and only directories on the way to the target are new. At the end the
target holds the text, or the replacement failed and there are no more than such directories. -/
theorem whole_at_every_moment {text : String} {result : Except Failure Unit} {film : Film Trial}
    (h : outcome (replace p text) (Film.of start) = (result, film)) :
    outcome (replace p text) start = (result, film.now) ∧
    (∀ moment ∈ film.frames, Between p text.toUTF8 start moment) ∧
    (result = .ok () →
      film.now.machine.store.readAt start.machine.directory p = .ok text.toUTF8 ∧
      start.machine.store.Changes (· = destination start.machine.directory p)
        (Above start.machine.directory p) film.now.machine.store) ∧
    (∀ failure, result = .error failure →
      start.machine.store.Changes (fun _ => False) (Above start.machine.directory p)
        film.now.machine.store) := by
  have hstart : Ready p start start :=
    ⟨refl_of (Alters (fun _ _ => False) fun here => Above here p) start, rfl⟩
  obtain ⟨frames, hrun, hframes, hend⟩ := shows_replace names stem spared text (Film.of start) hstart
  obtain ⟨rfl, rfl⟩ := Prod.mk.inj (hrun.symm.trans h)
  refine ⟨rfl, hframes, fun hok => ?_, fun failure herror => ?_⟩
  · rw [hok] at hend
    obtain ⟨hstays, hread, hchanges⟩ := changes_of_done hend
    rw [hstays] at hread
    exact ⟨hread, hchanges⟩
  · rw [herror] at hend
    exact hend.2

end Replacement

/-! ## Two replacements -/

/-- A file on a disk that is full after three bytes of a write. -/
def fullDisk : Trial :=
  ⟨.boot ⟨[(["w"], .directory), (["w", "notes"], .file "before".toUTF8)]⟩ ["w"] ".tmp",
    [none, none, some ⟨.other "disk full", 3⟩]⟩

/-- A reader of the file sees what it held, whenever the reader looks. -/
theorem whole_on_full_disk : ∃ failure film,
    outcome (replace ⟨"notes"⟩ "afterwards") (Film.of fullDisk) = (.error failure, film) ∧
    film.frames.length = 4 ∧
    (∀ moment ∈ film.frames, Between ⟨"notes"⟩ "afterwards".toUTF8 fullDisk moment) ∧
    film.now.machine.store.bytesAt? ["w", "notes"] = some "before".toUTF8 := by
  have hshot : (outcome (replace ⟨"notes"⟩ "afterwards") (Film.of fullDisk)).1.isOk = false ∧
      (outcome (replace ⟨"notes"⟩ "afterwards") (Film.of fullDisk)).2.frames.length = 4 := by
    decide +kernel
  rcases hrun : outcome (replace ⟨"notes"⟩ "afterwards") (Film.of fullDisk) with
    ⟨failure | u, film⟩
  · obtain ⟨-, hbetween, -, hfailed⟩ := whole_at_every_moment (by decide +kernel)
      (by decide +kernel) (fun hfree => absurd hfree (by decide +kernel)) hrun
    rw [hrun] at hshot
    exact ⟨failure, film, rfl, hshot.2, hbetween,
      ((hfailed failure rfl).bytesAt?_eq id).trans (by decide +kernel)⟩
  · rw [hrun] at hshot
    cases hshot.1

/-- A disk with one directory. -/
def emptyDisk : Trial := ⟨.boot ⟨[(["w"], .directory)]⟩ ["w"] ".tmp", []⟩

/-- A path that comes by its own target makes a directory there, which is neither what was there
before nor the file. -/
theorem own_target_made_directory :
    ¬∀ moment ∈ (outcome (replace ⟨"x/../x"⟩ "new") (Film.of emptyDisk)).2.frames,
      moment.machine.store.find? (destination ["w"] ⟨"x/../x"⟩) =
          emptyDisk.machine.store.find? (destination ["w"] ⟨"x/../x"⟩) ∨
        moment.machine.store.find? (destination ["w"] ⟨"x/../x"⟩) =
          some (.file "new".toUTF8) := by
  have hfree : emptyDisk.machine.store.find? (destination ["w"] ⟨"x/../x"⟩) = none := by
    decide +kernel
  have hseen : ∃ moment ∈ (outcome (replace ⟨"x/../x"⟩ "new") (Film.of emptyDisk)).2.frames,
      moment.machine.store.isDirectory (destination ["w"] ⟨"x/../x"⟩) = true := by
    decide +kernel
  obtain ⟨moment, hmoment, hdirectory⟩ := hseen
  intro hall
  rw [Store.isDirectory] at hdirectory
  rcases hall moment hmoment with hsame | hfile
  · rw [hsame, hfree] at hdirectory
    cases hdirectory
  · rw [hfile] at hdirectory
    cases hdirectory

end EnumBindings.Files
