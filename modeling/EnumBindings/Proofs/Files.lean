import EnumBindings.Proofs.Disk.Along
import EnumBindings.Proofs.Store.Requests

/-!
# What file operations leave

On every lawful disk: reading leaves the disk as it was, and what it gives is in the store.
Replacing a file puts the whole text at the destination of its path or leaves every file as it was
(`outcome_replace_eq_ok`, `outcome_replace_eq_error`); in between come only directories that the
path comes by, and no temporary file stays.
-/

namespace EnumBindings.Files

open EnumBindings.Path (destination Above)
open Placed (store here)
open Store (Temporary)

variable {σ : Type} [Placed σ] [Disk (StateM σ)] [Journal (StateM σ)] [LawfulDisk σ]

/-! ## Reading -/

/-- Text is read from its own bytes only. -/
theorem fromUTF8?_eq_some_iff {bytes : ByteArray} {text : String} :
    String.fromUTF8? bytes = some text ↔ bytes = text.toUTF8 := by
  constructor
  · intro h
    unfold String.fromUTF8? at h
    split at h
    · rw [← Option.some.inj h]
      rfl
    · cases h
  · rintro rfl
    simp only [String.fromUTF8?, String.toUTF8_eq_toByteArray, dif_pos text.isValidUTF8]
    rfl

/-- Looking leaves the disk as it was. -/
theorem looks_same : Looks (Same : σ → σ → Prop) where
  currentDirectory := .of_state fun s => (LawfulDisk.currentDirectory s).same
  kind? p := .of_state (LawfulDisk.kind? p)
  read p := .of_state fun s => (LawfulDisk.read p s).same
  log level message := .of_state (LawfulDisk.log level message)

/-- The text of some bytes, if they are one. -/
def decode (bytes : ByteArray) : Except DiskError String :=
  match String.fromUTF8? bytes with
  | some text => .ok text
  | none => .error .notText

theorem decode_eq_ok_iff {bytes : ByteArray} {text : String} :
    decode bytes = .ok text ↔ bytes = text.toUTF8 := by
  rw [← fromUTF8?_eq_some_iff, decode]
  cases String.fromUTF8? bytes <;> simp

omit [Placed σ] [Journal (StateM σ)] [LawfulDisk σ] in
theorem run_readText (p : Path) (s : σ) :
    StateT.run (m := Id) (readText p) s =
      ((StateT.run (m := Id) (Disk.read p) s).1 >>= decode,
        (StateT.run (m := Id) (Disk.read p) s).2) := by
  rw [readText, StateT.run_bind]
  change StateT.run (m := Id) _ (StateT.run (m := Id) (Disk.read p) s).2 = _
  cases (StateT.run (m := Id) (Disk.read p) s).1 with
  | error e => rfl
  | ok bytes =>
      change StateT.run (m := Id) (match String.fromUTF8? bytes with
        | some text => pure (.ok text)
        | none => pure (.error .notText)) _ = (decode bytes, _)
      rw [decode]
      cases String.fromUTF8? bytes <;> rfl

/-- A text that was read is in the store. -/
theorem readAt_of_readText {p : Path} {s s' : σ} {text : String}
    (h : StateT.run (m := Id) (readText p) s = (.ok text, s')) :
    (store s).readAt (here s) p = .ok text.toUTF8 := by
  have hread := LawfulDisk.read p s
  rw [run_readText] at h
  generalize StateT.run (m := Id) (Disk.read p) s = result at hread h
  obtain ⟨answer, m⟩ := result
  cases answer with
  | error e => cases h
  | ok bytes =>
      have htext : decode bytes = .ok text := congrArg Prod.fst h
      rw [decode_eq_ok_iff] at htext
      rw [← htext]
      exact hread.told.1

/-- A text that was there is in the store. -/
theorem readAt_of_readIfExists {p : Path} {s s' : σ} {text : String}
    (h : outcome (readIfExists p) s = (.ok (some text), s')) :
    (store s).readAt (here s) p = .ok text.toUTF8 := by
  rw [readIfExists, outcome_bind_eq_ok] at h
  obtain ⟨result, m, hresult, hrest⟩ := h
  rw [outcome_lift] at hresult
  split at hrest
  · rename_i read
    cases hrest
    obtain ⟨hok, rfl⟩ := Prod.mk.inj hresult
    exact readAt_of_readText (Prod.ext (Except.ok.inj hok) rfl)
  · cases hrest
  · cases hrest

omit [Disk (StateM σ)] [Journal (StateM σ)] [LawfulDisk σ] in
/-- What is read from a file stays when other files change. -/
theorem readAt_of_alters {files directories : Location → Location → Prop} {p : Path}
    {bytes : ByteArray} {s s' : σ} (h : Alters files directories s s')
    (hread : (store s).readAt (here s) p = .ok bytes)
    (hother : ¬files (here s) (destination (here s) p)) :
    (store s').readAt (here s') p = .ok bytes := by
  obtain ⟨hhere, hchanges⟩ := h
  rw [hhere]
  rw [Store.readAt_eq_ok_iff] at hread ⊢
  obtain ⟨location, hlocate, hfile⟩ := hread
  obtain rfl := Store.locate_eq_ok hlocate
  exact ⟨_, hchanges.grows.locate hlocate, hchanges.keeps hother hfile⟩

/-! ## Directories -/

/-- Making a directory changes its destination, where nothing stood. -/
theorem alters_makeDirectory {directories : Location → Location → Prop} {q : Path}
    (hq : q.moves ≠ [] → ∀ here, directories here (destination here q)) (s : σ) :
    Alters (fun _ _ => False) directories s (StateT.run (m := Id) (Disk.makeDirectory q) s).2 := by
  have hmake := LawfulDisk.makeDirectory q s
  generalize StateT.run (m := Id) (Disk.makeDirectory q) s = made at hmake ⊢
  obtain ⟨result, s'⟩ := made
  cases result with
  | error e => exact hmake.of_error.alters
  | ok u =>
      obtain ⟨hmade, hstays⟩ := hmake.changed
      obtain ⟨hmoves, hfree, hafter⟩ := Store.makeDirectoryAt_eq_ok hmade
      have hroot : destination (here s) q ≠ [] := fun hnil => by rw [hnil] at hfree; cases hfree
      refine ⟨hstays, fun l => ?_⟩
      rw [hafter]
      by_cases hl : l = destination (here s) q
      · subst hl
        exact .inr (.inr ⟨hfree, Store.find?_put_self _ _ hroot, hq hmoves _⟩)
      · exact .inl (Store.find?_put_of_ne _ _ hl)

/-- What is above the directory of a path is a place that the path comes by. -/
theorem above_of_mem_ancestors_directory {p q : Path} (h : q ∈ p.directory.ancestors)
    (hmoves : q.moves ≠ []) (here : Location) : Above here p (destination here q) := by
  obtain ⟨hinitial, habsolute⟩ := Path.moves_of_mem_ancestors h
  obtain ⟨hdirectory, hsame⟩ := Path.moves_directory p
  rw [hdirectory] at hinitial
  have hsome : p.moves ≠ [] := fun hnil => by
    rw [hnil] at hinitial
    exact hmoves (List.prefix_nil.mp hinitial)
  obtain ⟨between, hbetween⟩ := hinitial
  have hmovesOf : p.moves = q.moves ++ (between ++ [p.moves.getLast hsome]) := by
    rw [← List.append_assoc, hbetween, List.dropLast_append_getLast]
  obtain ⟨last, after, hlast⟩ := List.exists_cons_of_ne_nil
    (List.concat_ne_nil (p.moves.getLast hsome) between)
  refine ⟨q.moves, last, after, by rw [hmovesOf, hlast], ?_⟩
  rw [destination, Store.start, Store.start, habsolute, hsame hsome]

/-- Making sure of a directory makes no more than directories that a path below it comes by. -/
theorem leads_ensureDirectory (p : Path) :
    Leads (Alters (fun _ _ => False) fun here => Above here p) (fun _ => True)
      (ensureDirectory p.directory : Task (StateM σ) Unit).run := by
  refine leads_task_bind ?_ fun kind => ?_
  · exact leads_lift (.of_state fun s => (LawfulDisk.kind? _ s).alters)
  · split
    · refine leads_request (leads_makeDirectories (fun q hq => .of_state ?_)
        fun q => .of_state fun s => (LawfulDisk.kind? q s).alters)
      exact alters_makeDirectory (above_of_mem_ancestors_directory hq)
    · exact .pure trivial

/-! ## Replacing -/

/-- A temporary file stands beside what was there before, and its path is known. -/
def Beside (t : Path) (bytes : ByteArray) (before s : σ) : Prop :=
  here s = here before ∧
    ∃ location, Temporary (store before) (here before) t location bytes (store s)

section Replacing

variable {p t : Path} {bytes : ByteArray} {before s s' : σ} {failure : Failure}

omit [Disk (StateM σ)] [Journal (StateM σ)] [LawfulDisk σ] in
theorem Beside.same (h : Beside t bytes before s) (hsame : Same s s') :
    Beside t bytes before s' := by
  obtain ⟨hhere, location, htemporary⟩ := h
  exact ⟨hsame.2.trans hhere, location, hsame.1 ▸ htemporary⟩

/-- Removing the temporary file takes everything back. -/
theorem Beside.remove (h : Beside t bytes before s) :
    Alters (fun _ _ => False) (fun _ _ => False) before
      (StateT.run (m := Id) (Disk.remove t) s).2 := by
  obtain ⟨hhere, location, htemporary⟩ := h
  obtain ⟨hremove, hstays⟩ := LawfulDisk.remove t s
  refine ⟨hstays.trans hhere, fun l => .inl ?_⟩
  rw [hremove, hhere]
  exact htemporary.remove l

/-- Whatever was written, the temporary file stands, and after a success with the given bytes. -/
theorem Beside.write {result : Except DiskError Unit} {bytes' : ByteArray}
    (h : Beside t bytes before s)
    (hrun : StateT.run (m := Id) (Disk.write t bytes') s = (result, s')) :
    ∃ held, Beside t held before s' ∧ (result = .ok () → held = bytes') := by
  have hwritten : ∀ held, here s' = here s →
      (store s).writeAt (here s) t held = .ok (store s') → Beside t held before s' := by
    intro held hstays hwrite
    obtain ⟨hhere, location, htemporary⟩ := h
    exact ⟨hstays.trans hhere, location, htemporary.write (hhere ▸ hwrite)⟩
  rcases LawfulDisk.write t bytes' s with hlaw | ⟨e, part, m, hpart, hstays, hwrite⟩
  · rw [hrun] at hlaw
    cases result with
    | ok u =>
        obtain ⟨hwrite, hstays⟩ := hlaw.changed
        exact ⟨bytes', hwritten _ hstays hwrite, fun _ => rfl⟩
    | error e => exact ⟨bytes, h.same hlaw.of_error, fun hok => by cases hok⟩
  · obtain ⟨rfl, rfl⟩ := Prod.mk.inj (hpart.symm.trans hrun)
    exact ⟨part, hwritten _ hstays hwrite, fun hok => by cases hok⟩

section Requests

variable {context : String} {answer : StateM σ (Except DiskError Unit)}

omit [Placed σ] [Journal (StateM σ)] [LawfulDisk σ] in
theorem outcome_requestOrRemove : outcome (requestOrRemove t context answer) s =
    match (answer.run s : Except DiskError Unit × σ) with
    | (.ok (), m) => (.ok (), m)
    | (.error e, m) =>
        (.error ⟨[context], .disk e⟩, (StateT.run (m := Id) (Disk.remove t) m).2) := by
  rw [requestOrRemove, outcome_bind, outcome_lift]
  change outcome _ (answer.run s : Except DiskError Unit × σ).2 = _
  generalize (answer.run s : Except DiskError Unit × σ) = result
  obtain ⟨_ | _, m⟩ := result <;> rfl

omit [Placed σ] [Journal (StateM σ)] [LawfulDisk σ] in
theorem outcome_requestOrRemove_eq_ok :
    outcome (requestOrRemove t context answer) s = (.ok (), s') ↔
      answer.run s = (.ok (), s') := by
  rw [outcome_requestOrRemove]
  change _ ↔ @Eq (Except DiskError Unit × σ) (answer.run s) _
  generalize (answer.run s : Except DiskError Unit × σ) = result
  obtain ⟨_ | _, m⟩ := result <;> simp

/-- A request that fails while a temporary file stands takes everything back. -/
theorem alters_of_requestOrRemove_eq_error
    (hbeside : ∀ e m, answer.run s = (.error e, m) → ∃ bytes, Beside t bytes before m)
    (h : outcome (requestOrRemove t context answer) s = (.error failure, s')) :
    Alters (fun _ _ => False) (fun _ _ => False) before s' := by
  rw [outcome_requestOrRemove] at h
  generalize (answer.run s : Except DiskError Unit × σ) = result at h hbeside
  obtain ⟨_ | _, m⟩ := result
  · rename_i e
    obtain ⟨bytes, hstands⟩ := hbeside e m rfl
    obtain ⟨-, rfl⟩ := Prod.mk.inj h
    exact hstands.remove
  · cases h

end Requests

/-- Directories are made first. Then the file is replaced, or everything else is taken back. -/
theorem outcome_replace {text : String} {result : Except Failure Unit}
    (h : outcome (replace p text) s = (result, s')) :
    ∃ s₁, Alters (fun _ _ => False) (fun here => Above here p) s s₁ ∧
      (result = .ok () ∧ here s' = here s₁ ∧
          (store s₁).Replaced (here s₁) p text.toUTF8 (store s') ∨
        result ≠ .ok () ∧ Alters (fun _ _ => False) (fun _ _ => False) s₁ s') := by
  have hfailed : ∀ failure : Failure, (Except.error failure : Except Failure Unit) ≠ .ok () :=
    fun _ heq => by cases heq
  unfold replace at h
  dsimp only at h
  rcases outcome_bind_cases h with ⟨failure, rfl, hensure⟩ | ⟨_, s₁, hensure, h⟩
  · exact ⟨s', relates_of_leads (leads_ensureDirectory p) hensure, .inr ⟨hfailed _, refl s'⟩⟩
  refine ⟨s₁, relates_of_leads (leads_ensureDirectory p) hensure, ?_⟩
  rcases outcome_bind_cases h with ⟨failure, rfl, hcreate⟩ | ⟨t, s₂, hcreate, h⟩
  · obtain ⟨stem, directory, hlaw⟩ := LawfulDisk.createTemporary p.directory s₁
    obtain ⟨e, hrun, -⟩ := outcome_request_eq_error.mp hcreate
    rw [hrun] at hlaw
    exact .inr ⟨hfailed _, hlaw.of_error.alters⟩
  have hstands : Beside t .empty s₁ s₂ := by
    obtain ⟨stem, directory, hlaw⟩ := LawfulDisk.createTemporary p.directory s₁
    rw [outcome_request_eq_ok.mp hcreate] at hlaw
    obtain ⟨hcreated, hstays⟩ := hlaw.of_ok
    exact ⟨hstays, Store.temporary_of_createAt hcreated⟩
  rcases outcome_bind_cases h with ⟨failure, rfl, hwrite⟩ | ⟨_, s₃, hwrite, h⟩
  · refine .inr ⟨hfailed _, alters_of_requestOrRemove_eq_error (fun e m hrun => ?_) hwrite⟩
    obtain ⟨held, hheld, -⟩ := hstands.write hrun
    exact ⟨held, hheld⟩
  have hfilled : Beside t text.toUTF8 s₁ s₃ := by
    obtain ⟨held, hheld, htext⟩ := hstands.write (outcome_requestOrRemove_eq_ok.mp hwrite)
    exact htext rfl ▸ hheld
  have hflush : ∀ r m, StateT.run (m := Id) (Disk.flush t) s₃ = (r, m) →
      Beside t text.toUTF8 s₁ m := fun r m hrun => by
    have hlaw := LawfulDisk.flush t s₃
    rw [hrun] at hlaw
    exact hfilled.same hlaw
  rcases outcome_bind_cases h with ⟨failure, rfl, hunflushed⟩ | ⟨_, s₄, hflushed, h⟩
  · exact .inr ⟨hfailed _, alters_of_requestOrRemove_eq_error
      (fun e m hrun => ⟨_, hflush _ _ hrun⟩) hunflushed⟩
  have hready := hflush _ _ (outcome_requestOrRemove_eq_ok.mp hflushed)
  have hrename := LawfulDisk.rename t p s₄
  cases result with
  | error failure =>
      refine .inr ⟨hfailed _, alters_of_requestOrRemove_eq_error (fun e m hrun => ?_) h⟩
      rw [hrun] at hrename
      exact ⟨_, hready.same hrename.of_error⟩
  | ok u =>
      rw [outcome_requestOrRemove_eq_ok.mp h] at hrename
      obtain ⟨hrenamed, hstays⟩ := hrename.changed
      obtain ⟨hhere, location, htemporary⟩ := hready
      rw [hhere] at hrenamed
      exact .inl ⟨rfl, hstays.trans hhere, htemporary.rename hrenamed⟩

/-- A file that cannot be replaced stays as it was, as all others do. -/
theorem alters_of_replace_eq_error {text : String}
    (h : outcome (replace p text) s = (.error failure, s')) :
    Alters (fun _ _ => False) (fun here => Above here p) s s' := by
  obtain ⟨s₁, hmade, ⟨hok, -⟩ | ⟨-, hback⟩⟩ := outcome_replace h
  · cases hok
  · exact trans_of _ hmade (hback.mono (fun _ => id) fun _ => False.elim)

/-- A file that was replaced is found at its path and holds the text. -/
theorem of_replace_eq_ok {text : String} (h : outcome (replace p text) s = (.ok (), s')) :
    Alters (fun here l => l = destination here p) (fun here => Above here p) s s' ∧
      (store s').readAt (here s') p = .ok text.toUTF8 := by
  obtain ⟨s₁, hmade, ⟨-, hstays, hreplaced⟩ | ⟨hnot, -⟩⟩ := outcome_replace h
  · refine ⟨trans_of _ (hmade.mono (fun _ => False.elim) fun _ => id)
      ⟨hstays, hreplaced.changes⟩, ?_⟩
    rw [hstays]
    exact hreplaced.readAt_eq
  · exact absurd rfl hnot

end Replacing

end EnumBindings.Files
