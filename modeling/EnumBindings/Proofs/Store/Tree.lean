import EnumBindings.Proofs.Store.Requests

/-!
# Stores that are trees

On a disk without links every place is reached by names, through directories. In such a store a
path without `..` that leads to a file later on leads to it now, unless the file is new
(`readAt_of_later`), and what stands in its way stays in its way (`readAt_error_of_grows`).
-/

namespace EnumBindings.Store

open EnumBindings.Path (IsName destination walk isSilent)

/-- Names lead to everything, through directories. -/
structure Tree (store : Store) : Prop where
  names : ∀ e ∈ store.entries, ∀ n ∈ e.1, IsName n
  held : ∀ e ∈ store.entries, store.isDirectory e.1.dropLast = true

instance (store : Store) : Decidable store.Tree :=
  decidable_of_iff ((∀ e ∈ store.entries, ∀ n ∈ e.1, IsName n) ∧
      ∀ e ∈ store.entries, store.isDirectory e.1.dropLast = true)
    ⟨fun h => ⟨h.1, h.2⟩, fun h => ⟨h.names, h.held⟩⟩

/-- A place in use is the root or has an entry. -/
theorem exists_mem_of_find?_isSome {store : Store} {location : Location}
    (h : (store.find? location).isSome) (hroot : location ≠ []) :
    ∃ e ∈ store.entries, e.1 = location := by
  rw [find?, if_neg (by simpa using hroot)] at h
  obtain ⟨e, hmem, heq⟩ := List.lookup_isSome_iff.mp h
  exact ⟨e, hmem, (beq_iff_eq.mp heq).symm⟩

namespace Tree

variable {store : Store} {location l : Location}

theorem names_of_isDirectory (h : store.Tree) (hdirectory : store.isDirectory location = true) :
    ∀ n ∈ location, IsName n := by
  by_cases hroot : location = []
  · rw [hroot]
    exact List.forall_mem_nil _
  · have hsome : (store.find? location).isSome := by
      rw [(isDirectory_iff store).mp hdirectory]
      rfl
    obtain ⟨e, hmem, rfl⟩ := exists_mem_of_find?_isSome hsome hroot
    exact h.names e hmem

/-- Whatever a place in use stands in is a directory. -/
theorem isDirectory_of_isPrefix (h : store.Tree) (hsome : (store.find? location).isSome)
    (hinitial : l <+: location) (hne : l ≠ location) : store.isDirectory l = true := by
  obtain ⟨names, rfl⟩ := hinitial
  induction names using List.reverseRecOn with
  | nil => exact absurd (List.append_nil l).symm hne
  | append_singleton before last ih =>
      obtain ⟨e, hmem, he⟩ := exists_mem_of_find?_isSome hsome (by simp)
      have hheld := h.held e hmem
      rw [he, ← List.append_assoc, List.dropLast_concat] at hheld
      by_cases hnil : before = []
      · rwa [hnil, List.append_nil] at hheld
      · refine ih ?_ (by simpa using hnil)
        rw [(isDirectory_iff store).mp hheld]
        rfl

end Tree

/-! ## Paths without `..` -/

/-- Without `..` the way goes down only. -/
theorem prefix_of_foldl_lead {segments : List String} (hup : ∀ s ∈ segments, s ≠ "..")
    (here : Location) : here <+: segments.foldl lead here := by
  induction segments generalizing here with
  | nil => exact List.prefix_rfl
  | cons segment rest ih =>
      obtain ⟨hsegment, hrest⟩ := List.forall_mem_cons.mp hup
      refine List.IsPrefix.trans ?_ (ih hrest _)
      rw [lead, walk, if_neg (hsegment)]
      split
      · exact List.prefix_rfl
      · exact List.prefix_append ..

theorem ne_up_of_mem_segments {p : Path} (h : ".." ∉ p.moves) : ∀ s ∈ segments p, s ≠ ".." := by
  rintro s hmem rfl
  rw [moves_eq_filter_segments] at h
  exact h (List.mem_filter.mpr ⟨hmem, rfl⟩)

section Later

variable {before after : Store} {current : Location} {p : Path}

/-- Steps that lead to a file later on lead to it now, if it is there in a tree. -/
theorem foldlM_step_of_later (tree : before.Tree) {segments : List String}
    {here location : Location} {bytes : ByteArray} (hup : ∀ s ∈ segments, s ≠ "..")
    (hfile : before.find? location = some (.file bytes))
    (hstill : after.isDirectory location = false)
    (h : segments.foldlM after.step here = .ok location) :
    segments.foldlM before.step here = .ok location := by
  induction segments generalizing here with
  | nil => exact h
  | cons segment rest ih =>
      obtain ⟨hsegment, hrest⟩ := List.forall_mem_cons.mp hup
      have hplace := foldlM_step_eq_ok h
      cases hstep : after.step here segment with
      | error e => rw [List.foldlM_cons, hstep] at h; cases h
      | ok next =>
          rw [List.foldlM_cons, hstep] at h
          obtain ⟨hdirectory, hlead, hfound⟩ := step_eq_ok_iff.mp hstep
          have hsome : (before.find? location).isSome := by rw [hfile]; rfl
          have hhere : here <+: location := hplace ▸ prefix_of_foldl_lead hup here
          have hnext : next <+: location := foldlM_step_eq_ok h ▸ prefix_of_foldl_lead hrest next
          have hbefore : before.step here segment = .ok next := by
            refine step_eq_ok_iff.mpr ⟨?_, hlead, fun hspoken hnot => ⟨(hfound hspoken hnot).1, ?_⟩⟩
            · refine tree.isDirectory_of_isPrefix hsome hhere fun heq => ?_
              rw [heq, hstill] at hdirectory
              cases hdirectory
            · have heq : next = here ++ [segment] := by simp [hlead, lead, walk, hspoken, hnot]
              rw [← heq]
              by_cases hlast : next = location
              · rw [hlast]
                exact hsome
              · rw [(isDirectory_iff before).mp (tree.isDirectory_of_isPrefix hsome hnext hlast)]
                rfl
          rw [List.foldlM_cons, hbefore]
          exact ih hrest h

/-- What stops a step, other than that nothing is there, stops it as long as the store grows. -/
theorem step_error_of_grows (h : Grows before after) {segment : String} {here : Location}
    {e : DiskError} (hhere : (before.find? here).isSome)
    (hstep : before.step here segment = .error e) (he : e ≠ .notFound) :
    after.step here segment = .error e := by
  rw [step] at hstep ⊢
  cases hdirectory : before.isDirectory here with
  | false =>
      have hafter : after.isDirectory here = false := by
        obtain ⟨entry, hentry⟩ := Option.isSome_iff_exists.mp hhere
        obtain ⟨now, hnow, hkind⟩ := h here entry hentry
        rw [isDirectory, hnow]
        cases entry with
        | directory => rw [isDirectory, hentry] at hdirectory; cases hdirectory
        | file bytes =>
            cases now with
            | directory => cases hkind
            | file bytes' => rfl
      rw [hdirectory] at hstep
      rw [hafter]
      exact hstep
  | true =>
      rw [hdirectory] at hstep
      rw [h.isDirectory hdirectory]
      simp only [Bool.not_true, Bool.false_eq_true, if_false] at hstep ⊢
      split at hstep
      · cases hstep
      split at hstep
      · cases hstep
      split at hstep
      · simp_all
      split at hstep
      · cases hstep
      · cases hstep
        exact absurd rfl he

/-- What stops steps short of a place that is not there stops them as long as the store grows. -/
theorem foldlM_step_error_of_grows (h : Grows before after) {segments : List String}
    {here : Location} {e : DiskError} (hup : ∀ s ∈ segments, s ≠ "..")
    (hhere : (before.find? here).isSome)
    (hfold : segments.foldlM before.step here = .error e) (he : e ≠ .notFound) :
    segments.foldlM after.step here = .error e := by
  induction segments generalizing here with
  | nil => cases hfold
  | cons segment rest ih =>
      obtain ⟨hsegment, hrest⟩ := List.forall_mem_cons.mp hup
      rw [List.foldlM_cons] at hfold ⊢
      cases hstep : before.step here segment with
      | ok next =>
          rw [hstep] at hfold
          rw [h.step hstep]
          refine ih hrest ?_ hfold
          obtain ⟨-, hlead, hfound⟩ := step_eq_ok_iff.mp hstep
          rw [hlead, lead, walk, if_neg (hsegment)]
          split
          · exact hhere
          · rename_i hspoken
            exact (hfound (Bool.eq_false_iff.mpr hspoken) (hsegment)).2
      | error e' =>
          rw [hstep] at hfold
          cases hfold
          rw [step_error_of_grows h hhere hstep he]
          rfl

/-- What is read from a file later on is read from it now, unless the file was changed. -/
theorem readAt_of_later {files directories : Location → Prop} {bytes : ByteArray}
    (tree : before.Tree) (h : Changes files directories before after)
    (hfile : ¬files (destination current p)) (hup : ".." ∉ p.moves)
    (hread : after.readAt current p = .ok bytes) : before.readAt current p = .ok bytes := by
  rw [readAt_eq_ok_iff] at hread ⊢
  obtain ⟨location, hlocate, hlater⟩ := hread
  obtain rfl := locate_eq_ok hlocate
  have hnow := (h.file_iff hfile).mp hlater
  refine ⟨_, ?_, hnow⟩
  rw [locate] at hlocate ⊢
  cases hcheck : checkPath p with
  | error e => rw [hcheck] at hlocate; cases hlocate
  | ok u =>
      rw [hcheck] at hlocate
      refine foldlM_step_of_later tree (ne_up_of_mem_segments hup) hnow ?_ hlocate
      rw [isDirectory, hlater]

/-- A file that cannot be read, other than that it is not there, cannot be read later on. -/
theorem readAt_error_of_grows {e : DiskError} (h : Grows before after)
    (hcurrent : before.isDirectory current = true) (hup : ".." ∉ p.moves)
    (hread : before.readAt current p = .error e) (he : e ≠ .notFound) :
    after.readAt current p = .error e := by
  have hstart : (before.find? (start current p)).isSome := by
    rw [start]
    split
    · rfl
    · rw [(isDirectory_iff before).mp hcurrent]
      rfl
  cases hlocate : before.locate current p with
  | ok location =>
      have hafter := h.locate hlocate
      simp only [readAt, hlocate, hafter, bind, Except.bind] at hread ⊢
      split at hread
      · cases hread
      · rename_i hdirectory
        cases hread
        have hlater := h.isDirectory ((isDirectory_iff before).mpr hdirectory)
        rw [(isDirectory_iff after).mp hlater]
      · cases hread
        exact absurd rfl he
  | error e' =>
      have heq : e' = e := by
        rw [readAt, hlocate] at hread
        cases hread
        rfl
      subst heq
      have hafter : after.locate current p = .error e' := by
        rw [locate] at hlocate ⊢
        cases hcheck : checkPath p with
        | error e => rw [hcheck] at hlocate; exact hlocate
        | ok u =>
            rw [hcheck] at hlocate
            exact foldlM_step_error_of_grows h (ne_up_of_mem_segments hup) hstart hlocate he
      rw [readAt, hafter]
      rfl

end Later

end EnumBindings.Store
