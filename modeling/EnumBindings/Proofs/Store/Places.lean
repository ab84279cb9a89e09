import EnumBindings.Proofs.Path.Destination

/-!
# Places of a store

What stands where after an entry was put or taken away, and which place a path finds. Whatever is
on the disk, a path that finds a place finds its destination (`locate_eq_ok`); the disk only
decides whether it does. A store that grows keeps finding what was found (`Grows.locate`), and
`Changes` bounds how a store may grow: other files at some places, new directories at others.
-/

namespace EnumBindings.Store

open EnumBindings.Path (destination walk moves isSilent)

/-! ## Entries -/

theorem lookup_filter_ne {entries : List (Location × Entry)} {location other : Location}
    (h : other ≠ location) :
    (entries.filter (·.1 != location)).lookup other = entries.lookup other := by
  induction entries with
  | nil => rfl
  | cons e rest ih =>
      by_cases he : e.1 = location
      · have hother : (other == e.1) = false := by simpa [he] using h
        rw [List.filter_cons_of_neg (by simpa using he), ih, List.lookup_cons, hother]
      · rw [List.filter_cons_of_pos (by simpa using he), List.lookup_cons, List.lookup_cons, ih]

theorem lookup_filter_self (entries : List (Location × Entry)) (location : Location) :
    (entries.filter (·.1 != location)).lookup location = none := by
  rw [List.lookup_eq_none_iff]
  intro e he
  have hne : e.1 ≠ location := by simpa using (List.mem_filter.mp he).2
  exact bne_iff_ne.mpr hne.symm

section Entries

variable (store : Store) {location other : Location} (entry : Entry)

theorem find?_erase_self (h : location ≠ []) : (store.erase location).find? location = none := by
  rw [find?, if_neg (by simpa using h)]
  exact lookup_filter_self ..

theorem find?_erase_of_ne (h : other ≠ location) :
    (store.erase location).find? other = store.find? other := by
  rw [find?, find?]
  split
  · rfl
  · exact lookup_filter_ne h

theorem find?_put_self (h : location ≠ []) :
    (store.put location entry).find? location = some entry := by
  rw [find?, if_neg (by simpa using h), put, List.lookup_cons_self]

theorem find?_put_of_ne (h : other ≠ location) :
    (store.put location entry).find? other = store.find? other := by
  have hne : (other == location) = false := by simpa using h
  rw [← find?_erase_of_ne store h, find?, find?, put, List.lookup_cons, hne]

theorem isDirectory_iff : store.isDirectory location = true ↔
    store.find? location = some .directory := by
  rw [isDirectory]
  split <;> simp_all

end Entries

/-! ## Steps -/

theorem isSilent_toList (segment : String) :
    isSilent segment.toList = true ↔ segment = "" ∨ segment = "." := by
  have hdot : segment.toList = ['.'] ↔ segment = "." := @String.toList_inj segment "."
  simp [isSilent, hdot]

/-- The moves of a path are the segments that are not silent. -/
theorem moves_eq_filter_segments (p : Path) :
    p.moves = (segments p).filter fun s => !isSilent s.toList := by
  simp [moves, Path.spoken, segments, List.filter_map, Function.comp_def]

/-- Where one segment leads by text alone. -/
def lead (here : Location) (segment : String) : Location :=
  if isSilent segment.toList then here else walk here segment

theorem foldl_lead (segments : List String) (here : Location) :
    segments.foldl lead here = (segments.filter fun s => !isSilent s.toList).foldl walk here := by
  induction segments generalizing here with
  | nil => rfl
  | cons segment rest ih =>
      rw [List.foldl_cons, ih, List.filter_cons]
      cases h : isSilent segment.toList <;> simp [lead, h]

/-- A step leads somewhere from a directory, and a name only to what is there. -/
theorem step_eq_ok_iff {store : Store} {here location : Location} {segment : String} :
    store.step here segment = .ok location ↔
      store.isDirectory here = true ∧ location = lead here segment ∧
        (isSilent segment.toList = false → segment ≠ ".." →
          segment.length ≤ maxNameSize ∧ (store.find? (here ++ [segment])).isSome) := by
  have hsilent := isSilent_toList segment
  rw [step, lead, walk]
  by_cases hdirectory : store.isDirectory here = true
  · by_cases hstill : segment = "" ∨ segment = "."
    · have htrue := hsilent.mpr hstill
      have hcond : (decide (segment = "") || decide (segment = ".")) = true := by simpa using hstill
      simp [hdirectory, htrue, hcond, @eq_comm _ location]
    · have hfalse : isSilent segment.toList = false :=
        Bool.eq_false_iff.mpr (hsilent.not.mpr hstill)
      have hcond : (decide (segment = "") || decide (segment = ".")) = false := by
        simpa using hstill
      by_cases hup : segment = ".."
      · subst hup
        have hnever : isSilent "..".toList = false := rfl
        simp only [hdirectory, hcond, hnever, Bool.not_true, Bool.false_eq_true, if_false, if_true,
          Except.ok.injEq, true_and, ne_eq, not_true_eq_false, IsEmpty.forall_iff, implies_true,
          and_true, @eq_comm _ location]
      · by_cases hsize : maxNameSize < segment.length
        · simp [hdirectory, hfalse, hcond, hup, hsize, Nat.not_le.mpr hsize]
        · cases hfound : (store.find? (here ++ [segment])).isSome <;>
            simp [hdirectory, hfalse, hcond, hup, hsize, Nat.not_lt.mp hsize,
              @eq_comm _ location]
  · simp [hdirectory]

/-- Steps that lead somewhere lead where their text says. -/
theorem foldlM_step_eq_ok {store : Store} {segments : List String} {here location : Location}
    (h : segments.foldlM store.step here = .ok location) :
    location = segments.foldl lead here := by
  induction segments generalizing here with
  | nil => cases h; rfl
  | cons segment rest ih =>
      cases hstep : store.step here segment with
      | error e => rw [List.foldlM_cons, hstep] at h; cases h
      | ok next =>
          rw [List.foldlM_cons, hstep] at h
          rw [List.foldl_cons, ← (step_eq_ok_iff.mp hstep).2.1]
          exact ih h

/-- A path that finds a place finds its destination. -/
theorem locate_eq_ok {store : Store} {current location : Location} {p : Path}
    (h : store.locate current p = .ok location) : location = destination current p := by
  have hfold : (segments p).foldlM store.step (start current p) = .ok location := by
    cases hcheck : checkPath p with
    | error e => rw [locate, hcheck] at h; cases h
    | ok u => rw [locate, hcheck] at h; exact h
  rw [foldlM_step_eq_ok hfold, foldl_lead, destination, moves_eq_filter_segments]

/-! ## Growing -/

/-- Nothing is lost, and files and directories stay what they are. -/
def Grows (before after : Store) : Prop :=
  ∀ location entry, before.find? location = some entry →
    ∃ now, after.find? location = some now ∧ now.kind = entry.kind

namespace Grows

variable {before middle after : Store}

theorem refl (store : Store) : Grows store store := fun _ entry h => ⟨entry, h, rfl⟩

theorem trans (h : Grows before middle) (h' : Grows middle after) : Grows before after := by
  intro location entry hentry
  obtain ⟨between, hbetween, hkind⟩ := h location entry hentry
  obtain ⟨now, hnow, hkind'⟩ := h' location between hbetween
  exact ⟨now, hnow, hkind'.trans hkind⟩

theorem isDirectory (h : Grows before after) {location : Location}
    (hdirectory : before.isDirectory location = true) : after.isDirectory location = true := by
  rw [isDirectory_iff] at hdirectory ⊢
  obtain ⟨now, hnow, hkind⟩ := h location _ hdirectory
  cases now with
  | directory => exact hnow
  | file bytes => cases hkind

theorem isSome (h : Grows before after) {location : Location}
    (hsome : (before.find? location).isSome) : (after.find? location).isSome := by
  obtain ⟨entry, hentry⟩ := Option.isSome_iff_exists.mp hsome
  obtain ⟨now, hnow, -⟩ := h location entry hentry
  rw [hnow]
  rfl

theorem step (h : Grows before after) {here location : Location} {segment : String}
    (hstep : before.step here segment = .ok location) :
    after.step here segment = .ok location := by
  rw [step_eq_ok_iff] at hstep ⊢
  obtain ⟨hdirectory, hlead, hfound⟩ := hstep
  exact ⟨h.isDirectory hdirectory, hlead, fun hspoken hup =>
    ⟨(hfound hspoken hup).1, h.isSome (hfound hspoken hup).2⟩⟩

theorem foldlM_step (h : Grows before after) {segments : List String} {here location : Location}
    (hfold : segments.foldlM before.step here = .ok location) :
    segments.foldlM after.step here = .ok location := by
  induction segments generalizing here with
  | nil => exact hfold
  | cons segment rest ih =>
      cases hstep : before.step here segment with
      | error e => rw [List.foldlM_cons, hstep] at hfold; cases hfold
      | ok next =>
          rw [List.foldlM_cons, hstep] at hfold
          rw [List.foldlM_cons, h.step hstep]
          exact ih hfold

/-- What was found is still found. -/
theorem locate (h : Grows before after) {current location : Location} {p : Path}
    (hlocate : before.locate current p = .ok location) :
    after.locate current p = .ok location := by
  cases hcheck : checkPath p with
  | error e => rw [Store.locate, hcheck] at hlocate; cases hlocate
  | ok u =>
      rw [Store.locate, hcheck] at hlocate ⊢
      exact h.foldlM_step hlocate

end Grows

/-! ## Changes -/

/-- There may be other files at some places and new directories at others; all else is as it
was. -/
def Changes (files directories : Location → Prop) (before after : Store) : Prop :=
  ∀ location, after.find? location = before.find? location ∨
    (files location ∧ before.isDirectory location = false ∧
      ∃ bytes, after.find? location = some (.file bytes)) ∨
    (before.find? location = none ∧ after.find? location = some .directory ∧
      directories location)

namespace Changes

variable {files directories files' directories' : Location → Prop} {before middle after : Store}
  {location : Location}

theorem refl (store : Store) : Changes files directories store store := fun _ => .inl rfl

theorem mono (h : Changes files directories before after) (hfiles : ∀ l, files l → files' l)
    (hdirectories : ∀ l, directories l → directories' l) :
    Changes files' directories' before after := by
  intro location
  rcases h location with hsame | ⟨hfile, hrest⟩ | ⟨hnone, hnew, hplace⟩
  · exact .inl hsame
  · exact .inr (.inl ⟨hfiles _ hfile, hrest⟩)
  · exact .inr (.inr ⟨hnone, hnew, hdirectories _ hplace⟩)

theorem trans (h : Changes files directories before middle)
    (h' : Changes files directories middle after) : Changes files directories before after := by
  intro location
  rcases h location with hsame | ⟨hfile, hold, bytes, hbytes⟩ | ⟨hnone, hnew, hplace⟩
  · have hkind : middle.isDirectory location = before.isDirectory location := by
      rw [isDirectory, isDirectory, hsame]
    have hlater := h' location
    rwa [hsame, hkind] at hlater
  · rcases h' location with hsame' | ⟨-, -, bytes', hbytes'⟩ | ⟨hnone', -, -⟩
    · exact .inr (.inl ⟨hfile, hold, bytes, hsame'.trans hbytes⟩)
    · exact .inr (.inl ⟨hfile, hold, bytes', hbytes'⟩)
    · rw [hbytes] at hnone'
      cases hnone'
  · rcases h' location with hsame' | ⟨-, hold', -⟩ | ⟨hnone', -, -⟩
    · exact .inr (.inr ⟨hnone, hsame'.trans hnew, hplace⟩)
    · rw [(isDirectory_iff middle).mpr hnew] at hold'
      cases hold'
    · rw [hnew] at hnone'
      cases hnone'

theorem grows (h : Changes files directories before after) : Grows before after := by
  intro location entry hentry
  rcases h location with hsame | ⟨-, hold, bytes, hbytes⟩ | ⟨hnone, -, -⟩
  · exact ⟨entry, hsame.trans hentry, rfl⟩
  · cases entry with
    | directory =>
        rw [(isDirectory_iff before).mpr hentry] at hold
        cases hold
    | file old => exact ⟨.file bytes, hbytes, rfl⟩
  · rw [hentry] at hnone
    cases hnone

/-- What stands at a place that is none of the files stays. -/
theorem keeps (h : Changes files directories before after) (hfile : ¬files location)
    {entry : Entry} (hentry : before.find? location = some entry) :
    after.find? location = some entry := by
  rcases h location with hsame | ⟨hchanged, -⟩ | ⟨hnone, -⟩
  · exact hsame.trans hentry
  · exact absurd hchanged hfile
  · rw [hentry] at hnone
    cases hnone

/-- A file that stands at a place that is none of the files was there. -/
theorem file_iff (h : Changes files directories before after) (hfile : ¬files location)
    {bytes : ByteArray} :
    after.find? location = some (.file bytes) ↔ before.find? location = some (.file bytes) := by
  rcases h location with hsame | ⟨hchanged, -⟩ | ⟨hnone, hnew, -⟩
  · rw [hsame]
  · exact absurd hchanged hfile
  · simp [hnone, hnew]

end Changes

end EnumBindings.Store
