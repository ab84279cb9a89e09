import EnumBindings.Proofs.Elementwise
import EnumBindings.Proofs.Store.Places

/-!
# Requests to a store

What each request did to a store when it succeeded. Every request that changes something changes
one place, the slot of its path, and a slot is the destination of its path
(`location_of_slot?`). A new entry is found by the path that it was made for (`locate_of_slot?`).
A temporary file leaves no trace when it is removed (`Temporary.remove`), and when it is renamed
it is found at its new path, and all else is as it was before it (`Temporary.rename`).
-/

namespace EnumBindings.Store

open EnumBindings.Path (destination walk moves isSilent)

/-! ## Slots -/

/-- The last segment that is not empty, with the empty ones behind it. -/
theorem segments_of_getLast? {all kept : List String} {name : String}
    (hkept : kept = (all.reverse.dropWhile (· == "")).reverse)
    (hlast : kept.getLast? = some name) :
    ∃ tail, all = kept.dropLast ++ name :: tail ∧ name ≠ "" ∧ (∀ t ∈ tail, t = "") ∧
      (all.length ≤ kept.length → tail = []) := by
  obtain ⟨before, rfl⟩ := List.getLast?_eq_some_iff.mp hlast
  have hrdrop : all.rdropWhile (· == "") = before ++ [name] := hkept.symm
  have hall : before ++ [name] ++ all.rtakeWhile (· == "") = all := by
    rw [← hrdrop]
    exact List.rdropWhile_append_rtakeWhile
  rw [List.dropLast_concat]
  refine ⟨all.rtakeWhile (· == ""), ?_, ?_, fun t ht => ?_, fun hlength => ?_⟩
  · rw [← List.singleton_append, ← List.append_assoc, hall]
  · have hne : all.rdropWhile (· == "") ≠ [] := by
      rw [hrdrop]
      exact List.concat_ne_nil _ _
    have hnot := List.rdropWhile_last_not (· == "") all hne
    simp only [hrdrop, List.getLast_concat, beq_iff_eq] at hnot
    exact hnot
  · have hmem : t ∈ all.reverse.takeWhile (· == "") := List.mem_reverse.mp ht
    simpa using List.mem_takeWhile_imp (p := (· == "")) hmem
  · rw [← hall, List.length_append] at hlength
    exact List.length_eq_zero_iff.mp (by omega)

section Slots

variable {store after : Store} {current : Location} {p : Path} {s : Slot}

/-- A slot is the last name of a path, in the directory that is found before it. Behind the name
stands nothing, or slashes. -/
theorem slot?_eq_some (h : store.slot? current p = .ok (some s)) :
    ∃ before tail, checkPath p = .ok () ∧ segments p = before ++ s.name :: tail ∧
      (∀ t ∈ tail, t = "") ∧ (s.slash = false → tail = []) ∧
      before.foldlM store.step (start current p) = .ok s.directory ∧
      store.isDirectory s.directory = true ∧ isSilent s.name.toList = false ∧ s.name ≠ ".." ∧
      s.name.length ≤ maxNameSize := by
  obtain ⟨_, hcheck, h⟩ := bind_eq_ok_iff.mp h
  dsimp only at h
  split at h
  · cases h
  rename_i name hlast
  obtain ⟨directory, hfold, h⟩ := bind_eq_ok_iff.mp h
  split at h
  · cases h
  rename_i hdirectory
  split at h
  · cases h
  rename_i hdots
  split at h
  · cases h
  rename_i hsize
  cases h
  obtain ⟨tail, hall, hname, htail, hend⟩ := segments_of_getLast? rfl hlast
  have hdots' : name ≠ "." ∧ name ≠ ".." := by simpa using hdots
  refine ⟨_, tail, hcheck, hall, htail, fun hslash => ?_, hfold, by simpa using hdirectory,
    Bool.eq_false_iff.mpr fun hsilent => ?_, hdots'.2, Nat.not_lt.mp hsize⟩
  · exact hend (Nat.not_lt.mp (of_decide_eq_false hslash))
  · rcases (isSilent_toList name).mp hsilent with hempty | hdot
    · exact hname hempty
    · exact hdots'.1 hdot

theorem Slot.location_ne_nil (s : Slot) : s.location ≠ [] := by
  simp [Slot.location]

/-- The slot of a path is its destination, and the last move is the name of the slot. -/
theorem location_of_slot? (h : store.slot? current p = .ok (some s)) :
    s.location = destination current p ∧ p.moves ≠ [] := by
  obtain ⟨before, tail, -, hsegments, htail, -, hfold, -, hspoken, hup, -⟩ := slot?_eq_some h
  have hsilent : tail.filter (fun t => !isSilent t.toList) = [] := by
    refine List.filter_eq_nil_iff.mpr fun t ht => ?_
    rw [htail t ht]
    decide
  have hmoves : p.moves = before.filter (fun t => !isSilent t.toList) ++ [s.name] := by
    rw [moves_eq_filter_segments, hsegments, List.filter_append,
      List.filter_cons_of_pos (by simp [hspoken]), hsilent]
  refine ⟨?_, by simp [hmoves]⟩
  rw [destination, hmoves, List.foldl_append, ← foldl_lead, ← foldlM_step_eq_ok hfold]
  simp [Slot.location, walk, hup]

/-- Steps that end in a directory only pass directories, so they lead there as long as these
stay. -/
theorem foldlM_step_of_directories {segments : List String} {here location : Location}
    (kept : ∀ l, store.isDirectory l = true → after.isDirectory l = true)
    (hfold : segments.foldlM store.step here = .ok location)
    (hdirectory : store.isDirectory location = true) :
    segments.foldlM after.step here = .ok location ∧ store.isDirectory here = true := by
  induction segments generalizing here with
  | nil => cases hfold; exact ⟨rfl, hdirectory⟩
  | cons segment rest ih =>
      cases hstep : store.step here segment with
      | error e => rw [List.foldlM_cons, hstep] at hfold; cases hfold
      | ok next =>
          rw [List.foldlM_cons, hstep] at hfold
          obtain ⟨hrest, hnext⟩ := ih hfold
          obtain ⟨hhere, hlead, hfound⟩ := step_eq_ok_iff.mp hstep
          have hafter : after.step here segment = .ok next := by
            refine step_eq_ok_iff.mpr ⟨kept _ hhere, hlead, fun hspoken hup => ?_⟩
            have hplace : next = here ++ [segment] := by simp [hlead, lead, walk, hspoken, hup]
            have hthere := (isDirectory_iff after).mp (kept _ hnext)
            rw [hplace] at hthere
            exact ⟨(hfound hspoken hup).1, by rw [hthere]; rfl⟩
          refine ⟨?_, hhere⟩
          rw [List.foldlM_cons, hafter]
          exact hrest

/-- A path through directories that are still there leads to what now stands in its slot. -/
theorem locate_of_slot? (h : store.slot? current p = .ok (some s)) (hslash : s.slash = false)
    (kept : ∀ l, store.isDirectory l = true → after.isDirectory l = true)
    (there : (after.find? s.location).isSome) : after.locate current p = .ok s.location := by
  obtain ⟨before, tail, hcheck, hsegments, -, hend, hfold, hdirectory, hspoken, hup, hsize⟩ :=
    slot?_eq_some h
  obtain ⟨hbefore, -⟩ := foldlM_step_of_directories kept hfold hdirectory
  have hlast : after.step s.directory s.name = .ok s.location := by
    refine step_eq_ok_iff.mpr ⟨kept _ hdirectory, ?_, fun _ _ => ⟨hsize, there⟩⟩
    simp [Slot.location, lead, walk, hspoken, hup]
  have hall : (segments p).foldlM after.step (start current p) = .ok s.location := by
    rw [hsegments, hend hslash, List.foldlM_append, hbefore]
    change [s.name].foldlM after.step s.directory = _
    rw [List.foldlM_cons, hlast]
    rfl
  rw [locate, hcheck]
  exact hall

end Slots

/-! ## What requests did -/

section Requests

variable {store after : Store} {current : Location} {p : Path}

/-- A new directory stands at the destination of its path, where nothing stood. -/
theorem makeDirectoryAt_eq_ok (h : store.makeDirectoryAt current p = .ok after) :
    p.moves ≠ [] ∧ store.find? (destination current p) = none ∧
      after = store.put (destination current p) .directory := by
  obtain ⟨_ | s, hslot, h⟩ := bind_eq_ok_iff.mp h
  · cases h
  dsimp only at h
  split at h
  · cases h
  rename_i hfree
  cases h
  obtain ⟨hlocation, hmoves⟩ := location_of_slot? hslot
  rw [← hlocation]
  exact ⟨hmoves, by simpa using hfree, rfl⟩

/-- A temporary file stands where nothing stood, and its path leads to it. -/
theorem createAt_eq_ok {stem : String} {directory : Path}
    (h : store.createAt current stem directory = .ok (p, after)) :
    ∃ location, location ≠ [] ∧ store.find? location = none ∧
      after = store.put location (.file .empty) ∧ after.locate current p = .ok location := by
  obtain ⟨here, -, h⟩ := bind_eq_ok_iff.mp h
  obtain ⟨_ | s, hslot, h⟩ := bind_eq_ok_iff.mp h
  · cases h
  dsimp only at h
  split at h
  · cases h
  rename_i hslash
  split at h
  · cases h
  rename_i hfree
  cases h
  have hnone : store.find? s.location = none := by simpa using hfree
  have hfile := find?_put_self store (.file .empty) s.location_ne_nil
  refine ⟨s.location, s.location_ne_nil, hnone, rfl, ?_⟩
  refine locate_of_slot? hslot (Bool.eq_false_iff.mpr hslash) (fun l hl => ?_) ?_
  · have hne : l ≠ s.location := fun heq => by
      rw [isDirectory_iff, heq, hnone] at hl
      cases hl
    rw [isDirectory_iff] at hl ⊢
    rw [find?_put_of_ne store _ hne, hl]
  · rw [hfile]
    rfl

theorem writeAt_eq_ok {bytes : ByteArray} (h : store.writeAt current p bytes = .ok after) :
    ∃ location old, store.locate current p = .ok location ∧
      store.find? location = some (.file old) ∧ after = store.put location (.file bytes) := by
  obtain ⟨location, hlocate, h⟩ := bind_eq_ok_iff.mp h
  split at h
  · rename_i old hfile
    cases h
    exact ⟨location, old, hlocate, hfile, rfl⟩
  · cases h
  · cases h

/-- Renaming moves a file to the slot of the new path, where no directory stands. -/
theorem renameAt_eq_ok {source : Path} (h : store.renameAt current source p = .ok after) :
    ∃ location bytes s, store.locate current source = .ok location ∧
      store.find? location = some (.file bytes) ∧ store.slot? current p = .ok (some s) ∧
      s.slash = false ∧ store.isDirectory s.location = false ∧
      after = (store.erase location).put s.location (.file bytes) := by
  rw [renameAt] at h
  split at h
  · cases h
  obtain ⟨location, hlocate, h⟩ := bind_eq_ok_iff.mp h
  obtain ⟨_ | s, hslot, h⟩ := bind_eq_ok_iff.mp h
  · cases h
  dsimp only at h
  split at h
  · rename_i bytes hfile
    split at h
    · cases h
    rename_i hslash
    split at h
    · cases h
    rename_i hdirectory
    cases h
    exact ⟨location, bytes, s, hlocate, hfile, hslot, Bool.eq_false_iff.mpr hslash,
      Bool.eq_false_iff.mpr hdirectory, rfl⟩
  · cases h
  · cases h

theorem readAt_eq_ok_iff {bytes : ByteArray} : store.readAt current p = .ok bytes ↔
    ∃ location, store.locate current p = .ok location ∧
      store.find? location = some (.file bytes) := by
  simp only [readAt, bind, Except.bind]
  cases hlocate : store.locate current p with
  | error e => simp
  | ok location =>
      cases hentry : store.find? location with
      | none => simp [hentry]
      | some entry => cases entry <;> simp [hentry]

theorem removeAt_of_file {location : Location} {bytes : ByteArray}
    (hlocate : store.locate current p = .ok location)
    (hfile : store.find? location = some (.file bytes)) :
    store.removeAt current p = store.erase location := by
  have hdirectory : store.isDirectory location = false := by
    rw [isDirectory, hfile]
  simp [removeAt, hlocate, hdirectory]

end Requests

/-! ## Temporary files -/

/-- A file stands at a place where nothing stood, and a path finds it; all else is as it was. -/
structure Temporary (before : Store) (current : Location) (p : Path) (location : Location)
    (bytes : ByteArray) (after : Store) : Prop where
  new : before.find? location = none
  found : after.locate current p = .ok location
  holds : after.find? location = some (.file bytes)
  others : ∀ l ≠ location, after.find? l = before.find? l

/-- A path finds a file that stands at its destination, where no directory stood; all else is as
it was. -/
structure Replaced (before : Store) (current : Location) (p : Path) (bytes : ByteArray)
    (after : Store) : Prop where
  found : after.locate current p = .ok (destination current p)
  holds : after.find? (destination current p) = some (.file bytes)
  free : before.isDirectory (destination current p) = false
  others : ∀ l ≠ destination current p, after.find? l = before.find? l

section Temporary

variable {before store after : Store} {current location : Location} {t p : Path}
  {bytes bytes' : ByteArray}

theorem temporary_of_createAt {stem : String} {directory : Path}
    (h : store.createAt current stem directory = .ok (t, after)) :
    ∃ location, Temporary store current t location .empty after := by
  obtain ⟨location, hne, hnew, rfl, hlocate⟩ := createAt_eq_ok h
  exact ⟨location, hnew, hlocate, find?_put_self store _ hne, fun l => find?_put_of_ne store _⟩

namespace Temporary

theorem location_ne_nil (h : Temporary before current t location bytes store) :
    location ≠ [] := by
  rintro rfl
  cases h.new

/-- Other bytes do not move a file. -/
theorem write (h : Temporary before current t location bytes store)
    (hwrite : store.writeAt current t bytes' = .ok after) :
    Temporary before current t location bytes' after := by
  obtain ⟨place, old, hplace, -, rfl⟩ := writeAt_eq_ok hwrite
  obtain rfl : location = place := Except.ok.inj (h.found.symm.trans hplace)
  have hself := find?_put_self store (.file bytes') h.location_ne_nil
  have hother := fun l (hl : l ≠ location) => find?_put_of_ne store (.file bytes') hl
  refine ⟨h.new, ?_, hself, fun l hl => (hother l hl).trans (h.others l hl)⟩
  refine Grows.locate (fun l entry hentry => ?_) h.found
  by_cases hl : l = location
  · subst hl
    refine ⟨_, hself, ?_⟩
    rw [Option.some.inj (hentry.symm.trans h.holds)]
    rfl
  · exact ⟨entry, (hother l hl).trans hentry, rfl⟩

/-- Without the temporary file all is as it was. -/
theorem remove (h : Temporary before current t location bytes store) (l : Location) :
    (store.removeAt current t).find? l = before.find? l := by
  rw [removeAt_of_file h.found h.holds]
  by_cases hl : l = location
  · rw [hl, find?_erase_self store h.location_ne_nil, h.new]
  · rw [find?_erase_of_ne store hl, h.others l hl]

/-- A temporary file that was renamed stands at the destination of its new path only. -/
theorem rename (h : Temporary before current t location bytes store)
    (hrename : store.renameAt current t p = .ok after) :
    Replaced before current p bytes after := by
  obtain ⟨place, held, s, hplace, hheld, hslot, hslash, hfree, rfl⟩ := renameAt_eq_ok hrename
  obtain rfl : location = place := Except.ok.inj (h.found.symm.trans hplace)
  obtain rfl : bytes = held := by
    have hfile := Option.some.inj (h.holds.symm.trans hheld)
    exact Entry.file.inj hfile
  have hself := find?_put_self (store.erase location) (.file bytes) s.location_ne_nil
  have hother := fun l (hl : l ≠ s.location) =>
    find?_put_of_ne (store.erase location) (.file bytes) hl
  have hkept : ∀ l, store.isDirectory l = true →
      ((store.erase location).put s.location (.file bytes)).isDirectory l = true := by
    intro l hl
    have hslotted : l ≠ s.location := fun heq => by rw [← heq, hl] at hfree; cases hfree
    rw [isDirectory_iff] at hl ⊢
    have hfile : l ≠ location := fun heq => by rw [heq, h.holds] at hl; cases hl
    rw [hother l hslotted, find?_erase_of_ne store hfile, hl]
  obtain ⟨hlocation, -⟩ := location_of_slot? hslot
  have hfound := locate_of_slot? hslot hslash hkept (by rw [hself]; rfl)
  refine ⟨hlocation ▸ hfound, hlocation ▸ hself, ?_, fun l hl => ?_⟩
  · rw [← hlocation]
    refine Bool.eq_false_iff.mpr fun hdirectory => ?_
    rw [isDirectory_iff] at hdirectory
    have hne : s.location ≠ location := fun heq => by
      rw [heq, h.new] at hdirectory
      cases hdirectory
    have hstill := (isDirectory_iff store).mpr ((h.others _ hne).trans hdirectory)
    rw [hfree] at hstill
    cases hstill
  · rw [hother l (hlocation ▸ hl)]
    by_cases hl' : l = location
    · rw [hl', find?_erase_self store h.location_ne_nil, h.new]
    · rw [find?_erase_of_ne store hl', h.others l hl']

end Temporary

namespace Replaced

variable {directories : Location → Prop}

theorem changes (h : Replaced before current p bytes after) :
    Changes (· = destination current p) directories before after := by
  intro l
  by_cases hl : l = destination current p
  · exact .inr (.inl ⟨hl, hl ▸ h.free, bytes, hl ▸ h.holds⟩)
  · exact .inl (h.others l hl)

theorem readAt_eq (h : Replaced before current p bytes after) :
    after.readAt current p = .ok bytes :=
  readAt_eq_ok_iff.mpr ⟨_, h.found, h.holds⟩

end Replaced

end Temporary

end EnumBindings.Store
