import EnumBindings.Proofs.Store.Requests

/-!
# Where a file can stand

What changes leave of the file at a place (`Changes.bytesAt?_eq`), and which paths can be filled:
those that name a file, or nothing yet, in a directory that is there. Such a path is read by its
destination alone (`Fillable.readAt_eq`), its directory is found (`kindAt_directory`), and a
temporary file can be given its name (`renameAt_of_slot?`). It stays so while files change
elsewhere (`Fillable.of_changes`).
-/

namespace EnumBindings

open EnumBindings.Path (IsName destination walk moves isSilent)

/-! ## Directories of paths -/

namespace Path

/-- The directory of a path is written with a part of the path, or as the current one. -/
theorem directory_isPrefix (p : Path) :
    p.directory = ⟨"."⟩ ∨
      p.directory.isEmpty = false ∧ p.directory.bytes.toList <+: p.bytes.toList := by
  rw [directory]
  cases hparent : p.parent? with
  | none => exact .inl rfl
  | some q =>
      by_cases hempty : q.isEmpty = true
      · exact .inl (if_pos hempty)
      · refine .inr ?_
        dsimp only
        rw [if_neg hempty]
        refine ⟨Bool.eq_false_iff.mpr hempty, ?_⟩
        simp only [parent?] at hparent
        split at hparent
        · split at hparent
          · cases hparent
            exact absurd rfl hempty
          · cases hparent
        · cases hparent
          rw [String.toList_ofList]
          conv_rhs => rw [← splitLead_eq p.bytes.toList]
          exact (List.prefix_append_right_inj _).mpr (joined_segmentsAbove_isPrefix _)

end Path

namespace Store

/-! ## Files -/

/-- The bytes of the file at a place. -/
def bytesAt? (store : Store) (location : Location) : Option ByteArray :=
  match store.find? location with
  | some (.file bytes) => some bytes
  | _ => none

theorem bytesAt?_eq_some_iff {store : Store} {location : Location} {bytes : ByteArray} :
    store.bytesAt? location = some bytes ↔ store.find? location = some (.file bytes) := by
  rw [bytesAt?]
  split
  · rename_i held hfile
    simp [hfile]
  · rename_i hother
    simp only [reduceCtorEq, false_iff]
    exact fun hfile => hother bytes hfile

section Changes

variable {files directories : Location → Prop} {before after : Store} {location : Location}

theorem Changes.bytesAt?_eq (h : Changes files directories before after)
    (hfile : ¬files location) : after.bytesAt? location = before.bytesAt? location := by
  refine Option.ext fun bytes => ?_
  rw [bytesAt?_eq_some_iff, bytesAt?_eq_some_iff]
  exact h.file_iff hfile

theorem Changes.find?_eq (h : Changes files directories before after) (hfile : ¬files location)
    (hdirectory : ¬directories location) : after.find? location = before.find? location := by
  rcases h location with hsame | ⟨hchanged, -⟩ | ⟨-, -, hnew⟩
  · exact hsame
  · exact absurd hchanged hfile
  · exact absurd hnew hdirectory

/-- What was free later on was free before. -/
theorem Changes.find?_eq_none (h : Changes files directories before after)
    (hfree : after.find? location = none) : before.find? location = none := by
  cases hentry : before.find? location with
  | none => rfl
  | some entry =>
      obtain ⟨now, hnow, -⟩ := h.grows location entry hentry
      rw [hfree] at hnow
      cases hnow

/-- Where no directory is new, the directories are the same. -/
theorem Changes.isDirectory_eq (h : Changes files (fun _ => False) before after)
    (location : Location) : after.isDirectory location = before.isDirectory location := by
  rcases h location with hsame | ⟨-, hold, bytes, hbytes⟩ | ⟨-, -, hnew⟩
  · rw [isDirectory, isDirectory, hsame]
  · rw [hold, isDirectory, hbytes]
  · exact hnew.elim

theorem Temporary.changes {current : Location} {t : Path} {bytes : ByteArray}
    (h : Temporary before current t location bytes after) :
    Changes (· = location) directories before after := by
  intro l
  by_cases hl : l = location
  · refine .inr (.inl ⟨hl, ?_, bytes, hl ▸ h.holds⟩)
    rw [hl, isDirectory, h.new]
  · exact .inl (h.others l hl)

end Changes

/-! ## Slots -/

/-- Where a path can stand for something, its directory can. -/
theorem checkPath_directory {p : Path} (h : checkPath p = .ok ()) :
    checkPath p.directory = .ok () := by
  rcases p.directory_isPrefix with hhere | ⟨hempty, hpart⟩
  · rw [hhere]
    rfl
  · obtain ⟨tail, htail⟩ := hpart
    have htext : p.bytes = p.directory.bytes ++ String.ofList tail := by
      rw [← String.toList_inj, String.toList_append, String.toList_ofList, htail]
    rw [checkPath] at h ⊢
    split at h
    · cases h
    rename_i hnul
    split at h
    · cases h
    split at h
    · cases h
    rename_i hsize
    have hnul' : ¬p.directory.holdsNul = true := by
      simp only [Path.holdsNul, List.contains_iff_mem, ← htail] at hnul ⊢
      exact fun hmem => hnul (List.mem_append_left _ hmem)
    rw [if_neg hnul', if_neg (Bool.eq_false_iff.mp hempty), if_neg]
    rw [htext, String.length_append] at hsize
    omega

theorem not_holdsNul_of_checkPath {p : Path} (h : checkPath p = .ok ()) : p.holdsNul = false := by
  rw [checkPath] at h
  split at h
  · cases h
  · exact Bool.eq_false_iff.mpr ‹_›

section Slots

variable {store after : Store} {current : Location} {p : Path} {s : Slot}

/-- Silent segments stay in the directory that they stand in, so the moves lead to the same
directory. -/
theorem foldlM_step_moves_iff {segments : List String} {here location : Location}
    (hdirectory : store.isDirectory location = true) (hhere : store.isDirectory here = true) :
    (segments.filter fun t => !isSilent t.toList).foldlM store.step here = .ok location ↔
      segments.foldlM store.step here = .ok location := by
  induction segments generalizing here with
  | nil => exact Iff.rfl
  | cons segment rest ih =>
      by_cases hsilent : isSilent segment.toList = true
      · have hstay : store.step here segment = .ok here := by
          refine step_eq_ok_iff.mpr ⟨hhere, by rw [lead, if_pos hsilent], fun hspoken => ?_⟩
          rw [hsilent] at hspoken
          cases hspoken
        rw [List.filter_cons_of_neg (by simpa using hsilent), List.foldlM_cons, hstay]
        exact ih hhere
      · rw [List.filter_cons_of_pos (by simpa using hsilent), List.foldlM_cons, List.foldlM_cons]
        cases store.step here segment with
        | error e => exact Iff.rfl
        | ok next =>
            by_cases hnext : store.isDirectory next = true
            · exact ih hnext
            · have hnever : ∀ {names : List String},
                  names.foldlM store.step next ≠ .ok location := fun hfold =>
                hnext (foldlM_step_of_directories (fun _ => id) hfold hdirectory).2
              exact iff_of_false hnever hnever

/-- A path whose moves lead to a directory finds it. -/
theorem locate_of_moves {location : Location} (hcheck : checkPath p = .ok ())
    (hfold : p.moves.foldlM store.step (start current p) = .ok location)
    (hdirectory : store.isDirectory location = true) :
    store.locate current p = .ok location := by
  have hstart := (foldlM_step_of_directories (fun _ => id) hfold hdirectory).2
  rw [moves_eq_filter_segments] at hfold
  rw [locate, hcheck]
  exact (foldlM_step_moves_iff hdirectory hstart).mp hfold

/-- The directory of a slot is found at the directory of its path. -/
theorem locate_directory (h : store.slot? current p = .ok (some s)) :
    store.locate current p.directory = .ok s.directory := by
  obtain ⟨before, tail, hcheck, hsegments, htail, -, hfold, hdirectory, hspoken, -, -⟩ :=
    slot?_eq_some h
  have hmoves : p.moves = (before.filter fun t => !isSilent t.toList) ++ [s.name] := by
    have hsilent : tail.filter (fun t => !isSilent t.toList) = [] := by
      refine List.filter_eq_nil_iff.mpr fun t ht => ?_
      rw [htail t ht]
      decide
    rw [moves_eq_filter_segments, hsegments, List.filter_append,
      List.filter_cons_of_pos (by simp [hspoken]), hsilent]
  obtain ⟨habove, habsolute⟩ := Path.moves_directory p
  refine locate_of_moves (checkPath_directory hcheck) ?_ hdirectory
  rw [habove, hmoves, List.dropLast_concat, start, habsolute (by simp [hmoves])]
  have hstart := (foldlM_step_of_directories (fun _ => id) hfold hdirectory).2
  exact (foldlM_step_moves_iff hdirectory hstart).mpr hfold

theorem kindAt_directory (h : store.slot? current p = .ok (some s)) :
    store.kindAt current p.directory = some .directory := by
  obtain ⟨_, _, -, -, -, -, -, hdirectory, -⟩ := slot?_eq_some h
  rw [kindAt, locate_directory h]
  dsimp only
  rw [(isDirectory_iff store).mp hdirectory]
  rfl

/-- A slot stays as long as the directories stay. -/
theorem slot?_of_directories (h : store.slot? current p = .ok (some s))
    (kept : ∀ l, store.isDirectory l = true → after.isDirectory l = true) :
    after.slot? current p = .ok (some s) := by
  obtain ⟨_, hcheck, h⟩ := bind_eq_ok_iff.mp h
  rw [slot?, hcheck]
  dsimp only at h ⊢
  split at h
  · cases h
  obtain ⟨directory, hfold, h⟩ := bind_eq_ok_iff.mp h
  split at h
  · cases h
  rename_i hdirectory
  have hthere : store.isDirectory directory = true := by simpa using hdirectory
  have hafter := (foldlM_step_of_directories kept hfold hthere).1
  have hkept : ¬(!after.isDirectory directory) = true := by simp [kept _ hthere]
  change (List.foldlM after.step _ _ >>= _) = _
  rw [hafter]
  exact (if_neg hkept).trans h

/-- A temporary file can be given the name of a slot that holds no directory. -/
theorem renameAt_of_slot? {t : Path} {location : Location} {bytes : ByteArray}
    (h : store.slot? current p = .ok (some s)) (hslash : s.slash = false)
    (hfree : store.isDirectory s.location = false)
    (hfound : store.locate current t = .ok location)
    (hholds : store.find? location = some (.file bytes)) :
    ∃ renamed, store.renameAt current t p = .ok renamed := by
  obtain ⟨_, hcheck, -⟩ := bind_eq_ok_iff.mp h
  refine ⟨(store.erase location).put s.location (.file bytes), ?_⟩
  rw [renameAt, if_neg (Bool.eq_false_iff.mp (not_holdsNul_of_checkPath hcheck)), hfound, h]
  simp [bind, Except.bind, hholds, hslash, hfree]

/-- A file that is found can be written. -/
theorem writeAt_of_file {location : Location} {old : ByteArray}
    (hfound : store.locate current p = .ok location)
    (hholds : store.find? location = some (.file old)) (bytes : ByteArray) :
    ∃ written, store.writeAt current p bytes = .ok written := by
  refine ⟨store.put location (.file bytes), ?_⟩
  simp [writeAt, bind, Except.bind, hfound, hholds]

/-- Nothing is found at a slot in which nothing stands. -/
theorem locate_of_free_slot (h : store.slot? current p = .ok (some s))
    (hfree : store.find? s.location = none) : store.locate current p = .error .notFound := by
  obtain ⟨before, tail, hcheck, hsegments, -, -, hfold, hdirectory, hspoken, hup, hsize⟩ :=
    slot?_eq_some h
  have hsilent : ¬(s.name = "" ∨ s.name = ".") := fun hname => by
    rw [(isSilent_toList s.name).mpr hname] at hspoken
    cases hspoken
  have hstep : store.step s.directory s.name = .error .notFound := by
    rw [Slot.location] at hfree
    simp [step, hdirectory, hup, not_or.mp hsilent, Nat.not_lt.mpr hsize, hfree]
  have hall : (segments p).foldlM store.step (start current p) = .error .notFound := by
    rw [hsegments, List.foldlM_append, hfold]
    change (s.name :: tail).foldlM store.step s.directory = _
    rw [List.foldlM_cons, hstep]
    rfl
  rw [locate, hcheck]
  exact hall

/-- A temporary file can be made if its name is not in use. -/
theorem createAt_of_free {stem : String} {directory : Path} {location : Location}
    (hlocate : store.locate current directory = .ok location)
    (hslot : store.slot? current (directory.join ⟨stem⟩) = .ok (some s))
    (hslash : s.slash = false) (hplace : s.location = location ++ [stem])
    (hfree : store.find? s.location = none) :
    ∃ made, store.createAt current stem directory = .ok made := by
  have hname : store.freshName location stem = stem := by
    have hfirst : (store.find? (location ++ [stem])).isNone = true := by
      rw [← hplace, hfree]
      rfl
    rw [freshName, List.range_succ_eq_map, List.map_cons]
    simp [hfirst]
  refine ⟨(directory.join ⟨stem⟩, store.put s.location (.file .empty)), ?_⟩
  rw [createAt, hlocate]
  simp [bind, Except.bind, hname, hslot, hslash, hfree]

end Slots

/-! ## Paths to fill -/

/-- A path names a file, or nothing yet, in a directory that is there. -/
def Fillable (store : Store) (current : Location) (p : Path) : Prop :=
  ∃ s, store.slot? current p = .ok (some s) ∧
    (store.find? s.location = none ∨
      s.slash = false ∧ ∃ bytes, store.find? s.location = some (.file bytes))

namespace Fillable

variable {store after : Store} {current : Location} {p : Path}

/-- What is read is the file at the destination, and there may be none. -/
theorem readAt_eq (h : store.Fillable current p) : store.readAt current p =
    match store.bytesAt? (destination current p) with
    | some bytes => .ok bytes
    | none => .error .notFound := by
  obtain ⟨s, hslot, hfree | ⟨hslash, bytes, hfile⟩⟩ := h
  · have hnone : store.bytesAt? (destination current p) = none := by
      rw [← (location_of_slot? hslot).1, bytesAt?, hfree]
    rw [readAt, locate_of_free_slot hslot hfree, hnone]
    rfl
  · have hlocate := locate_of_slot? hslot hslash (fun _ => id) (by rw [hfile]; rfl)
    rw [bytesAt?_eq_some_iff.mpr ((location_of_slot? hslot).1 ▸ hfile)]
    exact readAt_eq_ok_iff.mpr ⟨_, hlocate, hfile⟩

/-- No directory stands at the destination. -/
theorem isDirectory_eq_false (h : store.Fillable current p) :
    store.isDirectory (destination current p) = false := by
  obtain ⟨s, hslot, hentry⟩ := h
  rw [← (location_of_slot? hslot).1, isDirectory]
  rcases hentry with hfree | ⟨-, bytes, hfile⟩
  · rw [hfree]
  · rw [hfile]

/-- A path stays fillable while other files change. -/
theorem of_changes {files : Location → Prop} (h : store.Fillable current p)
    (hchanges : store.Changes files (fun _ => False) after)
    (hother : ¬files (destination current p)) : after.Fillable current p := by
  obtain ⟨s, hslot, hentry⟩ := h
  rw [← (location_of_slot? hslot).1] at hother
  refine ⟨s, slot?_of_directories hslot fun l => hchanges.grows.isDirectory, ?_⟩
  rwa [hchanges.find?_eq hother id]

end Fillable

end Store

end EnumBindings
