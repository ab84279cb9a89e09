import EnumBindings.Proofs.ByteOrder
import EnumBindings.Proofs.Keyed
import EnumBindings.Proofs.Table.Shape
import Mathlib.Data.List.Induction

/-!
# From a listing to a table

A listing is sound when both of its lists of references are: every name is a key, and none comes
twice (`Listing.Sound`). Then it gives its table (`builds_table`). Otherwise there is a first
reference that cannot stand, and the two checks report that one (`Listing.sound_or_first`,
`checkReferences_of_first`).
-/

namespace EnumBindings.TableDocument

open EnumBindings.Toml

/-! ## References -/

/-- Every name of a list is a key, and none comes twice. -/
structure Sound (keys names : List String) : Prop where
  known : ∀ name ∈ names, name ∈ keys
  nodup : names.Nodup

/-- The first reference of a list that cannot stand. A name that is no key is unknown even where
it comes again. -/
inductive FirstOffence (list : ReferenceList) (keys : List String) :
    List String → ReferenceError → Prop
  | unknown (before : List String) {name : String} (after : List String)
      (sound : Sound keys before) (missing : name ∉ keys) :
      FirstOffence list keys (before ++ name :: after) (.unknown list name)
  | duplicate (before : List String) {name : String} (after : List String)
      (sound : Sound keys before) (known : name ∈ keys) (again : name ∈ before) :
      FirstOffence list keys (before ++ name :: after) (.duplicate list name)

section References

variable {list : ReferenceList} {keys names : List String} {error : ReferenceError}

theorem sound_nil : Sound keys [] := ⟨List.forall_mem_nil _, List.nodup_nil⟩

/-- One reference that can stand is passed over. -/
theorem checkReferences_cons {earlier : List String} {name : String} (rest : List String)
    (known : name ∈ keys) (new : name ∉ earlier) :
    checkReferences list keys earlier (name :: rest) =
      checkReferences list keys (earlier ++ [name]) rest := by
  rw [checkReferences, if_neg (by simpa using known), if_neg (by simpa using new)]

/-- All references that can stand are passed over. -/
theorem checkReferences_append (earlier : List String) {before : List String}
    (sound : Sound keys (earlier ++ before)) (rest : List String) :
    checkReferences list keys earlier (before ++ rest) =
      checkReferences list keys (earlier ++ before) rest := by
  induction before generalizing earlier with
  | nil => rw [List.nil_append, List.append_nil]
  | cons name before ih =>
      have known : name ∈ keys :=
        sound.known name (List.mem_append_right _ List.mem_cons_self)
      have new : name ∉ earlier := fun hmem =>
        List.disjoint_of_nodup_append sound.nodup hmem List.mem_cons_self
      rw [List.append_cons] at sound ⊢
      rw [List.cons_append, checkReferences_cons _ known new, ih _ sound]

theorem checkReferences_of_sound (sound : Sound keys names) :
    checkReferences list keys [] names = .ok () := by
  have hpassed : checkReferences list keys [] (names ++ []) = checkReferences list keys names [] :=
    checkReferences_append [] sound []
  rwa [List.append_nil] at hpassed

theorem checkReferences_of_first (first : FirstOffence list keys names error) :
    checkReferences list keys [] names = .error error := by
  cases first with
  | unknown before after sound missing =>
      rw [checkReferences_append [] sound, checkReferences,
        if_pos (by simpa using missing)]
  | duplicate before after sound known again =>
      rw [checkReferences_append [] sound, checkReferences,
        if_neg (by simpa using known), if_pos (by simpa using again)]

theorem FirstOffence.append (first : FirstOffence list keys names error) (more : List String) :
    FirstOffence list keys (names ++ more) error := by
  cases first with
  | unknown before after sound missing =>
      rw [List.append_assoc, List.cons_append]
      exact .unknown before _ sound missing
  | duplicate before after sound known again =>
      rw [List.append_assoc, List.cons_append]
      exact .duplicate before _ sound known again

/-- A list is sound, or it has a first reference that cannot stand. -/
theorem sound_or_first (list : ReferenceList) (keys names : List String) :
    Sound keys names ∨ ∃ error, FirstOffence list keys names error := by
  induction names using List.reverseRecOn with
  | nil => exact .inl sound_nil
  | append_singleton names name ih =>
      rcases ih with sound | ⟨error, first⟩
      · by_cases known : name ∈ keys
        · by_cases again : name ∈ names
          · exact .inr ⟨_, .duplicate names [] sound known again⟩
          · refine .inl ⟨List.forall_mem_append.mpr ⟨sound.known, ?_⟩, ?_⟩
            · exact List.forall_mem_singleton.mpr known
            · rw [← List.concat_eq_append]
              exact List.Nodup.concat again sound.nodup
        · exact .inr ⟨_, .unknown names [] sound known⟩
      · exact .inr ⟨error, first.append [name]⟩

end References

namespace Listing

/-- Both lists of references are sound. -/
def Sound (listing : Listing) : Prop :=
  ∀ list, TableDocument.Sound listing.keys (listing.names list)

/-- The first reference that cannot stand, those of `preserve` coming before those of `bitset`. -/
inductive FirstOffence (listing : Listing) (error : ReferenceError) : Prop
  | preserve (first : TableDocument.FirstOffence .preserve listing.keys listing.preserve error)
  | bitset (sound : TableDocument.Sound listing.keys listing.preserve)
      (first : TableDocument.FirstOffence .bitset listing.keys listing.bitset error)

theorem sound_or_first (listing : Listing) :
    listing.Sound ∨ ∃ error, listing.FirstOffence error := by
  rcases TableDocument.sound_or_first .preserve listing.keys listing.preserve with
    hpreserve | ⟨error, first⟩
  · rcases TableDocument.sound_or_first .bitset listing.keys listing.bitset with
      hbitset | ⟨error, first⟩
    · refine .inl fun list => ?_
      cases list with
      | preserve => exact hpreserve
      | bitset => exact hbitset
    · exact .inr ⟨error, .bitset hpreserve first⟩
  · exact .inr ⟨error, .preserve first⟩

end Listing

/-! ## The table -/

/-- The table of a listing: one definition for each enum type with the members as they are listed,
in strictly increasing byte order of the names, and the flags of the names in each list. -/
structure Builds (listing : Listing) (table : EnumTable) : Prop where
  definitions : (table.definitions.map fun d => (d.name, d.members)).Perm listing.enums
  increasing : table.definitions.Pairwise fun a b =>
    a.name.toUTF8.data.toList < b.name.toUTF8.data.toList
  bitset : ∀ d ∈ table.definitions, d.bitset = true ↔ d.name ∈ listing.bitset
  preserve : ∀ d ∈ table.definitions, d.preserve = true ↔ d.name ∈ listing.preserve

theorem builds_table {listing : Listing} (nodup : listing.keys.Nodup) :
    Builds listing (TableDocument.table listing.contents listing.enums) := by
  constructor
  · have hlisted : ((TableDocument.table listing.contents listing.enums).definitions.map
        fun d => (d.name, d.members)) = listing.enums.mergeSort fun a b => a.1 ≤ b.1 := by
      rw [TableDocument.table, List.map_map]
      exact List.map_id _
    rw [hlisted]
    exact List.mergeSort_perm _ _
  · simp only [toList_toUTF8, bytesOf_lt_iff]
    exact List.pairwise_map.mpr (Keyed.pairwise_lt_mergeSort Prod.fst nodup)
  · intro d hd
    obtain ⟨e, -, rfl⟩ := List.mem_map.mp hd
    exact List.contains_iff_mem
  · intro d hd
    obtain ⟨e, -, rfl⟩ := List.mem_map.mp hd
    exact List.contains_iff_mem

/-! ## Documents -/

section Documents

variable {entries : Entries} {listing : Listing}

theorem ofEntries_of_sound (h : entries.Proper) (shape : Shape entries listing)
    (sound : listing.Sound) :
    EnumTable.ofEntries entries =
      .ok (TableDocument.table listing.contents listing.enums) := by
  have hread := (decode_eq_ok_iff h _).mpr ⟨listing, shape, rfl⟩
  have hpreserve : checkReferences .preserve (listing.enums.map (·.1)) []
      listing.contents.preserve = .ok () := checkReferences_of_sound (sound .preserve)
  have hbitset : checkReferences .bitset (listing.enums.map (·.1)) []
      listing.contents.bitset = .ok () := checkReferences_of_sound (sound .bitset)
  simp only [EnumTable.ofEntries, hread, hpreserve, hbitset, Except.mapError, bind, Except.bind,
    pure, Except.pure]

theorem ofEntries_of_first (h : entries.Proper) (shape : Shape entries listing)
    {error : ReferenceError} (first : listing.FirstOffence error) :
    EnumTable.ofEntries entries = .error (.reference error) := by
  have hread := (decode_eq_ok_iff h _).mpr ⟨listing, shape, rfl⟩
  cases first with
  | preserve first =>
      have hpreserve : checkReferences .preserve (listing.enums.map (·.1)) []
          listing.contents.preserve = .error error := checkReferences_of_first first
      simp only [EnumTable.ofEntries, hread, hpreserve, Except.mapError, bind, Except.bind]
  | bitset sound first =>
      have hpreserve : checkReferences .preserve (listing.enums.map (·.1)) []
          listing.contents.preserve = .ok () := checkReferences_of_sound sound
      have hbitset : checkReferences .bitset (listing.enums.map (·.1)) []
          listing.contents.bitset = .error error := checkReferences_of_first first
      simp only [EnumTable.ofEntries, hread, hpreserve, hbitset, Except.mapError, bind,
        Except.bind]

theorem ofEntries_of_not_shape (h : entries.Proper) (hnone : ¬∃ listing, Shape entries listing) :
    ∃ reason, EnumTable.ofEntries entries = .error (.document (.mismatch reason)) := by
  cases hread : decode entries with
  | ok read =>
      obtain ⟨listing, shape, -⟩ := (decode_eq_ok_iff h read).mp hread
      exact absurd ⟨listing, shape⟩ hnone
  | error reason =>
      refine ⟨reason, ?_⟩
      rw [EnumTable.ofEntries, hread]
      rfl

end Documents

end EnumBindings.TableDocument
