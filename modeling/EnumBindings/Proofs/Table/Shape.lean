import EnumBindings.Proofs.Toml.WellFormed
import EnumBindings.Table.Document

/-!
# The shape of a document with a table

What a document has to look like to write down a table is said here by relations between its
values and what they write (`WritesNames`, `WritesMember`, `WritesEnums`), and by `Shape` for the
document as a whole. The reader accepts exactly this shape (`decode_eq_ok_iff`):
`field_eq_ok_iff` is one entry, `decodeEntries_eq_ok_iff` the induction over the entries.
-/

namespace EnumBindings.TableDocument

open EnumBindings.Toml

/-- An array of strings writes their list. -/
def WritesNames (value : Value) (names : List String) : Prop :=
  value.elements? = some (names.map .string)

/-- A string writes a bare member, and a pair of a string and an integer one with a value. -/
inductive WritesMember : Value → MemberSpec → Prop
  | named (name : String) : WritesMember (.string name) (.named name)
  | explicit (name : String) {n : Int} (fits : Fits64 n) :
      WritesMember (.array [.string name, .integer n]) (.explicit name n)

/-- An array writes the members of an enum type, one in each element. -/
def WritesMembers (value : Value) (members : List MemberSpec) : Prop :=
  ∃ elements, value.elements? = some elements ∧ List.Forall₂ WritesMember elements members

/-- A table writes enum types, the key of each entry being the name and its value the members. -/
def WritesEnums (value : Value) (enums : List (String × List MemberSpec)) : Prop :=
  ∃ origin entries, value = .table origin entries ∧
    List.Forall₂ (fun entry e => entry.1 = e.1 ∧ WritesMembers entry.2 e.2) entries enums

/-- What a document lists: the names under its two keys for references, and the enum types. -/
structure Listing where
  preserve : List String
  bitset : List String
  enums : List (String × List MemberSpec)

namespace Listing

/-- The names in one of the two lists. -/
def names (listing : Listing) : ReferenceList → List String
  | .preserve => listing.preserve
  | .bitset => listing.bitset

/-- The names of the enum types. -/
def keys (listing : Listing) : List String := listing.enums.map Prod.fst

/-- A listing as the contents that are read. -/
def contents (listing : Listing) : Contents :=
  ⟨listing.preserve, listing.bitset, some listing.enums⟩

end Listing

/-- What a key of a document says: what the value under it writes, or a default without one. -/
def Says {α : Type} (entries : Entries) (key : String) (writes : Value → α → Prop)
    (default said : α) : Prop :=
  (∃ value, (key, value) ∈ entries ∧ writes value said) ∨
    (key ∉ entries.map Prod.fst ∧ said = default)

/-- The shape of a document with a listing: no other keys than the three, names under both keys
for references as far as these are there, and enum types under their key. -/
structure Shape (entries : Entries) (listing : Listing) : Prop where
  keys : ∀ e ∈ entries, e.1 ∈ ["preserve", "bitset", "enums"]
  references : ∀ list : ReferenceList, Says entries list.name WritesNames [] (listing.names list)
  enums : ∃ value, ("enums", value) ∈ entries ∧ WritesEnums value listing.enums

/-! ## Reading values -/

theorem forall₂_string_iff (elements : List Value) (names : List String) :
    List.Forall₂ (fun v name => v = .string name) elements names ↔
      elements = names.map .string := by
  rw [← List.forall₂_map_right_iff (f := Value.string) (R := Eq), List.forall₂_eq_eq_eq]

theorem decodeText_eq_ok_iff (value : Value) (text : String) :
    decodeText value = .ok text ↔ value = .string text := by
  cases value <;> simp [decodeText, decodeString, mismatched]

theorem decodeList_eq_ok_iff {α : Type} (decode : Value → Decoded α) (value : Value)
    (found : List α) :
    decodeList decode value = .ok found ↔
      ∃ elements, value.elements? = some elements ∧
        List.Forall₂ (fun v a => decode v = .ok a) elements found := by
  rw [decodeList]
  cases value.elements? with
  | none =>
      constructor
      · intro h
        cases h
      · rintro ⟨elements, h, -⟩
        cases h
  | some elements =>
      rw [mapM_eq_ok_iff]
      constructor
      · intro h
        exact ⟨elements, rfl, h⟩
      · rintro ⟨_, ⟨⟩, h⟩
        exact h

theorem decodeNames_eq_ok_iff (value : Value) (names : List String) :
    decodeList decodeText value = .ok names ↔ WritesNames value names := by
  simp only [decodeList_eq_ok_iff, decodeText_eq_ok_iff, forall₂_string_iff, WritesNames]
  exact ⟨fun ⟨elements, h, heq⟩ => heq ▸ h, fun h => ⟨_, h, rfl⟩⟩

theorem member_eq_ok_iff {value : Value} (wf : value.WellFormed) (spec : MemberSpec) :
    member value = .ok spec ↔ WritesMember value spec := by
  constructor
  · intro h
    unfold member at h
    split at h
    · cases h
      exact .named _
    · cases h
      cases wf with
      | array all =>
          cases all (.integer _) (List.mem_cons_of_mem _ List.mem_cons_self) with
          | integer fits => exact .explicit _ fits
    · cases h
  · intro h
    cases h <;> rfl

/-- The elements of a well-formed array are well-formed. -/
theorem wellFormed_of_elements {value : Value} (wf : value.WellFormed) {elements : List Value}
    (h : value.elements? = some elements) : ∀ v ∈ elements, v.WellFormed := by
  cases wf with
  | array all | tables all =>
      cases h
      exact all
  | string | integer | real | boolean | date | table => cases h

theorem decodeMembers_eq_ok_iff {value : Value} (wf : value.WellFormed)
    (members : List MemberSpec) :
    decodeList member value = .ok members ↔ WritesMembers value members := by
  rw [decodeList_eq_ok_iff, WritesMembers]
  refine exists_congr fun elements => and_congr_right fun helements => ?_
  exact forall₂_congr_of_mem (fun v hv => member_eq_ok_iff
    (wellFormed_of_elements wf helements v hv)) members

/-- One entry of the table with the enum types. -/
theorem decodeEntry_eq_ok_iff {entry : String × Value} (wf : entry.2.WellFormed)
    (e : String × List MemberSpec) :
    (do return (entry.1, ← decodeList member entry.2) : Decoded _) = .ok e ↔
      entry.1 = e.1 ∧ WritesMembers entry.2 e.2 := by
  rw [bind_eq_ok_iff]
  constructor
  · rintro ⟨members, hmembers, ⟨⟩⟩
    exact ⟨rfl, (decodeMembers_eq_ok_iff wf members).mp hmembers⟩
  · rintro ⟨hname, hmembers⟩
    refine ⟨e.2, (decodeMembers_eq_ok_iff wf e.2).mpr hmembers, ?_⟩
    rw [hname]
    rfl

theorem decodeEnums_eq_ok_iff {value : Value} (wf : value.WellFormed)
    (enums : List (String × List MemberSpec)) :
    decodeMap (decodeList member) value = .ok enums ↔ WritesEnums value enums := by
  constructor
  · intro h
    cases value with
    | table origin entries =>
        refine ⟨origin, entries, rfl, ?_⟩
        have hentries := (mapM_eq_ok_iff _ entries enums).mp h
        exact (forall₂_congr_of_mem (fun entry hentry => decodeEntry_eq_ok_iff
          ((Entries.proper_of_table wf).values entry hentry)) enums).mp hentries
    -- a date is a map of one entry, whose value is a text and no array
    | date text => cases h
    | string | integer | real | boolean | array | tables => cases h
  · rintro ⟨origin, entries, rfl, h⟩
    refine (mapM_eq_ok_iff _ entries enums).mpr ?_
    exact (forall₂_congr_of_mem (fun entry hentry => decodeEntry_eq_ok_iff
      ((Entries.proper_of_table wf).values entry hentry)) enums).mpr h

/-! ## Reading entries -/

section Fields

variable {value : Value} (contents next : Contents)

theorem field_preserve_eq_ok_iff (value : Value) :
    field contents "preserve" value = .ok next ↔
      ∃ names, WritesNames value names ∧ { contents with preserve := names } = next := by
  rw [field, if_pos rfl, bind_eq_ok_iff]
  simp only [decodeNames_eq_ok_iff, pure, Except.pure, Except.ok.injEq]

theorem field_bitset_eq_ok_iff (value : Value) :
    field contents "bitset" value = .ok next ↔
      ∃ names, WritesNames value names ∧ { contents with bitset := names } = next := by
  rw [field, if_neg (by decide), if_pos rfl, bind_eq_ok_iff]
  simp only [decodeNames_eq_ok_iff, pure, Except.pure, Except.ok.injEq]

theorem field_enums_eq_ok_iff (wf : value.WellFormed) :
    field contents "enums" value = .ok next ↔
      ∃ enums, WritesEnums value enums ∧ { contents with enums := some enums } = next := by
  rw [field, if_neg (by decide), if_neg (by decide), if_pos rfl, bind_eq_ok_iff]
  simp only [decodeEnums_eq_ok_iff wf, pure, Except.pure, Except.ok.injEq]

theorem field_of_other {key : String} (hkey : key ∉ ["preserve", "bitset", "enums"])
    (value : Value) :
    field contents key value = .error (.unknownField key ["preserve", "bitset", "enums"]) := by
  simp only [List.mem_cons, List.not_mem_nil, or_false, not_or] at hkey
  rw [field, if_neg hkey.1, if_neg hkey.2.1, if_neg hkey.2.2]

end Fields

section Says

variable {α : Type} {entries : Entries} {key : String} {value : Value}
  {writes : Value → α → Prop} {default said : α}

theorem says_of_new (hnew : key ∉ entries.map Prod.fst) :
    Says entries key writes default said ↔ said = default := by
  constructor
  · rintro (⟨value, hmem, -⟩ | ⟨-, h⟩)
    · exact absurd (List.mem_map_of_mem (f := Prod.fst) hmem) hnew
    · exact h
  · intro h
    exact .inr ⟨hnew, h⟩

/-- What the first entry writes counts as the default of the others, none of which says more. -/
theorem says_cons_self (hnew : key ∉ entries.map Prod.fst) :
    Says ((key, value) :: entries) key writes default said ↔
      ∃ new, writes value new ∧ Says entries key writes new said := by
  simp only [says_of_new hnew, exists_eq_right']
  constructor
  · rintro (⟨other, hmem, h⟩ | ⟨hnone, -⟩)
    · rcases List.mem_cons.mp hmem with heq | hrest
      · cases heq
        exact h
      · exact absurd (List.mem_map_of_mem (f := Prod.fst) hrest) hnew
    · exact absurd List.mem_cons_self hnone
  · intro h
    exact .inl ⟨value, List.mem_cons_self, h⟩

theorem says_cons_ne {other : String} (hne : other ≠ key) :
    Says ((other, value) :: entries) key writes default said ↔
      Says entries key writes default said := by
  have hmem (v : Value) : (key, v) ∈ (other, value) :: entries ↔ (key, v) ∈ entries := by
    rw [List.mem_cons]
    exact or_iff_right fun heq => hne (congrArg Prod.fst heq).symm
  have hkeys : key ∉ ((other, value) :: entries).map Prod.fst ↔ key ∉ entries.map Prod.fst := by
    rw [List.map_cons, List.mem_cons]
    exact not_congr (or_iff_right fun heq => hne heq.symm)
  simp only [Says, hmem, hkeys]

end Says

/-- Enum types that are there. -/
def WritesSomeEnums (value : Value) (enums : Option (List (String × List MemberSpec))) : Prop :=
  ∃ listed, enums = some listed ∧ WritesEnums value listed

theorem decodeEntries_eq_ok_iff {entries : Entries} (h : entries.Proper)
    (contents next : Contents) :
    decodeEntries field contents entries = .ok next ↔
      (∀ e ∈ entries, e.1 ∈ ["preserve", "bitset", "enums"]) ∧
        Says entries "preserve" WritesNames contents.preserve next.preserve ∧
        Says entries "bitset" WritesNames contents.bitset next.bitset ∧
        Says entries "enums" WritesSomeEnums contents.enums next.enums := by
  induction entries generalizing contents with
  | nil =>
      have hnew (key : String) : key ∉ List.map Prod.fst ([] : Entries) := List.not_mem_nil
      rw [says_of_new (hnew _), says_of_new (hnew _), says_of_new (hnew _)]
      obtain ⟨preserve, bitset, enums⟩ := next
      constructor
      · intro h
        cases h
        exact ⟨List.forall_mem_nil _, rfl, rfl, rfl⟩
      · rintro ⟨-, rfl, rfl, rfl⟩
        rfl
  | cons entry rest ih =>
      obtain ⟨key, value⟩ := entry
      obtain ⟨hnew, hnodup⟩ := List.nodup_cons.mp h.nodup
      obtain ⟨hvalue, hvalues⟩ := List.forall_mem_cons.mp h.values
      have hrest := ih ⟨hnodup, hvalues⟩
      have hstep : decodeEntries field contents ((key, value) :: rest) = .ok next ↔
          ∃ middle, field contents key value = .ok middle ∧
            decodeEntries field middle rest = .ok next := by
        rw [decodeEntries, List.foldlM_cons, bind_eq_ok_iff]
        rfl
      rw [hstep, List.forall_mem_cons]
      -- the key of the entry says what its value writes, the other two are left to the rest
      by_cases hpreserve : key = "preserve"
      · subst hpreserve
        simp only [field_preserve_eq_ok_iff, hrest, says_cons_self hnew,
          says_cons_ne (show "preserve" ≠ "bitset" by decide),
          says_cons_ne (show "preserve" ≠ "enums" by decide)]
        constructor
        · rintro ⟨_, ⟨names, hnames, rfl⟩, hkeys, hp, hb, he⟩
          exact ⟨⟨by decide, hkeys⟩, ⟨names, hnames, hp⟩, hb, he⟩
        · rintro ⟨⟨-, hkeys⟩, ⟨names, hnames, hp⟩, hb, he⟩
          exact ⟨_, ⟨names, hnames, rfl⟩, hkeys, hp, hb, he⟩
      by_cases hbitset : key = "bitset"
      · subst hbitset
        simp only [field_bitset_eq_ok_iff, hrest, says_cons_self hnew,
          says_cons_ne (show "bitset" ≠ "preserve" by decide),
          says_cons_ne (show "bitset" ≠ "enums" by decide)]
        constructor
        · rintro ⟨_, ⟨names, hnames, rfl⟩, hkeys, hp, hb, he⟩
          exact ⟨⟨by decide, hkeys⟩, hp, ⟨names, hnames, hb⟩, he⟩
        · rintro ⟨⟨-, hkeys⟩, hp, ⟨names, hnames, hb⟩, he⟩
          exact ⟨_, ⟨names, hnames, rfl⟩, hkeys, hp, hb, he⟩
      by_cases henums : key = "enums"
      · subst henums
        simp only [field_enums_eq_ok_iff _ _ hvalue, hrest, says_cons_self hnew,
          says_cons_ne (show "enums" ≠ "preserve" by decide),
          says_cons_ne (show "enums" ≠ "bitset" by decide)]
        constructor
        · rintro ⟨_, ⟨enums, henums, rfl⟩, hkeys, hp, hb, he⟩
          exact ⟨⟨by decide, hkeys⟩, hp, hb, ⟨some enums, ⟨enums, rfl, henums⟩, he⟩⟩
        · rintro ⟨⟨-, hkeys⟩, hp, hb, ⟨_, ⟨enums, rfl, henums⟩, he⟩⟩
          exact ⟨_, ⟨enums, henums, rfl⟩, hkeys, hp, hb, he⟩
      · have hother : key ∉ ["preserve", "bitset", "enums"] := by
          simp [hpreserve, hbitset, henums]
        constructor
        · rintro ⟨middle, hfield, -⟩
          rw [field_of_other contents hother] at hfield
          cases hfield
        · rintro ⟨⟨hkey, -⟩, -⟩
          exact absurd hkey hother

/-- The reader accepts the documents of the shape and reads their listing. -/
theorem decode_eq_ok_iff {entries : Entries} (h : entries.Proper)
    (read : Contents × List (String × List MemberSpec)) :
    decode entries = .ok read ↔
      ∃ listing, Shape entries listing ∧ read = (listing.contents, listing.enums) := by
  rw [decode, bind_eq_ok_iff]
  simp only [decodeEntries_eq_ok_iff h]
  constructor
  · rintro ⟨⟨preserve, bitset, enums⟩, ⟨hkeys, hpreserve, hbitset, henums⟩, hread⟩
    rcases henums with ⟨value, hmem, listed, rfl, hlisted⟩ | ⟨-, rfl⟩
    · cases hread
      refine ⟨⟨preserve, bitset, listed⟩, ⟨hkeys, ?_, value, hmem, hlisted⟩, rfl⟩
      intro list
      cases list with
      | preserve => exact hpreserve
      | bitset => exact hbitset
    · cases hread
  · rintro ⟨listing, hshape, rfl⟩
    obtain ⟨value, hmem, hlisted⟩ := hshape.enums
    refine ⟨listing.contents, ⟨hshape.keys, hshape.references .preserve,
      hshape.references .bitset, .inl ⟨value, hmem, listing.enums, rfl, hlisted⟩⟩, rfl⟩

/-- A document of the shape has one listing only. -/
theorem Shape.unique {entries : Entries} (h : entries.Proper) {listing listing' : Listing}
    (hshape : Shape entries listing) (hshape' : Shape entries listing') : listing = listing' := by
  have hread := (decode_eq_ok_iff h _).mpr ⟨listing, hshape, rfl⟩
  have hread' := (decode_eq_ok_iff h _).mpr ⟨listing', hshape', rfl⟩
  rw [hread] at hread'
  obtain ⟨preserve, bitset, enums⟩ := listing
  obtain ⟨preserve', bitset', enums'⟩ := listing'
  cases hread'
  rfl

theorem map_fst_of_writes {entries : Entries} {enums : List (String × List MemberSpec)}
    (h : List.Forall₂ (fun entry e => entry.1 = e.1 ∧ WritesMembers entry.2 e.2) entries enums) :
    entries.map Prod.fst = enums.map Prod.fst := by
  rw [← List.forall₂_eq_eq_eq, List.forall₂_map_left_iff, List.forall₂_map_right_iff]
  exact h.imp fun _ _ hentry => hentry.1

/-- No enum type is listed twice. -/
theorem Shape.nodup_keys {entries : Entries} (h : entries.Proper) {listing : Listing}
    (hshape : Shape entries listing) : listing.keys.Nodup := by
  obtain ⟨value, hmem, origin, inner, rfl, hinner⟩ := hshape.enums
  have htable := Entries.proper_of_table (h.values _ hmem)
  rw [Listing.keys, ← map_fst_of_writes hinner]
  exact htable.nodup

end EnumBindings.TableDocument
