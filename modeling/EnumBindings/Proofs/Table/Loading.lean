import EnumBindings.Proofs.Table
import EnumBindings.Proofs.Table.Listing
import Mathlib

/-!
# Loading a table

A text that is a document either has the shape of a table or not, and if it has, its references
can stand or one of them is the first that cannot (`parse_exact`). The order in which keys were
written does not count for any of this: documents that differ in the order of their keys
(`Reordered`) have the same shape and the same listing up to the order of the enum types
(`Shape.of_agree`). Only where the shape is wrong in several places, the order decides which
fault is met first and told.
-/

namespace EnumBindings

namespace TableDocument

open EnumBindings.Toml

/-! ## Documents in another order -/

/-- Two values that differ in the order of keys at most, and in how their tables were written. -/
inductive Reordered : Value → Value → Prop
  | same (value : Value) : Reordered value value
  | array {elements elements' : List Value} (all : List.Forall₂ Reordered elements elements') :
      Reordered (.array elements) (.array elements')
  | tables {elements elements' : List Value} (all : List.Forall₂ Reordered elements elements') :
      Reordered (.tables elements) (.tables elements')
  | table (origin origin' : Origin) {entries moved entries' : Entries}
      (perm : entries.Perm moved) (keys : moved.map Prod.fst = entries'.map Prod.fst)
      (values : List.Forall₂ Reordered (moved.map Prod.snd) (entries'.map Prod.snd)) :
      Reordered (.table origin entries) (.table origin' entries')

section Values

variable {value value' : Value}

theorem Reordered.eq_string_iff (h : Reordered value value') (text : String) :
    value = .string text ↔ value' = .string text := by
  cases h <;> simp

theorem Reordered.eq_integer_iff (h : Reordered value value') (n : Int) :
    value = .integer n ↔ value' = .integer n := by
  cases h <;> simp

/-- A pair of a string and an integer has no keys to be put in order. -/
theorem eq_pair_iff {elements elements' : List Value}
    (all : List.Forall₂ Reordered elements elements') (name : String) (n : Int) :
    elements = [.string name, .integer n] ↔ elements' = [.string name, .integer n] := by
  constructor
  · rintro rfl
    cases all with
    | cons hname rest =>
        cases rest with
        | cons hn rest =>
            cases rest
            rw [(hname.eq_string_iff name).mp rfl, (hn.eq_integer_iff n).mp rfl]
  · rintro rfl
    cases all with
    | cons hname rest =>
        cases rest with
        | cons hn rest =>
            cases rest
            rw [(hname.eq_string_iff name).mpr rfl, (hn.eq_integer_iff n).mpr rfl]

theorem writesMember_array_iff (elements : List Value) (spec : MemberSpec) :
    WritesMember (.array elements) spec ↔
      ∃ name n, elements = [.string name, .integer n] ∧ Fits64 n ∧ spec = .explicit name n := by
  constructor
  · intro h
    cases h with
    | explicit name fits => exact ⟨name, _, rfl, fits, rfl⟩
  · rintro ⟨name, n, rfl, fits, rfl⟩
    exact .explicit name fits

theorem Reordered.writesMember_iff (h : Reordered value value') (spec : MemberSpec) :
    WritesMember value spec ↔ WritesMember value' spec := by
  cases h with
  | same => rfl
  | array all => simp only [writesMember_array_iff, eq_pair_iff all]
  | tables | table =>
      constructor
      · intro h
        cases h
      · intro h
        cases h

/-- What is read off the elements of an array one by one does not depend on the order of keys. -/
theorem Reordered.elements_iff {α : Type} {S : Value → α → Prop}
    (hcongr : ∀ v v', Reordered v v' → ∀ a, S v a ↔ S v' a) (h : Reordered value value')
    (found : List α) :
    (∃ elements, value.elements? = some elements ∧ List.Forall₂ S elements found) ↔
      ∃ elements, value'.elements? = some elements ∧ List.Forall₂ S elements found := by
  cases h with
  | same => rfl
  | array all | tables all =>
      simp only [Value.elements?, Option.some.injEq, exists_eq_left']
      exact forall₂_congr_left hcongr all found
  | table => rfl

theorem Reordered.writesMembers_iff (h : Reordered value value') (members : List MemberSpec) :
    WritesMembers value members ↔ WritesMembers value' members :=
  h.elements_iff (fun _ _ => writesMember_iff) members

theorem Reordered.writesNames_iff (h : Reordered value value') (names : List String) :
    WritesNames value names ↔ WritesNames value' names := by
  simp only [← decodeNames_eq_ok_iff, decodeList_eq_ok_iff, decodeText_eq_ok_iff]
  exact h.elements_iff (fun _ _ => eq_string_iff) names

end Values

/-- Two values write the same, apart from the order of enum types. -/
structure Agrees (value value' : Value) : Prop where
  names : ∀ names, WritesNames value names ↔ WritesNames value' names
  enums : ∀ enums, WritesEnums value enums →
    ∃ enums', enums.Perm enums' ∧ WritesEnums value' enums'
  enums' : ∀ enums', WritesEnums value' enums' →
    ∃ enums, enums'.Perm enums ∧ WritesEnums value enums

theorem Agrees.symm {value value' : Value} (h : Agrees value value') : Agrees value' value :=
  ⟨fun names => (h.names names).symm, h.enums', h.enums⟩

theorem writesEnums_table_iff (origin : Origin) (entries : Entries)
    (enums : List (String × List MemberSpec)) :
    WritesEnums (.table origin entries) enums ↔
      List.Forall₂ (fun entry e => entry.1 = e.1 ∧ WritesMembers entry.2 e.2) entries enums := by
  constructor
  · rintro ⟨_, _, ⟨⟩, h⟩
    exact h
  · intro h
    exact ⟨origin, entries, rfl, h⟩

theorem Reordered.agrees {value value' : Value} (h : Reordered value value') :
    Agrees value value' := by
  cases h with
  | same => exact ⟨fun _ => .rfl, fun enums h => ⟨enums, .refl enums, h⟩,
      fun enums h => ⟨enums, .refl enums, h⟩⟩
  | array all | tables all =>
      refine ⟨Reordered.writesNames_iff (by constructor; exact all), ?_, ?_⟩
      · rintro enums ⟨_, _, ⟨⟩, -⟩
      · rintro enums ⟨_, _, ⟨⟩, -⟩
  | table origin origin' perm keys values =>
      -- every entry keeps its members, and the enum types move with their entries
      have hsame (enums : List (String × List MemberSpec)) :=
        forall₂_congr_left (T := fun entry e => entry.1 = e.1 ∧ WritesMembers entry.2 e.2)
          (S := fun entry e => entry.1 = e.1 ∧ WritesMembers entry.2 e.2)
          (fun entry entry' ⟨hkey, hvalue⟩ e => by rw [hkey, hvalue.writesMembers_iff])
          (forall₂_of_columns keys values) enums
      refine ⟨Reordered.writesNames_iff (.table origin origin' perm keys values), ?_, ?_⟩
      · intro enums h
        rw [writesEnums_table_iff] at h
        obtain ⟨enums', hmoved, henums⟩ := List.perm_comp_forall₂ perm.symm h
        exact ⟨enums', henums.symm, (writesEnums_table_iff _ _ _).mpr ((hsame enums').mp hmoved)⟩
      · intro enums' h
        rw [writesEnums_table_iff, ← hsame] at h
        obtain ⟨enums, hmoved, henums⟩ := List.perm_comp_forall₂ perm h
        exact ⟨enums, henums.symm, (writesEnums_table_iff _ _ _).mpr hmoved⟩

/-- The same keys are there in two documents, with values that write the same. -/
def EntriesAgree (entries entries' : Entries) : Prop :=
  (∀ e ∈ entries, ∃ e' ∈ entries', e.1 = e'.1 ∧ Agrees e.2 e'.2) ∧
    ∀ e' ∈ entries', ∃ e ∈ entries, e.1 = e'.1 ∧ Agrees e.2 e'.2

theorem EntriesAgree.symm {entries entries' : Entries} (h : EntriesAgree entries entries') :
    EntriesAgree entries' entries := by
  constructor
  · intro e' he'
    obtain ⟨e, he, hkey, hvalue⟩ := h.2 e' he'
    exact ⟨e, he, hkey.symm, hvalue.symm⟩
  · intro e he
    obtain ⟨e', he', hkey, hvalue⟩ := h.1 e he
    exact ⟨e', he', hkey.symm, hvalue.symm⟩

theorem Reordered.entriesAgree {origin origin' : Origin} {entries entries' : Entries}
    (h : Reordered (.table origin entries) (.table origin' entries')) :
    EntriesAgree entries entries' := by
  cases h with
  | same =>
      exact ⟨fun e he => ⟨e, he, rfl, (Reordered.same e.2).agrees⟩,
        fun e he => ⟨e, he, rfl, (Reordered.same e.2).agrees⟩⟩
  | table _ _ perm keys values =>
      obtain ⟨hforth, hback⟩ := forall₂_partners (forall₂_of_columns keys values)
      constructor
      · intro e he
        obtain ⟨e', he', hkey, hvalue⟩ := hforth e (perm.mem_iff.mp he)
        exact ⟨e', he', hkey, hvalue.agrees⟩
      · intro e' he'
        obtain ⟨e, he, hkey, hvalue⟩ := hback e' he'
        exact ⟨e, perm.mem_iff.mpr he, hkey, hvalue.agrees⟩

/-! ## Listings in another order -/

/-- Two listings that differ in the order of the enum types at most. -/
structure Listing.Alike (listing listing' : Listing) : Prop where
  preserve : listing.preserve = listing'.preserve
  bitset : listing.bitset = listing'.bitset
  enums : listing.enums.Perm listing'.enums

section Listings

variable {entries entries' : Entries} {listing listing' : Listing}

theorem Says.of_agree {key : String} {names : List String} (h : EntriesAgree entries entries')
    (said : Says entries key WritesNames [] names) : Says entries' key WritesNames [] names := by
  rcases said with ⟨value, hmem, hnames⟩ | ⟨hnone, hempty⟩
  · obtain ⟨⟨_, value'⟩, hmem', rfl, hagrees⟩ := h.1 _ hmem
    exact .inl ⟨value', hmem', (hagrees.names names).mp hnames⟩
  · refine .inr ⟨fun hmem => ?_, hempty⟩
    obtain ⟨e', he', rfl⟩ := List.mem_map.mp hmem
    obtain ⟨e, he, hkey, -⟩ := h.2 e' he'
    exact hnone (hkey ▸ List.mem_map_of_mem he)

/-- Documents that agree have the same shape, and listings that are alike. -/
theorem Shape.of_agree (h : EntriesAgree entries entries') (shape : Shape entries listing) :
    ∃ listing', Shape entries' listing' ∧ listing.Alike listing' := by
  obtain ⟨value, hmem, henums⟩ := shape.enums
  obtain ⟨⟨_, value'⟩, hmem', rfl, hagrees⟩ := h.1 _ hmem
  obtain ⟨enums', hperm, henums'⟩ := hagrees.enums _ henums
  refine ⟨⟨listing.preserve, listing.bitset, enums'⟩, ⟨?_, ?_, value', hmem', henums'⟩,
    rfl, rfl, hperm⟩
  · intro e' he'
    obtain ⟨e, he, hkey, -⟩ := h.2 e' he'
    exact hkey ▸ shape.keys e he
  · intro list
    cases list with
    | preserve => exact Says.of_agree h (shape.references .preserve)
    | bitset => exact Says.of_agree h (shape.references .bitset)

theorem Sound.of_keys {keys keys' names : List String} (hkeys : ∀ name, name ∈ keys ↔ name ∈ keys')
    (sound : TableDocument.Sound keys names) : TableDocument.Sound keys' names :=
  ⟨fun name hmem => (hkeys name).mp (sound.known name hmem), sound.nodup⟩

theorem FirstOffence.of_keys {list : ReferenceList} {keys keys' names : List String}
    {error : ReferenceError} (hkeys : ∀ name, name ∈ keys ↔ name ∈ keys')
    (first : TableDocument.FirstOffence list keys names error) :
    TableDocument.FirstOffence list keys' names error := by
  cases first with
  | unknown before after sound missing =>
      exact .unknown before after (sound.of_keys hkeys) (mt (hkeys _).mpr missing)
  | duplicate before after sound known again =>
      exact .duplicate before after (sound.of_keys hkeys) ((hkeys _).mp known) again

namespace Listing.Alike

theorem mem_keys_iff (h : listing.Alike listing') (name : String) :
    name ∈ listing.keys ↔ name ∈ listing'.keys :=
  (h.enums.map Prod.fst).mem_iff

theorem sound (h : listing.Alike listing') (sound : listing.Sound) : listing'.Sound := by
  intro list
  cases list with
  | preserve =>
      have hpreserve := (sound .preserve).of_keys h.mem_keys_iff
      rwa [names, h.preserve] at hpreserve
  | bitset =>
      have hbitset := (sound .bitset).of_keys h.mem_keys_iff
      rwa [names, h.bitset] at hbitset

theorem firstOffence (h : listing.Alike listing') {error : ReferenceError}
    (first : listing.FirstOffence error) : listing'.FirstOffence error := by
  cases first with
  | preserve first => exact .preserve (h.preserve ▸ first.of_keys h.mem_keys_iff)
  | bitset sound first =>
      exact .bitset (h.preserve ▸ sound.of_keys h.mem_keys_iff)
        (h.bitset ▸ first.of_keys h.mem_keys_iff)

theorem table_eq (h : listing.Alike listing') (nodup : listing.keys.Nodup) :
    TableDocument.table listing.contents listing.enums =
      TableDocument.table listing'.contents listing'.enums := by
  have hsorted := Keyed.mergeSort_eq_of_perm Prod.fst h.enums nodup
  rw [TableDocument.table, hsorted, TableDocument.table, contents, contents, h.preserve, h.bitset]

end Listing.Alike

/-- The order of keys in a document does not count, except for which fault of its shape is told. -/
theorem ofEntries_of_agree (hproper : entries.Proper) (hproper' : entries'.Proper)
    (h : EntriesAgree entries entries') :
    EnumTable.ofEntries entries' = EnumTable.ofEntries entries ∨
      ∃ reason reason', EnumTable.ofEntries entries = .error (.document (.mismatch reason)) ∧
        EnumTable.ofEntries entries' = .error (.document (.mismatch reason')) := by
  by_cases hshape : ∃ listing, Shape entries listing
  · obtain ⟨listing, shape⟩ := hshape
    obtain ⟨listing', shape', halike⟩ := shape.of_agree h
    left
    rcases listing.sound_or_first with sound | ⟨error, first⟩
    · rw [ofEntries_of_sound hproper shape sound,
        ofEntries_of_sound hproper' shape' (halike.sound sound),
        halike.table_eq (shape.nodup_keys hproper)]
    · rw [ofEntries_of_first hproper shape first,
        ofEntries_of_first hproper' shape' (halike.firstOffence first)]
  · have hshape' : ¬∃ listing, Shape entries' listing := fun ⟨listing, shape⟩ =>
      have ⟨listing', shape', _⟩ := shape.of_agree h.symm
      hshape ⟨listing', shape'⟩
    obtain ⟨reason, hreason⟩ := ofEntries_of_not_shape hproper hshape
    obtain ⟨reason', hreason'⟩ := ofEntries_of_not_shape hproper' hshape'
    exact .inr ⟨reason, reason', hreason, hreason'⟩

end Listings

end TableDocument

namespace EnumTable

open TableDocument

theorem parse_eq_ofEntries {text : String} {entries : Toml.Entries}
    (hparse : Toml.parse? text = some entries) (origin : String) :
    parse text origin = (ofEntries entries).mapError (TableError.ofFault origin) := by
  rw [parse, ofText, hparse]

section Parsing

variable {text text' origin : String} {entries entries' : Toml.Entries} {listing : Listing}

theorem parse_of_sound (hparse : Toml.parse? text = some entries) (shape : Shape entries listing)
    (sound : listing.Sound) : ∃ table, parse text origin = .ok table ∧ Builds listing table := by
  have hproper := Toml.proper_of_parse hparse
  rw [parse_eq_ofEntries hparse, ofEntries_of_sound hproper shape sound]
  exact ⟨_, rfl, builds_table (shape.nodup_keys hproper)⟩

theorem parse_of_not_sound (hparse : Toml.parse? text = some entries)
    (shape : Shape entries listing) (hsound : ¬listing.Sound) :
    ∃ error, listing.FirstOffence error ∧ parse text origin = .error (.reference error) := by
  obtain ⟨error, first⟩ := listing.sound_or_first.resolve_left hsound
  rw [parse_eq_ofEntries hparse, ofEntries_of_first (Toml.proper_of_parse hparse) shape first]
  exact ⟨error, first, rfl⟩

theorem parse_of_not_shape (hparse : Toml.parse? text = some entries)
    (hshape : ¬∃ listing, Shape entries listing) :
    ∃ reason, parse text origin = .error (.parse origin (.mismatch reason)) := by
  obtain ⟨reason, hreason⟩ := ofEntries_of_not_shape (Toml.proper_of_parse hparse) hshape
  rw [parse_eq_ofEntries hparse, hreason]
  exact ⟨reason, rfl⟩

theorem parse_accepts_iff (hparse : Toml.parse? text = some entries) :
    (∃ table, parse text origin = .ok table) ↔ ∃ listing, Shape entries listing ∧ listing.Sound := by
  constructor
  · rintro ⟨table, htable⟩
    have hshape : ∃ listing, Shape entries listing := by
      by_contra hnone
      obtain ⟨reason, hreason⟩ := parse_of_not_shape hparse hnone
      cases htable.symm.trans hreason
    obtain ⟨listing, shape⟩ := hshape
    refine ⟨listing, shape, ?_⟩
    by_contra hsound
    obtain ⟨error, -, herror⟩ := parse_of_not_sound hparse shape hsound
    cases htable.symm.trans herror
  · rintro ⟨listing, shape, sound⟩
    obtain ⟨table, htable, -⟩ := parse_of_sound hparse shape sound
    exact ⟨table, htable⟩

theorem parse_of_reordered (hparse : Toml.parse? text = some entries)
    (hparse' : Toml.parse? text' = some entries')
    (reordered : Reordered (.table .header entries) (.table .header entries')) :
    parse text' origin = parse text origin ∨
      ∃ reason reason', parse text origin = .error (.parse origin (.mismatch reason)) ∧
        parse text' origin = .error (.parse origin (.mismatch reason')) := by
  rw [parse_eq_ofEntries hparse, parse_eq_ofEntries hparse']
  rcases ofEntries_of_agree (Toml.proper_of_parse hparse) (Toml.proper_of_parse hparse')
    reordered.entriesAgree with hsame | ⟨reason, reason', hreason, hreason'⟩
  · exact .inl (hsame ▸ rfl)
  · exact .inr ⟨reason, reason', hreason ▸ rfl, hreason' ▸ rfl⟩

end Parsing

/-- Loading is exact. A document is accepted if and only if it has the shape of a table and its
references can stand; then its table is the one that it lists. Where the shape is right, but a
reference cannot stand, the first of these is told; where the shape is wrong, that is told. The
order in which keys were written changes nothing of this; it only decides which fault of a wrong
shape is met first. -/
theorem parse_exact {text : String} {entries : Toml.Entries}
    (hparse : Toml.parse? text = some entries) (origin : String) :
    ((∃ table, parse text origin = .ok table) ↔
      ∃ listing, Shape entries listing ∧ listing.Sound) ∧
    (∀ listing, Shape entries listing → listing.Sound →
      ∃ table, parse text origin = .ok table ∧ Builds listing table) ∧
    (∀ listing, Shape entries listing → ¬listing.Sound →
      ∃ error, listing.FirstOffence error ∧ parse text origin = .error (.reference error)) ∧
    ((¬∃ listing, Shape entries listing) →
      ∃ reason, parse text origin = .error (.parse origin (.mismatch reason))) ∧
    ∀ {text' : String} {entries' : Toml.Entries}, Toml.parse? text' = some entries' →
      Reordered (.table .header entries) (.table .header entries') →
      parse text' origin = parse text origin ∨
        ∃ reason reason', parse text origin = .error (.parse origin (.mismatch reason)) ∧
          parse text' origin = .error (.parse origin (.mismatch reason')) := by
  refine ⟨parse_accepts_iff hparse, ?_, ?_, parse_of_not_shape hparse, ?_⟩
  · intro listing shape sound
    exact parse_of_sound hparse shape sound
  · intro listing shape hsound
    exact parse_of_not_sound hparse shape hsound
  · intro text' entries' hparse' reordered
    exact parse_of_reordered hparse hparse' reordered

/-- Two keys are too many, and the one that stands first is told. -/
theorem fault_told_in_written_order :
    ∃ entries entries' : Toml.Entries,
      Toml.parse? "x = 1\ny = 1\n" = some entries ∧
      Toml.parse? "y = 1\nx = 1\n" = some entries' ∧
      Reordered (.table .header entries) (.table .header entries') ∧
      parse "x = 1\ny = 1\n" "enums.toml" = .error (.parse "enums.toml"
        (.mismatch (.unknownField "x" ["preserve", "bitset", "enums"]))) ∧
      parse "y = 1\nx = 1\n" "enums.toml" = .error (.parse "enums.toml"
        (.mismatch (.unknownField "y" ["preserve", "bitset", "enums"]))) := by
  have hxy : Toml.parse? "x = 1\ny = 1\n" = some [("x", .integer 1), ("y", .integer 1)] := by cbv
  have hyx : Toml.parse? "y = 1\nx = 1\n" = some [("y", .integer 1), ("x", .integer 1)] := by cbv
  refine ⟨_, _, hxy, hyx, ?_, ?_, ?_⟩
  · exact .table _ _ (.swap _ _ _) rfl (.cons (.same _) (.cons (.same _) .nil))
  · rw [parse_eq_ofEntries hxy]
    rfl
  · rw [parse_eq_ofEntries hyx]
    rfl

end EnumTable

/-! ## The small table in another order -/

namespace Panel

open EnumBindings.Toml TableDocument

/-- The entries of the document. -/
def entries : Entries :=
  [("bitset", .array [.string "Access"]),
   ("preserve", .array [.string "Align"]),
   ("enums", .table .header
     [("Access", .array [.array [.string "Read", .integer 1],
        .array [.string "Write", .integer 2147483648]]),
      ("Align", .array [.string "Auto", .string "FlexStart"]),
      ("Phase", .array [.array [.string "Low", .integer (-5)],
        .array [.string "Unknown", .integer 7]])])]

/-- The document with its keys in another order. -/
def shuffled : String :=
  "preserve = [\"Align\"]\nbitset = [\"Access\"]\n\n[enums]\n" ++
  "Phase = [[\"Low\", -5], [\"Unknown\", 7]]\n" ++
  "Access = [[\"Read\", 1], [\"Write\", 2147483648]]\n" ++
  "Align = [\"Auto\", \"FlexStart\"]\n"

/-- The entries of that document. -/
def shuffledEntries : Entries :=
  [("preserve", .array [.string "Align"]),
   ("bitset", .array [.string "Access"]),
   ("enums", .table .header
     [("Phase", .array [.array [.string "Low", .integer (-5)],
        .array [.string "Unknown", .integer 7]]),
      ("Access", .array [.array [.string "Read", .integer 1],
        .array [.string "Write", .integer 2147483648]]),
      ("Align", .array [.string "Auto", .string "FlexStart"])])]

theorem reordered_entries : Reordered (.table .header entries) (.table .header shuffledEntries) := by
  -- the enum types are moved below their key, and the two lists change places
  refine .table _ _ (.swap _ _ _) rfl (.cons (.same _) (.cons (.same _) (.cons ?_ .nil)))
  refine .table _ _ (.trans (.cons _ (.swap _ _ _)) (.swap _ _ _)) rfl ?_
  exact .cons (.same _) (.cons (.same _) (.cons (.same _) .nil))

set_option maxRecDepth 2000 in
theorem parse?_shuffled : Toml.parse? shuffled = some shuffledEntries := by cbv

/-- Both documents give the table. -/
theorem parse_shuffled :
    (∃ listing, Shape entries listing ∧ listing.Sound) ∧
      EnumTable.parse shuffled "panel.toml" = .ok table := by
  have hparse : Toml.parse? document = some entries := by cbv
  obtain ⟨haccepted, -, -, -, horder⟩ := EnumTable.parse_exact hparse "panel.toml"
  have hdocument := parse_document "panel.toml"
  refine ⟨haccepted.mp ⟨table, hdocument⟩, ?_⟩
  rcases horder parse?_shuffled reordered_entries with hsame | ⟨reason, -, hreason, -⟩
  · exact hsame.trans hdocument
  · rw [hdocument] at hreason
    cases hreason

end Panel

end EnumBindings
