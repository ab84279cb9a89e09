import EnumBindings.Proofs.Elementwise
import EnumBindings.Toml.Document
import Mathlib.Data.List.Nodup

/-!
# What every document keeps to

Whatever a text says, no table of its document has a key twice, and every integer fits 64 bits
(`proper_of_parse`). Values start out that way when they are read (`valueOf?_wellFormed`), and
putting one under a key or opening a table keeps it so (`assign_proper`, `changeWithin_proper`,
`openTable_proper`, `openElement_proper`); a document is made of nothing else.
-/

namespace EnumBindings.Toml

/-- The integers of 64 bits with a sign. -/
def Fits64 (n : Int) : Prop := -9223372036854775808 ≤ n ∧ n ≤ 9223372036854775807

/-- A value whose tables have no key twice and whose integers fit. -/
inductive Value.WellFormed : Value → Prop
  | string (text : String) : WellFormed (.string text)
  | integer {n : Int} (fits : Fits64 n) : WellFormed (.integer n)
  | real (value : Real) : WellFormed (.real value)
  | boolean (value : Bool) : WellFormed (.boolean value)
  | date (text : String) : WellFormed (.date text)
  | array {elements : List Value} (all : ∀ v ∈ elements, WellFormed v) :
      WellFormed (.array elements)
  | tables {elements : List Value} (all : ∀ v ∈ elements, WellFormed v) :
      WellFormed (.tables elements)
  | table (origin : Origin) {entries : Entries} (nodup : (entries.map Prod.fst).Nodup)
      (all : ∀ e ∈ entries, WellFormed e.2) : WellFormed (.table origin entries)

/-- Entries without a key twice, all of whose values are well-formed. -/
structure Entries.Proper (entries : Entries) : Prop where
  nodup : (entries.map Prod.fst).Nodup
  values : ∀ e ∈ entries, e.2.WellFormed

/-- A change after which proper entries are proper still. -/
def KeepsProper (change : Entries → Option Entries) : Prop :=
  ∀ entries changed, entries.Proper → change entries = some changed → changed.Proper

namespace Entries

variable {entries : Entries} {key : String} {value : Value}

theorem proper_nil : Proper [] := ⟨List.nodup_nil, fun _ h => absurd h List.not_mem_nil⟩

theorem Proper.table (h : entries.Proper) (origin : Origin) :
    (Value.table origin entries).WellFormed :=
  .table origin h.nodup h.values

theorem proper_of_table {origin : Origin} (h : (Value.table origin entries).WellFormed) :
    entries.Proper := by
  cases h with
  | table _ nodup all => exact ⟨nodup, all⟩

theorem Proper.of_lookup (h : entries.Proper) (hlookup : entries.lookup key = some value) :
    value.WellFormed := by
  obtain ⟨before, after, rfl, -⟩ := List.lookup_eq_some_iff.mp hlookup
  exact h.values (key, value) (List.mem_append_right _ List.mem_cons_self)

theorem Proper.add (h : entries.Proper) (hnew : entries.lookup key = none)
    (hvalue : value.WellFormed) : (entries.add key value).Proper := by
  have hkey : key ∉ entries.map Prod.fst := by
    intro hmem
    obtain ⟨e, he, rfl⟩ := List.mem_map.mp hmem
    exact absurd (List.lookup_eq_none_iff.mp hnew e he) (by simp)
  constructor
  · rw [Entries.add, List.map_append, List.map_singleton, ← List.concat_eq_append]
    exact List.Nodup.concat hkey h.nodup
  · rw [Entries.add, List.forall_mem_append]
    exact ⟨h.values, List.forall_mem_singleton.mpr hvalue⟩

theorem map_fst_replace (entries : Entries) (key : String) (value : Value) :
    (entries.replace key value).map Prod.fst = entries.map Prod.fst := by
  rw [Entries.replace, List.map_map]
  refine List.map_congr_left fun e _ => ?_
  dsimp only [Function.comp_apply]
  split <;> rfl

theorem Proper.replace (h : entries.Proper) (hvalue : value.WellFormed) :
    (entries.replace key value).Proper := by
  refine ⟨map_fst_replace entries key value ▸ h.nodup, ?_⟩
  rw [Entries.replace, List.forall_mem_map]
  intro e he
  dsimp only
  split
  · exact hvalue
  · exact h.values e he

theorem Proper.filter (h : entries.Proper) (p : String × Value → Bool) :
    Proper (entries.filter p) :=
  ⟨h.nodup.sublist (List.filter_sublist.map Prod.fst),
    fun e he => h.values e (List.mem_of_mem_filter he)⟩

end Entries

/-! ## Changing entries -/

section Changes

variable {change : Entries → Option Entries}

theorem changeLast_wellFormed (keeps : KeepsProper change) {elements changed : List Value}
    (all : ∀ v ∈ elements, v.WellFormed) (h : changeLast change elements = some changed) :
    ∀ v ∈ changed, v.WellFormed := by
  unfold changeLast at h
  split at h
  · next origin entries hlast =>
    obtain ⟨inner, hinner, rfl⟩ := Option.map_eq_some_iff.mp h
    have htable := Entries.proper_of_table (all _ (List.mem_of_getLast? hlast))
    rw [List.forall_mem_append]
    refine ⟨fun v hv => all v (List.dropLast_subset _ hv), ?_⟩
    exact List.forall_mem_singleton.mpr ((keeps entries inner htable hinner).table origin)
  · cases h

theorem assign_proper (braced : Bool) (path : List String) (last : String) {value : Value}
    (hvalue : value.WellFormed) : KeepsProper (assign braced path last value) := by
  induction path with
  | nil =>
      intro entries changed h hassign
      rw [assign] at hassign
      cases hlookup : entries.lookup last with
      | some old => simp [hlookup] at hassign
      | none =>
          simp only [hlookup, Option.isSome_none, Bool.false_eq_true, if_false] at hassign
          cases hassign
          exact h.add hlookup hvalue
  | cons table path ih =>
      intro entries changed h hassign
      rw [assign] at hassign
      split at hassign
      · next hlookup =>
        obtain ⟨inner, hinner, rfl⟩ := Option.map_eq_some_iff.mp hassign
        exact h.add hlookup ((ih [] inner Entries.proper_nil hinner).table _)
      · next inner hlookup =>
        split at hassign
        · obtain ⟨inner', hinner, rfl⟩ := Option.map_eq_some_iff.mp hassign
          have htable := Entries.proper_of_table (h.of_lookup hlookup)
          exact h.replace ((ih inner inner' htable hinner).table _)
        · cases hassign
      · next inner hlookup =>
        split at hassign
        · cases hassign
        · obtain ⟨inner', hinner, rfl⟩ := Option.map_eq_some_iff.mp hassign
          have htable := Entries.proper_of_table (h.of_lookup hlookup)
          exact h.replace ((ih inner inner' htable hinner).table _)
      · next elements hlookup =>
        split at hassign
        · cases hassign
        · obtain ⟨elements', helements, rfl⟩ := Option.map_eq_some_iff.mp hassign
          cases h.of_lookup hlookup with
          | tables all => exact h.replace (.tables (changeLast_wellFormed ih all helements))
      · cases hassign

theorem changeWithin_proper (keeps : KeepsProper change) (path : List String) :
    KeepsProper (changeWithin change path) := by
  induction path with
  | nil => exact keeps
  | cons table path ih =>
      intro entries changed h hchange
      rw [changeWithin] at hchange
      split at hchange
      · next hlookup =>
        obtain ⟨inner, hinner, rfl⟩ := Option.map_eq_some_iff.mp hchange
        exact h.add hlookup ((ih [] inner Entries.proper_nil hinner).table _)
      · next origin inner hlookup =>
        split at hchange
        · cases hchange
        · obtain ⟨inner', hinner, rfl⟩ := Option.map_eq_some_iff.mp hchange
          have htable := Entries.proper_of_table (h.of_lookup hlookup)
          exact h.replace ((ih inner inner' htable hinner).table _)
      · next elements hlookup =>
        obtain ⟨elements', helements, rfl⟩ := Option.map_eq_some_iff.mp hchange
        cases h.of_lookup hlookup with
        | tables all => exact h.replace (.tables (changeLast_wellFormed ih all helements))
      · cases hchange

theorem openTable_proper (name : String) : KeepsProper (openTable name) := by
  intro entries changed h hopen
  unfold openTable at hopen
  split at hopen
  · next hlookup =>
    cases hopen
    exact h.add hlookup (Entries.proper_nil.table _)
  · next inner hlookup =>
    cases hopen
    have hgone : List.lookup name (entries.filter (·.1 != name)) = none :=
      List.lookup_eq_none_iff.mpr fun e he =>
        (bne_comm ..).trans (List.mem_filter.mp he).2
    have htable := Entries.proper_of_table (h.of_lookup hlookup)
    exact (h.filter _).add hgone (htable.table _)
  · cases hopen

theorem openElement_proper (name : String) : KeepsProper (openElement name) := by
  have hnew : (Value.table .header []).WellFormed := Entries.proper_nil.table _
  intro entries changed h hopen
  unfold openElement at hopen
  split at hopen
  · next hlookup =>
    cases hopen
    exact h.add hlookup (.tables (List.forall_mem_singleton.mpr hnew))
  · next elements hlookup =>
    cases hopen
    cases h.of_lookup hlookup with
    | tables all =>
        refine h.replace (.tables ?_)
        exact List.forall_mem_append.mpr ⟨all, List.forall_mem_singleton.mpr hnew⟩
  · cases hopen

end Changes

/-! ## Reading values -/

theorem wellFormed_of_bounded {n : Int} {value : Value} (h : bounded? n = some value) :
    value.WellFormed := by
  unfold bounded? at h
  split at h
  · next hfits =>
    cases h
    rw [Bool.and_eq_true, decide_eq_true_iff, decide_eq_true_iff] at hfits
    exact .integer hfits
  · cases h

theorem wellFormed_of_based {chars : List Char} {value : Value} (h : based? chars = some value) :
    value.WellFormed := by
  unfold based? at h
  split at h
  · obtain ⟨digits, -, hbounded⟩ := Option.bind_eq_some_iff.mp h
    exact wellFormed_of_bounded hbounded
  · obtain ⟨digits, -, hbounded⟩ := Option.bind_eq_some_iff.mp h
    exact wellFormed_of_bounded hbounded
  · obtain ⟨digits, -, hbounded⟩ := Option.bind_eq_some_iff.mp h
    exact wellFormed_of_bounded hbounded
  · cases h

theorem wellFormed_of_decimal {chars : List Char} {value : Value}
    (h : decimal? chars = some value) : value.WellFormed := by
  obtain ⟨digits, -, hbounded⟩ := Option.bind_eq_some_iff.mp h
  exact wellFormed_of_bounded hbounded

theorem wellFormed_of_pointed {chars : List Char} {value : Value}
    (h : pointed? chars = some value) : value.WellFormed := by
  unfold pointed? at h
  generalize splitSign chars = signed at h
  obtain ⟨negative, unsigned⟩ := signed
  obtain ⟨whole, -, h⟩ := Option.bind_eq_some_iff.mp h
  obtain ⟨⟨places, exponent⟩, -, h⟩ := Option.bind_eq_some_iff.mp h
  dsimp only at h
  split at h
  · cases h
    exact .real _
  · split at h
    · cases h
      exact .real _
    · cases h

theorem wellFormed_of_named {chars : List Char} {value : Value} (h : named? chars = some value) :
    value.WellFormed := by
  unfold named? at h
  dsimp only at h
  split at h
  · cases h
    exact .real _
  · split at h
    · cases h
      exact .real _
    · cases h

theorem wellFormed_of_number {chars : List Char} {value : Value} (h : number? chars = some value) :
    value.WellFormed := by
  simp only [number?, Option.orElse_eq_orElse, Option.orElse_eq_or, Option.or_eq_some_iff] at h
  obtain hbased | ⟨-, hdecimal | ⟨-, hpointed | ⟨-, hnamed⟩⟩⟩ := h
  · exact wellFormed_of_based hbased
  · exact wellFormed_of_decimal hdecimal
  · exact wellFormed_of_pointed hpointed
  · exact wellFormed_of_named hnamed

theorem wellFormed_of_word {word : List Char} {value : Value} (h : word? word = some value) :
    value.WellFormed := by
  unfold word? at h
  split at h
  · cases h
    exact .boolean true
  · split at h
    · cases h
      exact .boolean false
    · rw [Option.orElse_eq_orElse, Option.orElse_eq_or, Option.or_eq_some_iff] at h
      rcases h with hnumber | ⟨-, hdate⟩
      · exact wellFormed_of_number hnumber
      · obtain ⟨date, -, rfl⟩ := Option.map_eq_some_iff.mp hdate
        exact .date date

/-- A reader that gives well-formed values only. -/
def ReadsWellFormed (read : List Char → Option (Value × List Char)) : Prop :=
  ∀ chars value rest, read chars = some (value, rest) → value.WellFormed

theorem plainValue?_wellFormed : ReadsWellFormed plainValue? := by
  intro chars value rest h
  unfold plainValue? at h
  split at h
  · obtain ⟨⟨text, more⟩, -, heq⟩ := Option.map_eq_some_iff.mp h
    cases heq
    exact .string _
  · obtain ⟨⟨text, more⟩, -, heq⟩ := Option.map_eq_some_iff.mp h
    cases heq
    exact .string _
  · obtain ⟨word, hword, heq⟩ := Option.map_eq_some_iff.mp h
    cases heq
    exact wellFormed_of_word hword

section Nested

variable {read : List Char → Option (Value × List Char)}

theorem elements?_wellFormed (reads : ReadsWellFormed read) (count : Nat) :
    ∀ chars values rest, elements? read count chars = some (values, rest) →
      ∀ v ∈ values, v.WellFormed := by
  induction count with
  | zero =>
      intro chars values rest h
      cases h
  | succ count ih =>
      intro chars values rest h
      rw [elements?] at h
      obtain ⟨start, -, h⟩ := Option.bind_eq_some_iff.mp h
      split at h
      · cases h
        exact fun v hv => absurd hv List.not_mem_nil
      obtain ⟨⟨value, behind⟩, hvalue, h⟩ := Option.bind_eq_some_iff.mp h
      obtain ⟨behind, -, h⟩ := Option.bind_eq_some_iff.mp h
      have hfirst : value.WellFormed := reads _ _ _ hvalue
      split at h
      · obtain ⟨⟨others, more⟩, hothers, heq⟩ := Option.map_eq_some_iff.mp h
        cases heq
        exact List.forall_mem_cons.mpr ⟨hfirst, ih _ _ _ hothers⟩
      · cases h
        exact List.forall_mem_singleton.mpr hfirst
      · cases h

theorem keyValue?_wellFormed (reads : ReadsWellFormed read) {chars rest : List Char} {key : Key}
    {value : Value} (h : keyValue? read chars = some ((key, value), rest)) : value.WellFormed := by
  obtain ⟨⟨found, behind⟩, -, h⟩ := Option.bind_eq_some_iff.mp h
  split at h
  · obtain ⟨⟨value', more⟩, hvalue, heq⟩ := Option.bind_eq_some_iff.mp h
    cases heq
    exact reads _ _ _ hvalue
  · cases h

theorem entries?_wellFormed (reads : ReadsWellFormed read) (count : Nat) :
    ∀ chars found rest, entries? read count chars = some (found, rest) →
      ∀ e ∈ found, e.2.WellFormed := by
  induction count with
  | zero =>
      intro chars found rest h
      cases h
  | succ count ih =>
      intro chars found rest h
      rw [entries?] at h
      obtain ⟨⟨entry, behind⟩, hentry, h⟩ := Option.bind_eq_some_iff.mp h
      have hfirst : entry.2.WellFormed := keyValue?_wellFormed reads hentry
      dsimp only at h
      split at h
      · obtain ⟨⟨others, more⟩, hothers, heq⟩ := Option.map_eq_some_iff.mp h
        cases heq
        exact List.forall_mem_cons.mpr ⟨hfirst, ih _ _ _ hothers⟩
      · cases h
        exact List.forall_mem_singleton.mpr hfirst
      · cases h

end Nested

theorem bracedTable?_wellFormed {found : List (Key × Value)} (all : ∀ e ∈ found, e.2.WellFormed)
    {value : Value} (h : bracedTable? found = some value) : value.WellFormed := by
  obtain ⟨entries, hput, rfl⟩ := Option.map_eq_some_iff.mp h
  refine Entries.Proper.table (foldlM_keeps (P := Entries.Proper) ?_ Entries.proper_nil hput) _
  intro entry hentry before after hbefore hassign
  exact assign_proper true _ _ (all entry hentry) before after hbefore hassign

theorem valueOf?_wellFormed (depth : Nat) : ReadsWellFormed (valueOf? depth) := by
  induction depth with
  | zero =>
      intro chars value rest h
      rw [valueOf?] at h
      · exact plainValue?_wellFormed _ _ _ h
      all_goals simp
  | succ depth ih =>
      intro chars value rest h
      unfold valueOf? at h
      split at h
      · next heq =>
        cases heq
        obtain ⟨⟨values, more⟩, hvalues, heq⟩ := Option.map_eq_some_iff.mp h
        cases heq
        exact .array (elements?_wellFormed ih _ _ _ _ hvalues)
      · next heq =>
        cases heq
        split at h
        · cases h
          exact Entries.proper_nil.table _
        · obtain ⟨⟨found, more⟩, hfound, h⟩ := Option.bind_eq_some_iff.mp h
          obtain ⟨table, htable, heq⟩ := Option.bind_eq_some_iff.mp h
          cases heq
          exact bracedTable?_wellFormed (entries?_wellFormed ih _ _ _ _ hfound) htable
      · exact plainValue?_wellFormed _ _ _ h

/-! ## Documents -/

/-- The value in a statement, if there is one, is well-formed. -/
def Statement.WellFormed : Statement → Prop
  | .value _ v => v.WellFormed
  | .table _ => True
  | .element _ => True

theorem statement?_wellFormed {chars rest : List Char} {statement : Statement}
    (h : statement? chars = some (statement, rest)) : statement.WellFormed := by
  unfold statement? at h
  split at h
  · obtain ⟨⟨key, more⟩, -, h⟩ := Option.bind_eq_some_iff.mp h
    split at h <;> cases h
    trivial
  · obtain ⟨⟨key, more⟩, -, h⟩ := Option.bind_eq_some_iff.mp h
    split at h <;> cases h
    trivial
  · obtain ⟨⟨⟨key, value⟩, more⟩, hvalue, heq⟩ := Option.map_eq_some_iff.mp h
    cases heq
    exact keyValue?_wellFormed (valueOf?_wellFormed maxDepth) hvalue

theorem statements?_wellFormed (count : Nat) :
    ∀ chars statements, statements? count chars = some statements →
      ∀ s ∈ statements, s.WellFormed := by
  induction count with
  | zero =>
      intro chars statements h
      cases h
  | succ count ih =>
      intro chars statements h
      rw [statements?] at h
      obtain ⟨start, -, h⟩ := Option.bind_eq_some_iff.mp h
      split at h
      · cases h
        exact fun s hs => absurd hs List.not_mem_nil
      obtain ⟨⟨statement, rest⟩, hstatement, h⟩ := Option.bind_eq_some_iff.mp h
      dsimp only at h
      split at h
      · obtain ⟨others, hothers, rfl⟩ := Option.map_eq_some_iff.mp h
        exact List.forall_mem_cons.mpr ⟨statement?_wellFormed hstatement, ih _ _ hothers⟩
      · cases h

/-- One statement keeps the entries of a document proper. -/
theorem Draft.take_proper {statement : Statement} (hstatement : statement.WellFormed)
    {draft next : Draft} (h : draft.entries.Proper) (htake : draft.take statement = some next) :
    next.entries.Proper := by
  unfold Draft.take at htake
  split at htake
  · obtain ⟨entries, hchange, rfl⟩ := Option.map_eq_some_iff.mp htake
    exact changeWithin_proper (assign_proper false _ _ hstatement) _ _ _ h hchange
  · obtain ⟨entries, hchange, rfl⟩ := Option.map_eq_some_iff.mp htake
    exact changeWithin_proper (openTable_proper _) _ _ _ h hchange
  · obtain ⟨entries, hchange, rfl⟩ := Option.map_eq_some_iff.mp htake
    exact changeWithin_proper (openElement_proper _) _ _ _ h hchange

/-- In every document that a text writes down, no table has a key twice, and every integer fits. -/
theorem proper_of_parse {text : String} {entries : Entries} (h : parse? text = some entries) :
    entries.Proper := by
  obtain ⟨statements, hstatements, h⟩ := Option.bind_eq_some_iff.mp h
  obtain ⟨draft, hdraft, heq⟩ := Option.bind_eq_some_iff.mp h
  cases heq
  have hall := statements?_wellFormed _ _ _ hstatements
  refine foldlM_keeps (P := fun draft : Draft => draft.entries.Proper) ?_ Entries.proper_nil hdraft
  intro statement hmem before after hbefore htake
  exact Draft.take_proper (hall statement hmem) hbefore htake

end EnumBindings.Toml
