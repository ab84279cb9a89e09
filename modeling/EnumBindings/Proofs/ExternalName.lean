import EnumBindings.Proofs.Segmentation
import EnumBindings.Proofs.Words
import Mathlib.Data.List.SplitBy

/-!
# The language of external names

`IsExternal` says which texts are external names: segments joined by single hyphens, each of them
a small letter with small letters, digits and underscores behind it. A segment of one letter can
stand first or last only, because a single capital between two words joins the second of them. The
external names of identifiers are exactly these texts (`external_names_exact`).
-/

namespace EnumBindings.Name

open EnumBindings.Text

/-! ## Segments -/

/-- `a` to `z`. -/
def IsSmall (c : Char) : Prop := 'a' ≤ c ∧ c ≤ 'z'

/-- A small letter, then small letters, digits and underscores. -/
def IsSegment (s : List Char) : Prop :=
  ∃ first rest, s = first :: rest ∧ IsSmall first ∧ ∀ c ∈ rest, IsSmall c ∨ IsDigit c ∨ c = '_'

/-- A text is put together from segments, of which only the first and the last may be a single
letter. -/
structure Spelled (s : String) (segments : List (List Char)) : Prop where
  nonempty : segments ≠ []
  joined : s.toList = ['-'].intercalate segments
  segment : ∀ g ∈ segments, IsSegment g
  interior : ∀ g ∈ segments.tail.dropLast, 2 ≤ g.length

/-- The texts that are external names. -/
def IsExternal (s : String) : Prop := ∃ segments, Spelled s segments

/-- Characters of a segment behind the first. -/
def isSegmentRest (c : Char) : Bool := c.isLower || c.isDigit || c == '_'

theorem isSegmentRest_iff (c : Char) :
    isSegmentRest c = true ↔ IsSmall c ∨ IsDigit c ∨ c = '_' := by
  simp only [isSegmentRest, Bool.or_eq_true, isLower_iff, isDigit_iff, beq_iff_eq, IsSmall,
    or_assoc]

theorem IsSmall.isLetter {c : Char} (h : IsSmall c) : IsLetter c := .inl h

theorem IsSmall.isSegmentRest {c : Char} (h : IsSmall c) : isSegmentRest c = true :=
  (isSegmentRest_iff c).mpr (.inl h)

theorem isIdentifierRest_of_isSegmentRest {c : Char} (h : isSegmentRest c = true) :
    isIdentifierRest c = true := by
  rw [isIdentifierRest_iff]
  rcases (isSegmentRest_iff c).mp h with hsmall | hdigit | hunderscore
  · exact .inl hsmall.isLetter
  · exact .inr (.inl hdigit)
  · exact .inr (.inr hunderscore)

theorem IsSegment.rest {g : List Char} (h : IsSegment g) :
    ∀ c ∈ g, isSegmentRest c = true := by
  obtain ⟨first, rest, rfl, hfirst, hrest⟩ := h
  intro c hc
  rcases List.mem_cons.mp hc with rfl | hc
  · exact hfirst.isSegmentRest
  · exact (isSegmentRest_iff c).mpr (hrest c hc)

/-! ## Characters in their other case

Characters of identifiers are ASCII, so the codes below 0x80 are all cases. -/

theorem isUppercase_eq_isUpper {c : Char} (h : isIdentifierRest c = true) :
    isUppercase c = c.isUpper := by
  rw [isUppercase, if_pos (toNat_lt_of_isIdentifierRest h)]

theorem isSegmentRest_toLower {c : Char} (h : isIdentifierRest c = true) :
    isSegmentRest c.toLower = true :=
  forall_of_codes (p := fun c => isIdentifierRest c = true → isSegmentRest c.toLower = true)
    (by decide) (toNat_lt_of_isIdentifierRest h) h

theorem isSmall_toLower {c : Char} (h : IsLetter c) : IsSmall c.toLower := by
  have hlower : c.toLower.isLower = true :=
    forall_of_codes (p := fun c => c.isAlpha = true → c.toLower.isLower = true) (by decide)
      h.toNat_lt ((isAlpha_iff c).mpr h)
  exact (isLower_iff _).mp hlower

section SegmentRest

variable {c : Char} (h : isSegmentRest c = true)

include h

theorem toNat_lt_of_isSegmentRest : c.toNat < 0x80 :=
  toNat_lt_of_isIdentifierRest (isIdentifierRest_of_isSegmentRest h)

theorem toLower_of_isSegmentRest : c.toLower = c :=
  forall_of_codes (p := fun c => isSegmentRest c = true → c.toLower = c) (by decide)
    (toNat_lt_of_isSegmentRest h) h

theorem isUpper_of_isSegmentRest : c.isUpper = false :=
  forall_of_codes (p := fun c => isSegmentRest c = true → c.isUpper = false) (by decide)
    (toNat_lt_of_isSegmentRest h) h

theorem toLower_toUpper : c.toUpper.toLower = c :=
  forall_of_codes (p := fun c => isSegmentRest c = true → c.toUpper.toLower = c) (by decide)
    (toNat_lt_of_isSegmentRest h) h

theorem isUppercase_of_isSegmentRest : isUppercase c = false := by
  rw [isUppercase_eq_isUpper (isIdentifierRest_of_isSegmentRest h), isUpper_of_isSegmentRest h]

end SegmentRest

/-- Characters of identifiers have one character as their small form. -/
theorem flatMap_lower {chars : List Char} (h : ∀ c ∈ chars, isIdentifierRest c = true) :
    chars.flatMap lower = chars.map Char.toLower := by
  induction chars with
  | nil => rfl
  | cons c rest ih =>
      obtain ⟨hc, hrest⟩ := List.forall_mem_cons.mp h
      rw [List.flatMap_cons, List.map_cons, lower_of_isIdentifierRest hc, ih hrest]
      rfl

theorem map_toLower_of_isSegmentRest {chars : List Char}
    (h : ∀ c ∈ chars, isSegmentRest c = true) : chars.map Char.toLower = chars := by
  rw [List.map_congr_left fun c hc => toLower_of_isSegmentRest (h c hc), List.map_id']

/-- The small form of a whole identifier. -/
theorem lowercase_of_isIdentifier {name : String} (h : IsIdentifier name) :
    (lowercase name).toList = name.toList.map Char.toLower := by
  have hafter : ∀ chars before, (∀ c ∈ chars, isIdentifierRest c = true) →
      lowercaseAfter before chars = chars.map Char.toLower := by
    intro chars
    induction chars with
    | nil => intro before _; rfl
    | cons c rest ih =>
        intro before hchars
        obtain ⟨hc, hrest⟩ := List.forall_mem_cons.mp hchars
        have hsigma : c ≠ 'Σ' := by
          rintro rfl
          exact absurd hc (by decide)
        simp only [lowercaseAfter, if_neg hsigma, lower_of_isIdentifierRest hc, ih _ hrest]
        rfl
  rw [lowercase, String.toList_ofList, hafter _ _ h.isIdentifierRest]

/-! ## From words to segments -/

/-- A word between two others has a capital in front and another character at its end. -/
theorem two_le_length_of_interior {name word : List Char}
    (h : word ∈ (words name).tail.dropLast) : 2 ≤ word.length := by
  have hlast : word ∈ (words name).dropLast := by
    rw [← List.tail_dropLast] at h
    exact List.mem_of_mem_tail h
  obtain ⟨c, rest, rfl, hupper⟩ := opens_of_mem_tail (List.dropLast_subset _ h)
  obtain ⟨before, d, hcloses, hlower⟩ := closes_of_mem_dropLast hlast
  cases before with
  | nil =>
      obtain ⟨rfl, -⟩ := List.cons.inj hcloses
      rw [hupper] at hlower
      cases hlower
  | cons x xs =>
      rw [hcloses]
      simp

section Identifiers

variable {name : String} (h : IsIdentifier name)

include h

/-- The characters of words are those of the name. -/
theorem isIdentifierRest_of_mem_words {word : List Char} (hword : word ∈ words name.toList) :
    ∀ c ∈ word, isIdentifierRest c = true := by
  intro c hc
  have hmem : c ∈ (words name.toList).flatten := List.mem_flatten.mpr ⟨word, hword, hc⟩
  rw [flatten_words] at hmem
  exact h.isIdentifierRest c hmem

/-- Every word of an identifier opens with a letter. -/
theorem exists_letter_of_mem_words {word : List Char} (hword : word ∈ words name.toList) :
    ∃ c rest, word = c :: rest ∧ IsLetter c := by
  have hflat := flatten_words name.toList
  have hchars := isIdentifierRest_of_mem_words h hword
  obtain ⟨c, rest, rfl⟩ := List.exists_cons_of_ne_nil (ne_nil_of_mem_words hword)
  refine ⟨c, rest, rfl, ?_⟩
  cases hwords : words name.toList with
  | nil => rw [hwords] at hword; cases hword
  | cons front others =>
      rw [hwords] at hword hflat
      rcases List.mem_cons.mp hword with rfl | hothers
      · -- the first word opens with the first character of the name
        obtain ⟨first, tail, heq, hfirst, -⟩ := h
        rw [heq, List.flatten_cons, List.cons_append] at hflat
        obtain ⟨rfl, -⟩ := List.cons.inj hflat
        exact hfirst
      · -- the others open with a capital
        have htail : c :: rest ∈ (words name.toList).tail := by rw [hwords]; exact hothers
        obtain ⟨d, others', heq, hupper⟩ := opens_of_mem_tail htail
        obtain ⟨rfl, -⟩ := List.cons.inj heq
        rw [isUppercase_eq_isUpper (hchars c List.mem_cons_self)] at hupper
        exact .inr ((isUpper_iff c).mp hupper)

/-- The small form of a word is a segment. -/
theorem isSegment_of_mem_words {word : List Char} (hword : word ∈ words name.toList) :
    IsSegment (word.map Char.toLower) := by
  have hchars := isIdentifierRest_of_mem_words h hword
  obtain ⟨c, rest, rfl, hletter⟩ := exists_letter_of_mem_words h hword
  refine ⟨c.toLower, rest.map Char.toLower, rfl, isSmall_toLower hletter, ?_⟩
  refine List.forall_mem_map.mpr fun d hd => ?_
  exact (isSegmentRest_iff _).mp (isSegmentRest_toLower (hchars d (List.mem_cons_of_mem c hd)))

/-- The external name of an identifier is put together from the small forms of its words. -/
theorem spelled_lowerHyphen :
    Spelled (lowerHyphen name) ((words name.toList).map (·.map Char.toLower)) where
  nonempty := by
    obtain ⟨first, rest, heq, -⟩ := h
    have hne : words name.toList ≠ [] := fun hnil => by
      rw [words_eq_nil_iff.mp hnil] at heq
      cases heq
    simpa using hne
  joined := by
    rw [lowerHyphen, String.toList_ofList, render]
    congr 1
    exact List.map_congr_left fun word hword =>
      flatMap_lower (isIdentifierRest_of_mem_words h hword)
  segment := List.forall_mem_map.mpr fun word hword => isSegment_of_mem_words h hword
  interior := by
    rw [← List.map_tail, ← List.map_dropLast]
    refine List.forall_mem_map.mpr fun word hword => ?_
    rw [List.length_map]
    exact two_le_length_of_interior hword

end Identifiers

/-! ## From segments to names -/

/-- A segment with a capital. -/
def capitalized : List Char → List Char
  | [] => []
  | c :: rest => c.toUpper :: rest

/-- A name whose words are segments: all but the first get a capital. -/
def nameOf : List (List Char) → List Char
  | [] => []
  | first :: rest => first ++ (rest.map capitalized).flatten

/-- Where capitals stand only in front, there is no border. -/
theorem isChain_joined {c : Char} {rest : List Char} (h : ∀ d ∈ rest, isUppercase d = false) :
    (c :: rest).IsChain fun a b => joined a b = true := by
  induction rest generalizing c with
  | nil => exact List.isChain_singleton c
  | cons d rest ih =>
      obtain ⟨hd, hrest⟩ := List.forall_mem_cons.mp h
      exact List.isChain_cons_cons.mpr ⟨by simp [joined, hd], ih hrest⟩

theorem closes_of_forall {word : List Char} (hne : word ≠ [])
    (h : ∀ c ∈ word, isUppercase c = false) : Closes word :=
  ⟨_, _, (List.dropLast_append_getLast hne).symm, h _ (List.getLast_mem hne)⟩

namespace IsSegment

variable {g : List Char} (h : IsSegment g)

include h

theorem isUppercase : ∀ c ∈ g, isUppercase c = false :=
  fun c hc => isUppercase_of_isSegmentRest (h.rest c hc)

theorem ne_nil : g ≠ [] := by
  obtain ⟨first, rest, rfl, -⟩ := h
  simp

theorem isChain : g.IsChain fun a b => joined a b = true := by
  have hupper := h.isUppercase
  obtain ⟨first, rest, rfl, -⟩ := h
  exact isChain_joined fun d hd => hupper d (List.mem_cons_of_mem first hd)

theorem isChain_capitalized : (capitalized g).IsChain fun a b => joined a b = true := by
  have hupper := h.isUppercase
  obtain ⟨first, rest, rfl, -⟩ := h
  exact isChain_joined fun d hd => hupper d (List.mem_cons_of_mem first hd)

theorem opens_capitalized : Opens (capitalized g) := by
  obtain ⟨first, rest, rfl, hfirst, -⟩ := h
  refine ⟨first.toUpper, rest, rfl, ?_⟩
  have hcapital : first.toUpper.isUpper = true := isUpper_toUpper hfirst.isLetter
  have hletter : IsLetter first.toUpper := .inr ((isUpper_iff _).mp hcapital)
  rw [isUppercase_eq_isUpper ((isIdentifierRest_iff _).mpr (.inl hletter)), hcapital]

theorem closes_capitalized (hlength : 2 ≤ g.length) : Closes (capitalized g) := by
  have hupper := h.isUppercase
  obtain ⟨first, rest, rfl, -⟩ := h
  have hne : rest ≠ [] := by
    rintro rfl
    simp at hlength
  obtain ⟨before, c, rfl, hc⟩ :=
    closes_of_forall hne fun d hd => hupper d (List.mem_cons_of_mem first hd)
  exact ⟨first.toUpper :: before, c, rfl, hc⟩

theorem flatMap_lower : g.flatMap lower = g := by
  rw [Name.flatMap_lower fun c hc => isIdentifierRest_of_isSegmentRest (h.rest c hc),
    map_toLower_of_isSegmentRest h.rest]

theorem flatMap_lower_capitalized : (capitalized g).flatMap lower = g := by
  have hlower := h.flatMap_lower
  obtain ⟨first, rest, rfl, hfirst, -⟩ := h
  have hletter : IsLetter first.toUpper :=
    .inr ((isUpper_iff _).mp (isUpper_toUpper hfirst.isLetter))
  have hback : lower first.toUpper = [first] := by
    rw [lower_of_isIdentifierRest ((isIdentifierRest_iff _).mpr (.inl hletter)),
      toLower_toUpper hfirst.isSegmentRest]
  have hsame : lower first = [first] := by
    rw [lower_of_isIdentifierRest (isIdentifierRest_of_isSegmentRest hfirst.isSegmentRest),
      toLower_of_isSegmentRest hfirst.isSegmentRest]
  rw [List.flatMap_cons, hsame] at hlower
  rw [capitalized, List.flatMap_cons, hback, hlower]

end IsSegment

/-- With a capital in front of every segment but the first there is a border before each of them,
as long as none of the others is a capital alone. -/
theorem isChain_capitalized {first : List Char} {rest : List (List Char)} (hfirst : Closes first)
    (hsegment : ∀ g ∈ rest, IsSegment g) (hinterior : ∀ g ∈ rest.dropLast, 2 ≤ g.length) :
    (first :: rest.map capitalized).IsChain fun a b => Closes a ∧ Opens b := by
  induction rest generalizing first with
  | nil => exact List.isChain_singleton first
  | cons g others ih =>
      obtain ⟨hg, hothers⟩ := List.forall_mem_cons.mp hsegment
      rw [List.map_cons]
      refine List.isChain_cons_cons.mpr ⟨⟨hfirst, hg.opens_capitalized⟩, ?_⟩
      cases others with
      | nil => exact List.isChain_singleton _
      | cons next others =>
          rw [List.dropLast_cons_cons] at hinterior
          obtain ⟨hlength, hinner⟩ := List.forall_mem_cons.mp hinterior
          exact ih (hg.closes_capitalized hlength) hothers hinner

namespace Spelled

variable {s : String} {first : List Char} {rest : List (List Char)}
  (h : Spelled s (first :: rest))

include h

theorem words_nameOf : words (nameOf (first :: rest)) = first :: rest.map capitalized := by
  obtain ⟨hfirst, hrest⟩ := List.forall_mem_cons.mp h.segment
  rw [words_eq_splitBy]
  refine List.splitBy_eq_iff.mpr ⟨rfl, ?_, ?_, ?_⟩
  · intro hnil
    rcases List.mem_cons.mp hnil with hnil | hnil
    · exact hfirst.ne_nil hnil.symm
    · obtain ⟨g, hg, hcapitalized⟩ := List.mem_map.mp hnil
      obtain ⟨c, tail, hopens, -⟩ := (hrest g hg).opens_capitalized
      rw [hcapitalized] at hopens
      cases hopens
  · refine List.forall_mem_cons.mpr ⟨hfirst.isChain, ?_⟩
    exact List.forall_mem_map.mpr fun g hg => (hrest g hg).isChain_capitalized
  · have hcloses := closes_of_forall hfirst.ne_nil hfirst.isUppercase
    exact (isChain_capitalized hcloses hrest h.interior).imp fun _ _ => border_iff.mpr

theorem isIdentifier_nameOf : IsIdentifier (String.ofList (nameOf (first :: rest))) := by
  obtain ⟨hfirst, hrest⟩ := List.forall_mem_cons.mp h.segment
  obtain ⟨c, tail, rfl, hc, htail⟩ := hfirst
  refine ⟨c, tail ++ (rest.map capitalized).flatten, by rw [String.toList_ofList]; rfl,
    hc.isLetter, ?_⟩
  intro d hd
  rw [← isIdentifierRest_iff]
  rcases List.mem_append.mp hd with hd | hd
  · exact isIdentifierRest_of_isSegmentRest ((isSegmentRest_iff d).mpr (htail d hd))
  · obtain ⟨word, hword, hd⟩ := List.mem_flatten.mp hd
    obtain ⟨g, hg, rfl⟩ := List.mem_map.mp hword
    obtain ⟨c', tail', rfl, hc', htail'⟩ := hrest g hg
    rcases List.mem_cons.mp hd with rfl | hd
    · have hcapital := isUpper_toUpper hc'.isLetter
      exact (isIdentifierRest_iff _).mpr (.inl (.inr ((isUpper_iff _).mp hcapital)))
    · exact isIdentifierRest_of_isSegmentRest ((isSegmentRest_iff d).mpr (htail' d hd))

/-- The external name of the name is the text. -/
theorem lowerHyphen_nameOf : lowerHyphen (String.ofList (nameOf (first :: rest))) = s := by
  obtain ⟨hfirst, hrest⟩ := List.forall_mem_cons.mp h.segment
  have hback : (rest.map capitalized).map (·.flatMap lower) = rest := by
    rw [List.map_map]
    conv_rhs => rw [← List.map_id rest]
    exact List.map_congr_left fun g hg => (hrest g hg).flatMap_lower_capitalized
  rw [← String.toList_inj, lowerHyphen, String.toList_ofList, String.toList_ofList, render,
    h.words_nameOf, List.map_cons, hfirst.flatMap_lower, hback, h.joined]

end Spelled

/-! ## External names -/

/-- Without the hyphens the segments are left. -/
theorem filter_intercalate_hyphen {segments : List (List Char)}
    (h : ∀ g ∈ segments, '-' ∉ g) :
    (['-'].intercalate segments).filter (· != '-') = segments.flatten := by
  have hkeep : ∀ g ∈ segments, g.filter (· != '-') = g := by
    intro g hg
    refine List.filter_eq_self.mpr fun c hc => bne_iff_ne.mpr ?_
    rintro rfl
    exact h g hg hc
  induction segments with
  | nil => rfl
  | cons g rest ih =>
      obtain ⟨hg, hrest⟩ := List.forall_mem_cons.mp hkeep
      have hothers := ih (fun g' hg' => h g' (List.mem_cons_of_mem g hg')) hrest
      cases rest with
      | nil => simpa using hg
      | cons next others =>
          rw [List.intercalate_cons_cons, List.filter_append, List.filter_append, hg, hothers,
            List.flatten_cons]
          simp

/-- An external name without its hyphens is the identifier in small letters. -/
theorem filter_lowerHyphen {name : String} (h : IsIdentifier name) :
    String.ofList ((lowerHyphen name).toList.filter (· != '-')) = lowercase name := by
  have hspelled := spelled_lowerHyphen h
  have hhyphen : ∀ g ∈ (words name.toList).map (·.map Char.toLower), '-' ∉ g := by
    intro g hg hmem
    exact absurd ((hspelled.segment g hg).rest '-' hmem) (by decide)
  rw [← String.toList_inj, String.toList_ofList, hspelled.joined,
    filter_intercalate_hyphen hhyphen, lowercase_of_isIdentifier h, ← List.map_flatten,
    flatten_words]

/-- A text without capitals is one word, and its own external name if nothing in it has another
small form. -/
theorem lowerHyphen_eq_self {s : String}
    (h : ∀ c ∈ s.toList, isUppercase c = false ∧ lower c = [c]) : lowerHyphen s = s := by
  have hlower : s.toList.flatMap lower = s.toList := by
    rw [List.flatMap_congr fun c hc => (h c hc).2, List.flatMap_singleton']
  rw [← String.toList_inj, lowerHyphen, String.toList_ofList, render]
  cases hs : s.toList with
  | nil => rfl
  | cons c rest =>
      have hone : words (c :: rest) = [c :: rest] := by
        rw [words_eq_splitBy]
        refine List.splitBy_of_isChain (List.cons_ne_nil c rest) (isChain_joined fun d hd => ?_)
        exact (h d (hs ▸ List.mem_cons_of_mem c hd)).1
      rw [hone, List.map_singleton, List.intercalate_singleton, ← hs, hlower]

theorem isUppercase_and_lower_of_isExternal {s : String} (h : IsExternal s) :
    ∀ c ∈ s.toList, isUppercase c = false ∧ lower c = [c] := by
  obtain ⟨segments, hspelled⟩ := h
  intro c hc
  rw [hspelled.joined] at hc
  rcases mem_intercalate segments hc with rfl | ⟨g, hg, hc⟩
  · decide
  · have hrest := (hspelled.segment g hg).rest c hc
    refine ⟨isUppercase_of_isSegmentRest hrest, ?_⟩
    rw [lower_of_isIdentifierRest (isIdentifierRest_of_isSegmentRest hrest),
      toLower_of_isSegmentRest hrest]

/-- The external names of identifiers are exactly the texts that are put together from segments,
each separated from the next by one hyphen. Without the hyphens an external name is the identifier
in small letters. Both are their own external names. -/
theorem external_names_exact :
    (∀ s, IsExternal s ↔ ∃ name, IsIdentifier name ∧ lowerHyphen name = s) ∧
    ∀ name, IsIdentifier name →
      String.ofList ((lowerHyphen name).toList.filter (· != '-')) = lowercase name ∧
      lowerHyphen (lowerHyphen name) = lowerHyphen name ∧
      lowerHyphen (lowercase name) = lowercase name := by
  refine ⟨fun s => ⟨?_, ?_⟩, fun name h => ⟨filter_lowerHyphen h, ?_, ?_⟩⟩
  · rintro ⟨segments, hspelled⟩
    obtain ⟨first, rest, rfl⟩ := List.exists_cons_of_ne_nil hspelled.nonempty
    exact ⟨_, hspelled.isIdentifier_nameOf, hspelled.lowerHyphen_nameOf⟩
  · rintro ⟨name, h, rfl⟩
    exact ⟨_, spelled_lowerHyphen h⟩
  · exact lowerHyphen_eq_self (isUppercase_and_lower_of_isExternal ⟨_, spelled_lowerHyphen h⟩)
  · refine lowerHyphen_eq_self fun c hc => ?_
    rw [← filter_lowerHyphen h, String.toList_ofList] at hc
    exact isUppercase_and_lower_of_isExternal ⟨_, spelled_lowerHyphen h⟩ c
      (List.mem_of_mem_filter hc)

/-- A number and an acronym at borders: `Edge2` and `UseRTL` joined. -/
theorem external_names_exact_edge :
    IsExternal "edge2-use-rtl" ∧ IsIdentifier "Edge2UseRTL" ∧
      lowercase "Edge2UseRTL" = "edge2usertl" ∧
      lowerHyphen (lowerHyphen "Edge2UseRTL") = "edge2-use-rtl" := by
  have identifier : IsIdentifier "Edge2UseRTL" := (isIdentifier_iff _).mp (by decide)
  have rendered : lowerHyphen "Edge2UseRTL" = "edge2-use-rtl" := by decide
  obtain ⟨exact, each⟩ := external_names_exact
  obtain ⟨without, again, -⟩ := each "Edge2UseRTL" identifier
  refine ⟨(exact _).mpr ⟨_, identifier, rendered⟩, identifier, ?_, again.trans rendered⟩
  rw [← without, rendered]
  decide

end EnumBindings.Name
