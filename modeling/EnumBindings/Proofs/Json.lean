import EnumBindings.Json
import EnumBindings.Proofs.Source.Numeral
import EnumBindings.Proofs.Words
import EnumBindings.Toml.Text

/-!
# Objects on one line

A reader of JSON text for objects whose entries are strings and natural numbers: what tools read
on a line. Compact text of such an object is one line (`newline_not_mem_compact`), and reading it
gives the entries back (`readObject?_compact`).
-/

namespace EnumBindings.Json

open Toml (before scalar? shortEscape?)

/-! ## Reading -/

/-- The text of a string up to its closing mark, and what stands behind it. -/
def readText : List Char → Option (List Char × List Char)
  | [] => none
  | '"' :: rest => some ([], rest)
  | '\\' :: 'u' :: a :: b :: c :: d :: rest => do
    let x ← scalar? [a, b, c, d]
    (readText rest).map (before x)
  | '\\' :: c :: rest => do
    let x ← shortEscape? c
    (readText rest).map (before x)
  | c :: rest => if c.toNat < 0x20 then none else (readText rest).map (before c)

/-- A string or a natural number, and what stands behind it. -/
def readValue? : List Char → Option (Json × List Char)
  | '"' :: rest => (readText rest).map fun (text, rest) => (.string (String.ofList text), rest)
  | chars =>
    (Source.numeral? (String.ofList (chars.takeWhile Char.isDigit))).map fun (n : Nat) =>
      (.number n, chars.dropWhile Char.isDigit)

/-- Entries up to the closing brace, at which the text ends; at most `count` of them. -/
def readEntries? : (count : Nat) → List Char → Option (List (String × Json))
  | count + 1, '"' :: chars => do
    match ← readText chars with
    | (key, ':' :: chars) =>
      match ← readValue? chars with
      | (value, ['\x7d']) => some [(String.ofList key, value)]
      | (value, ',' :: rest) =>
        (readEntries? count rest).map ((String.ofList key, value) :: ·)
      | _ => none
    | _ => none
  | _, _ => none

/-- The entries of an object that a line consists of. Every entry takes at least one character, so
the number of characters bounds the number of entries. -/
def readObject? (line : String) : Option (List (String × Json)) :=
  match line.toList with
  | ['\x7b', '\x7d'] => some []
  | '\x7b' :: rest => readEntries? rest.length rest
  | _ => none

/-! ## Strings -/

/-- Two digits in base 16 are enough for a control character. -/
theorem scalar?_control {c : Char} (h : c.toNat < 0x20) :
    scalar? ['0', '0', Nat.digitChar (c.toNat / 16), Nat.digitChar (c.toNat % 16)] = some c := by
  have hcodes : ∀ n < 0x20, scalar? ['0', '0', Nat.digitChar (n / 16), Nat.digitChar (n % 16)] =
      some (Char.ofNat n) := by decide
  rw [hcodes c.toNat h, Char.ofNat_toNat]

theorem readText_escaped (c : Char) (rest : List Char) :
    readText (escaped c ++ rest) = (readText rest).map (before c) := by
  unfold escaped
  split_ifs with h h h h h h h hcontrol
  -- seven characters have a short escape of their own
  iterate 7
    · subst h
      rfl
  · simp [readText, scalar?_control hcontrol]
  · have hplain : readText (c :: rest) =
        if c.toNat < 0x20 then none else (readText rest).map (before c) := by
      rw [readText.eq_def]
      split <;> simp_all
    rw [List.singleton_append, hplain, if_neg hcontrol]

theorem readText_flatMap_escaped (text rest : List Char) :
    readText (text.flatMap escaped ++ '"' :: rest) = some (text, rest) := by
  induction text with
  | nil => rfl
  | cons c text ih =>
      rw [List.flatMap_cons, List.append_assoc, readText_escaped, ih]
      rfl

theorem toList_quote (text : String) :
    (quote text).toList = '"' :: (text.toList.flatMap escaped ++ ['"']) := by
  simp [quote]

theorem newline_not_mem_escaped (c : Char) : '\n' ∉ escaped c := by
  by_cases hcontrol : c.toNat < 0x20
  · exact Name.forall_of_codes (p := fun c => '\n' ∉ escaped c) (by decide) hcontrol
  · have hc : '\n' ≠ c := by
      rintro rfl
      exact hcontrol (by decide)
    unfold escaped
    split_ifs <;> simp [hc]

theorem newline_not_mem_quote (text : String) : '\n' ∉ (quote text).toList := by
  rw [toList_quote]
  simp [newline_not_mem_escaped]

/-! ## Values -/

/-- Values that a reader of lines knows. -/
inductive Plain : Json → Prop
  | string (text : String) : Plain (.string text)
  | number (n : Nat) : Plain (.number n)

theorem compact_number (n : Nat) : (number n).compact.toList = Nat.toDigits 10 n :=
  Nat.toList_repr

theorem isDigit_of_mem_toDigits {n : Nat} {c : Char} (h : c ∈ Nat.toDigits 10 n) :
    c.isDigit = true :=
  Nat.isDigit_of_mem_toDigits (by omega) (by omega) h

theorem newline_not_mem_compact_of_plain {v : Json} (h : Plain v) : '\n' ∉ v.compact.toList := by
  cases h with
  | string text => exact newline_not_mem_quote text
  | number n =>
      rw [compact_number]
      intro hmem
      exact absurd (isDigit_of_mem_toDigits hmem) (by decide)

/-- A number ends where a character is no digit, so what follows a value has to be none. -/
theorem readValue?_compact {v : Json} (h : Plain v) {stop : Char} (hstop : stop.isDigit = false)
    (rest : List Char) :
    readValue? (v.compact.toList ++ stop :: rest) = some (v, stop :: rest) := by
  cases h with
  | string text =>
      rw [compact, toList_quote, List.cons_append, List.append_assoc, readValue?,
        List.singleton_append, readText_flatMap_escaped]
      simp
  | number n =>
      have hdigits : ∀ c ∈ Nat.toDigits 10 n, c.isDigit = true := fun c => isDigit_of_mem_toDigits
      have htake : (Nat.toDigits 10 n ++ stop :: rest).takeWhile Char.isDigit =
          Nat.toDigits 10 n := by
        rw [List.takeWhile_append_of_pos hdigits, List.takeWhile_cons_of_neg (by simp [hstop]),
          List.append_nil]
      have hdrop : (Nat.toDigits 10 n ++ stop :: rest).dropWhile Char.isDigit = stop :: rest := by
        rw [List.dropWhile_append_of_pos hdigits, List.dropWhile_cons_of_neg (by simp [hstop])]
      have hnumeral : Source.numeral? (String.ofList (Nat.toDigits 10 n)) = some n :=
        Source.numeral?_toString n
      rw [compact_number]
      unfold readValue?
      split
      · rename_i heq
        obtain ⟨c, digits, hcons⟩ := List.exists_cons_of_ne_nil (Nat.toDigits_ne_nil (b := 10) (n := n))
        rw [hcons, List.cons_append] at heq
        have hmark := hdigits c (by rw [hcons]; exact List.mem_cons_self)
        rw [(List.cons.inj heq).1] at hmark
        cases hmark
      · rw [htake, hdrop, hnumeral, Option.map_some]

/-! ## Objects -/

/-- The characters of compact entries with commas between them. -/
def entryChars (entries : List (String × Json)) : List Char :=
  [','].intercalate ((compactEntries entries).map String.toList)

theorem entryChars_singleton (key : String) (v : Json) :
    entryChars [(key, v)] = (quote key).toList ++ ':' :: v.compact.toList := by
  simp [entryChars, compactEntries]

theorem entryChars_cons_cons (key : String) (v : Json) (second : String × Json)
    (others : List (String × Json)) : entryChars ((key, v) :: second :: others) =
      (quote key).toList ++ ':' :: (v.compact.toList ++ ',' :: entryChars (second :: others)) := by
  simp [entryChars, compactEntries, List.intercalate_cons_cons]

theorem toList_compact_object (entries : List (String × Json)) :
    (object entries).compact.toList = '\x7b' :: (entryChars entries ++ ['\x7d']) := by
  simp [compact, entryChars, String.toList_intercalate]

theorem length_le_length_entryChars (entries : List (String × Json)) :
    entries.length ≤ (entryChars entries).length := by
  induction entries with
  | nil => exact Nat.zero_le _
  | cons entry rest ih =>
      obtain ⟨key, v⟩ := entry
      cases rest with
      | nil =>
          simp only [entryChars_singleton, List.length_append, List.length_cons, List.length_nil]
          omega
      | cons second others =>
          simp only [entryChars_cons_cons, List.length_append, List.length_cons] at ih ⊢
          omega

section Entry

variable {count : Nat} {key : String} {v : Json} (h : Plain v)

include h

theorem readEntries?_last : readEntries? (count + 1)
    ((quote key).toList ++ ':' :: (v.compact.toList ++ ['\x7d'])) = some [(key, v)] := by
  rw [toList_quote, List.cons_append, List.append_assoc, List.singleton_append, readEntries?,
    readText_flatMap_escaped]
  simp [readValue?_compact h (by decide : '\x7d'.isDigit = false)]

theorem readEntries?_more (rest : List Char) : readEntries? (count + 1)
    ((quote key).toList ++ ':' :: (v.compact.toList ++ ',' :: rest)) =
      (readEntries? count rest).map ((key, v) :: ·) := by
  rw [toList_quote, List.cons_append, List.append_assoc, List.singleton_append, readEntries?,
    readText_flatMap_escaped]
  simp [readValue?_compact h (by decide : ','.isDigit = false)]

end Entry

theorem readEntries?_entryChars {entries : List (String × Json)} (hne : entries ≠ [])
    (h : ∀ entry ∈ entries, Plain entry.2) {count : Nat} (hcount : entries.length ≤ count) :
    readEntries? count (entryChars entries ++ ['\x7d']) = some entries := by
  induction entries generalizing count with
  | nil => exact absurd rfl hne
  | cons entry rest ih =>
      obtain ⟨hentry, hrest⟩ := List.forall_mem_cons.mp h
      obtain ⟨count, rfl⟩ := Nat.exists_eq_succ_of_ne_zero (by simp at hcount; omega : count ≠ 0)
      cases rest with
      | nil =>
          rw [entryChars_singleton, List.append_assoc, List.cons_append, readEntries?_last hentry]
      | cons second others =>
          rw [entryChars_cons_cons, List.append_assoc, List.cons_append, List.append_assoc,
            List.cons_append, readEntries?_more hentry,
            ih (List.cons_ne_nil _ _) hrest (by simpa using hcount)]
          rfl

theorem newline_not_mem_entryChars {entries : List (String × Json)}
    (h : ∀ entry ∈ entries, Plain entry.2) : '\n' ∉ entryChars entries := by
  induction entries with
  | nil => exact List.not_mem_nil
  | cons entry rest ih =>
      obtain ⟨hentry, hrest⟩ := List.forall_mem_cons.mp h
      have hkey := newline_not_mem_quote entry.1
      have hvalue := newline_not_mem_compact_of_plain hentry
      cases rest with
      | nil =>
          rw [entryChars_singleton]
          simp [hkey, hvalue]
      | cons second others =>
          rw [entryChars_cons_cons]
          simp [hkey, hvalue, ih hrest]

/-- Compact text of an object is one line. -/
theorem newline_not_mem_compact {entries : List (String × Json)}
    (h : ∀ entry ∈ entries, Plain entry.2) : '\n' ∉ (object entries).compact.toList := by
  rw [toList_compact_object]
  simp [newline_not_mem_entryChars h]

/-- Compact text of an object reads back as its entries. -/
theorem readObject?_compact {entries : List (String × Json)}
    (h : ∀ entry ∈ entries, Plain entry.2) :
    readObject? (object entries).compact = some entries := by
  by_cases hne : entries = []
  · rw [hne]
    rfl
  have hlength : entries.length ≤ (entryChars entries ++ ['\x7d']).length := by
    have := length_le_length_entryChars entries
    rw [List.length_append]
    omega
  have hread := readEntries?_entryChars hne h hlength
  rw [readObject?, toList_compact_object]
  split
  · rename_i heq
    have hlast := (List.cons.inj heq).2
    rw [hlast] at hread
    cases hread
  · rename_i heq
    rw [← (List.cons.inj heq).2, hread]
  · rename_i hnot
    exact absurd rfl (hnot _)

end EnumBindings.Json
