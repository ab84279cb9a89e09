import EnumBindings.Proofs.Cutting

/-!
# Words as a segmentation

A name is cut in front of every capital that stands behind a character which is none, and nowhere
else. `Segmented` says so of some segments, however they were found, and the words of a name are
the only segments of which it holds (`words_only_segmentation`). So a word is some capitals with
other characters behind them; of these two parts only the first word can lack the capitals, and
only the last one the others.
-/

namespace EnumBindings.Name

open EnumBindings.Text

/-! ## Borders -/

/-- One segment ends with `front`, and the next one begins with `back`. -/
def Border (segments : List (List Char)) (front back : List Char) : Prop :=
  ∃ left right, segments = left ++ right ∧ left.flatten = front ∧ right.flatten = back

/-- Full segments that make a name, with a border in front of each capital that stands behind a
character which is none, and no other border. -/
structure Segmented (name : List Char) (segments : List (List Char)) : Prop where
  full : ∀ s ∈ segments, s ≠ []
  whole : segments.flatten = name
  border : ∀ front a b back, name = front ++ a :: b :: back →
    (Border segments (front ++ [a]) (b :: back) ↔ isUppercase a = false ∧ isUppercase b = true)

theorem joined_eq_false_iff (a b : Char) :
    joined a b = false ↔ isUppercase a = false ∧ isUppercase b = true := by
  rw [joined, Bool.or_eq_false_iff, Bool.not_eq_false']

/-- A word opens with a capital. -/
def Opens (word : List Char) : Prop := ∃ c rest, word = c :: rest ∧ isUppercase c = true

/-- A word ends with no capital. -/
def Closes (word : List Char) : Prop := ∃ before c, word = before ++ [c] ∧ isUppercase c = false

/-- Where one word ends and the next one begins. -/
theorem border_iff {a b : List Char} :
    (∃ ha hb, joined (a.getLast ha) (b.head hb) = false) ↔ Closes a ∧ Opens b := by
  constructor
  · rintro ⟨ha, hb, hborder⟩
    rw [joined_eq_false_iff] at hborder
    exact ⟨⟨_, _, (List.dropLast_append_getLast ha).symm, hborder.1⟩,
      ⟨_, _, (List.cons_head_tail hb).symm, hborder.2⟩⟩
  · rintro ⟨⟨before, c, rfl, hc⟩, ⟨d, rest, rfl, hd⟩⟩
    exact ⟨by simp, by simp, by simp [joined, hc, hd]⟩

/-- No border lies within a segment. -/
theorem not_border_inside {left right : List (List Char)} {p q : List Char} (hp : p ≠ [])
    (hq : q ≠ []) {back : List Char} :
    ¬Border (left ++ (p ++ q) :: right) (left.flatten ++ p) back := by
  rintro ⟨before, behind, hsegments, hfront, -⟩
  rcases List.append_eq_append_iff.mp hsegments with ⟨more, rfl, hmore⟩ | ⟨more, rfl, -⟩
  · -- the border stands at or behind the start of the segment
    rw [List.flatten_append, List.append_cancel_left_eq] at hfront
    cases more with
    | nil => exact hp hfront.symm
    | cons s more =>
        obtain ⟨rfl, -⟩ := List.cons.inj hmore
        have hlength := congrArg List.length hfront
        simp only [List.flatten_cons, List.length_append] at hlength
        have := List.length_pos_iff.mpr hq
        omega
  · -- the border stands before the segment
    have hlength := congrArg List.length hfront
    simp only [List.flatten_append, List.length_append] at hlength
    have := List.length_pos_iff.mpr hp
    omega

/-! ## Words are a segmentation -/

section Words

variable {α : Type} {R : α → α → Prop} {p : α → Prop} {l : List α}

theorem forall_mem_tail_of_isChain (hR : ∀ a b, R a b → p b) (h : l.IsChain R) :
    ∀ b ∈ l.tail, p b := by
  induction l with
  | nil => intro b hb; cases hb
  | cons a rest ih =>
      cases rest with
      | nil => intro b hb; cases hb
      | cons next others =>
          obtain ⟨hstep, hrest⟩ := List.isChain_cons_cons.mp h
          intro b hb
          rcases List.mem_cons.mp hb with rfl | hb
          · exact hR a _ hstep
          · exact ih hrest b hb

theorem forall_mem_dropLast_of_isChain (hR : ∀ a b, R a b → p a) (h : l.IsChain R) :
    ∀ a ∈ l.dropLast, p a := by
  induction l with
  | nil => intro a ha; cases ha
  | cons a rest ih =>
      cases rest with
      | nil => intro b hb; cases hb
      | cons next others =>
          obtain ⟨hstep, hrest⟩ := List.isChain_cons_cons.mp h
          intro b hb
          rcases List.mem_cons.mp hb with rfl | hb
          · exact hR _ next hstep
          · exact ih hrest b hb

end Words

theorem isChain_words (name : List Char) :
    (words name).IsChain fun a b => Closes a ∧ Opens b := by
  rw [words_eq_splitBy]
  exact (List.isChain_getLast_head_splitBy joined name).imp fun _ _ => border_iff.mp

theorem opens_of_mem_tail {name word : List Char} (h : word ∈ (words name).tail) : Opens word :=
  forall_mem_tail_of_isChain (fun _ _ hborder => hborder.2) (isChain_words name) word h

theorem closes_of_mem_dropLast {name word : List Char} (h : word ∈ (words name).dropLast) :
    Closes word :=
  forall_mem_dropLast_of_isChain (fun _ _ hborder => hborder.1) (isChain_words name) word h

/-- At a border a word ends with no capital and the next one opens with one. -/
theorem split_of_border {name front back : List Char} {a b : Char}
    (h : Border (words name) (front ++ [a]) (b :: back)) :
    isUppercase a = false ∧ isUppercase b = true := by
  obtain ⟨left, right, hwords, hfront, hback⟩ := h
  rcases List.eq_nil_or_concat' left with rfl | ⟨before, s, rfl⟩
  · simp at hfront
  cases right with
  | nil => cases hback
  | cons t behind =>
      obtain ⟨⟨xs, c, rfl, hc⟩, ⟨d, ys, rfl, hd⟩⟩ : Closes s ∧ Opens t :=
        List.isChain_iff_forall_rel_of_append_cons_cons.mp (isChain_words name)
          (hwords.trans (List.append_assoc ..))
      have hends : (before.flatten ++ xs) ++ [c] = front ++ [a] := by simpa using hfront
      obtain ⟨-, hlast⟩ := List.append_inj' hends rfl
      obtain ⟨rfl, -⟩ := List.cons.inj hlast
      obtain ⟨rfl, -⟩ := List.cons.inj hback
      exact ⟨hc, hd⟩

/-- Where a capital stands behind another character there is a border. -/
theorem border_of_split {name front back : List Char} {a b : Char}
    (hname : name = front ++ a :: b :: back) (ha : isUppercase a = false)
    (hb : isUppercase b = true) : Border (words name) (front ++ [a]) (b :: back) := by
  have hflat : (words name).flatten = (front ++ [a]) ++ b :: back := by
    rw [flatten_words, hname, List.append_assoc]
    rfl
  rcases List.flatten_eq_append_iff.mp hflat with
    ⟨left, right, hwords, hfront, hback⟩ | ⟨left, p, c, q, right, hwords, hfront, hback⟩
  · exact ⟨left, right, hwords, hfront.symm, hback.symm⟩
  · rcases List.eq_nil_or_concat' p with rfl | ⟨xs, x, rfl⟩
    · refine ⟨left, (c :: q) :: right, hwords, ?_, hback.symm⟩
      rw [hfront, List.append_nil]
    · -- both characters would stand in one word, which keeps no such pair
      have hends : (left.flatten ++ xs) ++ [x] = front ++ [a] := by simpa using hfront.symm
      obtain ⟨-, hlast⟩ := List.append_inj' hends rfl
      obtain ⟨rfl, -⟩ := List.cons.inj hlast
      obtain ⟨rfl, -⟩ := List.cons.inj hback
      have hword : xs ++ x :: b :: q ∈ words name := by
        rw [hwords]
        simp
      have hjoined : joined x b = true :=
        List.isChain_iff_forall_rel_of_append_cons_cons.mp (isChain_of_mem_words hword) rfl
      rw [(joined_eq_false_iff x b).mpr ⟨ha, hb⟩] at hjoined
      cases hjoined

theorem segmented_words (name : List Char) : Segmented name (words name) where
  full _ := ne_nil_of_mem_words
  whole := flatten_words name
  border _ _ _ _ hname :=
    ⟨split_of_border, fun ⟨ha, hb⟩ => border_of_split hname ha hb⟩

/-! ## There is no other segmentation -/

namespace Segmented

variable {name : List Char} {segments : List (List Char)} (h : Segmented name segments)

include h

/-- A segment keeps no pair that has to be cut. -/
theorem isChain_of_mem {s : List Char} (hs : s ∈ segments) :
    s.IsChain fun a b => joined a b = true := by
  refine List.isChain_iff_forall_rel_of_append_cons_cons.mpr fun a b p q hpair => ?_
  subst hpair
  obtain ⟨left, right, hsegments⟩ := List.append_of_mem hs
  rw [← Bool.not_eq_false, joined_eq_false_iff]
  intro hcut
  have hname : name = (left.flatten ++ p) ++ a :: b :: (q ++ right.flatten) := by
    rw [← h.whole, hsegments]
    simp
  have hborder := (h.border _ _ _ _ hname).mpr hcut
  have hsplit : p ++ a :: b :: q = (p ++ [a]) ++ b :: q := List.append_cons p a (b :: q)
  rw [hsegments, hsplit, List.append_assoc left.flatten] at hborder
  exact not_border_inside (List.append_ne_nil_of_right_ne_nil p (List.cons_ne_nil a []))
    (List.cons_ne_nil b q) hborder

/-- Between two segments there is a pair that has to be cut. -/
theorem isChain : segments.IsChain fun s t => Closes s ∧ Opens t := by
  refine List.isChain_iff_forall_rel_of_append_cons_cons.mpr fun s t left right hsegments => ?_
  have hs : s ≠ [] := h.full s (by rw [hsegments]; simp)
  have ht : t ≠ [] := h.full t (by rw [hsegments]; simp)
  obtain ⟨p, a, rfl⟩ := (List.eq_nil_or_concat' s).resolve_left hs
  obtain ⟨b, q, rfl⟩ := List.exists_cons_of_ne_nil ht
  have hname : name = (left.flatten ++ p) ++ a :: b :: (q ++ right.flatten) := by
    rw [← h.whole, hsegments]
    simp
  obtain ⟨ha, hb⟩ := (h.border _ _ _ _ hname).mp
    ⟨left ++ [p ++ [a]], (b :: q) :: right, by rw [hsegments]; simp, by simp, by simp⟩
  exact ⟨⟨p, a, rfl, ha⟩, ⟨b, q, rfl, hb⟩⟩

theorem eq_words : segments = words name := by
  rw [words_eq_splitBy]
  refine (List.splitBy_eq_iff.mpr ⟨h.whole.symm, ?_, fun _ => h.isChain_of_mem, ?_⟩).symm
  · exact fun hnil => h.full [] hnil rfl
  · exact h.isChain.imp fun _ _ => border_iff.mpr

end Segmented

/-! ## The shape of a word -/

/-- Behind a character that is no capital a word has no capitals. -/
theorem forall_of_not_isUppercase {c : Char} {rest : List Char}
    (h : (c :: rest).IsChain fun a b => joined a b = true) (hc : isUppercase c = false) :
    ∀ d ∈ c :: rest, isUppercase d = false := by
  induction rest generalizing c with
  | nil =>
      intro d hd
      rw [List.mem_singleton.mp hd]
      exact hc
  | cons next others ih =>
      obtain ⟨hstep, hrest⟩ := List.isChain_cons_cons.mp h
      have hnext : isUppercase next = false := by simpa [joined, hc] using hstep
      intro d hd
      rcases List.mem_cons.mp hd with rfl | hd
      · exact hc
      · exact ih hrest hnext d hd

/-- A word is some capitals with other characters behind them. -/
theorem exists_runs {word : List Char} (h : word.IsChain fun a b => joined a b = true) :
    ∃ capitals others, word = capitals ++ others ∧ (∀ c ∈ capitals, isUppercase c = true) ∧
      ∀ c ∈ others, isUppercase c = false := by
  induction word with
  | nil => exact ⟨[], [], rfl, by simp, by simp⟩
  | cons c rest ih =>
      cases hc : isUppercase c with
      | false => exact ⟨[], c :: rest, rfl, by simp, forall_of_not_isUppercase h hc⟩
      | true =>
          obtain ⟨capitals, others, rfl, hcapitals, hothers⟩ := ih h.tail
          exact ⟨c :: capitals, others, rfl, List.forall_mem_cons.mpr ⟨hc, hcapitals⟩, hothers⟩

/-- The words of a name are its only segmentation with borders exactly in front of the capitals that
stand behind other characters; the empty name has none. Each word is some capitals with other
characters behind them. Every word but the first opens with a capital, and every word but the last
ends with a character that is none. -/
theorem words_only_segmentation (name : List Char) :
    (∀ segments, Segmented name segments ↔ segments = words name) ∧
    (words name = [] ↔ name = []) ∧
    (∀ word ∈ words name, ∃ capitals others, word = capitals ++ others ∧
      (∀ c ∈ capitals, isUppercase c = true) ∧ ∀ c ∈ others, isUppercase c = false) ∧
    (∀ word ∈ (words name).tail, Opens word) ∧
    (∀ word ∈ (words name).dropLast, Closes word) := by
  refine ⟨fun segments => ⟨Segmented.eq_words, ?_⟩, words_eq_nil_iff, ?_, ?_, ?_⟩
  · rintro rfl
    exact segmented_words name
  · exact fun word hword => exists_runs (isChain_of_mem_words hword)
  · exact fun word => opens_of_mem_tail
  · exact fun word => closes_of_mem_dropLast

/-- An acronym at the end of a name, behind a small word, a digit and an underscore. -/
theorem words_only_segmentation_acronym :
    Segmented "flexEdge2_UseRTL".toList
      ["flex".toList, "Edge2_".toList, "Use".toList, "RTL".toList] ∧
    Closes "flex".toList ∧ Opens "RTL".toList := by
  have hwords : words "flexEdge2_UseRTL".toList =
      ["flex".toList, "Edge2_".toList, "Use".toList, "RTL".toList] := by decide
  obtain ⟨only, -, -, opens, closes⟩ := words_only_segmentation "flexEdge2_UseRTL".toList
  rw [hwords] at only opens closes
  exact ⟨(only _).mpr rfl, closes _ (by decide), opens _ (by decide)⟩

end EnumBindings.Name
