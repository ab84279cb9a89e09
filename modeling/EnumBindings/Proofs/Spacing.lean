import EnumBindings.Proofs.Lines
import EnumBindings.Proofs.Source.Spelling
import Mathlib.Data.List.Chain
import Mathlib.Data.List.MinMax

/-!
# Spacing of generated text

Generated text is put together from blocks of lines, with single empty lines between some of them.
`Spaced` is what a block is: it opens and ends with a line that holds something, and no two empty
lines meet in it. Lines that can stand behind a block are `Attached` to it, so a block grows by
sections that each bring their own empty line or none (`Spaced.append`). The text of a block of
`Solid` lines is `Tidy` (`Spaced.tidy`); where lines may end in white space, it still ends in one
line break and holds no three in a row (`Spaced.endsOnce`, `Spaced.not_infix_breaks`).
-/

namespace EnumBindings.Text

open EnumBindings.Source

/-! ## Tidy text -/

/-- A line that shows nothing. -/
def IsBlank (line : String) : Prop := ∀ c ∈ line.toList, c = ' ' ∨ c = '\t'

/-- A line that ends in white space. -/
def Trails (line : String) : Prop :=
  ∃ before c, line.toList = before ++ [c] ∧ (c = ' ' ∨ c = '\t')

/-- A text that ends in one line break, and not in two. -/
def EndsOnce (text : String) : Prop :=
  ∃ before c, text.toList = before ++ [c, '\n'] ∧ c ≠ '\n'

/-- What a formatter leaves alone: the text opens with a line that shows something and ends in one
line break, no two blank lines meet, and no line ends in white space. -/
structure Tidy (text : String) : Prop where
  opens : ∃ first rest, linesOf text = first :: rest ∧ ¬IsBlank first
  ends : EndsOnce text
  apart : (linesOf text).IsChain fun a b => ¬(IsBlank a ∧ IsBlank b)
  trimmed : ∀ line ∈ linesOf text, ¬Trails line

/-! ## Lines -/

/-- A line that holds something. -/
structure Filled (line : String) : Prop where
  unbroken : '\n' ∉ line.toList
  nonempty : line ≠ ""

/-- A line that ends in something that shows. -/
structure Solid (line : String) : Prop where
  unbroken : '\n' ∉ line.toList
  closed : ∃ before c, line.toList = before ++ [c] ∧ c ≠ ' ' ∧ c ≠ '\t'

theorem Solid.filled {line : String} (h : Solid line) : Filled line := by
  refine ⟨h.unbroken, ?_⟩
  rintro rfl
  obtain ⟨before, c, hline, -⟩ := h.closed
  simp at hline

theorem Solid.not_isBlank {line : String} (h : Solid line) : ¬IsBlank line := by
  intro blank
  obtain ⟨before, c, hline, hspace, htab⟩ := h.closed
  have hc : c ∈ line.toList := by simp [hline]
  rcases blank c hc with rfl | rfl
  · exact hspace rfl
  · exact htab rfl

theorem Solid.not_trails {line : String} (h : Solid line) : ¬Trails line := by
  rintro ⟨front, d, hfront, hd⟩
  obtain ⟨before, c, hline, hspace, htab⟩ := h.closed
  have hsame : front ++ [d] = before ++ [c] := hfront.symm.trans hline
  obtain ⟨-, rfl⟩ := List.append_singleton_inj.mp hsame
  rcases hd with rfl | rfl
  · exact hspace rfl
  · exact htab rfl

theorem not_trails_empty : ¬Trails "" := by
  rintro ⟨before, c, hline, -⟩
  simp at hline

/-- Parts without line breaks may stand in front. -/
theorem Solid.part {a b : String} (ha : '\n' ∉ a.toList) (h : Solid b) : Solid (a ++ b) := by
  obtain ⟨before, c, hline, hc⟩ := h.closed
  refine ⟨?_, a.toList ++ before, c, ?_, hc⟩
  · rw [String.toList_append, List.mem_append, not_or]
    exact ⟨ha, h.unbroken⟩
  · rw [String.toList_append, hline, List.append_assoc]

/-- Whether characters hold no line break. -/
def isUnbroken (cs : List Char) : Bool := cs.all (· != '\n')

/-- Whether characters make a solid line. -/
def isSolid (cs : List Char) : Bool :=
  isUnbroken cs && cs.getLast?.any fun c => c != ' ' && c != '\t'

theorem not_mem_of_isUnbroken {cs : List Char} (h : isUnbroken cs = true) : '\n' ∉ cs := by
  intro hmem
  have hne := List.all_eq_true.mp h '\n' hmem
  cases hne

/-- A literal is the string of its characters, so that the check of a line can run on them. -/
theorem solid_literal {cs : List Char} (h : isSolid cs = true) : Solid (String.ofList cs) := by
  obtain ⟨hbreak, hlast⟩ := Bool.and_eq_true_iff.mp h
  refine ⟨?_, ?_⟩
  · rw [String.toList_ofList]
    exact not_mem_of_isUnbroken hbreak
  · obtain ⟨c, hc, hshows⟩ := (Option.any_eq_true _ _).mp hlast
    obtain ⟨before, hcs⟩ := List.getLast?_eq_some_iff.mp hc
    refine ⟨before, c, ?_, by simpa using hshows⟩
    rw [String.toList_ofList, hcs]

theorem Solid.literal {cs : List Char} {b : String} (h : isUnbroken cs = true) (tail : Solid b) :
    Solid (String.ofList cs ++ b) := by
  apply Solid.part _ tail
  rw [String.toList_ofList]
  exact not_mem_of_isUnbroken h

/-- Something that holds no line break can stand behind a line. -/
theorem Filled.append {a b : String} (h : Filled a) (hb : '\n' ∉ b.toList) : Filled (a ++ b) := by
  refine ⟨?_, ?_⟩
  · rw [String.toList_append, List.mem_append, not_or]
    exact ⟨h.unbroken, hb⟩
  · intro hempty
    exact h.nonempty (String.append_eq_empty_iff.mp hempty).1

/-! ## What lines are pasted together from -/

theorem newline_not_mem_blanks (n : Nat) : '\n' ∉ (blanks n).toList := by
  rw [blanks, String.toList_ofList]
  intro hmem
  have hspace := List.eq_of_mem_replicate hmem
  cases hspace

theorem Solid.word {letters b : String} (h : IsWord letters) (tail : Solid b) :
    Solid (letters ++ b) :=
  .part h.noLineBreak tail

theorem Solid.plain {content b : String} (h : IsPlain content) (tail : Solid b) :
    Solid (content ++ b) := by
  apply Solid.part _ tail
  intro hmem
  exact (h _ hmem).2.2 rfl

theorem solid_of_isWord {letters : String} (h : IsWord letters) : Solid letters := by
  refine ⟨h.noLineBreak, ?_⟩
  obtain ⟨before, c, hletters⟩ := (List.eq_nil_or_concat' letters.toList).resolve_left h.nonempty
  have hclass := h.letters c (by simp [hletters])
  refine ⟨before, c, hletters, ?_, ?_⟩
  · rintro rfl
    cases hclass
  · rintro rfl
    cases hclass

theorem solid_value (r : Representation) (v : Int) : Solid (r.literal v) := by
  cases r with
  | i32 =>
      cases v with
      | ofNat n => exact solid_of_isWord (isWord_toString n)
      | negSucc n =>
          have hliteral : Representation.literal .i32 (.negSucc n) = "-" ++ toString (n + 1) := rfl
          rw [hliteral]
          exact .literal rfl (solid_of_isWord (isWord_toString (n + 1)))
  | u32 => exact solid_of_isWord (isWord_hexText _)

/-! ## Blocks of lines -/

/-- Lines with some property, and single empty lines between some of them. -/
inductive Spaced (P : String → Prop) : List String → Prop where
  | last {line : String} : P line → Spaced P [line]
  | next {line : String} {rest : List String} : P line → Spaced P rest → Spaced P (line :: rest)
  | gap {line : String} {rest : List String} : P line → Spaced P rest →
      Spaced P (line :: "" :: rest)

/-- What can stand behind a block: nothing, or a block, with an empty line in front or without. -/
inductive Attached (P : String → Prop) : List String → Prop where
  | none : Attached P []
  | near {lines : List String} : Spaced P lines → Attached P lines
  | far {lines : List String} : Spaced P lines → Attached P ("" :: lines)

variable {P Q : String → Prop} {a b lines : List String}

theorem Spaced.mono (h : Spaced P lines) (hPQ : ∀ line, P line → Q line) : Spaced Q lines := by
  induction h with
  | last hline => exact .last (hPQ _ hline)
  | next hline _ ih => exact .next (hPQ _ hline) ih
  | gap hline _ ih => exact .gap (hPQ _ hline) ih

theorem Attached.mono (h : Attached P lines) (hPQ : ∀ line, P line → Q line) :
    Attached Q lines := by
  cases h with
  | none => exact .none
  | near hlines => exact .near (hlines.mono hPQ)
  | far hlines => exact .far (hlines.mono hPQ)

/-- A block grows by what can stand behind it. -/
theorem Spaced.append (ha : Spaced P a) (hb : Attached P b) : Spaced P (a ++ b) := by
  induction ha with
  | last hline =>
      -- the lines meet here, and the last one of the block is not empty
      cases hb with
      | none => exact .last hline
      | near hlines => exact .next hline hlines
      | far hlines => exact .gap hline hlines
  | next hline _ ih => exact .next hline ih
  | gap hline _ ih => exact .gap hline ih

theorem Attached.append (ha : Attached P a) (hb : Attached P b) : Attached P (a ++ b) := by
  cases ha with
  | none => exact hb
  | near hlines => exact .near (hlines.append hb)
  | far hlines => exact .far (hlines.append hb)

/-- A section that is there or not. -/
theorem Attached.ite (h : Attached P lines) (c : Prop) [Decidable c] :
    Attached P (if c then lines else []) := by
  split
  · exact h
  · exact .none

/-- Lines without an empty one can stand behind a block. -/
theorem attached_of_forall (h : ∀ line ∈ lines, P line) : Attached P lines := by
  induction lines with
  | nil => exact .none
  | cons line rest ih =>
      obtain ⟨hline, hrest⟩ := List.forall_mem_cons.mp h
      exact .near (Spaced.append (.last hline) (ih hrest))

theorem spaced_of_forall (hne : lines ≠ []) (h : ∀ line ∈ lines, P line) : Spaced P lines := by
  cases lines with
  | nil => exact absurd rfl hne
  | cons line rest =>
      obtain ⟨hline, hrest⟩ := List.forall_mem_cons.mp h
      exact Spaced.append (.last hline) (attached_of_forall hrest)

/-- Sections that can each stand behind a block can do so one after the other. -/
theorem Attached.flatMap {α : Type} {items : List α} {f : α → List String}
    (h : ∀ x ∈ items, Attached P (f x)) : Attached P (items.flatMap f) := by
  induction items with
  | nil => exact .none
  | cons x rest ih =>
      obtain ⟨hx, hrest⟩ := List.forall_mem_cons.mp h
      exact hx.append (ih hrest)

theorem Spaced.head (h : Spaced P lines) : ∃ first rest, lines = first :: rest ∧ P first := by
  cases h with
  | last hline => exact ⟨_, _, rfl, hline⟩
  | next hline _ => exact ⟨_, _, rfl, hline⟩
  | gap hline _ => exact ⟨_, _, rfl, hline⟩

theorem Spaced.getLast (h : Spaced P lines) : ∃ front last, lines = front ++ [last] ∧ P last := by
  induction h with
  | last hline => exact ⟨[], _, rfl, hline⟩
  | @next line _ _ _ ih =>
      obtain ⟨front, last, rfl, hlast⟩ := ih
      exact ⟨line :: front, last, rfl, hlast⟩
  | @gap line _ _ _ ih =>
      obtain ⟨front, last, rfl, hlast⟩ := ih
      exact ⟨line :: "" :: front, last, rfl, hlast⟩

theorem Spaced.eq_or_of_mem (h : Spaced P lines) : ∀ line ∈ lines, line = "" ∨ P line := by
  induction h with
  | last hline => simp [hline]
  | next hline _ ih => exact List.forall_mem_cons.mpr ⟨.inr hline, ih⟩
  | gap hline _ ih => exact List.forall_mem_cons.mpr ⟨.inr hline, by simpa using ih⟩

/-- Of two lines that follow each other one holds something, the end of the text included. -/
theorem Spaced.isChain (h : Spaced P lines) :
    (lines ++ [""]).IsChain fun a b => P a ∨ P b := by
  induction h with
  | last hline => exact List.isChain_pair.mpr (.inl hline)
  | next hline _ ih => exact ih.cons fun _ _ => .inl hline
  | gap hline hrest ih =>
      obtain ⟨first, rest, rfl, hfirst⟩ := hrest.head
      have hempty : ("" :: (first :: rest ++ [""])).IsChain fun a b => P a ∨ P b :=
        ih.cons fun b hb => by
          obtain rfl : first = b := by simpa using hb
          exact .inr hfirst
      exact hempty.cons fun _ _ => .inl hline

/-! ## The text of a block -/

theorem Spaced.linesOf_unlines (h : Spaced P lines)
    (unbroken : ∀ line, P line → '\n' ∉ line.toList) :
    linesOf (unlines lines) = lines ++ [""] := by
  have hlines : ∀ line ∈ lines, '\n' ∉ line.toList := by
    intro line hline
    rcases h.eq_or_of_mem line hline with rfl | hfull
    · simp
    · exact unbroken line hfull
  have hsplit := linesOf_unlines_append hlines ""
  rwa [String.append_empty] at hsplit

theorem Spaced.endsOnce (h : Spaced Filled lines) : EndsOnce (unlines lines) := by
  obtain ⟨front, last, rfl, hlast⟩ := h.getLast
  have hne : last.toList ≠ [] := by simpa using hlast.nonempty
  obtain ⟨before, c, hchars⟩ := (List.eq_nil_or_concat' last.toList).resolve_left hne
  refine ⟨(unlines front).toList ++ before, c, ?_, ?_⟩
  · rw [unlines_append, unlines_cons, unlines_nil, String.append_empty, String.toList_append,
      String.toList_append, hchars]
    simp
  · rintro rfl
    apply hlast.unbroken
    simp [hchars]

/-- A line break parts the lines in front of it from those behind it. -/
theorem linesOf_append_newline (above below : String) :
    linesOf (above ++ "\n" ++ below) = linesOf above ++ linesOf below := by
  have hchars : (above ++ "\n" ++ below).toList = above.toList ++ '\n' :: below.toList := by
    simp
  rw [linesOf, hchars, List.splitOn_append_cons_self, List.map_append]
  rfl

/-- Between three line breaks in a row stand two empty lines. -/
theorem linesOf_breaks (above below : String) :
    linesOf (above ++ "\n" ++ ("\n" ++ ("\n" ++ below))) =
      linesOf above ++ "" :: "" :: linesOf below := by
  rw [linesOf_append_newline, linesOf_newline, linesOf_newline]

theorem Spaced.not_infix_breaks (h : Spaced Filled lines) :
    ¬['\n', '\n', '\n'] <:+: (unlines lines).toList := by
  rintro ⟨before, behind, hbreaks⟩
  have htext : unlines lines =
      String.ofList before ++ "\n" ++ ("\n" ++ ("\n" ++ String.ofList behind)) := by
    rw [← String.toList_inj, ← hbreaks]
    simp
  have hchain := h.isChain
  rw [← h.linesOf_unlines fun _ hline => hline.unbroken, htext, linesOf_breaks] at hchain
  have hpair := (List.isChain_cons_cons.mp hchain.right_of_append).1
  rcases hpair with hfull | hfull
  · exact hfull.nonempty rfl
  · exact hfull.nonempty rfl

theorem Spaced.tidy (h : Spaced Solid lines) : Tidy (unlines lines) := by
  have hlines := h.linesOf_unlines fun _ hline => hline.unbroken
  refine ⟨?_, ?_, ?_, ?_⟩
  · obtain ⟨first, rest, rfl, hfirst⟩ := h.head
    exact ⟨first, rest ++ [""], hlines, hfirst.not_isBlank⟩
  · exact (h.mono fun _ hline => hline.filled).endsOnce
  · rw [hlines]
    apply h.isChain.imp
    rintro a b hsolid ⟨ha, hb⟩
    rcases hsolid with hsolid | hsolid
    · exact hsolid.not_isBlank ha
    · exact hsolid.not_isBlank hb
  · rw [hlines]
    intro line hline
    rcases List.mem_append.mp hline with hmem | hlast
    · rcases h.eq_or_of_mem line hmem with rfl | hsolid
      · exact not_trails_empty
      · exact hsolid.not_trails
    · rw [List.mem_singleton.mp hlast]
      exact not_trails_empty

/-! ## Columns -/

/-- A row whose back part opens in a column, with blanks in front of it. -/
def InColumn (column : Nat) (front back row : String) : Prop :=
  ∃ gap, row = front ++ blanks gap ++ back ∧ (front ++ blanks gap).length = column

theorem le_widest {n : Nat} {ns : List Nat} (h : n ∈ ns) : n ≤ widest ns :=
  List.le_max_of_le h le_rfl

theorem widest_mem {ns : List Nat} (h : ns ≠ []) : widest ns ∈ ns :=
  List.maximum_mem (List.foldr_max_of_ne_nil h).symm

/-- Letters, digits and underscores take one byte each. -/
theorem utf8ByteSize_eq_length {letters : String} (h : IsWord letters) :
    letters.utf8ByteSize = letters.length := by
  have hsize (cs : List Char) (hcs : ∀ c ∈ cs, Name.isIdentifierRest c = true) :
      String.utf8Len cs = cs.length := by
    induction cs with
    | nil => rfl
    | cons c cs ih =>
        obtain ⟨hc, hrest⟩ := List.forall_mem_cons.mp hcs
        have hcode : c.val ≤ 127 := Nat.le_of_lt_succ (Name.toNat_lt_of_isIdentifierRest hc)
        rw [String.utf8Len_cons, ih hrest, Char.utf8Size_eq_one_iff.mpr hcode, List.length_cons]
  have hletters := hsize letters.toList h.letters
  rwa [← String.utf8ByteSize_ofList, String.ofList_toList, String.length_toList] at hletters

/-- A text that fits ends one space before the column behind a padded one. -/
theorem inColumn_alignLeft (front : String) {s : String} {width : Nat} (h : s.length ≤ width)
    (back : String) :
    InColumn (front.length + width + 1) (front ++ s) back
      (front ++ alignLeft width s ++ " " ++ back) := by
  have hblanks : blanks (width - s.length + 1) = blanks (width - s.length) ++ " " := by
    rw [blanks, blanks, List.replicate_succ', String.ofList_append]
  refine ⟨width - s.length + 1, ?_, ?_⟩
  · rw [hblanks, alignLeft]
    simp only [String.append_assoc]
  · have hlength : (blanks (width - s.length + 1)).length = width - s.length + 1 := by
      simp [blanks]
    rw [String.length_append, String.length_append, hlength]
    omega

end EnumBindings.Text
