import EnumBindings.Text.Lines
import Mathlib.Data.List.Basic

/-!
# Lines of a text

`linesOf` takes a text apart at its line breaks. It undoes `unlines` on lines that hold no line
break themselves (`linesOf_unlines_append`), so such lines are known from their text
(`unlines_inj`); put together again, the lines of any text are the text and one line break.
-/

namespace EnumBindings

/-- No piece holds what pieces are separated by. -/
theorem not_mem_of_mem_splitOn {α : Type} [BEq α] [LawfulBEq α] {a : α} {l piece : List α}
    (h : piece ∈ l.splitOn a) : a ∉ piece := by
  induction l generalizing piece with
  | nil =>
      rw [List.splitOn_nil, List.mem_singleton] at h
      subst h
      exact List.not_mem_nil
  | cons b rest ih =>
      rw [List.splitOn_cons_eq_if_modifyHead] at h
      split at h
      · rcases List.mem_cons.mp h with rfl | hrest
        · exact List.not_mem_nil
        · exact ih hrest
      · rename_i hb
        cases hsplit : rest.splitOn a with
        | nil => exact absurd hsplit (List.splitOn_ne_nil a rest)
        | cons first others =>
            rw [hsplit, List.modifyHead_cons] at h
            rcases List.mem_cons.mp h with rfl | hothers
            · have hfirst := ih (hsplit ▸ List.mem_cons_self)
              have hne : b ≠ a := by simpa using hb
              simpa [hne.symm] using hfirst
            · exact ih (hsplit ▸ List.mem_cons_of_mem _ hothers)

/-- Characters before the first separator belong to the first piece. -/
theorem splitOn_append_of_not_mem {α : Type} [BEq α] [LawfulBEq α] {a : α} {l : List α}
    (h : a ∉ l) (rest : List α) : (l ++ rest).splitOn a = (rest.splitOn a).modifyHead (l ++ ·) := by
  induction l with
  | nil =>
      rw [List.nil_append]
      cases rest.splitOn a <;> rfl
  | cons b l ih =>
      rw [List.mem_cons, not_or] at h
      have hb : (b == a) = false := by simpa using Ne.symm h.1
      rw [List.cons_append, List.splitOn_cons_eq_if_modifyHead, hb, if_neg Bool.false_ne_true,
        ih h.2]
      cases rest.splitOn a <;> rfl

namespace Text

/-- The lines of a text, without their line breaks. -/
def linesOf (text : String) : List String := (text.toList.splitOn '\n').map String.ofList

theorem linesOf_append {part : String} (h : '\n' ∉ part.toList) (text : String) :
    linesOf (part ++ text) = (linesOf text).modifyHead (part ++ ·) := by
  rw [linesOf, linesOf, String.toList_append, splitOn_append_of_not_mem h]
  cases text.toList.splitOn '\n' with
  | nil => rfl
  | cons first rest => simp

theorem linesOf_newline (text : String) : linesOf ("\n" ++ text) = "" :: linesOf text := by
  rw [linesOf, linesOf, String.toList_append]
  rfl

/-- A line break ends the line before it. -/
theorem linesOf_line {line : String} (h : '\n' ∉ line.toList) (text : String) :
    linesOf (line ++ "\n" ++ text) = line :: linesOf text := by
  rw [String.append_assoc, linesOf_append h, linesOf_newline, List.modifyHead_cons,
    String.append_empty]

theorem newline_not_mem_of_mem_linesOf {text line : String} (h : line ∈ linesOf text) :
    '\n' ∉ line.toList := by
  obtain ⟨piece, hpiece, rfl⟩ := List.mem_map.mp h
  rw [String.toList_ofList]
  exact not_mem_of_mem_splitOn hpiece

theorem unlines_cons (line : String) (lines : List String) :
    unlines (line :: lines) = line ++ "\n" ++ unlines lines := by
  rw [unlines, List.map_cons, String.join_cons]
  rfl

/-- Lines are found again in their text. -/
theorem linesOf_unlines_append {lines : List String} (h : ∀ line ∈ lines, '\n' ∉ line.toList)
    (text : String) : linesOf (unlines lines ++ text) = lines ++ linesOf text := by
  induction lines with
  | nil => rw [unlines_nil, String.empty_append]; rfl
  | cons line lines ih =>
      obtain ⟨hline, hlines⟩ := List.forall_mem_cons.mp h
      rw [unlines_cons, String.append_assoc, linesOf_line hline, ih hlines, List.cons_append]

theorem unlines_inj {lines lines' : List String} (h : ∀ line ∈ lines, '\n' ∉ line.toList)
    (h' : ∀ line ∈ lines', '\n' ∉ line.toList) : unlines lines = unlines lines' ↔
      lines = lines' := by
  constructor
  · intro same
    have hlines := linesOf_unlines_append h ""
    rw [same, linesOf_unlines_append h'] at hlines
    exact (List.append_cancel_right hlines).symm
  · intro same
    rw [same]

/-- The lines of a text make the text again, with a line break behind it. -/
theorem unlines_linesOf (text : String) : unlines (linesOf text) = text ++ "\n" := by
  have hchars (cs : List Char) :
      unlines ((cs.splitOn '\n').map String.ofList) = String.ofList cs ++ "\n" := by
    induction cs with
    | nil =>
        rw [List.splitOn_nil, List.map_singleton, unlines_cons, unlines_nil, String.append_empty]
    | cons c cs ih =>
        have hsingle : String.ofList (c :: cs) = String.ofList [c] ++ String.ofList cs := by
          rw [← String.ofList_append, List.singleton_append]
        rw [List.splitOn_cons_eq_if_modifyHead]
        split
        · rename_i hbreak
          obtain rfl : c = '\n' := eq_of_beq hbreak
          rw [List.map_cons, unlines_cons, ih, hsingle, String.append_assoc]
          rfl
        · cases hsplit : cs.splitOn '\n' with
          | nil => exact absurd hsplit (List.splitOn_ne_nil '\n' cs)
          | cons first rest =>
              have hfirst : String.ofList (c :: first) = String.ofList [c] ++ String.ofList first := by
                rw [← String.ofList_append, List.singleton_append]
              rw [hsplit, List.map_cons, unlines_cons] at ih
              rw [List.modifyHead_cons, List.map_cons, unlines_cons, hfirst, hsingle]
              simp only [String.append_assoc] at ih ⊢
              rw [ih]
  have hwhole := hchars text.toList
  rwa [String.ofList_toList] at hwhole

end Text

end EnumBindings
