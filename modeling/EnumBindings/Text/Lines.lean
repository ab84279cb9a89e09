/-!
# Lines and columns

Source text is put together from lines without their line breaks; `unlines` ends every one of
them. Columns are padded by characters.
-/

namespace EnumBindings.Text

/-- The text of some lines, each ended by a line break. -/
def unlines (lines : List String) : String :=
  String.join (lines.map (· ++ "\n"))

@[simp]
theorem unlines_nil : unlines [] = "" := by
  simp [unlines]

@[simp]
theorem unlines_append (a b : List String) : unlines (a ++ b) = unlines a ++ unlines b := by
  simp [unlines, String.join_append]

/-- `n` blanks. -/
def blanks (n : Nat) : String := String.ofList (List.replicate n ' ')

/-- A text moved to the left of a column of `width` characters. -/
def alignLeft (width : Nat) (s : String) : String := s ++ blanks (width - s.length)

/-- A text moved to the right of a column of `width` characters. -/
def alignRight (width : Nat) (s : String) : String := blanks (width - s.length) ++ s

/-- The largest of some widths, zero if there are none. -/
def widest (widths : List Nat) : Nat := widths.foldr max 0

end EnumBindings.Text
