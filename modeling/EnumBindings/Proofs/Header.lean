import EnumBindings.Artifact
import EnumBindings.Proofs.Source.Line

/-!
# Headers

A header whose license has no line breaks within its lines is nothing but comments.
-/

namespace EnumBindings

open EnumBindings.Source

theorem spells_commentLine {line : String} (h : '\n' ∉ line.toList) :
    Spells (commentLine "//" line) [] := by
  rw [commentLine]
  split
  · rfl
  · exact spells_comment h

theorem Header.spells_of_mem {header : Header} (h : ∀ line ∈ header.license, '\n' ∉ line.toList)
    {line : String} (member : line ∈ header.lines "//") : Spells line [] := by
  rw [Header.lines, List.mem_append, List.mem_append, List.mem_map] at member
  rcases member with (⟨part, hpart, rfl⟩ | hempty) | hmark
  · exact spells_commentLine (h part hpart)
  · split at hempty
    · cases hempty
    · rw [List.mem_singleton.mp hempty]
      rfl
  · simp only [List.mem_cons, List.not_mem_nil, or_false] at hmark
    rcases hmark with rfl | rfl
    · rfl
    · rfl

end EnumBindings
