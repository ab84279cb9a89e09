import EnumBindings.Proofs.Go.Layout
import EnumBindings.Proofs.Go.Lookup
import EnumBindings.Proofs.Provenance
import EnumBindings.Proofs.Rust.Layout

/-!
# Layout of artifacts

A file is a block of lines: its header, what the language needs first, and one section per enum
type, each behind an empty line (`Style.spaced_fileLines`). A license or a package may end in white
space, so only the enum types are tidy in every line; the file as a whole ends in one line break and
has no two empty lines in a row, however many enum types it holds (`generated_text_keeps_layout`).
-/

namespace EnumBindings

open EnumBindings.Text

/-- No line of a header is empty, that of an empty entry included. -/
theorem Header.filled_lines {header : Header} (h : ∀ line ∈ header.license, '\n' ∉ line.toList) :
    ∀ line ∈ header.lines "//", Filled line := by
  have htoken : Filled "//" := (solid_literal rfl).filled
  have hentry : ∀ line ∈ header.license, Filled (commentLine "//" line) := by
    intro line hline
    rw [commentLine]
    split
    · exact htoken
    · exact (htoken.append (by decide)).append (h line hline)
  have hend : ∀ line ∈ if header.license.isEmpty then [] else ["//"], Filled line := by
    split
    · exact fun line hline => absurd hline List.not_mem_nil
    · exact List.forall_mem_singleton.mpr htoken
  have hmarks : ∀ line ∈ marks, Filled line :=
    List.forall_mem_cons.mpr ⟨(solid_literal rfl).filled,
      List.forall_mem_singleton.mpr (solid_literal rfl).filled⟩
  exact List.forall_mem_append.mpr
    ⟨List.forall_mem_append.mpr ⟨List.forall_mem_map.mpr hentry, hend⟩, hmarks⟩

namespace Style

theorem spaced_enumLines {e : EnumType} (wf : e.WellFormed) (style : Style) :
    Spaced Solid (style.enumLines e) := by
  cases style with
  | go package => exact Go.spaced_enumLines (Go.spelled_of_wellFormed wf)
  | rust => exact Rust.spaced_enumLines (Rust.spelled_of_wellFormed wf)

theorem attached_preludeLines (style : Style)
    (h : ∀ package, style = .go package → '\n' ∉ package.toList) :
    Attached Filled style.preludeLines := by
  cases style with
  | go package => exact Go.attached_preludeLines (h package rfl)
  | rust => exact Rust.attached_preludeLines.mono fun _ => Solid.filled

/-- Each enum type brings its own empty line, so files with any number of them are blocks. -/
theorem spaced_fileLines {style : Style} {header : Header} {enums : List EnumType}
    (license : ∀ line ∈ header.license, '\n' ∉ line.toList)
    (package : ∀ package, style = .go package → '\n' ∉ package.toList)
    (wf : ∀ e ∈ enums, e.WellFormed) : Spaced Filled (style.fileLines header enums) := by
  have hheader : Spaced Filled (header.lines "//") :=
    spaced_of_forall (by simp [Header.lines]) (Header.filled_lines license)
  have henums : Attached Filled (enums.flatMap fun e => "" :: style.enumLines e) :=
    Attached.flatMap fun e he =>
      .far ((style.spaced_enumLines (wf e he)).mono fun _ => Solid.filled)
  rw [fileLines, style.lineComment_language]
  exact (hheader.append (style.attached_preludeLines package)).append henums

end Style

/-- Every enum type that resolution accepts is written as tidy text in both languages, and values
of its own put the types of its constants in a column. Files are therefore free of three line
breaks in a row and end in one, under every license and package without line breaks. -/
theorem generated_text_keeps_layout :
    (∀ (d : Definition) (e : EnumType), d.resolve = .ok e →
      Tidy (unlines (Go.enumLines e)) ∧ Tidy (unlines (Rust.enumLines e)) ∧
        (e.positional = false → Go.Columned e (unlines (Go.enumLines e)))) ∧
    ∀ (table : EnumTable) (style : Style) (header : Header) (artifact : Artifact),
      table.generate style header = .ok artifact →
      (∀ line ∈ header.license, '\n' ∉ line.toList) →
      (∀ package, style = .go package → '\n' ∉ package.toList) →
        EndsOnce artifact.text ∧ ¬['\n', '\n', '\n'] <:+: artifact.text.toList := by
  constructor
  · intro d e resolved
    have wf := Definition.wellFormed_of_resolve resolved
    have hgo := Go.spelled_of_wellFormed wf
    have hrust := Rust.spelled_of_wellFormed wf
    exact ⟨(Go.spaced_enumLines hgo).tidy, (Rust.spaced_enumLines hrust).tidy,
      Go.columned_enumLines hgo wf.nonempty⟩
  · intro table style header artifact accepted license package
    obtain ⟨resolved, -, htext⟩ := (table.generate_eq_ok_iff style header artifact).mp accepted
    have wf : ∀ e ∈ artifact.enums, e.WellFormed := fun _ => EnumTable.wellFormed_of_mem resolved
    have hfile := Style.spaced_fileLines license package wf
    rw [htext]
    exact ⟨hfile.endsOnce, hfile.not_infix_breaks⟩

/-- A flag set and preserved bare names, and a file that holds them under a license with an empty
entry. -/
theorem generated_text_keeps_layout_panel : ∃ flags bare artifact,
    Definition.resolve flags = .ok Panel.access ∧ Definition.resolve bare = .ok Panel.align ∧
      Tidy (unlines (Rust.enumLines Panel.access)) ∧ Tidy (unlines (Go.enumLines Panel.align)) ∧
      Go.Columned Panel.access (unlines (Go.enumLines Panel.access)) ∧
      Panel.table.generate (.go "ui") ⟨["MIT", ""]⟩ = .ok artifact ∧
      EndsOnce artifact.text ∧ ¬['\n', '\n', '\n'] <:+: artifact.text.toList := by
  have accepted := EnumTable.generate_of_checks (.go "ui") Panel.resolve_table Go.checkNames_panel
    ⟨["MIT", ""]⟩
  have hflags : Definition.resolve ⟨"Access", [.explicit "Read" 1, .explicit "Write" 2147483648],
      true, false⟩ = .ok Panel.access := by decide
  have hbare : Definition.resolve ⟨"Align", [.named "Auto", .named "FlexStart"], false, true⟩ =
      .ok Panel.align := by decide
  obtain ⟨-, hrust, hcolumn⟩ := generated_text_keeps_layout.1 _ _ hflags
  obtain ⟨hgo, -, -⟩ := generated_text_keeps_layout.1 _ _ hbare
  obtain ⟨hends, hbreaks⟩ := generated_text_keeps_layout.2 _ _ _ _ accepted (by decide)
    (by rintro package ⟨⟩; decide)
  exact ⟨_, _, _, hflags, hbare, hrust, hgo, hcolumn rfl, accepted, hends, hbreaks⟩

end EnumBindings
