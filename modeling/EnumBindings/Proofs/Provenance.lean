import EnumBindings.Proofs.Lines
import EnumBindings.Proofs.Table

/-!
# Where a file comes from

Above the code of every artifact stand the license and the two marks of generated files. An entry
of the license is written behind one comment token, so its first line is a comment; the lines
behind a line break within the entry stand as they are. The header is made of comments exactly
when these lines are comments already (`provenance_confined_iff`), and otherwise the license adds
lines of its own (`provenance_escapes`). What stands behind the header is the same under every
license.
-/

namespace EnumBindings

open EnumBindings.Text

/-- A line that is a comment from its first character on. -/
def Commented (token line : String) : Prop := ∃ rest, line = token ++ rest

/-- The lines that mark a generated file. -/
def marks : List String := ["// Code generated by flexgen; DO NOT EDIT.", "// @generated"]

/-- A text that opens with comments, the last of them the marks, and goes on with `body`. -/
def Confined (token text body : String) : Prop :=
  ∃ above, (∀ line ∈ above, '\n' ∉ line.toList ∧ Commented token line) ∧
    text = unlines (above ++ marks) ++ body

namespace Header

/-- The lines above the marks as they stand in the text. -/
def linesAbove (header : Header) (token : String) : List String :=
  header.license.flatMap (fun entry => linesOf (commentLine token entry))
    ++ (if header.license.isEmpty then [] else [token])

theorem newline_not_mem_linesAbove (header : Header) {token : String}
    (htoken : '\n' ∉ token.toList) :
    ∀ line ∈ header.linesAbove token, '\n' ∉ line.toList := by
  intro line hline
  rcases List.mem_append.mp hline with hentry | hlast
  · obtain ⟨entry, -, hmem⟩ := List.mem_flatMap.mp hentry
    exact newline_not_mem_of_mem_linesOf hmem
  · split at hlast
    · cases hlast
    · rw [List.mem_singleton.mp hlast]
      exact htoken

/-- The text of the header, line by line. -/
theorem unlines_lines (header : Header) :
    unlines (header.lines "//") = unlines (header.linesAbove "//" ++ marks) := by
  have hentries (entries : List String) :
      unlines (entries.flatMap fun entry => linesOf (commentLine "//" entry)) =
        unlines (entries.map (commentLine "//")) := by
    induction entries with
    | nil => rfl
    | cons entry rest ih =>
        rw [List.flatMap_cons, unlines_append, unlines_linesOf, ih, List.map_cons, unlines_cons]
  unfold lines linesAbove
  rw [unlines_append, unlines_append, unlines_append, unlines_append, hentries]
  rfl

/-- Behind the first line of an entry its text stands as it is. -/
theorem linesOf_commentLine {token : String} (htoken : '\n' ∉ token.toList) (entry : String) :
    ∃ rest, linesOf (commentLine token entry) = (token ++ rest) :: (linesOf entry).tail := by
  unfold commentLine
  split
  · rename_i hempty
    obtain rfl : entry = "" := String.isEmpty_iff.mp hempty
    refine ⟨"", ?_⟩
    have hline := linesOf_append htoken ""
    rwa [String.append_empty] at hline
  · have hlead : '\n' ∉ (token ++ " ").toList := by
      rw [String.toList_append, List.mem_append, not_or]
      exact ⟨htoken, by decide⟩
    rw [linesOf_append hlead]
    cases hlines : linesOf entry with
    | nil => exact absurd (List.map_eq_nil_iff.mp hlines) (List.splitOn_ne_nil _ _)
    | cons first others =>
        refine ⟨" " ++ first, ?_⟩
        rw [List.modifyHead_cons, List.tail_cons, String.append_assoc]

/-- Everything above the marks is a comment exactly when the later lines of every entry are. -/
theorem commented_linesAbove_iff (header : Header) {token : String}
    (htoken : '\n' ∉ token.toList) :
    (∀ line ∈ header.linesAbove token, Commented token line) ↔
      ∀ entry ∈ header.license, ∀ line ∈ (linesOf entry).tail, Commented token line := by
  constructor
  · intro h entry hentry line hline
    obtain ⟨rest, hlines⟩ := linesOf_commentLine htoken entry
    apply h line
    apply List.mem_append_left
    refine List.mem_flatMap.mpr ⟨entry, hentry, ?_⟩
    rw [hlines]
    exact List.mem_cons_of_mem _ hline
  · intro h line hline
    rcases List.mem_append.mp hline with hentries | hlast
    · obtain ⟨entry, hentry, hmem⟩ := List.mem_flatMap.mp hentries
      obtain ⟨rest, hlines⟩ := linesOf_commentLine htoken entry
      rw [hlines] at hmem
      rcases List.mem_cons.mp hmem with rfl | hlater
      · exact ⟨rest, rfl⟩
      · exact h entry hentry line hlater
    · split at hlast
      · cases hlast
      · rw [List.mem_singleton.mp hlast]
        exact ⟨"", String.append_empty.symm⟩

end Header

theorem newline_not_mem_marks : ∀ line ∈ marks, '\n' ∉ line.toList := by
  decide

/-- What stands above the marks is known from the text and from what stands behind them. -/
theorem confined_iff_of_text {token text body : String} {above : List String}
    (whole : ∀ line ∈ above, '\n' ∉ line.toList)
    (htext : text = unlines (above ++ marks) ++ body) :
    Confined token text body ↔ ∀ line ∈ above, Commented token line := by
  constructor
  · rintro ⟨above', habove', htext'⟩
    have hlines : unlines (above' ++ marks) = unlines (above ++ marks) :=
      (String.append_left_inj body).mp (htext'.symm.trans htext)
    rw [unlines_inj] at hlines
    · rw [← List.append_cancel_right hlines]
      intro line hline
      exact (habove' line hline).2
    · refine List.forall_mem_append.mpr ⟨?_, newline_not_mem_marks⟩
      intro line hline
      exact (habove' line hline).1
    · exact List.forall_mem_append.mpr ⟨whole, newline_not_mem_marks⟩
  · intro hcommented
    exact ⟨above, fun line hline => ⟨whole line hline, hcommented line hline⟩, htext⟩

theorem Style.lineComment_language (style : Style) : style.language.lineComment = "//" := by
  cases style <;> rfl

/-- The lines behind the header. -/
def Style.bodyLines (style : Style) (enums : List EnumType) : List String :=
  style.preludeLines ++ enums.flatMap (fun e => "" :: style.enumLines e)

theorem Style.unlines_fileLines (style : Style) (header : Header) (enums : List EnumType) :
    unlines (style.fileLines header enums) =
      unlines (header.linesAbove "//" ++ marks) ++ unlines (style.bodyLines enums) := by
  unfold fileLines bodyLines
  rw [style.lineComment_language, List.append_assoc, unlines_append, header.unlines_lines]

theorem Style.opens_bodyLines (style : Style) (enums : List EnumType) :
    ∃ rest, unlines (style.bodyLines enums) = "\n" ++ rest := by
  obtain ⟨lines, hlines⟩ : ∃ lines, style.bodyLines enums = "" :: lines := by
    cases style <;> exact ⟨_, rfl⟩
  refine ⟨unlines lines, ?_⟩
  rw [hlines, unlines_cons, String.empty_append]

/-- An artifact is the header, of which the last two lines are the marks, and a body that opens
with a blank line. The body is the one that the same table has under no license at all. The
header is made of comments exactly when the lines behind the line breaks of its entries are. -/
theorem provenance_confined_iff {table : EnumTable} {style : Style} {header : Header}
    {artifact : Artifact} (accepted : table.generate style header = .ok artifact) :
    ∃ above body bare, artifact.text = unlines (above ++ marks) ++ body ∧
      (∀ line ∈ above, '\n' ∉ line.toList) ∧ (∃ rest, body = "\n" ++ rest) ∧
      table.generate style ⟨[]⟩ = .ok bare ∧ bare.enums = artifact.enums ∧
      bare.text = unlines marks ++ body ∧
      (Confined style.language.lineComment artifact.text body ↔ ∀ entry ∈ header.license,
        ∀ line ∈ (linesOf entry).tail, Commented style.language.lineComment line) := by
  obtain ⟨resolved, checked, htext⟩ := (EnumTable.generate_eq_ok_iff ..).mp accepted
  have hwhole : '\n' ∉ "//".toList := by decide
  have habove := header.newline_not_mem_linesAbove hwhole
  rw [style.unlines_fileLines] at htext
  refine ⟨header.linesAbove "//", unlines (style.bodyLines artifact.enums), _, htext, habove,
    style.opens_bodyLines artifact.enums, EnumTable.generate_of_checks style resolved checked ⟨[]⟩,
    rfl, ?_, ?_⟩
  · exact style.unlines_fileLines ⟨[]⟩ artifact.enums
  · rw [style.lineComment_language, confined_iff_of_text habove htext]
    exact header.commented_linesAbove_iff hwhole

/-! ## Two licenses -/

namespace Panel

theorem generate_table (header : Header) : table.generate (.go "yoga") header =
    .ok ⟨[access, align, phase], unlines (Style.fileLines (.go "yoga") header
      [access, align, phase])⟩ :=
  EnumTable.generate_of_checks (.go "yoga") resolve_table (by decide +kernel) header

/-- An entry of two lines, the second of which is a comment, and an empty one. -/
def notice : Header := ⟨["Free to use.\n// No warranty.", ""]⟩

theorem provenance_confined_notice : ∃ artifact body,
    table.generate (.go "yoga") notice = .ok artifact ∧ Confined "//" artifact.text body := by
  obtain ⟨above, body, bare, -, -, -, -, -, -, hconfined⟩ :=
    provenance_confined_iff (generate_table notice)
  refine ⟨_, body, generate_table notice, hconfined.mpr ?_⟩
  have hlines : ∀ entry ∈ notice.license, ∀ line ∈ (linesOf entry).tail,
      line = "// No warranty." := by decide +kernel
  intro entry hentry line hline
  exact ⟨" No warranty.", hlines entry hentry line hline⟩

end Panel

/-- A header of comments has a comment as its second line. -/
theorem exists_second_line {text body : String} (h : Confined "//" text body) :
    ∃ line, (linesOf text)[1]? = some line ∧ Commented "//" line := by
  obtain ⟨above, habove, rfl⟩ := h
  have hwhole : ∀ line ∈ above ++ marks, '\n' ∉ line.toList :=
    List.forall_mem_append.mpr ⟨fun line hline => (habove line hline).1, newline_not_mem_marks⟩
  rw [linesOf_unlines_append hwhole, List.append_assoc]
  match above with
  | [] => exact ⟨"// @generated", rfl, " @generated", rfl⟩
  | [_] => exact ⟨_, rfl, " Code generated by flexgen; DO NOT EDIT.", rfl⟩
  | _ :: second :: _ => exact ⟨second, rfl, (habove second (by simp)).2⟩

/-- An entry with a line break adds a line of code above the marks. -/
theorem provenance_escapes : ∃ artifact,
    Panel.table.generate (.go "yoga") ⟨["MIT\npackage evil"]⟩ = .ok artifact ∧
      (linesOf artifact.text)[1]? = some "package evil" ∧
      ∀ body, ¬Confined "//" artifact.text body := by
  have hsecond : (linesOf (unlines (Style.fileLines (.go "yoga") ⟨["MIT\npackage evil"]⟩
      [Panel.access, Panel.align, Panel.phase])))[1]? = some "package evil" := by
    have hwhole : '\n' ∉ "//".toList := by decide
    rw [Style.unlines_fileLines, linesOf_unlines_append]
    · decide +kernel
    · exact List.forall_mem_append.mpr
        ⟨Header.newline_not_mem_linesAbove _ hwhole, newline_not_mem_marks⟩
  refine ⟨_, Panel.generate_table _, hsecond, fun body hconfined => ?_⟩
  obtain ⟨line, hline, rest, hcomment⟩ := exists_second_line hconfined
  rw [hsecond] at hline
  cases hline
  have hfirst := congrArg (fun s => s.toList.head?) hcomment
  rw [String.toList_append] at hfirst
  cases hfirst

end EnumBindings
