import EnumBindings.Proofs.Go.Lines
import EnumBindings.Proofs.Spacing
import EnumBindings.Proofs.Table

/-!
# Layout of Go files

The lines of an enum type are a block in which every line ends in something that shows
(`spaced_enumLines`). Where the constants have values of their own, their types stand in a column
(`columned_enumLines`).
-/

namespace EnumBindings.Go

open EnumBindings.Source EnumBindings.Text

variable {known : Reserved} {e : EnumType}

/-! ## Lines -/

theorem solid_positionalLines (h : Spelled known e) :
    ∀ line ∈ positionalLines e, Solid line := by
  rw [positionalLines]
  split
  · exact fun line hline => absurd hline List.not_mem_nil
  · rename_i first rest hmembers
    have hconstant : ∀ m ∈ first :: rest, IsWord (constantName e m) := hmembers ▸ h.constant
    obtain ⟨hfirst, hrest⟩ := List.forall_mem_cons.mp hconstant
    refine List.forall_mem_cons.mpr ⟨?_, List.forall_mem_map.mpr fun m hm => ?_⟩
    · simp only [String.append_assoc]
      exact .literal rfl (.word hfirst (.literal rfl (.word h.type (solid_literal rfl))))
    · exact .literal rfl (solid_of_isWord (hrest m hm))

theorem solid_explicitLines (h : Spelled known e) : ∀ line ∈ explicitLines e, Solid line := by
  refine List.forall_mem_map.mpr fun m hm => ?_
  simp only [alignLeft, String.append_assoc]
  exact .literal rfl (.word (h.constant m hm) (.part (newline_not_mem_blanks _)
    (.literal rfl (.word h.type (.literal rfl (solid_value _ _))))))

theorem spaced_constantLines (h : Spelled known e) : Spaced Solid (constantLines e) := by
  have hspecs : ∀ line ∈ if e.positional then positionalLines e else explicitLines e,
      Solid line := by
    split
    · exact solid_positionalLines h
    · exact solid_explicitLines h
  have hopen : Spaced Solid ["const ("] := .last (solid_literal rfl)
  have hclose : Spaced Solid [")"] := .last (solid_literal rfl)
  exact (hopen.append (attached_of_forall hspecs)).append (.near hclose)

theorem attached_countLines (h : Spelled known e) : Attached Solid (countLines e) := by
  rw [countLines]
  split
  · exact .none
  · simp only [String.append_assoc]
    refine .far (.next ?comment (.last ?constant))
    case comment =>
      exact .literal rfl (.word h.count (.literal rfl
        (.word h.type (solid_literal rfl))))
    case constant =>
      exact .literal rfl (.word h.count (.literal rfl
        (solid_of_isWord (isWord_toString _))))

/-- What the bodies of both functions end with. -/
theorem spaced_switchEnd {line : String} (h : Solid line) :
    Spaced Solid ["\tdefault:", line, "\t\x7d", "\x7d"] :=
  .next (solid_literal rfl) (.next h (.next (solid_literal rfl) (.last (solid_literal rfl))))

theorem spaced_stringLines (h : Spelled known e) : Spaced Solid (stringLines e) := by
  have hunknown : Solid ("\t\treturn \"" ++ (EnumType.unknownName ++ "\"")) :=
    .literal rfl (.literal rfl (solid_literal rfl))
  simp only [stringLines, String.append_assoc]
  refine (Spaced.append (.next ?comment (.next ?head (.last (solid_literal rfl))))
    (Attached.flatMap fun m hm => .near (.next ?label (.last ?result)))).append
      (.near (spaced_switchEnd hunknown))
  case comment => exact .literal rfl (.literal rfl (solid_literal rfl))
  case head => exact .literal rfl (.word h.type (solid_literal rfl))
  case label => exact .literal rfl (.word (h.constant m hm) (solid_literal rfl))
  case result => exact .literal rfl (.plain (h.external m hm) (solid_literal rfl))

theorem spaced_parseLines (h : Spelled known e) : Spaced Solid (parseLines e) := by
  have hfailure : Solid ("\t\treturn 0, &" ++ (errorType ++ ("\x7bType: \"" ++
      (e.name ++ "\", Value: s\x7d")))) :=
    .literal rfl (.literal rfl (.literal rfl (.word h.type (solid_literal rfl))))
  simp only [parseLines, String.append_assoc]
  refine (Spaced.append (.next ?comment (.next ?head (.last (solid_literal rfl))))
    (Attached.flatMap fun m hm => .near (.next ?label (.last ?result)))).append
      (.near (spaced_switchEnd hfailure))
  case comment =>
    exact .literal rfl (.word h.parse (.literal rfl
      (.word h.type (solid_literal rfl))))
  case head => exact .literal rfl (.word h.parse (.literal rfl (.word h.type (solid_literal rfl))))
  case label => exact .literal rfl (.plain (h.external m hm) (solid_literal rfl))
  case result => exact .literal rfl (.word (h.constant m hm) (solid_literal rfl))

theorem spaced_keepAliveLines (h : Spelled known e) : Spaced Solid (keepAliveLines e) := by
  simp only [keepAliveLines, String.append_assoc]
  refine (Spaced.append (.next ?comment (.last ?head))
    (attached_of_forall (List.forall_mem_map.mpr fun m hm => ?constant))).append
      (.near (.last (solid_literal rfl)))
  case comment => exact .literal rfl (.word h.type (solid_literal rfl))
  case head => exact .literal rfl (.word h.type (solid_literal rfl))
  case constant => exact .literal rfl (.word (h.constant m hm) (solid_literal rfl))

/-! ## Enum types -/

/-- The lines of an enum type are one block, whichever of its sections are there. -/
theorem spaced_enumLines (h : Spelled known e) : Spaced Solid (enumLines e) := by
  have htype : Solid ("type " ++ e.name ++ " " ++ integerType e.representation) := by
    simp only [String.append_assoc]
    exact .literal rfl (.word h.type (.literal rfl (solid_of_isWord (isWord_integerType _))))
  have hcomment : Solid ("// " ++ e.name ++ " is a generated enum type.") := by
    simp only [String.append_assoc]
    exact .literal rfl (.word h.type (solid_literal rfl))
  have hkeep : Attached Solid (if e.preserve then [""] ++ keepAliveLines e else []) :=
    Attached.ite (.far (spaced_keepAliveLines h)) _
  have hopen : Spaced Solid (["// " ++ e.name ++ " is a generated enum type.",
      "type " ++ e.name ++ " " ++ integerType e.representation, ""] ++ constantLines e) :=
    .next hcomment (.gap htype (spaced_constantLines h))
  have hstring := (hopen.append (attached_countLines h)).append (.far (spaced_stringLines h))
  have hall := (hstring.append (.far (spaced_parseLines h))).append hkeep
  simpa [enumLines] using hall

/-- What a file brings in front of its enum types stands behind a header, under any package. -/
theorem attached_preludeLines {package : String} (h : '\n' ∉ package.toList) :
    Attached Filled (preludeLines package) := by
  have hpackage : Filled ("package " ++ package) :=
    Filled.append ⟨by decide, by decide⟩ h
  simp only [preludeLines, String.append_assoc]
  refine .far (.gap hpackage (Spaced.mono (.gap ?fmt (.next ?comment (.next ?type
    (.next ?name (.next ?value (.gap ?close (.next ?error (.next ?message (.last ?last)))))))))
      fun _ => Solid.filled))
  case fmt => exact solid_literal rfl
  case comment => exact .literal rfl (.literal rfl (solid_literal rfl))
  case type => exact .literal rfl (.literal rfl (solid_literal rfl))
  case name => exact solid_literal rfl
  case value => exact solid_literal rfl
  case close => exact solid_literal rfl
  case error => exact .literal rfl (.literal rfl (solid_literal rfl))
  case message => exact solid_literal rfl
  case last => exact solid_literal rfl

/-! ## The column of types -/

/-- The lines of the first block of constants of a text. -/
def constantRows (text : String) : List String :=
  (((linesOf text).dropWhile (· ≠ "const (")).drop 1).takeWhile (· ≠ ")")

/-- The constants of an enum type stand in a block with their values, one to a line, and all types
open in the column one space behind the longest constant. -/
def Columned (e : EnumType) (text : String) : Prop :=
  ∃ longest ∈ e.members,
    (∀ m ∈ e.members, (constantName e m).length ≤ (constantName e longest).length) ∧
    List.Forall₂
      (fun m row => InColumn ("\t" ++ constantName e longest ++ " ").length
        ("\t" ++ constantName e m) (e.name ++ " = " ++ e.representation.literal m.value) row)
      e.members (constantRows text)

/-- The width of the column in bytes is the number of characters of the longest constant. -/
theorem exists_longest (h : Spelled known e) (hne : e.members ≠ []) :
    ∃ longest ∈ e.members, nameWidth e = (constantName e longest).length ∧
      ∀ m ∈ e.members, (constantName e m).length ≤ nameWidth e := by
  have hwidth : nameWidth e = widest (e.members.map fun m => (constantName e m).length) := by
    rw [nameWidth]
    congr 1
    refine List.map_congr_left fun m hm => ?_
    rw [← String.utf8ByteSize_append]
    exact utf8ByteSize_eq_length (h.constant m hm)
  have hmax : widest (e.members.map fun m => (constantName e m).length) ∈
      e.members.map fun m => (constantName e m).length := widest_mem (by simpa)
  obtain ⟨longest, hlongest, hlength⟩ := List.mem_map.mp hmax
  refine ⟨longest, hlongest, ?_, fun m hm => ?_⟩
  · rw [hwidth, hlength]
  · rw [hwidth]
    exact le_widest (List.mem_map_of_mem hm)

/-- The rows are what stands between the first opening line and the closing line behind it. -/
theorem constantRows_eq {text : String} {above rows below : List String}
    (hlines : linesOf text = above ++ "const (" :: (rows ++ ")" :: below))
    (habove : "const (" ∉ above) (hrows : ")" ∉ rows) : constantRows text = rows := by
  have hopen : (linesOf text).dropWhile (· ≠ "const (") = "const (" :: (rows ++ ")" :: below) := by
    rw [hlines, List.dropWhile_append_of_pos, List.dropWhile_cons_of_neg (by simp)]
    intro line hline
    simpa using ne_of_mem_of_not_mem hline habove
  have hclose : (rows ++ ")" :: below).takeWhile (· ≠ ")") = rows := by
    rw [List.takeWhile_append_of_pos, List.takeWhile_cons_of_neg (by simp), List.append_nil]
    intro line hline
    simpa using ne_of_mem_of_not_mem hline hrows
  rw [constantRows, hopen, List.drop_one, List.tail_cons, hclose]

theorem constantRows_explicit (h : Spelled known e) (explicit : e.positional = false) :
    constantRows (unlines (enumLines e)) = explicitLines e := by
  have hsplit := (spaced_enumLines h).linesOf_unlines fun _ hline => hline.unbroken
  have hlines : enumLines e ++ [""] =
      ["// " ++ e.name ++ " is a generated enum type.",
        "type " ++ e.name ++ " " ++ integerType e.representation, ""]
      ++ "const (" :: (explicitLines e ++ ")" ::
        (countLines e ++ [""] ++ stringLines e ++ [""] ++ parseLines e
          ++ (if e.preserve then [""] ++ keepAliveLines e else []) ++ [""])) := by
    simp [enumLines, constantLines, explicit]
  apply constantRows_eq (hsplit.trans hlines)
  -- the lines in front open with other characters, and so do the rows
  · simp [← String.toList_inj]
  · intro hmem
    obtain ⟨m, -, hrow⟩ := List.mem_map.mp hmem
    simp only [String.append_assoc] at hrow
    have hfirst := congrArg (·.toList.head?) hrow
    simp only [String.toList_append] at hfirst
    cases hfirst

theorem columned_enumLines (h : Spelled known e) (hne : e.members ≠ [])
    (explicit : e.positional = false) : Columned e (unlines (enumLines e)) := by
  obtain ⟨longest, hlongest, hwidth, hmax⟩ := exists_longest h hne
  refine ⟨longest, hlongest, fun m hm => hwidth ▸ hmax m hm, ?_⟩
  rw [constantRows_explicit h explicit, explicitLines, List.forall₂_map_right_iff,
    List.forall₂_same]
  intro m hm
  have hrow := inColumn_alignLeft "\t" (hmax m hm)
    (e.name ++ " = " ++ e.representation.literal m.value)
  have hcolumn : "\t".length + nameWidth e + 1 =
      ("\t" ++ constantName e longest ++ " ").length := by
    rw [String.length_append, String.length_append, hwidth]
    rfl
  rw [hcolumn] at hrow
  simpa only [String.append_assoc] using hrow

example : explicitLines Panel.phase =
    ["\tPhaseLow     Phase = -5", "\tPhaseUnknown Phase = 7"] := by decide +kernel

end EnumBindings.Go
