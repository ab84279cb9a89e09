import EnumBindings.Proofs.Rust.Lines
import EnumBindings.Proofs.Spacing

/-!
# Layout of Rust files

The lines of an enum type are a block in which every line ends in something that shows
(`spaced_enumLines`). The functions of the inherent implementation and the operations on flags
are sections that bring their own empty line.
-/

namespace EnumBindings.Rust

open EnumBindings.Source EnumBindings.Text

variable {e : EnumType}

/-! ## The inherent implementation -/

/-- A constant by its path can stand inside a line. -/
theorem newline_not_mem_constantPath (h : Spelled e) {m : Member} (hm : m ∈ e.members) :
    '\n' ∉ (constantPath e m).toList := by
  have hpath : Solid (constantPath e m) := by
    simp only [constantPath, String.append_assoc]
    exact .word h.type (.literal rfl (solid_of_isWord (h.constant m hm)))
  exact hpath.unbroken

theorem solid_constantLines (h : Spelled e) : ∀ line ∈ constantLines e, Solid line := by
  refine List.forall_mem_map.mpr fun m hm => ?_
  simp only [String.append_assoc]
  exact .literal rfl (.word (h.constant m hm) (.literal rfl
    (.word h.type (.literal rfl (.word h.type (.literal rfl
      (.part (solid_value _ _).unbroken (solid_literal rfl))))))))

theorem attached_valuesLines (h : Spelled e) : Attached Solid (valuesLines e) := by
  simp only [valuesLines, String.append_assoc]
  refine ((Attached.far (.next ?comment (.next ?head (.last ?static)))).append
    (attached_of_forall (List.forall_mem_map.mpr fun m hm => ?value))).append
      (.near (.next (solid_literal rfl) (.next (solid_literal rfl) (.last (solid_literal rfl)))))
  case comment => exact solid_literal rfl
  case head => exact .literal rfl (.word h.type (solid_literal rfl))
  case static =>
    exact .literal rfl (.word h.type (.literal rfl
      (.word (isWord_toString _) (solid_literal rfl))))
  case value => exact .literal rfl (.part (newline_not_mem_constantPath h hm) (solid_literal rfl))

theorem attached_sizeLines (h : Spelled e) : Attached Solid (sizeLines e) := by
  rw [sizeLines]
  split
  · refine .far (.next (solid_literal rfl) (.next ?head (.next (solid_literal rfl)
      (.last (solid_literal rfl)))))
    case head =>
      simp only [String.append_assoc]
      exact .literal rfl (.word h.type (solid_literal rfl))
  · refine .far (.next (solid_literal rfl) (.next (solid_literal rfl) (.next ?count
      (.last (solid_literal rfl)))))
    case count => exact .literal rfl (solid_of_isWord (isWord_toString _))

theorem attached_nameLines (h : Spelled e) : Attached Solid (nameLines e) := by
  simp only [nameLines, String.append_assoc]
  refine ((Attached.far (.next ?comment (.next (solid_literal rfl)
    (.last (solid_literal rfl))))).append
      (attached_of_forall (List.forall_mem_map.mpr fun m hm => ?arm))).append
        (.near (.next ?unknown (.next (solid_literal rfl) (.last (solid_literal rfl)))))
  case comment => exact .literal rfl (.literal rfl (solid_literal rfl))
  case arm =>
    exact .literal rfl (.part (newline_not_mem_constantPath h hm) (.literal rfl
      (.plain (h.external m hm) (solid_literal rfl))))
  case unknown => exact .literal rfl (.literal rfl (solid_literal rfl))

theorem spaced_inherentLines (h : Spelled e) : Spaced Solid (inherentLines e) := by
  have hhead : Spaced Solid ["impl " ++ e.name ++ " \x7b"] := by
    simp only [String.append_assoc]
    exact .last (.literal rfl (.word h.type (solid_literal rfl)))
  have hconstants := hhead.append (attached_of_forall (solid_constantLines h))
  have hfunctions := ((hconstants.append (attached_valuesLines h)).append
    (attached_sizeLines h)).append (attached_nameLines h)
  exact hfunctions.append (.near (.last (solid_literal rfl)))

/-! ## Implementations of traits -/

theorem spaced_displayLines {typeName line : String} (htype : IsWord typeName)
    (hline : Solid line) :
    Spaced Solid (displayLines typeName ++ [line, "    \x7d", "\x7d"]) := by
  simp only [displayLines, String.append_assoc]
  refine .next ?head (.next (solid_literal rfl) (.next hline (.next (solid_literal rfl)
    (.last (solid_literal rfl)))))
  case head => exact .literal rfl (.word htype (solid_literal rfl))

theorem spaced_parseLines (h : Spelled e) : Spaced Solid (parseLines e) := by
  simp only [parseLines, String.append_assoc]
  refine ((Spaced.next ?head (.gap ?error (.next (solid_literal rfl)
    (.last (solid_literal rfl))))).append
      (attached_of_forall (List.forall_mem_map.mpr fun m hm => ?arm))).append
        (.near (.next ?failure (.next ?type (.next (solid_literal rfl) (.next (solid_literal rfl)
          (.next (solid_literal rfl) (.next (solid_literal rfl) (.last (solid_literal rfl)))))))))
  case head => exact .literal rfl (.word h.type (solid_literal rfl))
  case error => exact .literal rfl (.literal rfl (solid_literal rfl))
  case arm =>
    exact .literal rfl (.plain (h.external m hm) (.literal rfl
      (.part (newline_not_mem_constantPath h hm) (solid_literal rfl))))
  case failure => exact .literal rfl (.literal rfl (solid_literal rfl))
  case type => exact .literal rfl (.word h.type (solid_literal rfl))

theorem attached_bitOperationLines (h : Spelled e) {trait method operator : String}
    (htrait : IsWord trait) (hmethod : IsWord method) (hoperator : '\n' ∉ operator.toList) :
    Attached Solid (bitOperationLines e trait method operator) := by
  simp only [bitOperationLines, String.append_assoc]
  refine .far (.next ?head (.gap ?output (.next ?function (.next ?body (.next (solid_literal rfl)
    (.last (solid_literal rfl)))))))
  case head => exact .literal rfl (.word htrait (.literal rfl (.word h.type (solid_literal rfl))))
  case output => exact .literal rfl (.word h.type (solid_literal rfl))
  case function =>
    exact .literal rfl (.word hmethod (.literal rfl (.word h.type
      (.literal rfl (.word h.type (solid_literal rfl))))))
  case body =>
    exact .literal rfl (.word h.type (.literal rfl
      (.part hoperator (solid_literal rfl))))

theorem attached_bitOperationsLines (h : Spelled e) : Attached Solid (bitOperationsLines e) := by
  have hword {name : String} (hname : Name.isIdentifier name = true) : IsWord name :=
    isWord_of_isIdentifier ((Name.isIdentifier_iff name).mp hname)
  have hunion : Attached Solid (bitOperationLines e "BitOr" "bitor" "|") :=
    attached_bitOperationLines h (hword (by decide)) (hword (by decide)) (by decide)
  have hcommon : Attached Solid (bitOperationLines e "BitAnd" "bitand" "&") :=
    attached_bitOperationLines h (hword (by decide)) (hword (by decide)) (by decide)
  exact hunion.append hcommon

/-! ## Enum types -/

theorem spaced_keepAliveLines (h : Spelled e) : Spaced Solid (keepAliveLines e) := by
  simp only [keepAliveLines, String.append_assoc]
  refine ((Spaced.next (solid_literal rfl) (.last ?static)).append
    (attached_of_forall (List.forall_mem_map.mpr fun m hm => ?constant))).append
      (.near (.last (solid_literal rfl)))
  case static =>
    exact .literal rfl (.word h.keepAlive (.literal rfl (.word h.type
      (.literal rfl (.word (isWord_toString _) (solid_literal rfl))))))
  case constant =>
    exact .literal rfl (.part (newline_not_mem_constantPath h hm) (solid_literal rfl))

/-- The newtype with its attributes. -/
theorem spaced_typeLines (h : Spelled e) :
    Spaced Solid ["/// Generated `" ++ e.name ++ "` enum type.",
      "#[derive(Debug, Clone, Copy, PartialEq, Eq, Hash)]", "#[repr(transparent)]",
      "pub struct " ++ e.name ++ "(pub " ++ integerType e.representation ++ ");"] := by
  simp only [String.append_assoc]
  refine .next ?comment (.next (solid_literal rfl) (.next (solid_literal rfl) (.last ?newtype)))
  case comment => exact .literal rfl (.word h.type (solid_literal rfl))
  case newtype =>
    exact .literal rfl (.word h.type (.literal rfl
      (.word (isWord_integerType _) (solid_literal rfl))))

/-- The lines of an enum type are one block, whichever of its sections are there. -/
theorem spaced_enumLines (h : Spelled e) : Spaced Solid (enumLines e) := by
  have hbits : Attached Solid (if e.isBitset then bitOperationsLines e else []) :=
    (attached_bitOperationsLines h).ite _
  have hkeep : Attached Solid (if e.preserve then [""] ++ keepAliveLines e else []) :=
    Attached.ite (.far (spaced_keepAliveLines h)) _
  have hshow : Spaced Solid
      (displayLines e.name ++ ["        f.write_str(self.as_str())", "    \x7d", "\x7d"]) :=
    spaced_displayLines h.type (solid_literal rfl)
  have hown := ((spaced_typeLines h).append (.far (spaced_inherentLines h))).append (.far hshow)
  have hall := ((hown.append (.far (spaced_parseLines h))).append hbits).append hkeep
  simpa [enumLines] using hall

/-- What a file brings in front of its enum types stands behind a header. -/
theorem attached_preludeLines : Attached Solid preludeLines := by
  have huse : Spaced Solid ["use std::fmt;", "use std::str::FromStr;"] :=
    .next (solid_literal rfl) (.last (solid_literal rfl))
  have hstruct : Spaced Solid
      ["/// Returned when a string names no member of an enum type.",
        "#[derive(Debug, Clone, PartialEq, Eq)]", "pub struct " ++ errorType ++ " \x7b",
        "    pub type_name: &'static str,", "    pub value: String,", "\x7d"] := by
    refine .next (solid_literal rfl) (.next (solid_literal rfl) (.next ?head
      (.next (solid_literal rfl) (.next (solid_literal rfl) (.last (solid_literal rfl))))))
    case head =>
      simp only [String.append_assoc]
      exact .literal rfl (.literal rfl (solid_literal rfl))
  have hwrite : Solid
      "        write!(f, \"unknown \x7b\x7d: \x7b\x7d\", self.type_name, self.value)" :=
    solid_literal rfl
  have hshow := spaced_displayLines isWord_errorType hwrite
  have herror : Spaced Solid ["impl std::error::Error for " ++ errorType ++ " \x7b\x7d"] := by
    simp only [String.append_assoc]
    exact .last (.literal rfl (.literal rfl (solid_literal rfl)))
  have hall := Attached.far (((huse.append (.far hstruct)).append (.far hshow)).append
    (.far herror))
  simpa [preludeLines] using hall

end EnumBindings.Rust
