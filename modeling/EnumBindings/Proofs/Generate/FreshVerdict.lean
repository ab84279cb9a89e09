import EnumBindings.Proofs.Generate.CompletedRun
import EnumBindings.Proofs.Go.Decoding
import EnumBindings.Proofs.Rust.Decoding

/-!
# What a check can tell

A check compares texts. That is enough: in both languages a text tells what its enum types look
like, so an output that was made from one table is up to date for another one only if this table
has enum types that look alike.
-/

namespace EnumBindings.Generate

open EnumBindings.Files

/-- An output is up to date when its file holds the text that was asked for. -/
theorem state_of_settle_check {machine after : Machine} {output : Output} {held text : String}
    {report : OutputReport} (holds : machine.textAt output.path = .ok held)
    (h : outcome (settle true output text) machine = (.ok report, after)) :
    report.state = .fresh ↔ held = text := by
  obtain ⟨current, m, hread, rfl⟩ := reportOf_of_settle h
  rw [Machine.outcome_readIfExists, holds] at hread
  cases hread
  unfold reportOf stateOf
  by_cases hequal : held = text
  · simp [hequal]
  · simp [hequal]

/-- Texts of one style under one header are the same only for tables whose enum types look alike,
and with the Go style only for tables with the same enum types. A check finds the text of one
table up to date for the other exactly when these texts are the same. -/
theorem equal_texts_tell_enums {table table' : EnumTable} {style : Style} {header : Header}
    {artifact artifact' : Artifact} (accepted : table.generate style header = .ok artifact)
    (accepted' : table'.generate style header = .ok artifact') :
    (table.resolve = .ok artifact.enums ∧ table'.resolve = .ok artifact'.enums) ∧
    (artifact.text = artifact'.text →
      List.Forall₂ EnumType.Alike artifact.enums artifact'.enums ∧
        (style.language = .go → artifact.enums = artifact'.enums)) ∧
    ∀ (machine after : Machine) (output : Output) (report : OutputReport),
      machine.textAt output.path = .ok artifact.text →
      outcome (settle true output artifact'.text) machine = (.ok report, after) →
      (report.state = .fresh ↔ artifact.text = artifact'.text) := by
  have hresolve := ((EnumTable.generate_eq_ok_iff ..).mp accepted).1
  have hresolve' := ((EnumTable.generate_eq_ok_iff ..).mp accepted').1
  refine ⟨⟨hresolve, hresolve'⟩, ?_, ?_⟩
  · intro same
    cases style with
    | go package =>
        have hequal := Go.enums_eq_of_text_eq accepted accepted' same
        rw [hequal]
        exact ⟨List.forall₂_same.mpr fun e _ => .refl e, fun _ => rfl⟩
    | rust =>
        refine ⟨Rust.alike_of_text_eq accepted accepted' same, ?_⟩
        intro hlanguage
        cases hlanguage
  · intro machine after output report holds h
    exact state_of_settle_check holds h

end EnumBindings.Generate

/-! ## Two tables with one text -/

namespace EnumBindings.Alignment

/-- A bare name, numbered by its position. -/
def numbered : Definition := ⟨"Align", [.named "Auto"], false, false⟩

/-- Another symbolic name with the same rendered names, and the value written out. -/
def explicit : Definition := ⟨"Align", [.explicit "AUTO" 0], false, false⟩

/-- The artifact of a definition. -/
def artifact (d : Definition) : Artifact :=
  ⟨[d.enumType], Text.unlines (Style.rust.fileLines ⟨[]⟩ [d.enumType])⟩

theorem generate_numbered :
    (EnumTable.mk [numbered]).generate .rust ⟨[]⟩ = .ok (artifact numbered) :=
  EnumTable.generate_of_checks .rust (EnumTable.resolve_of_sorted (by decide) (by decide))
    (by decide +kernel) ⟨[]⟩

theorem generate_explicit :
    (EnumTable.mk [explicit]).generate .rust ⟨[]⟩ = .ok (artifact explicit) :=
  EnumTable.generate_of_checks .rust (EnumTable.resolve_of_sorted (by decide) (by decide))
    (by decide +kernel) ⟨[]⟩

theorem text_explicit : (artifact numbered).text = (artifact explicit).text := by
  have hlines : Style.rust.fileLines ⟨[]⟩ [numbered.enumType] =
      Style.rust.fileLines ⟨[]⟩ [explicit.enumType] := by decide +kernel
  exact congrArg Text.unlines hlines

/-- A machine whose only file was made from the first table. -/
def machine : Machine :=
  .boot ⟨[(["align.rs"], .file (artifact numbered).text.toUTF8)]⟩ [] "tmp"

def output : Output := ⟨.rust, ⟨"align.rs"⟩, none⟩

/-- The check does not tell these tables apart, and their enum types look alike. -/
theorem fresh_explicit :
    List.Forall₂ EnumType.Alike [numbered.enumType] [explicit.enumType] ∧
      numbered.enumType ≠ explicit.enumType ∧
      ∃ report after, Files.outcome (Generate.settle true output (artifact explicit).text)
          machine = (.ok report, after) ∧ report.state = .fresh := by
  obtain ⟨-, htell, hcheck⟩ :=
    Generate.equal_texts_tell_enums generate_numbered generate_explicit
  have hholds : machine.textAt output.path = .ok (artifact numbered).text := by
    rw [Machine.textAt_eq_ok_iff]
    rfl
  have hread : Files.outcome (Files.readIfExists output.path) machine =
      (.ok (some (artifact numbered).text), machine) := by
    rw [Machine.outcome_readIfExists, hholds]
  obtain ⟨after, hsettle, -⟩ : ∃ after, Files.outcome (Generate.settle true output
      (artifact explicit).text) machine = (.ok (Generate.reportOf true output
        (artifact explicit).text (some (artifact numbered).text)), after) ∧ Same machine after :=
    Generate.outcome_settle_of_read hread (.inl rfl)
  have hdiffer : numbered.enumType ≠ explicit.enumType := by
    intro h
    cases congrArg EnumType.positional h
  refine ⟨(htell text_explicit).1, hdiffer, _, after, hsettle, ?_⟩
  exact (hcheck machine after output _ hholds hsettle).mpr text_explicit

end EnumBindings.Alignment
