import EnumBindings.Proofs.Command.Record
import EnumBindings.Proofs.Lines

/-!
# What a failure is reported with

People read one line with everything that was being done and everything that went wrong, and under
it the explanation of the cause. What was being done has no part in the explanation
(`diagnostic?_eq`). Of its context only that is left out which the line says already, so a report
holds the whole chain and the whole explanation (`reports_lose_nothing`), and what lies below the
error of a table or a target is said once.
-/

namespace EnumBindings

open EnumBindings.Text

/-! ## Texts within a text -/

/-- A text holds a part. -/
def Holds (text part : String) : Prop := ∃ before behind, text = before ++ part ++ behind

/-- A text holds some parts, one behind the other. -/
def InOrder : List String → String → Prop
  | [], _ => True
  | part :: rest, text => ∃ before behind, text = before ++ part ++ behind ∧ InOrder rest behind

theorem holds_iff {text part : String} : Holds text part ↔ part.toList <:+: text.toList := by
  constructor
  · rintro ⟨before, behind, rfl⟩
    exact ⟨before.toList, behind.toList, by simp⟩
  · rintro ⟨before, behind, h⟩
    refine ⟨String.ofList before, String.ofList behind, String.toList_inj.mp ?_⟩
    simp [← h]

theorem Holds.trans {text line part : String} (h : Holds text line) (h' : Holds line part) :
    Holds text part :=
  holds_iff.mpr ((holds_iff.mp h').trans (holds_iff.mp h))

theorem holds_append_left {part line : String} (text : String) (h : Holds line part) :
    Holds (text ++ line) part :=
  Holds.trans ⟨text, "", by simp⟩ h

theorem holds_append_right {part line : String} (text : String) (h : Holds line part) :
    Holds (line ++ text) part :=
  Holds.trans ⟨"", text, by simp⟩ h

theorem holds_unlines {lines : List String} {line : String} (h : line ∈ lines) :
    Holds (unlines lines) (line ++ "\n") := by
  obtain ⟨before, behind, rfl⟩ := List.append_of_mem h
  refine ⟨unlines before, unlines behind, ?_⟩
  rw [unlines_append, unlines_cons, ← String.append_assoc]

namespace InOrder

variable {parts more : List String} {text text' : String}

theorem append_left (front : String) (h : InOrder parts text) : InOrder parts (front ++ text) := by
  cases parts with
  | nil => trivial
  | cons part rest =>
      obtain ⟨before, behind, rfl, hrest⟩ := h
      exact ⟨front ++ before, behind, by simp only [String.append_assoc], hrest⟩

theorem append (h : InOrder parts text) (h' : InOrder more text') :
    InOrder (parts ++ more) (text ++ text') := by
  induction parts generalizing text with
  | nil => exact h'.append_left text
  | cons part rest ih =>
      obtain ⟨before, behind, rfl, hrest⟩ := h
      exact ⟨before, behind ++ text', by simp only [String.append_assoc], ih hrest⟩

theorem append_right (behind : String) (h : InOrder parts text) :
    InOrder parts (text ++ behind) := by
  have hnone : InOrder [] behind := trivial
  simpa using h.append hnone

theorem single (h : Holds text text') : InOrder [text'] text := by
  obtain ⟨before, behind, rfl⟩ := h
  exact ⟨before, behind, rfl, trivial⟩

theorem holds_of_mem {part : String} (h : InOrder parts text) (hpart : part ∈ parts) :
    Holds text part := by
  induction parts generalizing text with
  | nil => cases hpart
  | cons first rest ih =>
      obtain ⟨before, behind, rfl, hrest⟩ := h
      rcases List.mem_cons.mp hpart with rfl | hpart
      · exact ⟨before, behind, rfl⟩
      · exact holds_append_left _ (ih hrest hpart)

/-- Texts that are joined stand in the joined text in their order. -/
theorem intercalate (separator : String) (parts : List String) :
    InOrder parts (separator.intercalate parts) := by
  induction parts with
  | nil => trivial
  | cons part rest ih =>
      cases rest with
      | nil => exact ⟨"", "", by simp, trivial⟩
      | cons next others =>
          rw [String.intercalate_cons_cons]
          refine ⟨"", separator ++ separator.intercalate (next :: others), by
            simp [String.append_assoc], ih.append_left separator⟩

end InOrder

/-! ## Explanations -/

/-- The errors that come with an explanation. -/
def Cause.IsExplained : Cause → Prop
  | generate _ | table _ | platform _ => True
  | document _ | disk _ | complaint _ => False

/-- A failure is explained as its cause is: neither what was being done nor what lies below the
cause has an explanation of its own. -/
theorem Failure.diagnostic?_eq (failure : Failure) :
    failure.diagnostic? = failure.cause.diagnostic? := by
  have houter : (failure.contexts.map Link.context).findSome? Link.diagnostic? = none := by
    simp [List.findSome?_eq_none_iff, Link.diagnostic?]
  have hbelow : (failure.cause.causes.map Link.below).findSome? Link.diagnostic? = none := by
    simp [List.findSome?_eq_none_iff, Link.diagnostic?]
  have hcause : (Link.cause failure.cause).diagnostic? = failure.cause.diagnostic? := rfl
  rw [diagnostic?, links, List.findSome?_append, houter, Option.none_or, List.findSome?_cons,
    hcause, hbelow]
  cases failure.cause.diagnostic? <;> rfl

theorem Cause.exists_diagnostic? {cause : Cause} (h : cause.IsExplained) :
    ∃ d, cause.diagnostic? = some d := by
  cases cause with
  | generate error => exact ⟨_, rfl⟩
  | table error => cases error <;> exact ⟨_, rfl⟩
  | platform error => exact ⟨_, rfl⟩
  | document | disk | complaint => exact h.elim

theorem Cause.diagnostic?_eq_none {cause : Cause} (h : ¬cause.IsExplained) :
    cause.diagnostic? = none := by
  cases cause with
  | generate | table | platform => exact absurd trivial h
  | document | disk | complaint => rfl

/-- A table or a target is explained by what lies below its error. -/
theorem Cause.context_subset {cause : Cause} {d : Diagnostic}
    (h : (∃ error, cause = .table error) ∨ ∃ error, cause = .platform error)
    (explained : cause.diagnostic? = some d) : ∀ text ∈ d.context, text ∈ cause.causes := by
  rcases h with ⟨error, rfl⟩ | ⟨error, rfl⟩
  · cases error <;> (cases explained; exact fun _ htext => htext)
  · cases explained
    exact fun _ htext => htext

/-- Every text of a failure stands in its line. -/
theorem Failure.holds_line {failure : Failure} {text : String} (h : text ∈ failure.chain) :
    Holds failure.line text :=
  (InOrder.intercalate ": " failure.chain).holds_of_mem h

namespace Diagnostic

/-- The lines of advice under an explanation. -/
def advice (suggestions : List String) (color : Bool) : List String :=
  if suggestions.isEmpty then []
  else ["", painted color "1;32" "help" ++ ": consider:"] ++ suggestionLines 1 suggestions

theorem text_eq (d : Diagnostic) (color : Bool) :
    d.text color = painted color "1;31" "error" ++ ": " ++ d.message ++ "\n"
      ++ unlines (d.location.toList.map fun p => "  --> " ++ p.shown)
      ++ unlines (d.context.map ("  -> " ++ ·)) ++ unlines (advice d.suggestions color) := by
  rw [text, lines, unlines_append, unlines_append, unlines_append, unlines_cons, unlines_nil,
    String.append_empty]
  rfl

theorem inOrder_suggestionLines (n : Nat) (suggestions : List String) :
    InOrder suggestions (unlines (suggestionLines n suggestions)) := by
  induction suggestions generalizing n with
  | nil => trivial
  | cons suggestion rest ih =>
      rw [suggestionLines, unlines_cons]
      exact ⟨"  " ++ toString n ++ ". ", "\n" ++ unlines (suggestionLines (n + 1) rest),
        by simp only [String.append_assoc], (ih (n + 1)).append_left "\n"⟩

theorem inOrder_advice (suggestions : List String) (color : Bool) :
    InOrder suggestions (unlines (advice suggestions color)) := by
  unfold advice
  split
  · rename_i hnone
    rw [List.isEmpty_iff.mp hnone]
    trivial
  · rw [unlines_append]
    exact (inOrder_suggestionLines 1 suggestions).append_left _

theorem inOrder_location (location : Option Path) :
    InOrder (location.toList.map Path.shown)
      (unlines (location.toList.map fun p => "  --> " ++ p.shown)) := by
  cases location with
  | none => trivial
  | some p => exact ⟨"  --> ", "\n", by simp [unlines_cons], trivial⟩

end Diagnostic

namespace Command

open Recorded (record)

/-! ## Reports -/

theorem occursIn_iff (part text : List Char) : occursIn part text = true ↔ part <:+: text := by
  induction text with
  | nil => simp [occursIn]
  | cons c rest ih =>
      rw [occursIn, Bool.or_eq_true, ih, List.infix_cons_iff, List.isPrefixOf_iff_prefix]

/-- The first line of a report. -/
def headline (console : Console) (failure : Failure) : String :=
  Diagnostic.painted console.color "1;31" "error" ++ ": " ++ failure.line

/-- The context that the first line does not hold. -/
def unsaid (failure : Failure) (d : Diagnostic) : List String :=
  d.context.filter fun text => !occursIn text.toList failure.line.toList

theorem mem_unsaid_iff {failure : Failure} {d : Diagnostic} {text : String} :
    text ∈ unsaid failure d ↔ text ∈ d.context ∧ ¬Holds failure.line text := by
  rw [unsaid, List.mem_filter, Bool.not_eq_true', ← Bool.not_eq_true, occursIn_iff, holds_iff]

/-- A report holds a chain and, behind it, the location and the suggestions of an explanation, all
in order, and every line of its context. -/
structure Complete (chain : List String) (d : Diagnostic) (report : String) : Prop where
  told : InOrder (chain ++ d.location.toList.map Path.shown ++ d.suggestions) report
  context : ∀ text ∈ d.context, Holds report text

section Explained

variable {console : Console} {failure : Failure} {d : Diagnostic} (human : console.json = false)
  (explained : failure.diagnostic? = some d)

include human explained

theorem failureText_eq :
    failureText console failure = headline console failure ++ "\n"
      ++ unlines (d.location.toList.map fun p => "  --> " ++ p.shown)
      ++ unlines ((unsaid failure d).map ("  -> " ++ ·))
      ++ unlines (Diagnostic.advice d.suggestions console.color) := by
  rw [failureText, human, if_neg Bool.false_ne_true, explanation?, explained, Option.map_some]
  exact Diagnostic.text_eq _ console.color

/-- A report holds the chain and the whole explanation. -/
theorem complete_failureText : Complete failure.chain d (failureText console failure) := by
  rw [failureText_eq human explained]
  refine ⟨?_, ?_⟩
  · have hchain : InOrder failure.chain (headline console failure ++ "\n") :=
      ((InOrder.intercalate ": " failure.chain).append_left _).append_right "\n"
    have hlocated := hchain.append (Diagnostic.inOrder_location d.location)
    exact (hlocated.append_right _).append (Diagnostic.inOrder_advice d.suggestions console.color)
  · intro text htext
    apply holds_append_right
    by_cases hline : Holds failure.line text
    · -- the first line says it already
      apply holds_append_right
      apply holds_append_right
      apply holds_append_right
      exact holds_append_left _ hline
    · apply holds_append_left
      have hrow : "  -> " ++ text ∈ (unsaid failure d).map ("  -> " ++ ·) :=
        List.mem_map_of_mem (mem_unsaid_iff.mpr ⟨htext, hline⟩)
      exact (holds_unlines hrow).trans ⟨"  -> ", "\n", rfl⟩

/-- Where all context stands in the chain, nothing but the location and the advice is added to the
first line. -/
theorem failureText_of_subset (said : ∀ text ∈ d.context, text ∈ failure.chain) :
    failureText console failure = headline console failure ++ "\n"
      ++ unlines (d.location.toList.map fun p => "  --> " ++ p.shown)
      ++ unlines (Diagnostic.advice d.suggestions console.color) := by
  have hnone : unsaid failure d = [] := by
    refine List.eq_nil_iff_forall_not_mem.mpr fun text htext => ?_
    obtain ⟨hcontext, hunsaid⟩ := mem_unsaid_iff.mp htext
    exact hunsaid (Failure.holds_line (said text hcontext))
  rw [failureText_eq human explained, hnone, List.map_nil, unlines_nil, String.append_empty]

end Explained

theorem failureText_of_not_explained {console : Console} {failure : Failure}
    (human : console.json = false) (h : failure.diagnostic? = none) :
    failureText console failure = "error: " ++ failure.line ++ "\n" := by
  rw [failureText, human, if_neg Bool.false_ne_true, explanation?, h, Option.map_none]

/-- No line of the advice on a table or a target looks like the line of a cause. -/
theorem no_cause_in_advice {cause : Cause} {d : Diagnostic}
    (h : (∃ error, cause = .table error) ∨ ∃ error, cause = .platform error)
    (explained : cause.diagnostic? = some d) (color : Bool) :
    ∀ line ∈ linesOf (unlines (Diagnostic.advice d.suggestions color)),
      ¬"  -> ".toList <+: line.toList := by
  have hsuggestions : d.suggestions = [] ∨
      d.suggestions = ["members are either \"Name\" or [\"Name\", value]"] ∨
      d.suggestions = ["supported platforms: darwin, linux, windows"] := by
    rcases h with ⟨error, rfl⟩ | ⟨error, rfl⟩
    · cases error <;> cases explained <;> simp [TableError.diagnostic, Diagnostic.ofCauses,
        TableError.help]
    · cases error <;> cases explained <;> simp [PlatformError.diagnostic, Diagnostic.ofCauses,
        PlatformError.help]
  rcases hsuggestions with h | h | h <;> rw [h] <;> cases color <;> decide +kernel

section Terminals

variable {σ : Type} [Recorded σ] [Disk (StateM σ)] [Terminal (StateM σ)] [LawfulTerminal σ]

/-- People read about a failure on standard error only. -/
theorem record_reportFailure {console : Console} (human : console.json = false)
    (failure : Failure) (s : σ) :
    record (StateT.run (m := Id) (reportFailure console failure) s).2 =
      { record s with stderr := (record s).stderr ++ failureText console failure } := by
  have hevent : console.errorEventText failure.line = "" := by
    rw [Console.errorEventText, Console.eventText, human, if_neg Bool.false_ne_true]
  have hprint := LawfulTerminal.print (console.errorEventText failure.line) s
  generalize hm : (StateT.run (m := Id) (Terminal.print
    (console.errorEventText failure.line)) s).2 = m at hprint
  rw [hevent, String.append_empty] at hprint
  have hstate : (StateT.run (m := Id) (reportFailure console failure) s).2 =
      (StateT.run (m := Id) (Terminal.printError (failureText console failure)) m).2 := by
    rw [← hm]
    rfl
  rw [hstate, LawfulTerminal.printError, hprint]

/-- What people read about a failure. Whatever was being done, an error of the library is explained
as it is by itself, and the report holds all texts of the chain in order, with the location and the
suggestions behind them, and every line of context. Where the table or the target is at fault,
no line of a cause is added to the chain. Other errors are reported by their chain alone. -/
theorem reports_lose_nothing (console : Console) (human : console.json = false)
    (contexts : List String) (cause : Cause) (s : σ) :
    ∃ report,
      record (StateT.run (m := Id) (reportFailure console ⟨contexts, cause⟩) s).2 =
        { record s with stderr := (record s).stderr ++ report } ∧
      (cause.IsExplained → ∃ d,
        (Failure.of cause).diagnostic? = some d ∧
        Failure.diagnostic? ⟨contexts, cause⟩ = some d ∧
        Complete (contexts ++ cause.texts) d report ∧
        ((∃ error, cause = .table error) ∨ (∃ error, cause = .platform error) →
          ∃ advice, report = Diagnostic.painted console.color "1;31" "error" ++ ": "
              ++ ": ".intercalate (contexts ++ cause.texts) ++ "\n"
              ++ unlines (d.location.toList.map fun p => "  --> " ++ p.shown) ++ advice ∧
            ∀ line ∈ linesOf advice, ¬"  -> ".toList <+: line.toList)) ∧
      (¬cause.IsExplained → Failure.diagnostic? ⟨contexts, cause⟩ = none ∧
        report = "error: " ++ ": ".intercalate (contexts ++ cause.texts) ++ "\n") := by
  have hchain := Failure.chain_eq ⟨contexts, cause⟩
  refine ⟨_, record_reportFailure human _ s, ?_, ?_⟩
  · intro hexplained
    obtain ⟨d, hd⟩ := Cause.exists_diagnostic? hexplained
    have hwhole : Failure.diagnostic? ⟨contexts, cause⟩ = some d := by
      rw [Failure.diagnostic?_eq, hd]
    have hcomplete := complete_failureText human hwhole
    rw [hchain] at hcomplete
    refine ⟨d, ?_, hwhole, hcomplete, ?_⟩
    · rw [Failure.diagnostic?_eq]
      exact hd
    · intro hkind
      refine ⟨_, ?_, no_cause_in_advice hkind hd console.color⟩
      have hsaid : ∀ text ∈ d.context, text ∈ Failure.chain ⟨contexts, cause⟩ := by
        intro text htext
        rw [hchain]
        apply List.mem_append_right
        exact List.mem_cons_of_mem _ (Cause.context_subset hkind hd text htext)
      rw [failureText_of_subset human hwhole hsaid, headline, Failure.line, hchain]
  · intro hplain
    have hnone : Failure.diagnostic? ⟨contexts, cause⟩ = none := by
      rw [Failure.diagnostic?_eq]
      exact Cause.diagnostic?_eq_none hplain
    refine ⟨hnone, ?_⟩
    rw [failureText_of_not_explained human hnone, Failure.line, hchain]

end Terminals

/-! ## A table that cannot be read -/

namespace Panel

/-- Nothing but a terminal. -/
def bare : Machine := .boot .empty [] ".tmp"

/-- Met while an output was being made, and told in color. -/
theorem reports_lose_nothing_unread : ∃ report d,
    record (StateT.run (m := Id) (reportFailure ⟨false, true, true⟩
      ⟨["failed to generate edge.go"], .table (.read ⟨"edge.toml"⟩ .notFound)⟩) bare).2 =
        ⟨"", report, .off⟩ ∧
    Complete ["failed to generate edge.go", "failed to read enum table `edge.toml`",
      "No such file or directory (os error 2)"] d report ∧ d.location = some ⟨"edge.toml"⟩ := by
  obtain ⟨report, hrecord, hexplained, -⟩ := reports_lose_nothing ⟨false, true, true⟩ rfl
    ["failed to generate edge.go"] (.table (.read ⟨"edge.toml"⟩ .notFound)) bare
  obtain ⟨d, hd, -, hcomplete, -⟩ := hexplained trivial
  cases hd
  refine ⟨report, _, hrecord.trans ?_, hcomplete, rfl⟩
  simp [record, bare, Machine.boot]

end Panel

end Command

end EnumBindings
