import EnumBindings.Proofs.Command.Record
import EnumBindings.Proofs.Generate.Quiet
import EnumBindings.Proofs.Json
import EnumBindings.Proofs.Lines
import EnumBindings.Proofs.Utf8

/-!
# Events

What tools hear of a run that makes outputs. It is an event for each output in order, or none, and
then one that tells how the run ended; every event is an object on a line of its own, and nothing
else is written but the log. That holds of a run exactly if the paths are text of which it tells.
Where one is not, the run breaks off in the middle (`events_kept_iff`).
-/

namespace EnumBindings.Command

open EnumBindings.Files
open EnumBindings.Text (unlines unlines_append)
open Recorded (record)

/-! ## Single events -/

/-- What tools are told. -/
inductive Event where
  | output (report : OutputReport)
  | finished (report : GenerateReport)
  | error (message : String)

namespace Event

def json : Event → Json
  | output report => outputEvent report report.path.shown
  | finished report => finishedEvent report
  | error message => Console.errorEvent message

/-- The line of an event. -/
def line (event : Event) : String := event.json.sorted.compact

/-- What an event is about. -/
def reason : Event → String
  | output _ => "output"
  | finished _ => "generate-finished"
  | error _ => "error"

/-- The entries of an event, sorted by key. -/
def entries : Event → List (String × Json)
  | output report =>
    [("checksum", .string report.checksum),
     ("language", .string report.language.name),
     ("path", .string report.path.shown),
     ("reason", .string "output"),
     ("state", .string report.state.name)]
  | finished report =>
    [("enums", .number report.enums),
     ("outputs", .number report.outputs.length),
     ("reason", .string "generate-finished")]
  | error message => [("message", .string message), ("reason", .string "error")]

theorem sorted_json (event : Event) : event.json.sorted = .object event.entries := by
  cases event <;>
    simp [json, entries, outputEvent, finishedEvent, Console.errorEvent, Json.sorted,
      Json.sortedEntries, List.mergeSort, List.MergeSort.Internal.splitInTwo]

theorem plain_of_mem_entries (event : Event) : ∀ entry ∈ event.entries, entry.2.Plain := by
  cases event with
  | output report =>
      simp only [entries, List.forall_mem_cons]
      exact ⟨.string _, .string _, .string _, .string _, .string _, List.forall_mem_nil _⟩
  | finished report =>
      simp only [entries, List.forall_mem_cons]
      exact ⟨.number _, .number _, .string _, List.forall_mem_nil _⟩
  | error message =>
      simp only [entries, List.forall_mem_cons]
      exact ⟨.string _, .string _, List.forall_mem_nil _⟩

/-- An event is written on one line. -/
theorem newline_not_mem_line (event : Event) : '\n' ∉ event.line.toList := by
  rw [line, sorted_json]
  exact Json.newline_not_mem_compact event.plain_of_mem_entries

/-- The line of an event reads as one object with the entries of the event. -/
theorem readObject?_line (event : Event) : Json.readObject? event.line = some event.entries := by
  rw [line, sorted_json]
  exact Json.readObject?_compact event.plain_of_mem_entries

/-- Every event says what it is about. -/
theorem lookup_reason (event : Event) :
    event.entries.lookup "reason" = some (.string event.reason) := by
  cases event <;> rfl

end Event

/-! ## Reports that are told -/

/-- The events of some reports. -/
def outputLines (reports : List OutputReport) : List String :=
  reports.map fun report => (Event.output report).line

/-- Some reports are told, and the path of the next one is no text. -/
def BreaksAt (reports told : List OutputReport) : Prop :=
  ∃ r rest, reports = told ++ r :: rest ∧ (∀ t ∈ told, t.path.IsText) ∧ ¬r.path.IsText

theorem BreaksAt.exists_not_isText {reports told : List OutputReport} (h : BreaksAt reports told) :
    ∃ r ∈ reports, ¬r.path.IsText := by
  obtain ⟨r, rest, rfl, -, hr⟩ := h
  exact ⟨r, List.mem_append_cons_self, hr⟩

/-- Before the first report nothing is told. -/
theorem BreaksAt.eq_nil {report : OutputReport} {told : List OutputReport}
    (h : BreaksAt [report] told) : told = [] := by
  obtain ⟨r, rest, heq, -, -⟩ := h
  cases told with
  | nil => rfl
  | cons t others => simp at heq

theorem outputEvent?_of_isText {o : OutputReport} (h : o.path.IsText) :
    outputEvent? o = some (Event.output o).json := by
  rw [outputEvent?, h.text?_eq]
  rfl

/-- How a run ends that made its outputs, and which lines tell of it. -/
inductive Conclusion (made : GenerateReport) : Except Failure Ending → List String → Prop where
  | brokenOff {told : List OutputReport} (breaks : BreaksAt made.outputs told) :
    Conclusion made (.ok .brokenOff) (outputLines told)
  | stale (failure : Failure) (texts : ∀ r ∈ made.outputs, r.path.IsText)
    (fresh : made.isFresh = false) : Conclusion made (.error failure) (outputLines made.outputs)
  | finished (texts : ∀ r ∈ made.outputs, r.path.IsText) (fresh : made.isFresh = true) :
    Conclusion made (.ok .done) (outputLines made.outputs ++ [(Event.finished made).line])

/-! ## What is relied on -/

/-- The last event of a run that fails. -/
def lastLines : Except Failure Ending → List String
  | .ok _ => []
  | .error failure => [(Event.error failure.line).line]

/-- What a run leaves on standard error at its end. -/
def lastText : Except Failure Ending → String
  | .ok .brokenOff => brokenOffText
  | .ok .done | .error _ => ""

/-- What tools hear of a run: the outputs in order, or none of them, and how it ended. -/
structure Transcript (check : Bool) (configured : List Output → Prop) (code : UInt32)
    (reports : List OutputReport) (last : Event) : Prop where
  told : reports = [] ∨ ∃ outputs, configured outputs ∧
    reports.map Generate.subjectOf = outputs.map fun o => (o.language, o.path)
  ends : code = 0 ∨ code = 1
  finished : last.reason = "generate-finished" ↔ code = 0
  failed : last.reason = "error" ↔ code = 1
  stale : reports ≠ [] → (last.reason = "error" ↔ ∃ r ∈ reports, r.state = .stale)
  checked : (∃ r ∈ reports, r.state = .stale) → check = true

/-- Some lines on standard output, and the log and some text behind it on standard error. -/
def Wrote (style : LogStyle) (lines : List String) (text : String) (before after : Record) :
    Prop :=
  after.stdout = before.stdout ++ unlines lines ∧
    ∃ notes, after.stderr = before.stderr ++ style.text notes ++ text

/-- What tools rely on. Standard output got the events of a transcript, each as one object on a line
of its own, and standard error nothing but the log. -/
def Kept (style : LogStyle) (check : Bool) (configured : List Output → Prop) (code : UInt32)
    (before after : Record) : Prop :=
  ∃ reports last, Transcript check configured code reports last ∧
    Wrote style ((reports.map Event.output ++ [last]).map Event.line) "" before after ∧
    ∀ event ∈ reports.map Event.output ++ [last],
      '\n' ∉ event.line.toList ∧ Json.readObject? event.line = some event.entries ∧
        event.entries.lookup "reason" = some (.string event.reason)

section Keeping

variable {style : LogStyle} {check : Bool} {configured : List Output → Prop} {code : UInt32}
  {before after : Record}

theorem Kept.of_transcript {reports : List OutputReport} {last : Event}
    (htranscript : Transcript check configured code reports last)
    (hwrote : Wrote style ((reports.map Event.output ++ [last]).map Event.line) "" before after) :
    Kept style check configured code before after :=
  ⟨reports, last, htranscript, hwrote,
    fun event _ => ⟨event.newline_not_mem_line, event.readObject?_line, event.lookup_reason⟩⟩

/-- A run that breaks off does not end as tools rely on. -/
theorem not_kept_of_brokenOff :
    ¬Kept style check configured (exitCode (.ok .brokenOff)) before after := by
  rintro ⟨reports, last, htranscript, -⟩
  rcases htranscript.ends with hcode | hcode <;> cases hcode

/-- A failure is told alone where nothing was made. -/
theorem transcript_of_failure (message : String) :
    Transcript check configured 1 [] (.error message) where
  told := .inl rfl
  ends := .inr rfl
  finished := by simp [Event.reason]
  failed := by simp [Event.reason]
  stale := fun hsome => absurd rfl hsome
  checked := by simp

theorem isFresh_eq_false_iff (report : GenerateReport) :
    report.isFresh = false ↔ ∃ r ∈ report.outputs, r.state = .stale := by
  simp [GenerateReport.isFresh, GenerateReport.stale]

/-- A run that made its outputs tells of all of them and how it ended, if their paths are text. -/
theorem transcript_of_conclusion {made : GenerateReport} {result : Except Failure Ending}
    {lines : List String} (hconclusion : Conclusion made result lines)
    (htexts : ∀ r ∈ made.outputs, r.path.IsText)
    (hcheck : ∀ r ∈ made.outputs, r.state = .stale → check = true)
    (htold : ∃ outputs, configured outputs ∧
      made.outputs.map Generate.subjectOf = outputs.map fun o => (o.language, o.path)) :
    ∃ last, Transcript check configured (exitCode result) made.outputs last ∧
      lines ++ lastLines result = (made.outputs.map Event.output ++ [last]).map Event.line ∧
      lastText result = "" := by
  cases hconclusion with
  | brokenOff hbreaks =>
      obtain ⟨r, hmem, hr⟩ := hbreaks.exists_not_isText
      exact absurd (htexts r hmem) hr
  | stale failure _ hfresh =>
      have hstale := (isFresh_eq_false_iff made).mp hfresh
      refine ⟨.error failure.line, ?_, ?_, rfl⟩
      · exact {
          told := .inr htold
          ends := .inr rfl
          finished := by simp [Event.reason, exitCode]
          failed := by simp [Event.reason, exitCode]
          stale := fun _ => iff_of_true rfl hstale
          checked := fun ⟨r, hr, hstate⟩ => hcheck r hr hstate }
      · rw [List.map_append, List.map_map]
        rfl
  | finished _ hfresh =>
      have hnone : ¬∃ r ∈ made.outputs, r.state = .stale := by
        rw [← isFresh_eq_false_iff, hfresh]
        exact Bool.noConfusion
      refine ⟨.finished made, ?_, ?_, rfl⟩
      · exact {
          told := .inr htold
          ends := .inl rfl
          finished := by simp [Event.reason, exitCode]
          failed := by simp [Event.reason, exitCode]
          stale := fun _ => iff_of_false (by simp [Event.reason]) hnone
          checked := fun hstale => absurd hstale hnone }
      · rw [lastLines, List.append_nil, List.map_append, List.map_map]
        rfl

end Keeping

/-! ## What is configured -/

section Configured

variable {m : Type → Type} [Monad m] [Disk m] [Terminal m]

/-- A command begins when the log is set up. -/
def begin (environment : Environment) (call : Invocation) : m Bool := do
  Terminal.startLog (logStyle environment call.verbose)
  Terminal.isInteractive

/-- What is looked up before outputs are made. -/
def lookUp (config : Option Path) : Task m Project := do
  let _ ← liftM (Terminal.now : m Nat)
  let _ ← Project.currentDirectory
  Project.choose config

/-- What is done before anything is told. -/
def make (console : Console) (config table : Option Path) (output : Option (Language × Path))
    (package : Option String) (check : Bool) : Task m GenerateReport := do
  let _ ← liftM (Terminal.now : m Nat)
  let made ← makeOutputs console config table output package check
  return made.2

end Configured

/-! ## Telling -/

section Telling

variable {σ : Type} [Recorded σ] [Disk (StateM σ)] [Terminal (StateM σ)] [LawfulTerminal σ]
  {console : Console} (json : console.json = true)

omit json in
theorem outcome_now (s : σ) : ∃ moment s',
    outcome (liftM (Terminal.now : StateM σ Nat)) s = (.ok moment, s') ∧ Noted s s' :=
  ⟨_, _, outcome_lift _, noted_of_record_eq (LawfulTerminal.now s)⟩

include json

omit [Disk (StateM σ)] [LawfulTerminal σ] [Terminal (StateM σ)] [Recorded σ] in
theorem eventText_json (event : Event) : console.eventText event.json = unlines [event.line] := by
  rw [Console.eventText, if_pos json, Text.unlines_cons, Text.unlines_nil, String.append_empty]
  rfl

theorem said_print (event : Event) (s : σ) : Said (unlines [event.line]) s
    (StateT.run (m := Id) (Terminal.print (console.eventText event.json)) s).2 := by
  refine ⟨[], ?_⟩
  rw [LawfulTerminal.print, eventText_json json, LogStyle.text, List.map_nil, String.join_nil,
    String.append_empty]

theorem outcome_announce (event : Event) (s : σ) :
    ∃ s', outcome (announce console event.json) s = (.ok (), s') ∧
      Said (unlines [event.line]) s s' :=
  ⟨_, outcome_lift _, said_print json event s⟩

/-- No status line is written beside events. -/
theorem outcome_report (status : Status) (message : String) (s : σ) :
    ∃ s', outcome (report console status message) s = (.ok (), s') ∧ Noted s s' := by
  refine ⟨_, outcome_lift _, noted_of_record_eq ?_⟩
  rw [LawfulTerminal.printError, Console.statusText, json, Bool.true_or, if_pos rfl,
    String.append_empty]

omit [Recorded σ] [Disk (StateM σ)] [LawfulTerminal σ] json in
/-- Of an output whose path is no text nothing is told. -/
theorem outcome_tell_of_not_isText {o : OutputReport} (h : ¬o.path.IsText) (here : Path) (s : σ) :
    outcome (tell console here o) s = (.ok .brokenOff, s) := by
  have hevent : outputEvent? o = none := by
    rw [outputEvent?, Path.text?_eq_none_iff.mpr h]
    rfl
  rw [tell, hevent]
  rfl

theorem outcome_tell_of_isText {o : OutputReport} (h : o.path.IsText) (here : Path) (s : σ) :
    ∃ s', outcome (tell console here o) s = (.ok .done, s') ∧
      Said (unlines [(Event.output o).line]) s s' := by
  obtain ⟨m₁, hannounce, hsaid⟩ := outcome_announce json (.output o) s
  obtain ⟨m₂, hreport, hnoted⟩ := outcome_report json (statusOf o.state)
    ((o.path.relativeTo here).shown ++ " (" ++ o.language.name ++ ", " ++ Sha256.short o.checksum
      ++ ")") m₁
  refine ⟨m₂, ?_, ?_⟩
  · rw [tell, outputEvent?_of_isText h]
    exact (outcome_bind_of_ok hannounce).trans (outcome_bind_of_ok hreport)
  · have hall := hsaid.trans hnoted
    rwa [String.append_empty] at hall

/-- Reports are told in order, up to the first of which nothing can be told. -/
theorem outcome_tellAll (here : Path) (reports : List OutputReport) (s : σ) : ∃ s',
    ((∀ r ∈ reports, r.path.IsText) ∧ outcome (tellAll console here reports) s = (.ok .done, s') ∧
        Said (unlines (outputLines reports)) s s') ∨
      ∃ told, BreaksAt reports told ∧
        outcome (tellAll console here reports) s = (.ok .brokenOff, s') ∧
        Said (unlines (outputLines told)) s s' := by
  induction reports generalizing s with
  | nil => exact ⟨s, .inl ⟨List.forall_mem_nil _, rfl, noted_of_record_eq rfl⟩⟩
  | cons o rest ih =>
      by_cases htext : o.path.IsText
      · -- the first report is told, and the rest is told or breaks off from there
        obtain ⟨m, htell, hsaid⟩ := outcome_tell_of_isText json htext here s
        have hstep : outcome (tellAll console here (o :: rest)) s =
            outcome (tellAll console here rest) m := by
          rw [tellAll, outcome_bind_of_ok htell]
        rw [hstep]
        obtain ⟨s', ⟨hall, hrest, hothers⟩ | ⟨told, hbreaks, hrest, hothers⟩⟩ := ih m
        · refine ⟨s', .inl ⟨List.forall_mem_cons.mpr ⟨htext, hall⟩, hrest, ?_⟩⟩
          have hboth := hsaid.trans hothers
          rwa [← unlines_append] at hboth
        · refine ⟨s', .inr ⟨o :: told, ?_, hrest, ?_⟩⟩
          · obtain ⟨r, behind, rfl, htold, hr⟩ := hbreaks
            exact ⟨r, behind, rfl, List.forall_mem_cons.mpr ⟨htext, htold⟩, hr⟩
          · have hboth := hsaid.trans hothers
            rwa [← unlines_append] at hboth
      · refine ⟨s, .inr ⟨[], ⟨o, rest, rfl, List.forall_mem_nil _, htext⟩, ?_, ?_⟩⟩
        · rw [tellAll, outcome_bind_of_ok (outcome_tell_of_not_isText htext here s)]
          rfl
        · exact noted_of_record_eq rfl

end Telling

/-! ## Concluding -/

section Concluding

variable {σ : Type} [Recorded σ] [Disk (StateM σ)] [Terminal (StateM σ)] [LawfulTerminal σ]
  {console : Console}

theorem outcome_conclude (json : console.json = true) {start : Nat} {here : Path}
    {made : GenerateReport} {result : Except Failure Ending} {s s' : σ}
    (h : outcome (conclude console start here made) s = (result, s')) :
    ∃ lines, Conclusion made result lines ∧ Said (unlines lines) s s' := by
  unfold conclude at h
  obtain ⟨m₁, ⟨htexts, htell, hsaid⟩ | ⟨told, hbreaks, htell, hsaid⟩⟩ :=
    outcome_tellAll json here made.outputs s
  · rw [outcome_bind_of_ok htell, if_neg (by decide)] at h
    cases hfresh : made.isFresh with
    | false =>
        simp only [hfresh, Bool.not_false, if_true] at h
        rw [outcome_bind_of_error outcome_throw] at h
        cases h
        exact ⟨_, .stale _ htexts hfresh, hsaid⟩
    | true =>
        simp only [hfresh, Bool.not_true, Bool.false_eq_true, if_false] at h
        obtain ⟨m₂, hannounce, hevent⟩ := outcome_announce json (.finished made) m₁
        obtain ⟨stop, m₃, hnow, hnoted₃⟩ := outcome_now m₂
        obtain ⟨m₄, hreport, hnoted₄⟩ := outcome_report json .finished
          (toString made.enums ++ " enum types into " ++ toString made.outputs.length
            ++ " file(s) in " ++ (between start stop).text) m₃
        dsimp only [Event.json] at hannounce
        rw [outcome_bind_of_ok hannounce, outcome_bind_of_ok hnow, outcome_bind_of_ok hreport] at h
        cases h
        refine ⟨_, .finished htexts hfresh, ?_⟩
        have hall := ((hsaid.trans hevent).trans hnoted₃).trans hnoted₄
        rwa [String.append_empty, String.append_empty, ← unlines_append] at hall
  · rw [outcome_bind_of_ok htell, if_pos rfl] at h
    cases h
    exact ⟨_, .brokenOff hbreaks, hsaid⟩

end Concluding

/-! ## Making outputs -/

section Making

variable {σ : Type} [Recorded σ] [Disk (StateM σ)] [Terminal (StateM σ)] [LawfulTerminal σ]
  {console : Console} {config table : Option Path} {output : Option (Language × Path)}
  {package : Option String} {check : Bool} {s s' : σ}

/-- The outputs that settings and arguments ask for, where the settings can be read. -/
def Configured (config table : Option Path) (output : Option (Language × Path))
    (package : Option String) (check : Bool) (s : σ) (outputs : List Output) : Prop :=
  ∃ project m, outcome (lookUp config) s = (.ok project, m) ∧
    outputs = (optionsOf project.config table output package check).outputs

/-- Where outputs are made nothing is told yet. The reports are about the configured outputs in
order, and only a check finds any of them stale. -/
theorem outcome_makeOutputs (json : console.json = true)
    {result : Except Failure (Path × GenerateReport)}
    (h : outcome (makeOutputs console config table output package check) s = (result, s')) :
    Noted s s' ∧ ∀ here made, result = .ok (here, made) →
      (∀ r ∈ made.outputs, r.state = .stale → check = true) ∧
      ∃ project m₁ m₂, outcome Project.currentDirectory s = (.ok here, m₁) ∧
        outcome (Project.choose config) m₁ = (.ok project, m₂) ∧
        made.outputs.map Generate.subjectOf =
          (optionsOf project.config table output package check).outputs.map
            fun o => (o.language, o.path) := by
  unfold makeOutputs at h
  rcases outcome_bind_cases h with ⟨failure, rfl, hhere⟩ | ⟨here, m₁, hhere, h⟩
  · exact ⟨relates_of_leads works_noted.leads_currentDirectory hhere, nofun⟩
  have hnoted₁ := relates_of_leads works_noted.leads_currentDirectory hhere
  rcases outcome_bind_cases h with ⟨failure, rfl, hchoose⟩ | ⟨project, m₂, hchoose, h⟩
  · exact ⟨trans_of Noted hnoted₁ (relates_of_leads (works_noted.leads_choose config) hchoose),
      nofun⟩
  have hnoted₂ := trans_of Noted hnoted₁
    (relates_of_leads (works_noted.leads_choose config) hchoose)
  dsimp only at h
  split at h
  · rw [outcome_bind_of_error outcome_throw] at h
    cases h
    exact ⟨hnoted₂, nofun⟩
  -- a check is announced by a status line, which tools do not get
  obtain ⟨m₃, hnoted₃, h⟩ : ∃ m₃, Noted m₂ m₃ ∧ outcome (do
      let made ← Generate.run (optionsOf project.config table output package check)
      return (here, made)) m₃ = (result, s') := by
    split at h
    · obtain ⟨m₃, hreport, hnoted₃⟩ := outcome_report json .checking
        (toString (optionsOf project.config table output package check).outputs.length
          ++ " generated file(s)") m₂
      rw [outcome_bind_of_ok hreport] at h
      exact ⟨m₃, hnoted₃, h⟩
    · exact ⟨m₂, refl m₂, h⟩
  have hnoted := trans_of Noted hnoted₂ hnoted₃
  rcases outcome_bind_cases h with ⟨failure, rfl, hrun⟩ | ⟨made, m₄, hrun, hend⟩
  · exact ⟨trans_of Noted hnoted (relates_of_leads (works_noted.leads_run _) hrun), nofun⟩
  cases hend
  obtain ⟨hsubjects, hstale⟩ := Generate.reports_of_run hrun
  refine ⟨trans_of Noted hnoted (relates_of_leads (works_noted.leads_run _) hrun), ?_⟩
  rintro _ _ ⟨⟩
  exact ⟨hstale, project, m₁, m₂, hhere, hchoose, hsubjects⟩

/-- What a run says that makes outputs. It fails before it tells of any, or it has made them and
concludes. -/
theorem outcome_generate (json : console.json = true) {result : Except Failure Ending}
    (h : outcome (generate console config table output package check) s = (result, s')) :
    (∃ failure m, result = .error failure ∧ Noted s s' ∧
      outcome (make console config table output package check) s = (.error failure, m)) ∨
    ∃ made m lines, outcome (make console config table output package check) s = (.ok made, m) ∧
      (∀ r ∈ made.outputs, r.state = .stale → check = true) ∧
      (∃ outputs, Configured config table output package check s outputs ∧
        made.outputs.map Generate.subjectOf = outputs.map fun o => (o.language, o.path)) ∧
      Conclusion made result lines ∧ Said (unlines lines) s s' := by
  unfold generate at h
  obtain ⟨start, m₁, hnow, hnoted₁⟩ := outcome_now s
  rw [outcome_bind_of_ok hnow] at h
  rcases outcome_bind_cases h with ⟨failure, rfl, hmake⟩ | ⟨⟨here, made⟩, m₂, hmake, h⟩
  · refine .inl ⟨failure, s', rfl, trans_of Noted hnoted₁ (outcome_makeOutputs json hmake).1, ?_⟩
    rw [make, outcome_bind_of_ok hnow, outcome_bind_of_error hmake]
  obtain ⟨hnoted₂, hmade⟩ := outcome_makeOutputs json hmake
  obtain ⟨hstale, project, m₃, m₄, hhere, hchoose, hsubjects⟩ := hmade here made rfl
  obtain ⟨lines, hconclusion, hsaid⟩ := outcome_conclude json h
  refine .inr ⟨made, m₂, lines, ?_, hstale, ⟨_, ⟨project, m₄, ?_, rfl⟩, hsubjects⟩,
    hconclusion, ?_⟩
  · rw [make, outcome_bind_of_ok hnow, outcome_bind_of_ok hmake]
    rfl
  · rw [lookUp, outcome_bind_of_ok hnow, outcome_bind_of_ok hhere, hchoose]
  · have hall := (trans_of Noted hnoted₁ hnoted₂).trans hsaid
    rwa [String.empty_append] at hall

end Making

/-! ## Whole runs -/

section Runs

variable {σ : Type} [Recorded σ] [Disk (StateM σ)] [Terminal (StateM σ)] [LawfulTerminal σ]
  {environment : Environment} {call : Invocation}

omit [Recorded σ] [LawfulTerminal σ] in
theorem run_execute {interactive : Bool} {s m : σ}
    (hbegin : StateT.run (m := Id) (begin environment call) s = (interactive, m)) :
    StateT.run (m := Id) (execute environment call) s =
      let console := Console.ofChoices call.quiet call.color call.json interactive
      let (result, m') := outcome (perform console call.request) m
      (exitCode result, (StateT.run (m := Id) (reportEnd console result) m').2) := by
  unfold execute
  rw [← bind_assoc]
  change StateT.run (m := Id) (begin environment call >>= _) s = _
  rw [StateT.run_bind, hbegin]
  rfl

/-- Setting up the log writes nothing. -/
theorem record_begin {interactive : Bool} {s m : σ}
    (hbegin : StateT.run (m := Id) (begin environment call) s = (interactive, m)) :
    record m = { record s with logStyle := logStyle environment call.verbose } := by
  obtain ⟨-, rfl⟩ := Prod.mk.inj hbegin
  have hlog := LawfulTerminal.startLog (logStyle environment call.verbose) s
  rw [← hlog]
  exact LawfulTerminal.isInteractive _

/-- A failure is told by one event and nothing else, and where a run breaks off there is none. -/
theorem record_reportEnd {console : Console} (json : console.json = true)
    (result : Except Failure Ending) (s : σ) :
    record (StateT.run (m := Id) (reportEnd console result) s).2 =
      { record s with
        stdout := (record s).stdout ++ unlines (lastLines result)
        stderr := (record s).stderr ++ lastText result } := by
  rcases result with failure | _ | _
  · rw [reportEnd, reportFailure, StateT.run_bind]
    change record (StateT.run (m := Id) (Terminal.printError (failureText console failure))
      (StateT.run (m := Id) (Terminal.print (console.eventText (Event.error failure.line).json))
        s).2).2 = _
    rw [LawfulTerminal.printError, LawfulTerminal.print, eventText_json json, failureText,
      if_pos json]
    rfl
  · rw [lastLines, lastText, Text.unlines_nil, String.append_empty, String.append_empty]
    rfl
  · rw [lastLines, Text.unlines_nil, String.append_empty]
    exact LawfulTerminal.printError _ _

/-! ### What was made -/

/-- The console of a run that was asked for events. -/
def forTools : Console := ⟨true, false, false⟩

/-- What a run has made before it tells of anything. -/
def Made (config table : Option Path) (output : Option (Language × Path))
    (package : Option String) (check : Bool) (s : σ) (made : GenerateReport) : Prop :=
  ∃ m, outcome (make forTools config table output package check) s = (.ok made, m)

omit [Recorded σ] [LawfulTerminal σ] in
theorem Made.unique {config table : Option Path} {output : Option (Language × Path)}
    {package : Option String} {check : Bool} {s : σ} {made made' : GenerateReport}
    (h : Made config table output package check s made)
    (h' : Made config table output package check s made') : made = made' := by
  obtain ⟨m, hmake⟩ := h
  obtain ⟨m', hmake'⟩ := h'
  cases hmake.symm.trans hmake'
  rfl

omit [Recorded σ] [LawfulTerminal σ] in
theorem not_made_of_error {config table : Option Path} {output : Option (Language × Path)}
    {package : Option String} {check : Bool} {s m : σ} {made : GenerateReport} {failure : Failure}
    (h : outcome (make forTools config table output package check) s = (.error failure, m)) :
    ¬Made config table output package check s made := by
  rintro ⟨m', hmake⟩
  cases h.symm.trans hmake

/-! ### Runs of the command -/

section Asked

variable {words : List ByteString} {config table : Option Path}
  {output : Option (Language × Path)} {package : Option String} {check : Bool} {s s' : σ}
  {code : UInt32}

omit [Recorded σ] [Disk (StateM σ)] [Terminal (StateM σ)] [LawfulTerminal σ] in
theorem ofChoices_of_json (json : call.json = true) (interactive : Bool) :
    Console.ofChoices call.quiet call.color call.json interactive = forTools := by
  rw [Console.ofChoices.eq_def, json, Bool.not_true, Bool.and_false, Bool.false_and]
  rfl

/-- A run says what making its outputs says, and its last words. -/
theorem wrote_of_run (parsed : parse environment words = .ok call) (json : call.json = true)
    (asked : call.request = .generate config table output package check)
    (h : StateT.run (m := Id) (run environment words) s = (code, s')) :
    ∃ result m, outcome (generate forTools config table output package check)
        (StateT.run (m := Id) (begin environment call) s).2 = (result, m) ∧
      code = exitCode result ∧
      ∀ lines, Said (unlines lines) (StateT.run (m := Id) (begin environment call) s).2 m →
        Wrote (logStyle environment call.verbose) (lines ++ lastLines result) (lastText result)
          (record s) (record s') := by
  rcases hbegin : StateT.run (m := Id) (begin environment call) s with ⟨interactive, ready⟩
  rw [run, parsed] at h
  change StateT.run (m := Id) (execute environment call) s = _ at h
  rw [run_execute hbegin, asked, ofChoices_of_json json] at h
  rcases hgenerate : outcome (generate forTools config table output package check) ready with
    ⟨result, m⟩
  simp only [perform, hgenerate] at h
  obtain ⟨rfl, rfl⟩ := Prod.mk.inj h
  refine ⟨result, m, rfl, rfl, fun lines hsaid => ?_⟩
  obtain ⟨notes, hnotes⟩ := hsaid
  have hend : record (StateT.run (m := Id) (reportEnd forTools result) m).2 = _ :=
    record_reportEnd rfl result m
  rw [hend, hnotes, record_begin hbegin]
  refine ⟨?_, notes, rfl⟩
  rw [unlines_append, ← String.append_assoc]

/-- A run that made the configured outputs concludes, and adds its last words. -/
theorem concluded_of_run (parsed : parse environment words = .ok call) (json : call.json = true)
    (asked : call.request = .generate config table output package check)
    (h : StateT.run (m := Id) (run environment words) s = (code, s')) {made : GenerateReport}
    (hmade : Made config table output package check
      (StateT.run (m := Id) (begin environment call) s).2 made) :
    (∃ outputs, Configured config table output package check
        (StateT.run (m := Id) (begin environment call) s).2 outputs ∧
      made.outputs.map Generate.subjectOf = outputs.map fun o => (o.language, o.path)) ∧
    ∃ result lines, Conclusion made result lines ∧ code = exitCode result ∧
      Wrote (logStyle environment call.verbose) (lines ++ lastLines result) (lastText result)
        (record s) (record s') := by
  obtain ⟨result, m, hgenerate, hcode, hwrote⟩ := wrote_of_run parsed json asked h
  rcases outcome_generate rfl hgenerate with ⟨failure, m', -, -, hfailed⟩ |
    ⟨made', m', lines, hmake, -, htold, hconclusion, hsaid⟩
  · -- a run that fails before it tells of anything has made nothing
    exact absurd hmade (not_made_of_error hfailed)
  · obtain rfl := hmade.unique ⟨m', hmake⟩
    exact ⟨htold, result, lines, hconclusion, hcode, hwrote lines hsaid⟩

/-- A run ends as tools rely on where all paths are text of which it tells. -/
theorem kept_of_run (parsed : parse environment words = .ok call) (json : call.json = true)
    (asked : call.request = .generate config table output package check)
    (h : StateT.run (m := Id) (run environment words) s = (code, s'))
    (htexts : ∀ made, Made config table output package check
      (StateT.run (m := Id) (begin environment call) s).2 made →
        ∀ r ∈ made.outputs, r.path.IsText) :
    Kept (logStyle environment call.verbose) check
      (Configured config table output package check
        (StateT.run (m := Id) (begin environment call) s).2) code (record s) (record s') := by
  obtain ⟨result, m, hgenerate, rfl, hwrote⟩ := wrote_of_run parsed json asked h
  rcases outcome_generate rfl hgenerate with ⟨failure, m', rfl, hnoted, -⟩ |
    ⟨made, m', lines, hmake, hcheck, htold, hconclusion, hsaid⟩
  · -- nothing was made, and the failure is told alone
    exact .of_transcript (transcript_of_failure failure.line) (hwrote [] hnoted)
  · obtain ⟨last, htranscript, hlines, htext⟩ :=
      transcript_of_conclusion hconclusion (htexts made ⟨m', hmake⟩) hcheck htold
    have hall := hwrote lines hsaid
    rw [hlines, htext] at hall
    exact .of_transcript htranscript hall

end Asked

end Runs

/-! ## A command line -/

namespace Panel

open EnumBindings.Panel (machine readAt_document parse_document artifact_table access align phase)
open Generate (quiet_of_off settle settleAll)

/-- Asks for one output. -/
def words (out : ByteString) : List ByteString :=
  ["generate", "--message-format", "json", "--table", "panel.toml", "--lang", "go", "--out", out]

def call (out : ByteString) : Invocation where
  verbose := false
  quiet := false
  color := .auto
  json := true
  request := .generate none (some ⟨"panel.toml"⟩) (some (.go, ⟨out⟩)) none false

/-- What is asked for where nothing is configured. -/
def options (out : ByteString) : GenerateOptions where
  table := some ⟨"panel.toml"⟩
  header := ⟨[]⟩
  outputs := [⟨.go, ⟨out⟩, none⟩]
  check := false

/-- The text of the output. -/
def text : String :=
  unlines ((Style.ofLanguage .go none).fileLines ⟨[]⟩ [access, align, phase])

section Making

variable {out : ByteString} {made : OutputReport} {finish : Machine}
  (hdistinct : Generate.checkDistinct ⟨"/w"⟩ [] (options out).outputs = .ok ())
  (hsettle : outcome (settle false ⟨.go, ⟨out⟩, none⟩ text) machine = (.ok made, finish))

include hdistinct hsettle

theorem outcome_run_of_settle : outcome (Generate.run (options out)) machine =
    (.ok ⟨EnumBindings.Panel.table.size, [made]⟩, finish) := by
  have hhome : outcome Project.currentDirectory machine = (.ok ⟨"/w"⟩, machine) :=
    outcome_request_eq_ok.mpr rfl
  have hload : outcome (Generate.loadTable (options out).table) machine =
      (.ok EnumBindings.Panel.table, machine) :=
    (quiet_of_off rfl).outcome_loadTable (congrArg (·, machine) readAt_document) (parse_document _)
  have hartifacts : ∀ o ∈ (options out).outputs,
      Generate.artifact EnumBindings.Panel.table (options out).header o =
        .ok ⟨[access, align, phase], text⟩ :=
    List.forall_mem_singleton.mpr (artifact_table _ _)
  rw [Generate.outcome_run_of_quiet (List.cons_ne_nil _ _) hhome hdistinct hload
    (quiet_of_off rfl) hartifacts]
  have hall : outcome (settleAll false [(⟨.go, ⟨out⟩, none⟩, ⟨[access, align, phase], text⟩)])
      machine = (.ok [made], finish) := by
    rw [settleAll, outcome_bind_of_ok hsettle]
    rfl
  exact outcome_bind_of_ok hall

/-- The output is made if its place can be settled. -/
theorem made_of_settle : Made none (some ⟨"panel.toml"⟩) (some (.go, ⟨out⟩)) none false machine
    ⟨EnumBindings.Panel.table.size, [made]⟩ := by
  have hhome : outcome Project.currentDirectory machine = (.ok ⟨"/w"⟩, machine) :=
    outcome_request_eq_ok.mpr rfl
  have hchoose : outcome (Project.choose none) machine = (.ok .blank, machine) := rfl
  have hrun := outcome_run_of_settle hdistinct hsettle
  have hmake : outcome (makeOutputs forTools none (some ⟨"panel.toml"⟩) (some (.go, ⟨out⟩)) none
      false) machine = (.ok (⟨"/w"⟩, ⟨EnumBindings.Panel.table.size, [made]⟩), finish) := by
    rw [makeOutputs, outcome_bind_of_ok hhome, outcome_bind_of_ok hchoose]
    exact outcome_bind_of_ok hrun
  refine ⟨finish, ?_⟩
  rw [make]
  exact outcome_bind_of_ok hmake

end Making

/-- What is reported where the output is written. -/
def written (out : ByteString) : OutputReport := ⟨.go, ⟨out⟩, Sha256.ofText text, .written⟩

/-- What is reported of the run then. -/
def report (out : ByteString) : GenerateReport := ⟨3, [written out]⟩

theorem made_report (out : ByteString)
    (hdistinct : Generate.checkDistinct ⟨"/w"⟩ [] (options out).outputs = .ok ())
    (hstate : (outcome (settle false ⟨.go, ⟨out⟩, none⟩ text) machine).1.toOption.map (·.state) =
      some .written) :
    Made none (some ⟨"panel.toml"⟩) (some (.go, ⟨out⟩)) none false machine (report out) := by
  rcases hsettle : outcome (settle false ⟨.go, ⟨out⟩, none⟩ text) machine with ⟨_ | made, finish⟩
  · rw [hsettle] at hstate
    cases hstate
  · rw [hsettle] at hstate
    obtain ⟨current, _, -, rfl⟩ := Generate.reportOf_of_settle hsettle
    have hwritten : Generate.reportOf false ⟨.go, ⟨out⟩, none⟩ text current = written out := by
      rw [written, ← Option.some.inj hstate]
      rfl
    exact made_of_settle hdistinct (hwritten ▸ hsettle)

end Panel

end EnumBindings.Command
