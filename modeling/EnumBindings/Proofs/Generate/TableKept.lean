import EnumBindings.Proofs.Generate.FailedRun
import EnumBindings.Proofs.Provenance

/-!
# What becomes of the table

Outputs are told apart from each other before a run begins, but nobody tells them apart from the
table. So a run that writes keeps its table exactly as long as none of the outputs it has settled
leads there (`table_kept_iff`). A spelling of the path is enough to lose it (`table_replaced`).
-/

namespace EnumBindings

open EnumBindings.Text

/-! ## Artifacts are no tables -/

namespace Toml

theorem key?_slash (rest : List Char) : key? ('/' :: rest) = none := rfl

theorem statement?_slash (rest : List Char) : statement? ('/' :: rest) = none := by
  have hvalue : keyValue? value? ('/' :: rest) = none := by
    rw [keyValue?, key?_slash]
    rfl
  simp [statement?, hvalue]

/-- No document opens with a slash. -/
theorem parse?_slash {text : String} {rest : List Char} (h : text.toList = '/' :: rest) :
    parse? text = none := by
  have hmark : skipByteOrderMark ('/' :: rest) = '/' :: rest := rfl
  have hfiller : skipFiller false ('/' :: rest) = some ('/' :: rest) := rfl
  rw [parse?, h, hmark]
  simp [statements?, hfiller, statement?_slash]

end Toml

theorem Header.opens_lines (header : Header) :
    ∃ line lines rest, header.lines "//" = line :: lines ∧ line.toList = '/' :: rest := by
  rcases header with ⟨license⟩
  cases license with
  | nil => exact ⟨_, _, _, rfl, rfl⟩
  | cons entry entries =>
      by_cases hempty : entry.isEmpty
      · exact ⟨commentLine "//" entry, _, ['/'], rfl, by rw [commentLine, if_pos hempty]; rfl⟩
      · refine ⟨commentLine "//" entry, _, '/' :: ' ' :: entry.toList, rfl, ?_⟩
        rw [commentLine, if_neg hempty, String.toList_append, String.toList_append]
        rfl

/-- An artifact opens with a comment. -/
theorem EnumTable.opens_of_generate {table : EnumTable} {style : Style} {header : Header}
    {artifact : Artifact} (h : table.generate style header = .ok artifact) :
    ∃ rest, artifact.text.toList = '/' :: rest := by
  obtain ⟨-, -, htext⟩ := (EnumTable.generate_eq_ok_iff ..).mp h
  obtain ⟨line, lines, rest, hlines, hline⟩ := header.opens_lines
  rw [htext, Style.fileLines, style.lineComment_language, hlines, List.append_assoc,
    List.cons_append, unlines_cons, String.append_assoc, String.toList_append, hline]
  exact ⟨_, rfl⟩

/-- An artifact is not read as a table. -/
theorem EnumTable.parse_ne_ok_of_generate {table read : EnumTable} {style : Style}
    {header : Header} {artifact : Artifact} (h : table.generate style header = .ok artifact)
    (origin : String) : EnumTable.parse artifact.text origin ≠ .ok read := by
  obtain ⟨rest, hopens⟩ := EnumTable.opens_of_generate h
  intro hread
  rw [EnumTable.parse, EnumTable.ofText, Toml.parse?_slash hopens] at hread
  cases hread

namespace Generate

open EnumBindings.Files
open EnumBindings.Path (destination)
open Placed (store here)

/-! ## Two paths to one place -/

/-- Paths that lead to one place find the same bytes there. -/
theorem bytes_eq_of_readAt {files : Store} {location : Location} {p q : Path}
    {bytes bytes' : ByteArray} (h : files.readAt location p = .ok bytes)
    (h' : files.readAt location q = .ok bytes')
    (same : destination location p = destination location q) : bytes = bytes' := by
  obtain ⟨place, hlocate, hfile⟩ := Store.readAt_eq_ok_iff.mp h
  obtain ⟨place', hlocate', hfile'⟩ := Store.readAt_eq_ok_iff.mp h'
  obtain rfl := Store.locate_eq_ok hlocate
  obtain rfl := Store.locate_eq_ok hlocate'
  rw [same, hfile'] at hfile
  cases hfile
  rfl

section Kept

variable {options : GenerateOptions} {start finish : Trial} {p : Path} {bytes : ByteArray}

/-- Where some outputs are complete and no other file has changed, the table is kept exactly if
none of them leads there: what is generated is never what was read. -/
theorem kept_iff_of_complete {table : EnumTable} {done : List Output}
    {directories : Location → Location → Prop}
    (loaded : NamedTable (store start) (here start) (some p) table)
    (held : (store start).readAt (here start) p = .ok bytes)
    (complete : ∀ o ∈ done, ∃ made,
      table.generate (Style.ofLanguage o.language o.package) options.header = .ok made ∧
        (store finish).readAt (here finish) o.path = .ok made.text.toUTF8)
    (others : Alters (fun here l => ∃ o ∈ done, l = destination here o.path) directories
      start finish) :
    (store finish).readAt (here finish) p = .ok bytes ↔
      ∀ o ∈ done, destination (here start) o.path ≠ destination (here start) p := by
  constructor
  · intro kept o ho same
    obtain ⟨text, hread, hparse⟩ := loaded
    rw [held, Except.ok.injEq] at hread
    obtain ⟨made, hmade, hholds⟩ := complete o ho
    rw [← others.1] at same
    have hbytes : made.text.toUTF8 = text.toUTF8 := by
      rw [bytes_eq_of_readAt hholds kept same, hread]
    have htext : made.text = text := by
      have hmark := fromUTF8?_eq_some_iff.mpr (rfl : made.text.toUTF8 = made.text.toUTF8)
      rw [hbytes, fromUTF8?_eq_some_iff.mpr rfl] at hmark
      exact (Option.some.inj hmark).symm
    rw [← htext] at hparse
    exact EnumTable.parse_ne_ok_of_generate hmade p.shown hparse
  · intro apart
    refine readAt_of_alters others held ?_
    rintro ⟨o, ho, same⟩
    exact apart o ho same.symm

/-- A run that writes and succeeds has settled all its outputs. -/
theorem kept_iff_of_ok {report : GenerateReport} (tree : start.machine.store.Tree)
    (named : options.table = some p) (write : options.check = false)
    (held : (store start).readAt (here start) p = .ok bytes)
    (h : outcome (run options) start = (.ok report, finish)) :
    (store finish).readAt (here finish) p = .ok bytes ↔
      ∀ o ∈ options.outputs, destination (here start) o.path ≠ destination (here start) p := by
  obtain ⟨table, made, m, hprepared, hsame, -, hsettle⟩ := of_run_eq_ok tree.names_of_isDirectory h
  rw [write] at hsettle
  have hloaded := hprepared.named
  rw [named] at hloaded
  have hdistinct := hprepared.distinct_made
  rw [← hsame.2] at hdistinct
  rw [← hprepared.outputs]
  have hcomplete : ∀ o ∈ made.map Prod.fst, ∃ artifact,
      table.generate (Style.ofLanguage o.language o.package) options.header = .ok artifact ∧
        (store finish).readAt (here finish) o.path = .ok artifact.text.toUTF8 := by
    refine List.forall_mem_map.mpr fun item hmem => ⟨item.2, ?_, ?_⟩
    · exact artifact_eq_ok_iff.mp (hprepared.artifacts item hmem)
    · exact readAt_of_settleAll hdistinct hsettle item hmem
  have hothers : Alters (fun here l => ∃ o ∈ made.map Prod.fst, l = destination here o.path)
      (fun here l => ∃ item ∈ made, Path.Above here item.1.path l) start finish := by
    refine trans_of _ hsame.alters ((alters_of_settleAll hsettle).mono ?_ fun _ hl => hl)
    rintro l ⟨item, hmem, hl⟩
    exact ⟨item.1, List.mem_map_of_mem hmem, hl⟩
  exact kept_iff_of_complete hloaded held hcomplete hothers

/-- A run that is refused, or that only checks, leaves the state of the disk. -/
theorem same_of_run {result : Except Failure GenerateReport} (tree : start.machine.store.Tree)
    (idle : options.check = true ∨ Refused options start)
    (h : outcome (run options) start = (result, finish)) : Same start finish := by
  rcases outcome_run tree.names_of_isDirectory h with
    ⟨-, -, hsame⟩ | ⟨table, made, m, hprepared, hsame, hsettled⟩
  · exact hsame
  rcases idle with hcheck | hrefused
  · rw [hcheck] at hsettled
    have hkept : Same m finish := by
      rcases hsettled with ⟨_, -, hsettle⟩ | ⟨_, -, hsettle⟩ <;>
        exact relates_of_leads (leads_same_settleAll made) hsettle
    exact trans_of Same hsame hkept
  · exact absurd hrefused hprepared.not_refused

/-- A run that writes and fails has settled the outputs before the one at which it failed. -/
theorem exists_leftAt_kept_iff {failure : Failure} (tree : start.machine.store.Tree)
    (named : options.table = some p) (write : options.check = false)
    (held : (store start).readAt (here start) p = .ok bytes)
    (accepted : ¬Refused options start)
    (h : outcome (run options) start = (.error failure, finish)) :
    ∃ table before output after artifact middle,
      outcome (settle false output artifact) middle = (.error failure, finish) ∧
      LeftAt options table before output after start.machine finish.machine ∧
      ((store finish).readAt (here finish) p = .ok bytes ↔
        ∀ o ∈ before, destination (here start) o.path ≠ destination (here start) p) := by
  rcases outcome_run tree.names_of_isDirectory h with
    ⟨hrefused, -, -⟩ | ⟨table, made, m, hprepared, hsame, hsettled⟩
  · exact absurd hrefused accepted
  rcases hsettled with ⟨_, hfailure, hsettle⟩ | ⟨reports, hreport, -⟩
  · cases hfailure
    obtain ⟨before, output, after, artifact, middle, -, hitem, hleft⟩ :=
      exists_leftAt hprepared hsame hsettle
    have hloaded := hprepared.named
    rw [named] at hloaded
    rw [write] at hitem
    have hothers : Alters (fun here l => ∃ o ∈ before, l = destination here o.path)
        (fun here l => ∃ o ∈ before ++ [output], Path.Above here o.path l) start finish :=
      ⟨hleft.stays, hleft.others⟩
    exact ⟨table, before, output, after, artifact.text, middle, hitem, hleft,
      kept_iff_of_complete hloaded held (hleft.complete write) hothers⟩
  · cases hreport

/-- What becomes of the table of a run. It is kept if the run is refused, if it only checks, and if
no output leads to the table. A run that succeeds keeps it in no other case, and a run that fails
at an output loses it exactly if an output before that one leads there. -/
theorem table_kept_iff {result : Except Failure GenerateReport}
    (tree : start.machine.store.Tree) (named : options.table = some p)
    (held : start.machine.store.readAt start.machine.directory p = .ok bytes)
    (h : outcome (run options) start = (result, finish)) :
    ((options.check = true ∨ Refused options start ∨ ∀ o ∈ options.outputs,
        destination start.machine.directory o.path ≠ destination start.machine.directory p) →
      finish.machine.store.readAt finish.machine.directory p = .ok bytes) ∧
    (∀ report, result = .ok report → options.check = false →
      (finish.machine.store.readAt finish.machine.directory p = .ok bytes ↔
        ∀ o ∈ options.outputs,
          destination start.machine.directory o.path ≠ destination start.machine.directory p)) ∧
    (∀ failure, result = .error failure → options.check = false → ¬Refused options start →
      ∃ table before output after text middle,
        outcome (settle false output text) middle = (.error failure, finish) ∧
        LeftAt options table before output after start.machine finish.machine ∧
        (finish.machine.store.readAt finish.machine.directory p = .ok bytes ↔
          ∀ o ∈ before,
            destination start.machine.directory o.path ≠ destination start.machine.directory p)) := by
  have hidle : options.check = true ∨ Refused options start →
      finish.machine.store.readAt finish.machine.directory p = .ok bytes := by
    intro idle
    have hsame := same_of_run tree idle h
    change (store finish).readAt (here finish) p = .ok bytes
    rw [hsame.1, hsame.2]
    exact held
  refine ⟨?_, ?_, ?_⟩
  · rintro (hcheck | hrefused | apart)
    · exact hidle (.inl hcheck)
    · exact hidle (.inr hrefused)
    · by_cases idle : options.check = true ∨ Refused options start
      · exact hidle idle
      obtain ⟨hwrite, accepted⟩ := not_or.mp idle
      have hwrite : options.check = false := by simpa using hwrite
      cases result with
      | ok report => exact (kept_iff_of_ok tree named hwrite held h).mpr apart
      | error failure =>
          obtain ⟨_, before, output, after, _, _, -, hleft, hkept⟩ :=
            exists_leftAt_kept_iff tree named hwrite held accepted h
          refine hkept.mpr fun o ho => apart o ?_
          rw [hleft.split]
          exact List.mem_append_left _ ho
  · rintro report rfl hwrite
    exact kept_iff_of_ok tree named hwrite held h
  · rintro failure rfl hwrite accepted
    exact exists_leftAt_kept_iff tree named hwrite held accepted h

end Kept

/-- A run that fails on a full disk has kept the document of the panel. -/
theorem table_kept_panel : ∃ failure finish,
    outcome (run Panel.options) (Panel.filling 12) = (.error failure, finish) ∧
      finish.machine.store.readAt finish.machine.directory ⟨"panel.toml"⟩ =
        .ok Panel.document.toUTF8 := by
  have tree : (Panel.filling 12).machine.store.Tree := by decide +kernel
  have apart : ∀ o ∈ Panel.options.outputs,
      destination ["w"] o.path ≠ destination ["w"] ⟨"panel.toml"⟩ := by decide +kernel
  obtain ⟨failure, finish, hrun⟩ := Panel.exists_failure
  obtain ⟨hkept, -, -⟩ := table_kept_iff tree rfl Panel.readAt_document hrun
  exact ⟨failure, finish, hrun, hkept (.inr (.inr apart))⟩

end Generate

namespace Panel

open EnumBindings.Files EnumBindings.Generate

/-! ## A table among its own outputs -/

/-- One output, at the path of the table in another spelling. -/
def optionsOnTable : GenerateOptions :=
  { options with outputs := [⟨.go, ⟨"/w/./panel.toml"⟩, some "ui"⟩] }

/-- A disk that does what it is asked for. -/
def calm : Trial := ⟨machine, []⟩

/-- The run succeeds. -/
theorem exists_report_onTable :
    ∃ report finish, outcome (run optionsOnTable) calm = (.ok report, finish) := by
  have hhome : outcome Project.currentDirectory calm = (.ok ⟨"/w"⟩, calm) :=
    outcome_request_eq_ok.mpr rfl
  have hquiet : Quiet calm := quiet_trial (quiet_of_off rfl)
  have hload : outcome (loadTable optionsOnTable.table) calm = (.ok table, calm) :=
    hquiet.outcome_loadTable (congrArg (·, calm) readAt_document) (parse_document _)
  rw [outcome_run_of_quiet (by decide) hhome (by decide +kernel) hload hquiet
    fun o _ => artifact_make o]
  exact exists_of_isOk (by decide +kernel)

end Panel

open EnumBindings.Files EnumBindings.Generate in
/-- A run replaces its own table and says that all went well. -/
theorem Generate.table_replaced : ∃ report finish,
    outcome (run Panel.optionsOnTable) Panel.calm = (.ok report, finish) ∧
      Panel.calm.machine.store.readAt Panel.calm.machine.directory ⟨"panel.toml"⟩ =
        .ok Panel.document.toUTF8 ∧
      finish.machine.store.readAt finish.machine.directory ⟨"panel.toml"⟩ ≠
        .ok Panel.document.toUTF8 := by
  have tree : Panel.calm.machine.store.Tree := by decide +kernel
  have onTable : Path.destination ["w"] ⟨"/w/./panel.toml"⟩ =
      Path.destination ["w"] ⟨"panel.toml"⟩ := by
    decide +kernel
  obtain ⟨report, finish, hrun⟩ := Panel.exists_report_onTable
  refine ⟨report, finish, hrun, Panel.readAt_document, fun kept => ?_⟩
  have apart := (kept_iff_of_ok tree rfl rfl Panel.readAt_document hrun).mp kept
  exact apart _ List.mem_cons_self onTable

end EnumBindings
