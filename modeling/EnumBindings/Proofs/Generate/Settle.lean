import EnumBindings.Generate
import EnumBindings.Proofs.Files

/-!
# Settling outputs

What one output does to a disk, and from it what a list of outputs does. A settled output is found
at its path with its text (`of_settle_eq_ok`), and it stays there as long as no later output leads
to the same place (`readAt_of_settleAll`). Where an output cannot be settled, the outputs before
it are, and nothing but directories was made for it (`of_settleAll_eq_error`).
-/

namespace EnumBindings.Generate

open EnumBindings.Files
open EnumBindings.Path (destination Above)
open Placed (store here)

variable {σ : Type} [Placed σ] [Disk (StateM σ)] [Journal (StateM σ)] [LawfulDisk σ]

/-! ## Log -/

omit [Placed σ] [Disk (StateM σ)] [LawfulDisk σ] in
theorem outcome_note (level : LogLevel) (message : String) (s : σ) :
    outcome (note level message) s =
      (.ok (), (StateT.run (m := Id) (Journal.log level message : StateM σ Unit) s).2) :=
  rfl

/-! ## One output -/

/-- What becomes of an output whose file holds some text, or is not there. -/
def stateOf (check : Bool) (current : Option String) (text : String) : OutputState :=
  if current = some text then if check then .fresh else .unchanged
  else if check then .stale else .written

/-- What is reported about an output whose file holds some text, or is not there. -/
def reportOf (check : Bool) (output : Output) (text : String) (current : Option String) :
    OutputReport :=
  ⟨output.language, output.path, Sha256.ofText text, stateOf check current text⟩

section Output

variable {check : Bool} {output : Output} {text : String} {s s' : σ} {report : OutputReport}
  {failure : Failure}

/-- An output whose file can be read is reported by what it holds, and the file is replaced if
that is asked for and it holds something else. -/
theorem outcome_settle {result : Except Failure OutputReport}
    (h : outcome (settle check output text) s = (result, s')) :
    (∃ failure, result = .error failure ∧
      outcome (readIfExists output.path) s = (.error failure, s')) ∨
    ∃ current m, outcome (readIfExists output.path) s = (.ok current, m) ∧
      ((check = true ∨ current = some text) ∧ Same m s' ∧
          result = .ok (reportOf check output text current) ∨
        check = false ∧ current ≠ some text ∧
          ((∃ failure, result = .error failure ∧
            outcome (replace output.path text) m = (.error failure, s')) ∨
          result = .ok (reportOf check output text current) ∧
            ∃ m', outcome (replace output.path text) m = (.ok (), m') ∧ Same m' s')) := by
  unfold settle at h
  rcases outcome_bind_cases h with hfailed | ⟨current, m, hread, h⟩
  · exact .inl hfailed
  refine .inr ⟨current, m, hread, ?_⟩
  dsimp only at h
  by_cases hcurrent : current = some text
  · rw [if_pos hcurrent] at h
    refine .inl ⟨.inr hcurrent, ?_⟩
    cases check with
    | true =>
        cases h
        exact ⟨refl _, by rw [reportOf, stateOf, if_pos hcurrent]; rfl⟩
    | false =>
        rw [if_neg Bool.false_ne_true, outcome_bind_of_ok (outcome_note ..)] at h
        cases h
        exact ⟨LawfulDisk.log _ _ m, by rw [reportOf, stateOf, if_pos hcurrent]; rfl⟩
  · rw [if_neg hcurrent] at h
    cases check with
    | true =>
        cases h
        exact .inl ⟨.inl rfl, refl _, by rw [reportOf, stateOf, if_neg hcurrent]; rfl⟩
    | false =>
        rw [if_neg Bool.false_ne_true] at h
        refine .inr ⟨rfl, hcurrent, ?_⟩
        rcases outcome_bind_cases h with hfailed | ⟨_, m', hreplaced, h⟩
        · exact .inl hfailed
        rw [outcome_bind_of_ok (outcome_note ..)] at h
        cases h
        refine .inr ⟨by rw [reportOf, stateOf, if_neg hcurrent]; rfl, m', hreplaced, ?_⟩
        exact LawfulDisk.log _ _ m'

/-- A report says what was read. -/
theorem reportOf_of_settle (h : outcome (settle check output text) s = (.ok report, s')) :
    ∃ current m, outcome (readIfExists output.path) s = (.ok current, m) ∧
      report = reportOf check output text current := by
  rcases outcome_settle h with ⟨failure, hfailed, -⟩ | ⟨current, m, hread, hrest⟩
  · cases hfailed
  refine ⟨current, m, hread, ?_⟩
  rcases hrest with ⟨-, -, hok⟩ | ⟨-, -, ⟨failure, hfailed, -⟩ | ⟨hok, -⟩⟩
  · exact Except.ok.inj hok
  · cases hfailed
  · exact Except.ok.inj hok

/-- A check leaves the disk. -/
theorem leads_same_settle (output : Output) (text : String) :
    Leads Same (fun _ => True) (settle true output text : Task (StateM σ) OutputReport).run := by
  refine .of_state fun s => ?_
  rcases hrun : outcome (settle true output text) s with ⟨result, s'⟩
  change Same s (outcome (settle true output text) s).2
  rw [hrun]
  rcases outcome_settle hrun with ⟨failure, -, hread⟩ |
    ⟨current, m, hread, ⟨-, hsame, -⟩ | ⟨hcheck, -⟩⟩
  · exact relates_of_leads (looks_same.leads_readIfExists output.path) hread
  · exact trans_of Same (relates_of_leads (looks_same.leads_readIfExists output.path) hread) hsame
  · cases hcheck

/-- An output is settled without a change if its file is only compared, or holds the text. -/
theorem outcome_settle_of_read {current : Option String} {m : σ}
    (hread : outcome (readIfExists output.path) s = (.ok current, m))
    (hkeep : check = true ∨ current = some text) :
    ∃ s', outcome (settle check output text) s = (.ok (reportOf check output text current), s') ∧
      Same m s' := by
  rcases hrun : outcome (settle check output text) s with ⟨result, s'⟩
  refine ⟨s', ?_⟩
  rcases outcome_settle hrun with ⟨failure, -, hfailed⟩ | ⟨current', m', hread', hrest⟩
  · rw [hread] at hfailed
    cases hfailed
  rw [hread] at hread'
  cases hread'
  rcases hrest with ⟨-, hsame, rfl⟩ | ⟨hcheck, hother, -⟩
  · exact ⟨rfl, hsame⟩
  · rcases hkeep with hkeep | hkeep
    · rw [hcheck] at hkeep
      cases hkeep
    · exact absurd hkeep hother

/-- A settled output is found at its path with its text. -/
theorem of_settle_eq_ok (h : outcome (settle false output text) s = (.ok report, s')) :
    Alters (fun here l => l = destination here output.path)
        (fun here => Above here output.path) s s' ∧
      (store s').readAt (here s') output.path = .ok text.toUTF8 := by
  rcases outcome_settle h with ⟨failure, hfailed, -⟩ | ⟨current, m, hread, hrest⟩
  · cases hfailed
  have hsame := relates_of_leads (looks_same.leads_readIfExists output.path) hread
  rcases hrest with ⟨hcurrent, hkept, -⟩ | ⟨-, -, ⟨failure, hfailed, -⟩ | ⟨-, m', hreplace, hlog⟩⟩
  · rcases hcurrent with hcheck | rfl
    · cases hcheck
    have hall := trans_of Same hsame hkept
    refine ⟨hall.alters, ?_⟩
    rw [hall.1, hall.2]
    exact readAt_of_readIfExists hread
  · cases hfailed
  · obtain ⟨halters, hholds⟩ := of_replace_eq_ok hreplace
    refine ⟨trans_of _ hsame.alters (trans_of _ halters hlog.alters), ?_⟩
    rw [hlog.1, hlog.2]
    exact hholds

/-- For an output that could not be settled nothing but directories was made. -/
theorem of_settle_eq_error (h : outcome (settle check output text) s = (.error failure, s')) :
    Alters (fun _ _ => False) (fun here => Above here output.path) s s' := by
  rcases outcome_settle h with ⟨failure, -, hread⟩ | ⟨current, m, hread, hrest⟩
  · exact (relates_of_leads (looks_same.leads_readIfExists output.path) hread).alters
  have hsame := relates_of_leads (looks_same.leads_readIfExists output.path) hread
  rcases hrest with ⟨-, -, hok⟩ | ⟨-, -, ⟨failure, -, hreplace⟩ | ⟨hok, -⟩⟩
  · cases hok
  · exact trans_of _ hsame.alters (alters_of_replace_eq_error hreplace)
  · cases hok

end Output

/-! ## Outputs in order -/

section Outputs

variable {check : Bool} {made : List (Output × Artifact)} {s s' : σ}
  {reports : List OutputReport} {failure : Failure}

/-- A check leaves the disk. -/
theorem leads_same_settleAll (made : List (Output × Artifact)) :
    Leads Same (fun _ => True)
      (settleAll true made : Task (StateM σ) (List OutputReport)).run := by
  induction made with
  | nil => exact .pure trivial
  | cons item rest ih =>
      refine leads_task_bind (leads_same_settle item.1 item.2.text) fun report => ?_
      exact leads_task_bind ih fun reports => .pure trivial

omit [Placed σ] [LawfulDisk σ] in
/-- One output after the other. -/
theorem outcome_settleAll_cons {item : Output × Artifact}
    (h : outcome (settleAll check (item :: made)) s = (.ok reports, s')) :
    ∃ report m rest, reports = report :: rest ∧
      outcome (settle check item.1 item.2.text) s = (.ok report, m) ∧
      outcome (settleAll check made) m = (.ok rest, s') := by
  rw [settleAll, outcome_bind_eq_ok] at h
  obtain ⟨report, m, hreport, h⟩ := h
  rw [outcome_bind_eq_ok] at h
  obtain ⟨rest, m', hrest, h⟩ := h
  cases h
  exact ⟨report, m, rest, rfl, hreport, hrest⟩

omit [Placed σ] [LawfulDisk σ] in
/-- One report for each output. -/
theorem length_of_settleAll (h : outcome (settleAll check made) s = (.ok reports, s')) :
    reports.length = made.length := by
  induction made generalizing s reports with
  | nil => cases h; rfl
  | cons item rest ih =>
      obtain ⟨report, m, others, rfl, -, hothers⟩ := outcome_settleAll_cons h
      rw [List.length_cons, List.length_cons, ih hothers]

/-- Reports belong to the outputs in order; they differ in the states only. -/
theorem map_of_settleAll (h : outcome (settleAll check made) s = (.ok reports, s'))
    (state : OutputState) :
    reports.map (fun report => { report with state }) =
      made.map fun item => ⟨item.1.language, item.1.path, Sha256.ofText item.2.text, state⟩ := by
  induction made generalizing s reports with
  | nil => cases h; rfl
  | cons item rest ih =>
      obtain ⟨report, m, others, rfl, hreport, hothers⟩ := outcome_settleAll_cons h
      obtain ⟨current, -, -, rfl⟩ := reportOf_of_settle hreport
      rw [List.map_cons, List.map_cons, ih hothers]
      rfl

omit [Placed σ] [LawfulDisk σ] in
/-- Some outputs and then others. -/
theorem outcome_settleAll_append {before after : List (Output × Artifact)}
    (h : outcome (settleAll check (before ++ after)) s = (.ok reports, s')) :
    ∃ first m rest, reports = first ++ rest ∧
      outcome (settleAll check before) s = (.ok first, m) ∧
      outcome (settleAll check after) m = (.ok rest, s') := by
  induction before generalizing s reports with
  | nil => exact ⟨[], s, reports, rfl, rfl, h⟩
  | cons item before ih =>
      obtain ⟨report, m, others, rfl, hreport, hothers⟩ := outcome_settleAll_cons h
      obtain ⟨first, m', rest, rfl, hfirst, hrest⟩ := ih hothers
      refine ⟨report :: first, m', rest, rfl, ?_, hrest⟩
      rw [settleAll, outcome_bind_of_ok hreport, outcome_bind_of_ok hfirst]
      rfl

omit [Placed σ] [LawfulDisk σ] in
/-- Where a list of outputs cannot be settled, there is a first one that could not. -/
theorem of_settleAll_eq_error (h : outcome (settleAll check made) s = (.error failure, s')) :
    ∃ before item after first m, made = before ++ item :: after ∧
      outcome (settleAll check before) s = (.ok first, m) ∧
      outcome (settle check item.1 item.2.text) m = (.error failure, s') := by
  induction made generalizing s with
  | nil => cases h
  | cons item rest ih =>
      rw [settleAll] at h
      rcases outcome_bind_cases h with ⟨_, hfailure, hitem⟩ | ⟨report, m, hreport, h⟩
      · cases hfailure
        exact ⟨[], item, rest, [], s, rfl, rfl, hitem⟩
      rcases outcome_bind_cases h with ⟨_, hfailure, hrest⟩ | ⟨others, m', -, h⟩
      · cases hfailure
        obtain ⟨before, item', after, first, m', rfl, hfirst, hitem⟩ := ih hrest
        refine ⟨item :: before, item', after, report :: first, m', rfl, ?_, hitem⟩
        rw [settleAll, outcome_bind_of_ok hreport, outcome_bind_of_ok hfirst]
        rfl
      · cases h

/-- Settled outputs change their own destinations and make directories on the way to them. -/
theorem alters_of_settleAll (h : outcome (settleAll check made) s = (.ok reports, s')) :
    Alters (fun here l => ∃ item ∈ made, l = destination here item.1.path)
      (fun here l => ∃ item ∈ made, Above here item.1.path l) s s' := by
  cases check with
  | true => exact (relates_of_leads (leads_same_settleAll made) h).alters
  | false =>
      induction made generalizing s reports with
      | nil => cases h; exact refl _
      | cons item rest ih =>
          obtain ⟨report, m, others, rfl, hreport, hothers⟩ := outcome_settleAll_cons h
          obtain ⟨halters, -⟩ := of_settle_eq_ok hreport
          refine trans_of _ (halters.mono (fun l hl => ⟨item, List.mem_cons_self, hl⟩)
            fun l hl => ⟨item, List.mem_cons_self, hl⟩) ((ih hothers).mono ?_ ?_)
          · exact fun l ⟨other, hmem, hl⟩ => ⟨other, List.mem_cons_of_mem _ hmem, hl⟩
          · exact fun l ⟨other, hmem, hl⟩ => ⟨other, List.mem_cons_of_mem _ hmem, hl⟩

/-- Outputs that lead to different places are all found with their texts in the end. -/
theorem readAt_of_settleAll
    (hdistinct : (made.map fun item => destination (here s) item.1.path).Nodup)
    (h : outcome (settleAll false made) s = (.ok reports, s')) :
    ∀ item ∈ made, (store s').readAt (here s') item.1.path = .ok item.2.text.toUTF8 := by
  induction made generalizing s reports with
  | nil => exact List.forall_mem_nil _
  | cons item rest ih =>
      obtain ⟨report, m, others, rfl, hreport, hothers⟩ := outcome_settleAll_cons h
      obtain ⟨halters, hholds⟩ := of_settle_eq_ok hreport
      obtain ⟨hapart, hrest⟩ := List.nodup_cons.mp hdistinct
      rw [← halters.1] at hapart hrest
      refine List.forall_mem_cons.mpr ⟨?_, ih hrest hothers⟩
      refine readAt_of_alters (alters_of_settleAll hothers) hholds ?_
      exact fun ⟨other, hmem, heq⟩ => hapart (List.mem_map.mpr ⟨other, hmem, heq.symm⟩)

end Outputs

end EnumBindings.Generate
