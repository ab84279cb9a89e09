import EnumBindings.Proofs.Go.Meaning

/-!
# Outlines of Go texts

The outline of a text lists the names that it declares at its top level, as often as it declares
them. It needs the openings of statements alone, so a text has an outline where it is no program:
a reader that knows no keywords takes `type` for a name where a name has to stand. Where a text
is read as a program, its outline is what the program declares (`outline?_of_program?`).
-/

namespace EnumBindings.Go

open EnumBindings.Source

/-! ## Readers -/

/-- The words that a reader does not take for names. -/
structure Reserved where
  words : List String
  subset : ∀ x ∈ words, x ∈ keywords

namespace Reserved

/-- All keywords, as the language has it. -/
def all : Reserved := ⟨keywords, fun _ h => h⟩

/-- No keyword at all. -/
def none : Reserved := ⟨[], fun _ h => absurd h List.not_mem_nil⟩

variable (r : Reserved)

/-- Whether a statement can end behind a token. -/
def canEnd : Token → Bool
  | .word letters =>
    !r.words.contains letters || ["break", "continue", "fallthrough", "return"].contains letters
  | .text content => Go.canEnd (.text content)
  | .mark c => Go.canEnd (.mark c)
  | .lineEnd => false

/-- Puts semicolons at line ends, by the rule of the language with fewer keywords. -/
def terminate : Bool → List Token → List Token
  | _, [] => []
  | ends, .lineEnd :: rest => (if ends then [.mark ';'] else []) ++ terminate false rest
  | _, .word letters :: rest => .word letters :: terminate (r.canEnd (.word letters)) rest
  | _, .text content :: rest => .text content :: terminate (r.canEnd (.text content)) rest
  | _, .mark c :: rest => .mark c :: terminate (r.canEnd (.mark c)) rest

/-- The statements of a text at its top level. -/
def statements? (text : String) : Option (List (List Tree)) := do
  let tokens ← tokens? text
  let trees ← nest? [] [] (r.terminate false tokens)
  return pieces ';' trees

theorem canEnd_all (t : Token) : all.canEnd t = Go.canEnd t := by
  cases t <;> rfl

theorem terminate_all (ends : Bool) (ts : List Token) :
    all.terminate ends ts = Go.terminate ends ts := by
  induction ts generalizing ends with
  | nil => rfl
  | cons t rest ih =>
      cases t with
      | lineEnd => simp only [terminate, Go.terminate, ih]
      | word letters => simp only [terminate, Go.terminate, ih, canEnd_all]
      | text content => simp only [terminate, Go.terminate, ih, canEnd_all]; rfl
      | mark c => simp only [terminate, Go.terminate, ih, canEnd_all]

theorem statements?_all (text : String) : all.statements? text = Go.statements? text := by
  simp only [statements?, Go.statements?, terminate_all]

/-- Where a statement ends for the language, it ends for every reader. -/
theorem canEnd_of_all {t : Token} (h : all.canEnd t = true) : r.canEnd t = true := by
  cases t with
  | word letters =>
      have hwords : letters ∈ r.words → letters ∈ keywords := r.subset letters
      simp only [canEnd, all, Bool.or_eq_true, Bool.not_eq_true', List.contains_eq_mem,
        decide_eq_false_iff_not, decide_eq_true_eq] at h ⊢
      tauto
  | _ => exact h

/-- Where a statement goes on for the reader that knows no keyword, it goes on for every
reader. -/
theorem canEnd_of_none {t : Token} (h : none.canEnd t = false) : r.canEnd t = false := by
  cases t with
  | word letters => cases h
  | _ => exact h

end Reserved

/-! ## Outlines -/

/-- The name that an imported package goes by. -/
def imported? : List Tree → Option String
  | [.text path] => if isName path then some path else none
  | _ => none

/-- The name that a specification opens with. A list of names is refused. -/
def leading? : List Tree → Option String
  | [.word name] => some name
  | .word name :: next :: _ => if next.isMark ',' then none else some name
  | _ => none

/-- What stands behind a keyword: one specification, or some in brackets. -/
def specifications : List Tree → List (List Tree)
  | [.group .round content] => pieces ';' content
  | ts => [ts]

/-- The name of a function. Methods belong to their types. -/
def functionNames? : List Tree → Option (List String)
  | .group .round _ :: _ => some []
  | .word name :: _ => some [name]
  | _ => none

/-- The names that a statement declares at the top of a file. -/
def statementNames? : List Tree → Option (List String)
  | .word keyword :: rest =>
    if keyword = "package" then some []
    else if keyword = "import" then (specifications rest).mapM imported?
    else if ["type", "const", "var"].contains keyword then (specifications rest).mapM leading?
    else if keyword = "func" then functionNames? rest
    else none
  | _ => none

/-- Leaves the blank out, which is written like a name and declares none. -/
def withoutBlank (names : List String) : List String := names.filter (· != "_")

/-- The names that a text declares at its top level. -/
def Reserved.outline? (r : Reserved) (text : String) : Option (List String) := do
  let names ← (← r.statements? text).mapM statementNames?
  return withoutBlank names.flatten

theorem withoutBlank_append (a b : List String) :
    withoutBlank (a ++ b) = withoutBlank a ++ withoutBlank b :=
  List.filter_append ..

/-! ## Outlines of programs -/

theorem leading?_of_typed? {ts : List Tree} {t : String × String} (h : typed? ts = some t) :
    leading? ts = some t.1 ∧ specifications ts = [ts] := by
  rw [typed?.eq_def] at h
  split at h
  · split at h
    · cases h
      exact ⟨rfl, rfl⟩
    · cases h
  · cases h

theorem leading?_of_constantSpec? {ts : List Tree} {spec : ConstantSpec}
    (h : constantSpec? ts = some spec) :
    leading? ts = some spec.name ∧ specifications ts = [ts] := by
  rw [constantSpec?.eq_def] at h
  split at h
  · split at h
    · cases h
      exact ⟨rfl, rfl⟩
    · cases h
  · split at h
    · rename_i hcond
      obtain ⟨v, -, rfl⟩ := Option.map_eq_some_iff.mp h
      simp only [Bool.and_eq_true, decide_eq_true_eq] at hcond
      obtain ⟨rfl, -⟩ := hcond
      exact ⟨rfl, rfl⟩
    · cases h
  · split at h
    · obtain ⟨v, -, rfl⟩ := Option.map_eq_some_iff.mp h
      exact ⟨rfl, rfl⟩
    · cases h
  · cases h

theorem names_of_typeDeclaration? {ts : List Tree} {d : Declaration}
    (h : typeDeclaration? ts = some d) :
    (specifications ts).mapM leading? = some d.names := by
  rw [typeDeclaration?.eq_def] at h
  split at h
  · split at h
    · obtain ⟨fields, -, rfl⟩ := Option.map_eq_some_iff.mp h
      rfl
    · cases h
  · obtain ⟨t, ht, rfl⟩ := Option.map_eq_some_iff.mp h
    obtain ⟨hname, hone⟩ := leading?_of_typed? ht
    simp [hone, hname, Declaration.names]

/-- Specifications open with the names of the constants that they are read as. -/
theorem mapM_leading?_of_constantSpec? {pieces : List (List Tree)} {specs : List ConstantSpec}
    (h : pieces.mapM constantSpec? = some specs) :
    pieces.mapM leading? = some (specs.map (·.name)) := by
  induction pieces generalizing specs with
  | nil => cases h; rfl
  | cons ts rest ih =>
      simp only [List.mapM_cons, Option.bind_eq_bind, Option.bind_eq_some_iff, Option.pure_def,
        Option.some.injEq] at h
      obtain ⟨spec, hspec, others, hothers, rfl⟩ := h
      simp [(leading?_of_constantSpec? hspec).1, ih hothers]

theorem names_of_constDeclaration? {ts : List Tree} {d : Declaration}
    (h : constDeclaration? ts = some d) :
    (specifications ts).mapM leading? = some d.names := by
  rw [constDeclaration?.eq_def] at h
  split at h
  · obtain ⟨specs, hspecs, rfl⟩ := Option.map_eq_some_iff.mp h
    exact mapM_leading?_of_constantSpec? hspecs
  · obtain ⟨spec, hspec, rfl⟩ := Option.map_eq_some_iff.mp h
    obtain ⟨hname, hone⟩ := leading?_of_constantSpec? hspec
    simp [hone, hname, Declaration.names]

theorem names_of_varDeclaration? {ts : List Tree} {d : Declaration}
    (h : varDeclaration? ts = some d) :
    (specifications ts).mapM leading? = some ["_"] ∧ d.names = [] := by
  rw [varDeclaration?.eq_def] at h
  split at h
  · split at h
    · rename_i hcond
      simp only [Bool.and_eq_true, decide_eq_true_eq] at hcond
      obtain ⟨⟨⟨rfl, rfl⟩, -⟩, -⟩ := hcond
      obtain ⟨elements, -, rfl⟩ := Option.map_eq_some_iff.mp h
      exact ⟨rfl, rfl⟩
    · cases h
  · cases h

theorem name_of_signature? {receiver : Option Receiver} {ts : List Tree} {f : Function}
    (h : signature? receiver ts = some f) :
    f.receiver = receiver ∧ ∃ rest, ts = .word f.name :: rest := by
  rw [signature?.eq_def] at h
  split at h
  · split at h
    · simp only [Option.bind_eq_bind, Option.bind_eq_some_iff, Option.pure_def,
        Option.some.injEq] at h
      obtain ⟨parameters, -, body, -, rfl⟩ := h
      exact ⟨rfl, _, rfl⟩
    · cases h
  · split at h
    · simp only [Option.bind_eq_bind, Option.bind_eq_some_iff, Option.pure_def,
        Option.some.injEq] at h
      obtain ⟨parameters, -, results, -, body, -, rfl⟩ := h
      exact ⟨rfl, _, rfl⟩
    · cases h
  · cases h

theorem names_of_function? {ts : List Tree} {f : Function} (h : function? ts = some f) :
    functionNames? ts = some (Declaration.function f).names := by
  rw [function?.eq_def] at h
  split at h
  · obtain ⟨receiver, -, hsignature⟩ := Option.bind_eq_some_iff.mp h
    obtain ⟨hreceiver, -⟩ := name_of_signature? hsignature
    simp [functionNames?, Declaration.names, hreceiver]
  · obtain ⟨hreceiver, rest, rfl⟩ := name_of_signature? h
    simp [functionNames?, Declaration.names, hreceiver]

theorem names_of_importDeclaration? {ts : List Tree} {d : Declaration}
    (h : importDeclaration? ts = some d) :
    (specifications ts).mapM imported? = some d.names := by
  rw [importDeclaration?.eq_def] at h
  split at h
  · split at h
    · rename_i hname
      cases h
      simp [specifications, imported?, hname, Declaration.names]
    · cases h
  · cases h

/-- A statement that is read as a declaration has the names of the declaration. -/
theorem names_of_declaration? {ts : List Tree} {d : Declaration} (h : declaration? ts = some d) :
    ∃ names, statementNames? ts = some names ∧ withoutBlank names = withoutBlank d.names := by
  rw [declaration?.eq_def] at h
  split at h
  · rename_i keyword rest
    split at h
    · rename_i heq
      exact ⟨d.names, by simp [heq, statementNames?, names_of_importDeclaration? h], rfl⟩
    split at h
    · rename_i heq
      exact ⟨d.names, by simp [heq, statementNames?, names_of_typeDeclaration? h], rfl⟩
    split at h
    · rename_i heq
      exact ⟨d.names, by simp [heq, statementNames?, names_of_constDeclaration? h], rfl⟩
    split at h
    · rename_i heq
      obtain ⟨hblank, hnone⟩ := names_of_varDeclaration? h
      exact ⟨["_"], by simp [heq, statementNames?, hblank], by rw [hnone]; rfl⟩
    split at h
    · rename_i heq
      obtain ⟨f, hf, rfl⟩ := Option.map_eq_some_iff.mp h
      exact ⟨_, by simp [heq, statementNames?, names_of_function? hf], rfl⟩
    · cases h
  · cases h

theorem mapM_statementNames?_of_declaration? {statements : List (List Tree)}
    {ds : List Declaration} (h : statements.mapM declaration? = some ds) :
    ∃ names, statements.mapM statementNames? = some names ∧
      withoutBlank names.flatten = withoutBlank (ds.flatMap Declaration.names) := by
  induction statements generalizing ds with
  | nil => cases h; exact ⟨[], rfl, rfl⟩
  | cons ts rest ih =>
      simp only [List.mapM_cons, Option.bind_eq_bind, Option.bind_eq_some_iff, Option.pure_def,
        Option.some.injEq] at h
      obtain ⟨d, hd, others, hothers, rfl⟩ := h
      obtain ⟨first, hfirst, hsame⟩ := names_of_declaration? hd
      obtain ⟨names, hnames, hrest⟩ := ih hothers
      refine ⟨first :: names, by simp [hfirst, hnames], ?_⟩
      rw [List.flatten_cons, List.flatMap_cons, withoutBlank_append, withoutBlank_append, hsame,
        hrest]

/-- The outline of a program is what it declares. -/
theorem outline?_of_program? {text : String} {p : Program} (h : program? text = some p) :
    Reserved.all.outline? text = some (withoutBlank p.names) := by
  simp only [program?, Option.bind_eq_bind, Option.bind_eq_some_iff, Option.pure_def,
    Option.some.injEq] at h
  obtain ⟨statements, hstatements, ds, hds, rfl⟩ := h
  obtain ⟨names, hnames, hsame⟩ := mapM_statementNames?_of_declaration? hds
  simp [Reserved.outline?, Reserved.statements?_all, hstatements, hnames, hsame, Program.names]

end EnumBindings.Go
