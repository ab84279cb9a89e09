import EnumBindings.Name.Identifier
import EnumBindings.Text.Lines

/-!
# Tokens of source text

A reader of source text first cuts it into words (identifiers, keywords and numerals alike),
quoted texts, marks of punctuation and line ends. Blanks separate and line comments count as
blanks. `step` moves between the phases of that cut by one character, so the scan of a text is
put together from the scans of its parts (`Scans.append`).

Only what the target languages have in common is scanned. Escapes in quoted texts, quoted texts
of several lines and block comments are refused, never read in another sense.
-/

namespace EnumBindings.Source

open EnumBindings.Text

/-- The smallest parts of source text. -/
inductive Token where
  | word (letters : String)
  | text (content : String)
  | mark (c : Char)
  | lineEnd
deriving Repr, DecidableEq

/-- Where a scan stands, with what it has read of an unfinished token. -/
inductive Phase where
  | between
  | word (letters : List Char)
  | text (content : List Char)
  /-- Behind a slash that can only open a comment. -/
  | slash
  | comment
  | refused
deriving Repr, DecidableEq

/-- What a character begins where no token is unfinished. -/
def start (c : Char) : Phase × List Token :=
  if Name.isIdentifierRest c then (.word [c], [])
  else if c = '"' then (.text [], [])
  else if c = '/' then (.slash, [])
  else if c = '\n' then (.between, [.lineEnd])
  else if c = ' ' ∨ c = '\t' then (.between, [])
  else (.between, [.mark c])

/-- The next phase, and the tokens that a character ends. -/
def step : Phase → Char → Phase × List Token
  | .between, c => start c
  | .word letters, c =>
    if Name.isIdentifierRest c then (.word (letters ++ [c]), [])
    else ((start c).1, .word (String.ofList letters) :: (start c).2)
  | .text content, c =>
    if c = '"' then (.between, [.text (String.ofList content)])
    else if c = '\\' ∨ c = '\n' then (.refused, [])
    else (.text (content ++ [c]), [])
  | .slash, c => if c = '/' then (.comment, []) else (.refused, [])
  | .comment, c => if c = '\n' then (.between, [.lineEnd]) else (.comment, [])
  | .refused, _ => (.refused, [])

/-- Scans characters from a phase on. -/
def scan : Phase → List Char → Phase × List Token
  | phase, [] => (phase, [])
  | phase, c :: rest =>
    ((scan (step phase c).1 rest).1, (step phase c).2 ++ (scan (step phase c).1 rest).2)

/-- The tokens of a text, unless it is refused or stops inside a token. -/
def tokens? (text : String) : Option (List Token) :=
  match scan .between text.toList with
  | (.between, tokens) => some tokens
  | _ => none

/-! ## Scans of parts -/

/-- Some characters lead from one phase to another and give tokens on the way. -/
def Scans (before : Phase) (cs : List Char) (behind : Phase) (tokens : List Token) : Prop :=
  scan before cs = (behind, tokens)

theorem Scans.append {p q r : Phase} {a b : List Char} {ts us : List Token}
    (first : Scans p a q ts) (second : Scans q b r us) : Scans p (a ++ b) r (ts ++ us) := by
  unfold Scans at *
  induction a generalizing p ts with
  | nil =>
      cases first
      exact second
  | cons c rest ih =>
      rw [scan] at first
      obtain ⟨hphase, htokens⟩ := Prod.mk.inj first
      have htail : scan (step p c).1 (rest ++ b) =
          (r, (scan (step p c).1 rest).2 ++ us) := ih (Prod.ext hphase rfl)
      rw [List.cons_append, scan, htail, ← htokens, List.append_assoc]

/-- A text of letters, digits and underscores. -/
structure IsWord (letters : String) : Prop where
  nonempty : letters.toList ≠ []
  letters : ∀ c ∈ letters.toList, Name.isIdentifierRest c = true

/-- A text that needs no escapes between quotes. -/
def IsPlain (content : String) : Prop :=
  ∀ c ∈ content.toList, c ≠ '"' ∧ c ≠ '\\' ∧ c ≠ '\n'

theorem scans_letters (letters : List Char) {cs : List Char}
    (h : ∀ c ∈ cs, Name.isIdentifierRest c = true) :
    Scans (.word letters) cs (.word (letters ++ cs)) [] := by
  unfold Scans
  induction cs generalizing letters with
  | nil => rw [List.append_nil]; rfl
  | cons c rest ih =>
      have hc : step (.word letters) c = (.word (letters ++ [c]), []) := by
        simp [step, h c List.mem_cons_self]
      rw [scan, hc, ih (letters ++ [c]) fun d hd => h d (List.mem_cons_of_mem _ hd),
        List.append_assoc]
      rfl

/-- A word opens where no token is unfinished. -/
theorem scans_word {letters : String} (h : IsWord letters) :
    Scans .between letters.toList (.word letters.toList) [] := by
  cases hlist : letters.toList with
  | nil => exact absurd hlist h.nonempty
  | cons c rest =>
      have hall := h.letters
      rw [hlist] at hall
      have hc : step .between c = (.word [c], []) := by
        simp [step, start, hall c List.mem_cons_self]
      have hrest := scans_letters [c] fun d hd => hall d (List.mem_cons_of_mem _ hd)
      unfold Scans at *
      -- the first letter opens the word, the others go on with it
      rw [scan, hc, hrest]
      rfl

theorem scans_content (content : List Char) {cs : List Char}
    (h : ∀ c ∈ cs, c ≠ '"' ∧ c ≠ '\\' ∧ c ≠ '\n') :
    Scans (.text content) cs (.text (content ++ cs)) [] := by
  unfold Scans
  induction cs generalizing content with
  | nil => rw [List.append_nil]; rfl
  | cons c rest ih =>
      obtain ⟨hquote, hslash, hline⟩ := h c List.mem_cons_self
      have hc : step (.text content) c = (.text (content ++ [c]), []) := by
        simp [step, hquote, hslash, hline]
      rw [scan, hc, ih (content ++ [c]) fun d hd => h d (List.mem_cons_of_mem _ hd),
        List.append_assoc]
      rfl

theorem scans_comment {cs : List Char} (h : '\n' ∉ cs) : Scans .comment cs .comment [] := by
  unfold Scans
  induction cs with
  | nil => rfl
  | cons c rest ih =>
      rw [List.mem_cons, not_or] at h
      have hc : step .comment c = (.comment, []) := by
        simp [step, Ne.symm h.1]
      rw [scan, hc, ih h.2]
      rfl

end EnumBindings.Source
