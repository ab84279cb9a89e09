import EnumBindings.Proofs.Source.Token

/-!
# Scanning line by line

Generated text is put together from lines, and a line from literal parts with names and quoted
texts between them. The lemmas here follow that structure: `Scans.literal`, `Scans.word` and
`Scans.quoted` take a line apart from the left, `Spells` says what tokens a whole line gives,
and `Reads` what remains of the tokens of some lines once a language has laid them out, which
for one is to drop the line ends and for another to put semicolons there.
-/

namespace EnumBindings.Source

open EnumBindings.Text

/-! ## Parts of a line -/

/-- A literal part. What it scans to is a computation on its characters, so a literal is taken
as the text made of them. -/
theorem Scans.literal {p q r : Phase} {part cs : List Char} {us : List Token}
    (ts : List Token) (h : scan p part = (q, ts)) (tail : Scans q cs r us) :
    Scans p ((String.ofList part).toList ++ cs) r (ts ++ us) := by
  rw [String.toList_ofList]
  exact Scans.append h tail

/-- Whether characters end a word that stands before them. -/
def stops : List Char → Bool
  | [] => false
  | c :: _ => !Name.isIdentifierRest c

theorem Scans.word {r : Phase} {letters : String} {cs : List Char} {ts : List Token}
    (h : IsWord letters) (hstops : stops cs = true) (tail : Scans .between cs r ts) :
    Scans .between (letters.toList ++ cs) r (.word letters :: ts) := by
  refine (scans_word h).append ?_
  unfold Scans at *
  cases cs with
  | nil => cases hstops
  | cons c rest =>
      -- the character behind the word ends it and begins a token of its own
      have hc : step (.word letters.toList) c =
          ((start c).1, .word letters :: (start c).2) := by
        have hstop : Name.isIdentifierRest c = false := by simpa [stops] using hstops
        simp [step, hstop]
      rw [scan] at tail ⊢
      obtain ⟨hphase, htokens⟩ := Prod.mk.inj tail
      rw [hc, List.cons_append]
      exact Prod.ext hphase (congrArg (Token.word letters :: ·) htokens)

/-- A quoted text behind its opening quote, with the literal part that closes it. -/
theorem Scans.quoted {r : Phase} {content close : String} {behind cs : List Char}
    {ts us : List Token} (h : IsPlain content) (hclose : close.toList = '"' :: behind)
    (hbehind : scan .between behind = (.between, ts)) (tail : Scans .between cs r us) :
    Scans (.text []) (content.toList ++ (close.toList ++ cs)) r
      (.text content :: (ts ++ us)) := by
  refine (scans_content [] h).append ?_
  have hquote : Scans (.text content.toList) ['"'] .between [.text content] := by
    simp [Scans, scan, step]
  rw [hclose]
  exact hquote.append (Scans.append hbehind tail)

/-- Part of a comment. -/
theorem Scans.comment {r : Phase} {content : String} {cs : List Char} {ts : List Token}
    (h : '\n' ∉ content.toList) (tail : Scans .comment cs r ts) :
    Scans .comment (content.toList ++ cs) r ts :=
  (scans_comment h).append tail

/-- Blanks that fill a column give nothing. -/
theorem Scans.blanks {r : Phase} {cs : List Char} {ts : List Token} (n : Nat)
    (tail : Scans .between cs r ts) : Scans .between ((blanks n).toList ++ cs) r ts := by
  rw [Text.blanks, String.toList_ofList]
  induction n with
  | zero => exact tail
  | succ n ih =>
      have hblank : Scans .between [' '] .between [] := rfl
      exact hblank.append ih

theorem stops_blanks {cs : List Char} (n : Nat) (h : stops cs = true) :
    stops ((blanks n).toList ++ cs) = true := by
  cases n with
  | zero => exact h
  | succ n => rw [blanks, String.toList_ofList]; rfl

theorem IsWord.noLineBreak {letters : String} (h : IsWord letters) : '\n' ∉ letters.toList :=
  fun hmem => absurd (h.letters _ hmem) (by decide)

/-! ## Lines -/

/-- A line gives some tokens, and its line end. -/
def Spells (line : String) (tokens : List Token) : Prop :=
  Scans .between (line.toList ++ ['\n']) .between (tokens ++ [.lineEnd])

/-- A line that is one literal. -/
theorem spells_literal {line : List Char} {ts : List Token}
    (h : scan .between (line ++ ['\n']) = (.between, ts ++ [.lineEnd])) :
    Spells (String.ofList line) ts := by
  rw [Spells, String.toList_ofList]
  exact h

theorem spells_empty : Spells "" [] := rfl

/-- A comment gives nothing but its line end. -/
theorem spells_comment {content : String} (h : '\n' ∉ content.toList) :
    Spells ("// " ++ content) [] := by
  have hopen : Scans .between "// ".toList .comment [] := rfl
  have hend : Scans .comment ['\n'] .between [.lineEnd] := rfl
  rw [Spells, String.toList_append, List.append_assoc]
  exact hopen.append ((scans_comment h).append hend)

theorem scans_unlines_singleton {line : String} {tokens : List Token} (h : Spells line tokens) :
    Scans .between (unlines [line]).toList .between (tokens ++ [.lineEnd]) := by
  have hlist : (unlines [line]).toList = line.toList ++ ['\n'] := by
    simp [unlines, String.join]
  rw [hlist]
  exact h

/-- Some lines give tokens once a language has laid them out, whatever stands behind them. -/
def Reads (lay : List Token → List Token) (lines : List String) (tokens : List Token) : Prop :=
  ∃ scanned, Scans .between (unlines lines).toList .between scanned ∧
    ∀ rest, lay (scanned ++ rest) = tokens ++ lay rest

section Reads

variable {lay : List Token → List Token}

theorem Reads.nil : Reads lay [] [] :=
  ⟨[], rfl, fun _ => rfl⟩

theorem Reads.line {line : String} {scanned tokens : List Token} (h : Spells line scanned)
    (hlay : ∀ rest, lay (scanned ++ .lineEnd :: rest) = tokens ++ lay rest) :
    Reads lay [line] tokens := by
  refine ⟨scanned ++ [.lineEnd], scans_unlines_singleton h, fun rest => ?_⟩
  rw [List.append_assoc]
  exact hlay rest

theorem Reads.append {a b : List String} {ts us : List Token} (first : Reads lay a ts)
    (second : Reads lay b us) : Reads lay (a ++ b) (ts ++ us) := by
  obtain ⟨sa, ha, hlayA⟩ := first
  obtain ⟨sb, hb, hlayB⟩ := second
  refine ⟨sa ++ sb, ?_, fun rest => ?_⟩
  · rw [unlines_append, String.toList_append]
    exact ha.append hb
  · rw [List.append_assoc, hlayA, hlayB, List.append_assoc]

theorem Reads.cons {line : String} {lines : List String} {ts us : List Token}
    (first : Reads lay [line] ts) (second : Reads lay lines us) :
    Reads lay (line :: lines) (ts ++ us) :=
  first.append second

theorem Reads.flatMap {α : Type} {xs : List α} {f : α → List String} {g : α → List Token}
    (h : ∀ x ∈ xs, Reads lay (f x) (g x)) : Reads lay (xs.flatMap f) (xs.flatMap g) := by
  induction xs with
  | nil => exact Reads.nil
  | cons x rest ih =>
      rw [List.flatMap_cons, List.flatMap_cons]
      exact (h x List.mem_cons_self).append (ih fun y hy => h y (List.mem_cons_of_mem _ hy))

theorem Reads.map {α : Type} {xs : List α} {f : α → String} {g : α → List Token}
    (h : ∀ x ∈ xs, Reads lay [f x] (g x)) : Reads lay (xs.map f) (xs.flatMap g) := by
  rw [← List.flatMap_singleton' (xs.map f), List.flatMap_map]
  exact Reads.flatMap h

/-- Lines that give nothing, where empty lines leave nothing behind. -/
theorem Reads.nothing {lines : List String} (h : ∀ line ∈ lines, Spells line [])
    (hlay : ∀ rest, lay (.lineEnd :: rest) = lay rest) : Reads lay lines [] := by
  induction lines with
  | nil => exact Reads.nil
  | cons line rest ih =>
      have hrest := ih fun other hother => h other (List.mem_cons_of_mem _ hother)
      have hline : Reads lay [line] [] := Reads.line (h line List.mem_cons_self) hlay
      exact hline.cons hrest

/-- The tokens of a text that ends with its last line. -/
theorem Reads.tokens? {lines : List String} {ts : List Token} (h : Reads lay lines ts)
    (hnil : lay [] = []) :
    ∃ scanned, tokens? (unlines lines) = some scanned ∧ lay scanned = ts := by
  obtain ⟨scanned, hscan, hlay⟩ := h
  refine ⟨scanned, ?_, ?_⟩
  · rw [Source.tokens?, show scan .between (unlines lines).toList = (.between, scanned) from hscan]
  · simpa [hnil] using hlay []

end Reads

end EnumBindings.Source
