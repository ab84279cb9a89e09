import EnumBindings.Proofs.Source.Token

/-!
# Token trees

Behind the tokens stands the nesting of brackets. `nest?` reads it in one pass with a stack of
open brackets; `flat` writes a tree out again, and what it writes is read back as the same tree
(`nest?_flat`). Every construct of the target languages is a sequence of trees between
separators, which `pieces` takes apart.
-/

namespace EnumBindings.Source

/-- The pairs of brackets. -/
inductive Bracket where
  | round
  | square
  | curly
deriving Repr, DecidableEq

namespace Bracket

def opening : Bracket → Char
  | round => '('
  | square => '['
  | curly => '\x7b'

def closing : Bracket → Char
  | round => ')'
  | square => ']'
  | curly => '\x7d'

/-- The bracket that a mark opens. -/
def opened? (c : Char) : Option Bracket :=
  if c = '(' then some round else if c = '[' then some square
  else if c = '\x7b' then some curly else none

/-- The bracket that a mark closes. -/
def closed? (c : Char) : Option Bracket :=
  if c = ')' then some round else if c = ']' then some square
  else if c = '\x7d' then some curly else none

end Bracket

/-- A token, or what stands in a pair of brackets. -/
inductive Tree where
  | word (letters : String)
  | text (content : String)
  | mark (c : Char)
  | group (bracket : Bracket) (content : List Tree)
deriving Repr

/-- Reads the nesting of tokens, given the open brackets with what stands before each of them,
and the trees read since the last of them. -/
def nest? : List (Bracket × List Tree) → List Tree → List Token → Option (List Tree)
  | outer, inner, [] => if outer.isEmpty then some inner else none
  | outer, inner, .word letters :: rest => nest? outer (inner ++ [.word letters]) rest
  | outer, inner, .text content :: rest => nest? outer (inner ++ [.text content]) rest
  | _, _, .lineEnd :: _ => none
  | outer, inner, .mark c :: rest =>
    match Bracket.opened? c, Bracket.closed? c, outer with
    | some b, _, _ => nest? ((b, inner) :: outer) [] rest
    | none, none, _ => nest? outer (inner ++ [.mark c]) rest
    | none, some _, [] => none
    | none, some b, (open?, before) :: outer =>
      if b = open? then nest? outer (before ++ [.group b inner]) rest else none

theorem nest?_opening (b : Bracket) (outer : List (Bracket × List Tree)) (inner : List Tree)
    (rest : List Token) :
    nest? outer inner (.mark b.opening :: rest) = nest? ((b, inner) :: outer) [] rest := by
  cases b <;> rfl

theorem nest?_closing (b : Bracket) (outer : List (Bracket × List Tree))
    (before inner : List Tree) (rest : List Token) :
    nest? ((b, before) :: outer) inner (.mark b.closing :: rest) =
      nest? outer (before ++ [.group b inner]) rest := by
  cases b <;> rfl

mutual

/-- The tokens of a tree. -/
def Tree.tokens : Tree → List Token
  | .word letters => [.word letters]
  | .text content => [.text content]
  | .mark c => [.mark c]
  | .group b content => .mark b.opening :: (flat content ++ [.mark b.closing])

/-- The tokens of some trees. -/
def flat : List Tree → List Token
  | [] => []
  | t :: rest => t.tokens ++ flat rest

end

mutual

/-- No mark in a tree is a bracket. -/
def Tree.Proper : Tree → Prop
  | .word _ => True
  | .text _ => True
  | .mark c => Bracket.opened? c = none ∧ Bracket.closed? c = none
  | .group _ content => AllProper content

/-- No mark in some trees is a bracket. -/
def AllProper : List Tree → Prop
  | [] => True
  | t :: rest => t.Proper ∧ AllProper rest

end

@[simp]
theorem flat_append (a b : List Tree) : flat (a ++ b) = flat a ++ flat b := by
  induction a with
  | nil => rfl
  | cons t rest ih => rw [List.cons_append, flat, flat, ih, List.append_assoc]

@[simp]
theorem allProper_append (a b : List Tree) :
    AllProper (a ++ b) ↔ AllProper a ∧ AllProper b := by
  induction a with
  | nil => simp [AllProper]
  | cons t rest ih => rw [List.cons_append, AllProper, AllProper, ih, and_assoc]

theorem flat_flatMap {α : Type} (xs : List α) (f : α → List Tree) :
    flat (xs.flatMap f) = xs.flatMap fun x => flat (f x) := by
  induction xs with
  | nil => rfl
  | cons x rest ih => rw [List.flatMap_cons, List.flatMap_cons, flat_append, ih]

theorem allProper_flatMap {α : Type} {xs : List α} {f : α → List Tree}
    (h : ∀ x ∈ xs, AllProper (f x)) : AllProper (xs.flatMap f) := by
  induction xs with
  | nil => trivial
  | cons x rest ih =>
      rw [List.flatMap_cons, allProper_append]
      exact ⟨h x List.mem_cons_self, ih fun y hy => h y (List.mem_cons_of_mem _ hy)⟩

mutual

theorem lineEnd_not_mem_tokens (t : Tree) : .lineEnd ∉ t.tokens := by
  match t with
  | .word letters => simp [Tree.tokens]
  | .text content => simp [Tree.tokens]
  | .mark c => simp [Tree.tokens]
  | .group b content => simp [Tree.tokens, lineEnd_not_mem_flat content]

/-- Trees do not know where lines end. -/
theorem lineEnd_not_mem_flat (ts : List Tree) : .lineEnd ∉ flat ts := by
  match ts with
  | [] => simp [flat]
  | t :: ts => simp [flat, lineEnd_not_mem_tokens t, lineEnd_not_mem_flat ts]

end

mutual

theorem nest?_tokens (t : Tree) (h : t.Proper) (outer : List (Bracket × List Tree))
    (inner : List Tree) (rest : List Token) :
    nest? outer inner (t.tokens ++ rest) = nest? outer (inner ++ [t]) rest := by
  match t with
  | .word letters => rfl
  | .text content => rfl
  | .mark c =>
      obtain ⟨hopen, hclose⟩ := h
      simp only [Tree.tokens, List.singleton_append, nest?, hopen, hclose]
  | .group b content =>
      -- the opening bracket puts away what stands before, the closing one takes it back
      rw [Tree.tokens, List.cons_append, List.append_assoc, List.singleton_append,
        nest?_opening, nest?_flat content h, nest?_closing, List.nil_append]

/-- Trees that were written out are read back. -/
theorem nest?_flat (ts : List Tree) (h : AllProper ts) (outer : List (Bracket × List Tree))
    (inner : List Tree) (rest : List Token) :
    nest? outer inner (flat ts ++ rest) = nest? outer (inner ++ ts) rest := by
  match ts with
  | [] => rw [flat, List.nil_append, List.append_nil]
  | t :: ts =>
      obtain ⟨ht, hts⟩ := h
      rw [flat, List.append_assoc, nest?_tokens t ht, nest?_flat ts hts, List.append_assoc]
      rfl

end

/-! ## Separators -/

/-- Whether a tree is a given mark. -/
def Tree.isMark (separator : Char) : Tree → Bool
  | .mark c => c == separator
  | _ => false

/-- What stands between separators. Behind the last one nothing need follow. -/
def pieces (separator : Char) : List Tree → List (List Tree)
  | [] => []
  | t :: rest =>
    if t.isMark separator then [] :: pieces separator rest
    else
      match pieces separator rest with
      | [] => [[t]]
      | first :: others => (t :: first) :: others

/-- Sequences, each ended by a separator. -/
def ended (separator : Char) (sequences : List (List Tree)) : List Tree :=
  sequences.flatMap (· ++ [.mark separator])

theorem ended_append (separator : Char) (a b : List (List Tree)) :
    ended separator (a ++ b) = ended separator a ++ ended separator b :=
  List.flatMap_append

theorem allProper_ended {separator : Char} {sequences : List (List Tree)}
    (h : ∀ ts ∈ sequences, AllProper ts) (hseparator : (Tree.mark separator).Proper) :
    AllProper (ended separator sequences) :=
  allProper_flatMap fun ts hts => (allProper_append _ _).mpr ⟨h ts hts, hseparator, trivial⟩

theorem pieces_append_separator {separator : Char} {ts : List Tree}
    (h : ∀ t ∈ ts, t.isMark separator = false) (rest : List Tree) :
    pieces separator (ts ++ .mark separator :: rest) = ts :: pieces separator rest := by
  induction ts with
  | nil => simp [pieces, Tree.isMark]
  | cons t ts ih =>
      have hrest := ih fun u hu => h u (List.mem_cons_of_mem _ hu)
      rw [List.cons_append, pieces, h t List.mem_cons_self, hrest]
      rfl

/-- A sequence without separators is one piece. -/
theorem pieces_eq_singleton {separator : Char} {t : Tree} {ts : List Tree}
    (h : ∀ u ∈ t :: ts, u.isMark separator = false) : pieces separator (t :: ts) = [t :: ts] := by
  induction ts generalizing t with
  | nil => simp [pieces, h t List.mem_cons_self]
  | cons u ts ih =>
      have hrest := ih fun x hx => h x (List.mem_cons_of_mem _ hx)
      rw [pieces, h t List.mem_cons_self, hrest]
      rfl

/-- Ended sequences are taken apart again. -/
theorem pieces_ended {separator : Char} {sequences : List (List Tree)}
    (h : ∀ ts ∈ sequences, ∀ t ∈ ts, t.isMark separator = false) :
    pieces separator (ended separator sequences) = sequences := by
  induction sequences with
  | nil => rfl
  | cons ts rest ih =>
      have hrest := ih fun us hus => h us (List.mem_cons_of_mem _ hus)
      rw [ended, List.flatMap_cons, List.append_assoc, List.singleton_append,
        pieces_append_separator (h ts List.mem_cons_self)]
      exact congrArg (ts :: ·) hrest

/-- Reading each of some things that were written one by one. -/
theorem mapM_map_eq_some {α β γ : Type} {xs : List α} {write : α → β} {read : β → Option γ}
    {mean : α → γ} (h : ∀ x ∈ xs, read (write x) = some (mean x)) :
    (xs.map write).mapM read = some (xs.map mean) := by
  induction xs with
  | nil => rfl
  | cons x rest ih =>
      have hrest := ih fun y hy => h y (List.mem_cons_of_mem _ hy)
      rw [List.map_cons, List.mapM_cons, h x List.mem_cons_self, hrest]
      rfl

/-- Reads the last of some things in another way than those before it. -/
def initAndLast? {α β γ : Type} (read : α → Option β) (readLast : α → Option γ) :
    List α → Option (List β × γ)
  | [] => none
  | [last] => (readLast last).map ([], ·)
  | first :: rest => do
    let b ← read first
    let (others, last) ← initAndLast? read readLast rest
    return (b :: others, last)

theorem initAndLast?_append {α β γ : Type} {read : α → Option β} {readLast : α → Option γ}
    {init : List α} {last : α} {bs : List β} {c : γ} (hinit : init.mapM read = some bs)
    (hlast : readLast last = some c) :
    initAndLast? read readLast (init ++ [last]) = some (bs, c) := by
  induction init generalizing bs with
  | nil =>
      cases hinit
      simp [initAndLast?, hlast]
  | cons first rest ih =>
      rw [List.mapM_cons] at hinit
      cases hfirst : read first with
      | none => simp [hfirst] at hinit
      | some b =>
          cases hrest : rest.mapM read with
          | none => simp [hfirst, hrest] at hinit
          | some others =>
              simp only [hfirst, hrest, Option.bind_eq_bind, Option.bind_some, Option.pure_def,
                Option.some.injEq] at hinit
              subst hinit
              have hmore := ih hrest
              -- the rest is not empty, so the first is not read as the last
              cases hlist : rest ++ [last] with
              | nil => simp at hlist
              | cons next tail =>
                  rw [hlist] at hmore
                  simp [hlist, initAndLast?, hfirst, hmore]

theorem flatten_flatMap {α β : Type} (xs : List α) (f : α → List (List β)) :
    (xs.flatMap f).flatten = xs.flatMap fun x => (f x).flatten := by
  induction xs with
  | nil => rfl
  | cons x rest ih => rw [List.flatMap_cons, List.flatten_append, ih, List.flatMap_cons]

theorem mapM_flatMap_eq_some {α β γ : Type} {xs : List α} {write : α → List β}
    {read : β → Option γ} {mean : α → List γ}
    (h : ∀ x ∈ xs, (write x).mapM read = some (mean x)) :
    (xs.flatMap write).mapM read = some (xs.flatMap mean) := by
  induction xs with
  | nil => rfl
  | cons x rest ih =>
      have hrest := ih fun y hy => h y (List.mem_cons_of_mem _ hy)
      rw [List.flatMap_cons, List.mapM_append, h x List.mem_cons_self, hrest]
      rfl

end EnumBindings.Source
