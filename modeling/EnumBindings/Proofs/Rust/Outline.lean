import EnumBindings.Proofs.Rust.Meaning

/-!
# Outlines of Rust texts

The outline of a text lists the names that its items give to the module, as often as they are
given, and `inherent?` lists the names that are implemented for each type without a trait. Both
need the openings of items alone and take every word for a name, keywords too, so a text has an
outline where it is no module. Where it is read as one, they are what the module declares
(`outline?_of_module?`, `inherent?_of_module?`).
-/

namespace EnumBindings.Rust

open EnumBindings.Source

/-! ## Openings -/

/-- An item without its attributes and the mark of its visibility. -/
def bare (chunk : List Tree × Option (List Tree)) : List Tree × Option (List Tree) :=
  (unmarked (attributed chunk.1).2, chunk.2)

/-- The items of a text, each as its opening and what it holds in braces. -/
def openings? (text : String) : Option (List (List Tree × Option (List Tree))) := do
  let trees ← nest? [] [] (joined (← tokens? text))
  return (← chunks? [] trees).map bare

/-- The names that an item gives to the module. -/
def itemNames? : List Tree × Option (List Tree) → Option (List String)
  | (.word "use" :: path, none) => (path? path).map fun names => names.getLast?.toList
  | (.word "struct" :: .word name :: _, _) => some [name]
  | (.word "static" :: .word name :: .mark ':' :: _, none) => some [name]
  | (.word "impl" :: _, some _) => some []
  | _ => none

/-- The name of an associated item behind the mark of its visibility. -/
def bareName? : List Tree × Option (List Tree) → Option String
  | (.word "const" :: .word "fn" :: .word name :: _, some _) => some name
  | (.word "fn" :: .word name :: _, some _) => some name
  | (.word "const" :: .word name :: .mark ':' :: _, none) => some name
  | (.word "type" :: .word name :: .mark '=' :: _, none) => some name
  | _ => none

def associatedName? (chunk : List Tree × Option (List Tree)) : Option String :=
  bareName? (unmarked chunk.1, chunk.2)

/-- The type of an item that implements no trait, with the names in its braces. -/
def inherentNames? : List Tree × Option (List Tree) → Option (List (String × List String))
  | ([.word "impl", .word type], some content) => do
    return [(type, ← (← chunks? [] content).mapM associatedName?)]
  | _ => some []

/-! ## Outlines -/

/-- The names that a text gives to its module. -/
def outline? (text : String) : Option (List String) := do
  return (← (← openings? text).mapM itemNames?).flatten

/-- The types for which a text implements no trait, with the names of each such item. -/
def inherent? (text : String) : Option (List (String × List String)) := do
  return (← (← openings? text).mapM inherentNames?).flatten

/-- What an item implements without a trait. -/
def Kind.inherentNames : Kind → List (String × List String)
  | implementation none type items => [(type, items.map Associated.name)]
  | _ => []

/-! ## Outlines of modules -/

theorem name_of_function? {content ts : List Tree} {f : Function}
    (h : function? content ts = some f) : ∃ rest, ts = .word f.name :: rest := by
  rw [function?.eq_def] at h
  split at h
  · split at h
    · simp only [Option.bind_eq_bind, Option.bind_eq_some_iff, Option.pure_def,
        Option.some.injEq] at h
      obtain ⟨parameters, -, body, -, rfl⟩ := h
      exact ⟨_, rfl⟩
    · cases h
  · cases h

theorem bareName?_of_bareAssociated? {chunk : List Tree × Option (List Tree)} {a : Associated}
    (h : bareAssociated? chunk = some a) : bareName? chunk = some a.name := by
  rw [bareAssociated?.eq_def] at h
  split at h
  · obtain ⟨f, hf, rfl⟩ := Option.map_eq_some_iff.mp h
    obtain ⟨rest, rfl⟩ := name_of_function? hf
    rfl
  · obtain ⟨f, hf, rfl⟩ := Option.map_eq_some_iff.mp h
    obtain ⟨rest, rfl⟩ := name_of_function? hf
    rfl
  · split at h
    · obtain ⟨value, -, rfl⟩ := Option.map_eq_some_iff.mp h
      simp [bareName?, Associated.name]
    · cases h
  · split at h
    · cases h
      rfl
    · cases h
  · cases h

theorem name_of_stored? {ts : List Tree} {s : Stored} (h : stored? ts = some s) :
    ∃ rest, ts = .word s.name :: .mark ':' :: rest := by
  rw [stored?.eq_def] at h
  split at h
  · split at h
    · simp only [Option.bind_eq_bind, Option.bind_eq_some_iff, Option.pure_def,
        Option.some.injEq] at h
      obtain ⟨length, -, elements, -, rfl⟩ := h
      exact ⟨_, rfl⟩
    · cases h
  · cases h

theorem itemNames?_of_kind? {chunk : List Tree × Option (List Tree)} {k : Kind}
    (h : kind? chunk = some k) : itemNames? chunk = some k.names := by
  rw [kind?.eq_def] at h
  split at h
  · obtain ⟨path, hpath, rfl⟩ := Option.map_eq_some_iff.mp h
    simp [itemNames?, hpath, Kind.names]
  · split at h
    · split at h
      · cases h
        rfl
      · cases h
    · cases h
  · split at h
    · obtain ⟨fields, -, rfl⟩ := Option.map_eq_some_iff.mp h
      rfl
    · cases h
  · simp only [Option.bind_eq_bind, Option.bind_eq_some_iff, Option.pure_def,
      Option.some.injEq] at h
    obtain ⟨target, -, chunks, -, items, -, rfl⟩ := h
    rfl
  · obtain ⟨s, hs, rfl⟩ := Option.map_eq_some_iff.mp h
    obtain ⟨rest, rfl⟩ := name_of_stored? hs
    rfl
  · cases h

/-- Associated items are named as they are read. -/
theorem mapM_associatedName?_of_associated? {chunks : List (List Tree × Option (List Tree))}
    {items : List Associated} (h : chunks.mapM associated? = some items) :
    chunks.mapM associatedName? = some (items.map Associated.name) := by
  induction chunks generalizing items with
  | nil => cases h; rfl
  | cons c rest ih =>
      simp only [List.mapM_cons, Option.bind_eq_bind, Option.bind_eq_some_iff, Option.pure_def,
        Option.some.injEq] at h
      obtain ⟨a, ha, others, hothers, rfl⟩ := h
      have hname : associatedName? c = some a.name := bareName?_of_bareAssociated? ha
      simp [hname, ih hothers]

/-- What is implemented is for a type alone, or a trait stands before it. -/
theorem implemented?_cases {ts : List Tree} {trait : Option (List String)} {type : String}
    (h : implemented? ts = some (trait, type)) :
    (ts = [.word type] ∧ trait = none) ∨ ((∀ x, ts ≠ [.word x]) ∧ trait ≠ none) := by
  rw [implemented?.eq_def] at h
  split at h
  · split at h
    · cases h
      exact .inl ⟨rfl, rfl⟩
    · cases h
  · rename_i hother
    obtain ⟨t, -, heq⟩ := Option.map_eq_some_iff.mp h
    cases heq
    exact .inr ⟨hother, by simp⟩

theorem inherentNames?_of_kind? {chunk : List Tree × Option (List Tree)} {k : Kind}
    (h : kind? chunk = some k) : inherentNames? chunk = some k.inherentNames := by
  rw [kind?.eq_def] at h
  split at h
  · obtain ⟨path, -, rfl⟩ := Option.map_eq_some_iff.mp h
    simp [inherentNames?, Kind.inherentNames]
  · split at h
    · split at h
      · cases h
        rfl
      · cases h
    · cases h
  · split at h
    · obtain ⟨fields, -, rfl⟩ := Option.map_eq_some_iff.mp h
      rfl
    · cases h
  · simp only [Option.bind_eq_bind, Option.bind_eq_some_iff, Option.pure_def,
      Option.some.injEq] at h
    obtain ⟨⟨trait, type⟩, htarget, chunks, hchunks, items, hitems, rfl⟩ := h
    rcases implemented?_cases htarget with ⟨rfl, rfl⟩ | ⟨hother, htrait⟩
    · simp [inherentNames?, hchunks, mapM_associatedName?_of_associated? hitems,
        Kind.inherentNames]
    · obtain ⟨t, rfl⟩ := Option.ne_none_iff_exists'.mp htrait
      rw [inherentNames?.eq_def]
      split
      · rename_i heq
        cases heq
        exact absurd rfl (hother _)
      · rfl
  · obtain ⟨s, -, rfl⟩ := Option.map_eq_some_iff.mp h
    simp [inherentNames?, Kind.inherentNames]
  · cases h

section Modules

variable {text : String} {m : Module}

/-- Where items are read, what is looked for at their openings is found. -/
theorem mapM_map_bare {α : Type} {find : List Tree × Option (List Tree) → Option (List α)}
    {mean : Kind → List α} (found : ∀ c k, kind? c = some k → find c = some (mean k))
    {chunks : List (List Tree × Option (List Tree))} {items : List Item}
    (h : chunks.mapM item? = some items) :
    ∃ lists, (chunks.map bare).mapM find = some lists ∧
      lists.flatten = items.flatMap fun i => mean i.kind := by
  induction chunks generalizing items with
  | nil => cases h; exact ⟨[], rfl, rfl⟩
  | cons c rest ih =>
      simp only [List.mapM_cons, Option.bind_eq_bind, Option.bind_eq_some_iff, Option.pure_def,
        Option.some.injEq] at h
      obtain ⟨i, hi, others, hothers, rfl⟩ := h
      obtain ⟨kind, hkind, rfl⟩ := Option.map_eq_some_iff.mp hi
      obtain ⟨lists, hlists, hsame⟩ := ih hothers
      have hfirst : find (bare c) = some (mean kind) := found (bare c) kind hkind
      exact ⟨mean kind :: lists, by simp [hfirst, hlists], by simp [hsame]⟩

theorem exists_openings {α : Type} {find : List Tree × Option (List Tree) → Option (List α)}
    {mean : Kind → List α} (found : ∀ c k, kind? c = some k → find c = some (mean k))
    (h : module? text = some m) :
    ∃ chunks lists, openings? text = some chunks ∧ chunks.mapM find = some lists ∧
      lists.flatten = m.items.flatMap fun i => mean i.kind := by
  simp only [module?, Option.bind_eq_bind, Option.bind_eq_some_iff, Option.pure_def,
    Option.some.injEq] at h
  obtain ⟨tokens, htokens, trees, htrees, chunks, hchunks, items, hitems, rfl⟩ := h
  obtain ⟨lists, hlists, hsame⟩ := mapM_map_bare found hitems
  exact ⟨chunks.map bare, lists, by simp [openings?, htokens, htrees, hchunks], hlists, hsame⟩

/-- The outline of a module is what it declares. -/
theorem outline?_of_module? (h : module? text = some m) : outline? text = some m.names := by
  obtain ⟨chunks, lists, hopenings, hlists, heq⟩ :=
    exists_openings (fun _ _ => itemNames?_of_kind?) h
  simp [outline?, hopenings, hlists, heq, Module.names]

theorem inherent?_of_module? (h : module? text = some m) :
    inherent? text = some (m.items.flatMap fun i => i.kind.inherentNames) := by
  obtain ⟨chunks, lists, hopenings, hlists, heq⟩ :=
    exists_openings (fun _ _ => inherentNames?_of_kind?) h
  simp [inherent?, hopenings, hlists, heq]

end Modules

end EnumBindings.Rust
