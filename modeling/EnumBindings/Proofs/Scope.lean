import EnumBindings.Artifact.Scope
import Mathlib.Data.List.Nodup

/-!
# Claimed names

What it means that a scope accepts declarations: `declareAll_eq_ok_iff` says that the declared
identifiers are free of repetition and that none was claimed before, and
`exists_of_declareAll_eq_error` at which of them the scope refuses. `owner?_reserve_eq_none_iff`
says which identifiers reserved names leave over.
-/

namespace EnumBindings.Scope

@[simp]
theorem owner?_empty (language : Language) (x : String) : (empty language).owner? x = none := rfl

/-- A new pair gives an owner to an identifier that has none. -/
theorem owner?_add (scope : Scope) (identifier owner x : String) :
    (scope.add identifier owner).owner? x =
      (scope.owner? x).or (if x = identifier then some owner else none) := by
  rw [owner?, add, List.lookup_append]
  by_cases hx : x = identifier
  · simp [owner?, hx]
  · have hother : (x == identifier) = false := by simpa using hx
    simp [owner?, hx, hother, List.lookup_cons]

theorem owner?_reserveName (scope : Scope) (owner name x : String) :
    (reserveName owner scope name).owner? x =
      (scope.owner? x).or (if x = name then some owner else none) := by
  rw [reserveName]
  split
  · rename_i hclaimed
    by_cases hx : x = name
    · subst hx
      rw [Option.or_of_isSome hclaimed]
    · rw [if_neg hx, Option.or_none]
  · exact scope.owner?_add name owner x

/-- Reserving gives an owner to those names that have none. -/
theorem owner?_reserve (scope : Scope) (names : List String) (owner x : String) :
    (scope.reserve names owner).owner? x =
      (scope.owner? x).or (if x ∈ names then some owner else none) := by
  induction names generalizing scope with
  | nil => simp [reserve]
  | cons name rest ih =>
      have hstep : scope.reserve (name :: rest) owner =
          (reserveName owner scope name).reserve rest owner := rfl
      rw [hstep, ih, owner?_reserveName, Option.or_assoc]
      by_cases hx : x = name
      · simp [hx]
      · simp [hx]

theorem owner?_add_eq_none_iff (scope : Scope) (identifier owner x : String) :
    (scope.add identifier owner).owner? x = none ↔ scope.owner? x = none ∧ x ≠ identifier := by
  rw [owner?_add, Option.or_eq_none_iff]
  simp

theorem owner?_reserve_eq_none_iff (scope : Scope) (names : List String) (owner x : String) :
    (scope.reserve names owner).owner? x = none ↔ scope.owner? x = none ∧ x ∉ names := by
  rw [owner?_reserve, Option.or_eq_none_iff]
  simp

@[simp]
theorem language_reserveName (scope : Scope) (owner name : String) :
    (reserveName owner scope name).language = scope.language := by
  rw [reserveName]
  split <;> rfl

@[simp]
theorem language_reserve (scope : Scope) (names : List String) (owner : String) :
    (scope.reserve names owner).language = scope.language := by
  induction names generalizing scope with
  | nil => rfl
  | cons name rest ih =>
      have hstep : scope.reserve (name :: rest) owner =
          (reserveName owner scope name).reserve rest owner := rfl
      rw [hstep, ih, language_reserveName]

theorem declare_eq_ok_iff (scope next : Scope) (identifier owner : String) :
    scope.declare identifier owner = .ok next ↔
      scope.owner? identifier = none ∧ next = scope.add identifier owner := by
  rw [declare]
  cases scope.owner? identifier with
  | none => simp [eq_comm]
  | some first => simp

/-- Declarations are accepted when their identifiers are free of repetition and unclaimed. -/
theorem declareAll_eq_ok_iff (scope : Scope) (items : List (String × String)) :
    (∃ next, scope.declareAll items = .ok next) ↔
      (items.map (·.1)).Nodup ∧ ∀ x ∈ items.map (·.1), scope.owner? x = none := by
  induction items generalizing scope with
  | nil => simp [declareAll]
  | cons item rest ih =>
      obtain ⟨identifier, owner⟩ := item
      rw [List.map_cons, List.nodup_cons, List.forall_mem_cons, declareAll]
      -- an accepted identifier is taken for everything behind it
      have hnext := ih (scope.add identifier owner)
      simp only [owner?_add_eq_none_iff] at hnext
      constructor
      · rintro ⟨last, h⟩
        cases hdeclare : scope.declare identifier owner with
        | error e => rw [hdeclare] at h; cases h
        | ok next =>
            obtain ⟨hfree, rfl⟩ := (declare_eq_ok_iff ..).mp hdeclare
            rw [hdeclare] at h
            obtain ⟨hnodup, hrest⟩ := hnext.mp ⟨last, h⟩
            exact ⟨⟨fun hmem => (hrest identifier hmem).2 rfl, hnodup⟩, hfree,
              fun x hx => (hrest x hx).1⟩
      · rintro ⟨⟨hnew, hnodup⟩, hfree, hrest⟩
        have hdeclare := (declare_eq_ok_iff scope _ identifier owner).mpr ⟨hfree, rfl⟩
        obtain ⟨last, hlast⟩ := hnext.mpr
          ⟨hnodup, fun x hx => ⟨hrest x hx, fun heq => hnew (heq ▸ hx)⟩⟩
        exact ⟨last, by rw [hdeclare]; exact hlast⟩

/-- Declarations are refused at the first identifier that is claimed, be it in the scope or by a
declaration before it. The owner that claimed it first is told. -/
theorem exists_of_declareAll_eq_error {scope : Scope} {items : List (String × String)}
    {error : GenerateError} (refused : scope.declareAll items = .error error) :
    ∃ before item after first, items = before ++ item :: after ∧
      (before.map (·.1)).Nodup ∧ (∀ x ∈ before.map (·.1), scope.owner? x = none) ∧
      (scope.owners ++ before).lookup item.1 = some first ∧
      error = .identifierCollision scope.language item.1 first item.2 := by
  induction items generalizing scope with
  | nil => cases refused
  | cons item rest ih =>
      obtain ⟨identifier, owner⟩ := item
      rw [declareAll, declare] at refused
      cases howner : scope.owner? identifier with
      | some first =>
          rw [howner] at refused
          cases refused
          exact ⟨[], (identifier, owner), rest, first, rfl, List.nodup_nil, by simp,
            by simpa [owner?] using howner, rfl⟩
      | none =>
          rw [howner] at refused
          obtain ⟨before, item, after, first, rfl, hnodup, hfree, hfirst, rfl⟩ := ih refused
          simp only [owner?_add_eq_none_iff] at hfree
          refine ⟨(identifier, owner) :: before, item, after, first, rfl, ?_, ?_, ?_, rfl⟩
          · rw [List.map_cons, List.nodup_cons]
            exact ⟨fun hmem => (hfree identifier hmem).2 rfl, hnodup⟩
          · rw [List.map_cons, List.forall_mem_cons]
            exact ⟨howner, fun x hx => (hfree x hx).1⟩
          · simpa [add] using hfirst

/-- A check that only declares fails in the same way. -/
theorem check_eq_error_iff (scope : Scope) (items : List (String × String))
    (error : GenerateError) :
    (do let _ ← scope.declareAll items; return () : Except GenerateError Unit) = .error error ↔
      scope.declareAll items = .error error := by
  cases scope.declareAll items with
  | ok next => simp [bind, Except.bind, pure, Except.pure]
  | error e => simp [bind, Except.bind]

/-- A check that only declares passes for the same declarations. -/
theorem check_eq_ok_iff (scope : Scope) (items : List (String × String)) :
    (do let _ ← scope.declareAll items; return () : Except GenerateError Unit) = .ok () ↔
      (items.map (·.1)).Nodup ∧ ∀ x ∈ items.map (·.1), scope.owner? x = none := by
  rw [← declareAll_eq_ok_iff]
  cases scope.declareAll items with
  | ok next => simp [bind, Except.bind, pure, Except.pure]
  | error e => simp [bind, Except.bind]

end EnumBindings.Scope
