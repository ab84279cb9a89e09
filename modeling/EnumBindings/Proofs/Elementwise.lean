import Mathlib.Data.List.Forall2

/-!
# Lists, element by element

What is done with one element of a list after the other, and what is said of the elements of two
lists in pairs.
-/

namespace EnumBindings

/-! ## One after the other -/

section Sequences

variable {α β ε : Type}

/-- A sequence succeeds when its first part does and what follows upon it. -/
theorem bind_eq_ok_iff {x : Except ε α} {f : α → Except ε β} {b : β} :
    x >>= f = .ok b ↔ ∃ a, x = .ok a ∧ f a = .ok b := by
  constructor
  · intro h
    cases x with
    | error e => cases h
    | ok a => exact ⟨a, rfl, h⟩
  · rintro ⟨a, rfl, h⟩
    exact h

theorem mapM_eq_ok_iff (f : α → Except ε β) (l : List α) (m : List β) :
    l.mapM f = .ok m ↔ List.Forall₂ (fun a b => f a = .ok b) l m := by
  induction l generalizing m with
  | nil =>
      rw [List.forall₂_nil_left_iff]
      constructor
      · rintro ⟨⟩
        rfl
      · rintro rfl
        rfl
  | cons a rest ih =>
      rw [List.mapM_cons, List.forall₂_cons_left_iff, bind_eq_ok_iff]
      refine exists_congr fun b => ?_
      constructor
      · rintro ⟨ha, h⟩
        obtain ⟨bs, hrest, ⟨⟩⟩ := bind_eq_ok_iff.mp h
        exact ⟨bs, ha, (ih bs).mp hrest, rfl⟩
      · rintro ⟨bs, ha, hrest, rfl⟩
        exact ⟨ha, bind_eq_ok_iff.mpr ⟨bs, (ih bs).mpr hrest, rfl⟩⟩

theorem mapM_eq_ok {f : α → Except ε β} {g : α → β} {l : List α} (h : ∀ a ∈ l, f a = .ok (g a)) :
    l.mapM f = .ok (l.map g) :=
  (mapM_eq_ok_iff f l _).mpr (List.forall₂_map_right_iff.mpr (List.forall₂_same.mpr h))

theorem mapM_eq_error {f : α → Except ε β} {before after : List α} {a : α} {e : ε}
    (hbefore : ∀ b ∈ before, ∃ c, f b = .ok c) (ha : f a = .error e) :
    (before ++ a :: after).mapM f = .error e := by
  induction before with
  | nil =>
      rw [List.nil_append, List.mapM_cons, ha]
      rfl
  | cons b rest ih =>
      obtain ⟨⟨c, hc⟩, hrest⟩ := List.forall_mem_cons.mp hbefore
      rw [List.cons_append, List.mapM_cons, hc, ih hrest]
      rfl

/-- What is not true of all elements of a list fails for a first one. -/
theorem exists_first_not {P : α → Prop} {l : List α} (h : ¬∀ a ∈ l, P a) :
    ∃ before a after, l = before ++ a :: after ∧ (∀ b ∈ before, P b) ∧ ¬P a := by
  induction l with
  | nil => exact absurd (List.forall_mem_nil _) h
  | cons a rest ih =>
      by_cases ha : P a
      · obtain ⟨before, b, after, rfl, hbefore, hb⟩ :=
          ih fun hrest => h (List.forall_mem_cons.mpr ⟨ha, hrest⟩)
        exact ⟨a :: before, b, after, rfl, List.forall_mem_cons.mpr ⟨ha, hbefore⟩, hb⟩
      · exact ⟨[], a, rest, rfl, List.forall_mem_nil _, ha⟩

/-- Steps that keep something keep it over all of a list. -/
theorem foldlM_keeps {σ : Type} {P : σ → Prop} {step : σ → α → Option σ} {l : List α}
    (keeps : ∀ a ∈ l, ∀ s s', P s → step s a = some s' → P s') {s s' : σ} (hs : P s)
    (h : l.foldlM step s = some s') : P s' := by
  induction l generalizing s with
  | nil =>
      cases h
      exact hs
  | cons a rest ih =>
      rw [List.foldlM_cons] at h
      obtain ⟨hfirst, hrest⟩ := List.forall_mem_cons.mp keeps
      obtain ⟨next, hstep, h⟩ := Option.bind_eq_some_iff.mp h
      exact ih hrest (hfirst s next hs hstep) h

end Sequences

/-! ## In pairs -/

section Pairs

variable {α β γ : Type}

theorem forall₂_congr_of_mem {R S : α → β → Prop} {l : List α}
    (h : ∀ a ∈ l, ∀ b, R a b ↔ S a b) (m : List β) : List.Forall₂ R l m ↔ List.Forall₂ S l m := by
  induction l generalizing m with
  | nil => rw [List.forall₂_nil_left_iff, List.forall₂_nil_left_iff]
  | cons a rest ih =>
      obtain ⟨ha, hrest⟩ := List.forall_mem_cons.mp h
      simp only [List.forall₂_cons_left_iff, ha, ih hrest]

/-- Where partners say the same of everything, so do the lists. -/
theorem forall₂_congr_left {R : α → β → Prop} {S : α → γ → Prop} {T : β → γ → Prop}
    (hcongr : ∀ a b, R a b → ∀ c, S a c ↔ T b c) {l : List α} {l' : List β}
    (all : List.Forall₂ R l l') (m : List γ) : List.Forall₂ S l m ↔ List.Forall₂ T l' m := by
  induction all generalizing m with
  | nil => rw [List.forall₂_nil_left_iff, List.forall₂_nil_left_iff]
  | cons h _ ih => simp only [List.forall₂_cons_left_iff, hcongr _ _ h, ih]

theorem forall₂_of_columns {R : β → γ → Prop} {l : List (α × β)} {l' : List (α × γ)}
    (first : l.map Prod.fst = l'.map Prod.fst)
    (second : List.Forall₂ R (l.map Prod.snd) (l'.map Prod.snd)) :
    List.Forall₂ (fun e e' => e.1 = e'.1 ∧ R e.2 e'.2) l l' := by
  induction l generalizing l' with
  | nil =>
      rw [List.map_nil, eq_comm, List.map_eq_nil_iff] at first
      rw [first]
      exact .nil
  | cons e rest ih =>
      cases l' with
      | nil => cases first
      | cons e' rest' =>
          obtain ⟨hfirst, hfirsts⟩ := List.cons.inj first
          cases second with
          | cons hsecond hseconds => exact .cons ⟨hfirst, hsecond⟩ (ih hfirsts hseconds)

/-- Each element of one list has its partner in the other. -/
theorem forall₂_partners {R : α → β → Prop} {l : List α} {l' : List β}
    (all : List.Forall₂ R l l') :
    (∀ a ∈ l, ∃ b ∈ l', R a b) ∧ ∀ b ∈ l', ∃ a ∈ l, R a b := by
  induction all with
  | nil => exact ⟨List.forall_mem_nil _, List.forall_mem_nil _⟩
  | cons h _ ih =>
      constructor
      · refine List.forall_mem_cons.mpr ⟨⟨_, List.mem_cons_self, h⟩, fun a ha => ?_⟩
        obtain ⟨b, hb, hab⟩ := ih.1 a ha
        exact ⟨b, List.mem_cons_of_mem _ hb, hab⟩
      · refine List.forall_mem_cons.mpr ⟨⟨_, List.mem_cons_self, h⟩, fun b hb => ?_⟩
        obtain ⟨a, ha, hab⟩ := ih.2 b hb
        exact ⟨a, List.mem_cons_of_mem _ ha, hab⟩

end Pairs

end EnumBindings
