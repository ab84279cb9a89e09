import EnumBindings.EnumType
import Mathlib.Data.List.Forall2

/-!
# Enum types that look alike

What the text of an enum type shows are its name, its representation, whether its constants are
preserved, and of every member both rendered names and the value. Enum types that agree in this
are `Alike`; a language may show more.

Texts are told apart block by block: every enum type opens with a declaration of a kind that
occurs nowhere else in its block, so blocks put one behind the other come apart again
(`forall₂_of_flatMap_eq`).
-/

namespace EnumBindings

/-- Members that differ at most in their symbolic names. -/
structure Member.Alike (m m' : Member) : Prop where
  constantName : m.constantName = m'.constantName
  externalName : m.externalName = m'.externalName
  value : m.value = m'.value

/-- Enum types that differ at most in the symbolic names of their members and in whether their
values were numbered. -/
structure EnumType.Alike (e e' : EnumType) : Prop where
  name : e.name = e'.name
  representation : e.representation = e'.representation
  preserve : e.preserve = e'.preserve
  members : List.Forall₂ Member.Alike e.members e'.members

theorem EnumType.Alike.refl (e : EnumType) : e.Alike e :=
  ⟨rfl, rfl, rfl, List.forall₂_same.mpr fun _ _ => ⟨rfl, rfl, rfl⟩⟩

/-- Lists with one image agree in it element by element. -/
theorem forall₂_of_map_eq {α β γ : Type} {f : α → γ} {g : β → γ} {l : List α} {l' : List β}
    (h : l.map f = l'.map g) : List.Forall₂ (fun a b => f a = g b) l l' := by
  rw [← List.forall₂_eq_eq_eq, List.forall₂_map_left_iff, List.forall₂_map_right_iff] at h
  exact h

/-- Lists that are related element by element are equal if related elements of them are. -/
theorem eq_of_forall₂ {α : Type} {R : α → α → Prop} {l l' : List α} (h : List.Forall₂ R l l')
    (eq : ∀ a ∈ l, ∀ b ∈ l', R a b → a = b) : l = l' := by
  induction h with
  | nil => rfl
  | cons hab _ ih =>
      obtain ⟨hfirst, hrest⟩ := List.forall_mem_cons.mp eq
      congr 1
      · exact hfirst _ List.mem_cons_self hab
      · exact ih fun x hx y hy => hrest x hx y (List.mem_cons_of_mem _ hy)

section Blocks

variable {α β : Type} {block : α → List β} {opens : β → Bool}

/-- Only the first element of a block opens a block. -/
def Opened (opens : β → Bool) (block : List β) : Prop :=
  ∃ first rest, block = first :: rest ∧ opens first = true ∧ ∀ b ∈ rest, opens b = false

/-- Behind a list of blocks stands nothing, or an element that opens one. -/
theorem takeWhile_flatMap_eq_nil (opened : ∀ a, Opened opens (block a)) (xs : List α) :
    (xs.flatMap block).takeWhile (fun b => !opens b) = [] := by
  cases xs with
  | nil => rfl
  | cons x xs =>
      obtain ⟨first, rest, hblock, hfirst, -⟩ := opened x
      rw [List.flatMap_cons, hblock, List.cons_append]
      exact List.takeWhile_cons_of_neg (by simp [hfirst])

/-- The rest of a block ends where the next block is opened. -/
theorem takeWhile_append_flatMap (opened : ∀ a, Opened opens (block a)) {rest : List β}
    (closed : ∀ b ∈ rest, opens b = false) (xs : List α) :
    (rest ++ xs.flatMap block).takeWhile (fun b => !opens b) = rest := by
  rw [List.takeWhile_append_of_pos fun b hb => by simp [closed b hb],
    takeWhile_flatMap_eq_nil opened, List.append_nil]

/-- Lists of blocks that are the same when put together are the same block by block. -/
theorem forall₂_of_flatMap_eq (opened : ∀ a, Opened opens (block a)) {xs ys : List α}
    (same : xs.flatMap block = ys.flatMap block) :
    List.Forall₂ (fun x y => block x = block y) xs ys := by
  have nonempty (a : α) : block a ≠ [] := by
    obtain ⟨first, rest, hblock, -⟩ := opened a
    rw [hblock]
    exact List.cons_ne_nil first rest
  induction xs generalizing ys with
  | nil =>
      cases ys with
      | nil => exact .nil
      | cons y ys =>
          rw [List.flatMap_nil, List.flatMap_cons] at same
          exact absurd (List.append_eq_nil_iff.mp same.symm).1 (nonempty y)
  | cons x xs ih =>
      cases ys with
      | nil =>
          rw [List.flatMap_nil, List.flatMap_cons] at same
          exact absurd (List.append_eq_nil_iff.mp same).1 (nonempty x)
      | cons y ys =>
          obtain ⟨first, rest, hx, -, hrest⟩ := opened x
          obtain ⟨first', rest', hy, -, hrest'⟩ := opened y
          rw [List.flatMap_cons, List.flatMap_cons, hx, hy, List.cons_append, List.cons_append,
            List.cons.injEq] at same
          obtain ⟨rfl, same⟩ := same
          have hequal : rest = rest' := by
            have htaken := congrArg (List.takeWhile fun b => !opens b) same
            rw [takeWhile_append_flatMap opened hrest,
              takeWhile_append_flatMap opened hrest'] at htaken
            exact htaken
          subst hequal
          refine .cons (hx.trans hy.symm) (ih ?_)
          exact List.append_cancel_left same

end Blocks

end EnumBindings
