import Mathlib.Data.List.Sort
import Mathlib.Data.String.Basic

/-!
# Looking up by a key

Where the keys of a list are free of repetition, a search for the key of an element finds that
element, and no other element passes. Sorted by its keys, such a list increases strictly, and it
does not matter in which order its elements stood before.
-/

namespace EnumBindings.Keyed

variable {α β : Type} [BEq β] [LawfulBEq β]

theorem find?_eq_some (key : α → β) {l : List α} (nodup : (l.map key).Nodup) {a : α}
    (member : a ∈ l) : l.find? (fun x => key x == key a) = some a := by
  induction l with
  | nil => cases member
  | cons b rest ih =>
      rw [List.map_cons, List.nodup_cons] at nodup
      rcases List.mem_cons.mp member with rfl | inRest
      · exact List.find?_cons_of_pos (by simp)
      · have hne : key b ≠ key a := fun heq =>
          nodup.1 (heq ▸ List.mem_map_of_mem inRest)
        rw [List.find?_cons_of_neg (by simpa using hne)]
        exact ih nodup.2 inRest

theorem filter_eq_singleton (key : α → β) {l : List α} (nodup : (l.map key).Nodup) {a : α}
    (member : a ∈ l) : l.filter (fun x => key x == key a) = [a] := by
  induction l with
  | nil => cases member
  | cons b rest ih =>
      rw [List.map_cons, List.nodup_cons] at nodup
      rcases List.mem_cons.mp member with rfl | inRest
      · have hnone : rest.filter (fun x => key x == key a) = [] := by
          rw [List.filter_eq_nil_iff]
          intro x hx heq
          exact nodup.1 (eq_of_beq heq ▸ List.mem_map_of_mem hx)
        rw [List.filter_cons_of_pos (by simp), hnone]
      · have hne : key b ≠ key a := fun heq =>
          nodup.1 (heq ▸ List.mem_map_of_mem inRest)
        rw [List.filter_cons_of_neg (by simpa using hne)]
        exact ih nodup.2 inRest

end EnumBindings.Keyed

namespace EnumBindings

variable {α β γ : Type}

/-- Where the elements with other keys give nothing, only one element gives something. -/
theorem Keyed.flatMap_eq (key : α → β) {l : List α} (nodup : (l.map key).Nodup) {a : α}
    (member : a ∈ l) {f : α → List γ} (others : ∀ x ∈ l, key x ≠ key a → f x = []) :
    l.flatMap f = f a := by
  induction l with
  | nil => cases member
  | cons b rest ih =>
      rw [List.map_cons, List.nodup_cons] at nodup
      rw [List.flatMap_cons]
      rcases List.mem_cons.mp member with rfl | inRest
      · have hnone : rest.flatMap f = [] := by
          rw [List.flatMap_eq_nil_iff]
          intro x hx
          refine others x (List.mem_cons_of_mem _ hx) fun heq => ?_
          exact nodup.1 (heq ▸ List.mem_map_of_mem hx)
        rw [hnone, List.append_nil]
      · have hne : key b ≠ key a := fun heq =>
          nodup.1 (heq ▸ List.mem_map_of_mem inRest)
        rw [others b List.mem_cons_self hne, List.nil_append]
        exact ih nodup.2 inRest fun x hx => others x (List.mem_cons_of_mem _ hx)

/-- A search that only answers on elements with a given name finds the one element with it. -/
theorem Keyed.findSome?_eq_some {names : α → List β} {l : List α}
    (nodup : (l.flatMap names).Nodup) {name : β} {find : α → Option γ}
    (named : ∀ x, find x ≠ none → name ∈ names x) {a : α} (member : a ∈ l) {c : γ}
    (found : find a = some c) : l.findSome? find = some c := by
  induction l with
  | nil => cases member
  | cons b rest ih =>
      rw [List.flatMap_cons, List.nodup_append] at nodup
      obtain ⟨-, hrest, hdisjoint⟩ := nodup
      rcases List.mem_cons.mp member with rfl | inRest
      · rw [List.findSome?_cons, found]
      -- an element before `a` cannot answer, for it does not have the name
      · have hnone : find b = none := by
          by_contra hfind
          have hname : name ∈ names a := named a (by simp [found])
          exact hdisjoint name (named b hfind) name
            (List.mem_flatMap.mpr ⟨a, inRest, hname⟩) rfl
        rw [List.findSome?_cons, hnone]
        exact ih hrest inRest

/-! ## Sorting by a key -/

section Sorting

variable (key : α → String) {l l' : List α}

/-- Sorted by their keys, elements with different keys increase strictly. -/
theorem Keyed.pairwise_lt_mergeSort (nodup : (l.map key).Nodup) :
    (l.mergeSort fun a b => key a ≤ key b).Pairwise fun a b => key a < key b := by
  have hle : (l.mergeSort fun a b => key a ≤ key b).Pairwise
      fun a b => decide (key a ≤ key b) = true := by
    apply List.pairwise_mergeSort
    · intro a b c hab hbc
      rw [decide_eq_true_iff] at hab hbc ⊢
      exact String.le_trans hab hbc
    · intro a b
      rw [Bool.or_eq_true, decide_eq_true_iff, decide_eq_true_iff]
      exact String.le_total (key a) (key b)
  have hne : (l.mergeSort fun a b => key a ≤ key b).Pairwise fun a b => key a ≠ key b := by
    have hperm := (List.mergeSort_perm l fun a b => key a ≤ key b).map key
    exact List.pairwise_map.mp (hperm.nodup_iff.mpr nodup)
  refine (hle.and hne).imp ?_
  rintro a b ⟨hab, hdiff⟩
  exact lt_of_le_of_ne (decide_eq_true_iff.mp hab) hdiff

/-- Elements with different keys are sorted in one way only. -/
theorem Keyed.mergeSort_eq_of_perm (perm : l.Perm l') (nodup : (l.map key).Nodup) :
    (l.mergeSort fun a b => key a ≤ key b) = l'.mergeSort fun a b => key a ≤ key b := by
  have nodup' : (l'.map key).Nodup := (perm.map key).nodup_iff.mp nodup
  apply List.Perm.eq_of_pairwise _ (pairwise_lt_mergeSort key nodup)
    (pairwise_lt_mergeSort key nodup')
  · calc (l.mergeSort fun a b => key a ≤ key b).Perm l := List.mergeSort_perm l _
      _ |>.Perm l' := perm
      _ |>.Perm (l'.mergeSort fun a b => key a ≤ key b) := (List.mergeSort_perm l' _).symm
  · intro a b _ _ hab hba
    exact absurd hba (lt_asymm hab)

end Sorting

end EnumBindings
