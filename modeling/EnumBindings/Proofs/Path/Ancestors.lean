import EnumBindings.Proofs.Path.Destination
import Mathlib.Data.List.Infix

/-!
# Directories above a place

The path of a place is held by the path of the directory it stands in (`parent?_pathOf_concat`),
so the directories above it are the paths of the places on the way down to it
(`ancestors_pathOf`). Seen from a place below another one, the directories above this one come
last (`ancestors_pathOf_append`).
-/

namespace EnumBindings.Path

open Machine (pathOf)

/-! ## One directory up -/

theorem parent?_pathOf_nil : (pathOf []).parent? = none := by
  decide

/-- What stands in a directory is held by it. -/
theorem parent?_pathOf_concat {location : Location} {name : String}
    (names : ∀ n ∈ location ++ [name], IsName n) :
    (pathOf (location ++ [name])).parent? = some (pathOf location) := by
  have hbefore : ∀ n ∈ location, IsName n := fun n hn => names n (List.mem_append_left _ hn)
  have hmoves := isMove_of_names names
  rw [List.map_append, List.map_singleton] at hmoves
  have hparent := parent?_ofComponents_concat Lead.root_ne_here hmoves
  have hconcat : componentsOf (location ++ [name]) =
      Lead.root.components ++ (location.map Component.name ++ [.name name]) := by
    simp [componentsOf, Lead.components]
  rw [pathOf_eq_ofComponents names, pathOf_eq_ofComponents hbefore, hconcat, hparent]
  rfl

/-! ## All the way up -/

/-- A path stands before the directories above it. -/
theorem exists_ancestors_eq_cons (p : Path) : ∃ above, p.ancestors = p :: above := by
  unfold ancestors
  cases p.bytes.length with
  | zero => exact ⟨[], rfl⟩
  | succ fuel =>
      rw [ancestorsFrom]
      cases p.parent? with
      | none => exact ⟨[], rfl⟩
      | some q => exact ⟨ancestorsFrom fuel q, rfl⟩

/-- A joined text is no shorter than the slashes in it. -/
theorem length_le_length_intercalate (segments : List (List Char)) :
    segments.length ≤ (['/'].intercalate segments).length + 1 := by
  induction segments with
  | nil => exact Nat.zero_le _
  | cons first rest ih =>
      cases rest with
      | nil =>
          rw [List.length_singleton]
          omega
      | cons second others =>
          rw [List.intercalate_cons_cons, List.length_append, List.length_append,
            List.length_cons, List.length_singleton]
          omega

theorem ancestorsFrom_pathOf {location : Location} (names : ∀ n ∈ location, IsName n)
    {fuel : Nat} (h : location.length ≤ fuel) :
    ancestorsFrom fuel (pathOf location) = location.inits.reverse.map pathOf := by
  induction location using List.reverseRecOn generalizing fuel with
  | nil =>
      cases fuel with
      | zero => rfl
      | succ fuel => rw [ancestorsFrom, parent?_pathOf_nil]; rfl
  | append_singleton before last ih =>
      rw [List.length_append, List.length_singleton] at h
      obtain ⟨fuel, rfl⟩ : ∃ rest, fuel = rest + 1 := ⟨fuel - 1, by omega⟩
      have hbefore := ih (fun n hn => names n (List.mem_append_left _ hn)) (Nat.le_of_succ_le_succ h)
      have hinits : (before ++ [last]).inits = before.inits ++ [before ++ [last]] := by
        rw [List.inits_append]
        rfl
      rw [ancestorsFrom, parent?_pathOf_concat names, hinits, List.reverse_append, List.map_append,
        ← hbefore]
      rfl

theorem ancestors_pathOf {location : Location} (names : ∀ n ∈ location, IsName n) :
    (pathOf location).ancestors = location.inits.reverse.map pathOf := by
  apply ancestorsFrom_pathOf names
  have htext := congrArg List.length (toList_pathOf location)
  have hjoined := length_le_length_intercalate (location.map String.toList)
  rw [List.length_map] at hjoined
  rw [String.length_toList, List.length_cons] at htext
  omega

/-- From a place below another one the way up comes by the places in between first. -/
theorem ancestors_pathOf_append {location below : Location}
    (names : ∀ n ∈ location ++ below, IsName n) :
    ∃ between : List Location, (pathOf (location ++ below)).ancestors =
        between.map pathOf ++ (pathOf location).ancestors ∧
      ∀ l ∈ between, location <+: l ∧ l <+: location ++ below ∧ l ≠ location := by
  refine ⟨(below.inits.tail.map (location ++ ·)).reverse, ?_, ?_⟩
  · rw [ancestors_pathOf names, ancestors_pathOf fun n hn => names n (List.mem_append_left _ hn),
      List.inits_append, List.reverse_append, List.map_append]
  · intro l hl
    obtain ⟨part, hpart, rfl⟩ := List.mem_map.mp (List.mem_reverse.mp hl)
    have hinitial : part <+: below := (List.mem_inits _ _).mp (List.mem_of_mem_tail hpart)
    refine ⟨List.prefix_append _ _, (List.prefix_append_right_inj _).mpr hinitial, ?_⟩
    -- only the first of the initial parts is empty
    cases below with
    | nil => cases hpart
    | cons first rest =>
        obtain ⟨others, -, rfl⟩ := List.mem_map.mp hpart
        simp

end EnumBindings.Path
