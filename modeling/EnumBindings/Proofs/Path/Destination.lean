import EnumBindings.Machine
import EnumBindings.Proofs.Path.Normal

/-!
# Where paths lead by text alone

`destination` is the place that the moves of a path lead to, and `Above` says of a place that the
path comes by on its way. A path below the path of a place leads where the path leads from that
place (`destination_join`), and the normal path of an absolute path is the path of its
destination (`normalize_eq_pathOf`): so two paths that are told apart by their normal paths lead
to different places.
-/

namespace EnumBindings.Path

/-! ## Walking -/

/-- Where one move leads. -/
def walk (here : Location) (move : String) : Location :=
  if move = ".." then here.dropLast else here ++ [move]

/-- Where a path leads by text alone. -/
def destination (current : Location) (p : Path) : Location :=
  p.moves.foldl walk (Store.start current p)

/-- A path comes by a place before its last move. -/
def Above (current : Location) (p : Path) (location : Location) : Prop :=
  ∃ before last after, p.moves = before ++ last :: after ∧
    location = before.foldl walk (Store.start current p)

/-- Names lead down. -/
theorem foldl_walk_names {names : List String} (h : ∀ n ∈ names, IsName n) (here : Location) :
    names.foldl walk here = here ++ names := by
  induction names generalizing here with
  | nil => simp
  | cons n rest ih =>
      have hn : walk here n = here ++ [n] := if_neg (h n List.mem_cons_self).notUp
      rw [List.foldl_cons, hn, ih fun m hm => h m (List.mem_cons_of_mem _ hm), List.append_assoc]
      rfl

/-- A move is `..` or a name. -/
theorem isName_of_mem_moves {p : Path} {move : String} (h : move ∈ p.moves) (hup : move ≠ "..") :
    IsName move := by
  obtain ⟨segment, hsegment, rfl⟩ := List.mem_map.mp h
  obtain ⟨hmem, hspoken⟩ := List.mem_filter.mp hsegment
  refine ⟨?_, hup, ?_⟩
  · simpa using hspoken
  · rw [String.toList_ofList]
    exact not_mem_of_mem_splitOn hmem

theorem isName_of_mem_foldl_walk {moves : List String} {here : Location}
    (hmoves : ∀ move ∈ moves, move ≠ ".." → IsName move) (hhere : ∀ n ∈ here, IsName n) :
    ∀ n ∈ moves.foldl walk here, IsName n := by
  induction moves generalizing here with
  | nil => exact hhere
  | cons move rest ih =>
      refine ih (fun m hm => hmoves m (List.mem_cons_of_mem _ hm)) ?_
      rw [walk]
      split
      · exact fun n hn => hhere n (List.dropLast_subset _ hn)
      · rename_i hup
        exact List.forall_mem_append.mpr
          ⟨hhere, List.forall_mem_singleton.mpr (hmoves move List.mem_cons_self hup)⟩

/-- Names lead to a destination if they lead to where the path starts. -/
theorem isName_of_mem_destination {current : Location} (hcurrent : ∀ n ∈ current, IsName n)
    {p : Path} : ∀ n ∈ destination current p, IsName n := by
  refine isName_of_mem_foldl_walk (fun _ hm => isName_of_mem_moves hm) ?_
  rw [Store.start]
  split
  · exact List.forall_mem_nil _
  · exact hcurrent

/-- Below an absolute path, a path leads where it leads from the place of that one. -/
theorem destination_join {base : Path} (h : base.isAbsolute = true) (current : Location)
    (p : Path) : destination current (base.join p) = destination (destination [] base) p := by
  by_cases habs : p.isAbsolute = true
  · have hjoin : base.join p = p := if_pos habs
    rw [hjoin, destination, destination, Store.start, Store.start, if_pos habs, if_pos habs]
  · have hstart : Store.start current (base.join p) = [] := if_pos (isAbsolute_join h)
    have hbase : Store.start [] base = [] := if_pos h
    rw [destination, moves_join (Bool.eq_false_iff.mpr habs), hstart, List.foldl_append,
      destination, destination, hbase, Store.start, if_neg habs]

/-! ## Paths of places -/

open Machine (pathOf)

theorem toList_pathOf (location : Location) :
    (pathOf location).bytes.toList = '/' :: ['/'].intercalate (location.map String.toList) := by
  simp [pathOf, String.toList_intercalate]

/-- The components of a place: the root and the names. -/
def componentsOf (location : Location) : List Component := .root :: location.map .name

theorem isAbsolute_pathOf (location : Location) : (pathOf location).isAbsolute = true := by
  rw [isAbsolute, toList_pathOf]
  rfl

section Names

variable {location : Location} (names : ∀ n ∈ location, IsName n)

include names

theorem moves_pathOf : (pathOf location).moves = location := by
  have hslash : ∀ s ∈ location.map String.toList, '/' ∉ s :=
    List.forall_mem_map.mpr fun n hn => (names n hn).noSlash
  have hspoken : (location.map String.toList).filter (!isSilent ·) =
      location.map String.toList := by
    refine List.filter_eq_self.mpr (List.forall_mem_map.mpr fun n hn => ?_)
    simp [(names n hn).spoken]
  rw [moves, toList_pathOf, spoken_slash, spoken_intercalate hslash, hspoken, List.map_map]
  simp [Function.comp_def]

theorem isMove_of_names : ∀ c ∈ location.map Component.name, c.IsMove :=
  List.forall_mem_map.mpr fun n hn => .name (names n hn)

/-- The path of a place is made of the root and the names. -/
theorem pathOf_eq_ofComponents : pathOf location = ofComponents (componentsOf location) := by
  have htext := toList_ofComponents Lead.root_ne_here (isMove_of_names names)
  have hchars : (location.map Component.name).map Component.chars =
      location.map String.toList := List.map_map
  rw [hchars] at htext
  exact congrArg Path.mk (String.toList_inj.mp ((toList_pathOf location).trans htext.symm))

/-- One more name. -/
theorem join_pathOf_name {name : String} (hname : IsName name) :
    (pathOf location).join ⟨name⟩ = pathOf (location ++ [name]) := by
  have hall : ∀ n ∈ location ++ [name], IsName n :=
    List.forall_mem_append.mpr ⟨names, List.forall_mem_singleton.mpr hname⟩
  have hconcat : componentsOf (location ++ [name]) = componentsOf location ++ [.name name] := by
    simp [componentsOf]
  rw [pathOf_eq_ofComponents names, pathOf_eq_ofComponents hall, hconcat, ofComponents_concat]
  rfl

/-- The path of a place leads there. -/
theorem destination_pathOf (current : Location) :
    destination current (pathOf location) = location := by
  rw [destination, moves_pathOf names, Store.start, if_pos (isAbsolute_pathOf location),
    foldl_walk_names names, List.nil_append]

/-- Different places have different paths. -/
theorem pathOf_inj {location' : Location} (names' : ∀ n ∈ location', IsName n) :
    pathOf location = pathOf location' ↔ location = location' := by
  constructor
  · intro heq
    rw [← moves_pathOf names, heq, moves_pathOf names']
  · rintro rfl
    rfl

/-- Below the path of a place, a path leads where it leads from the place. -/
theorem destination_join_pathOf (current : Location) (p : Path) :
    destination current ((pathOf location).join p) = destination location p := by
  rw [destination_join (isAbsolute_pathOf location), destination_pathOf names]

end Names

/-! ## Normal paths -/

/-- What a component does to the stack is what its segment does to the place. -/
theorem normalStep_componentOf (location : Location) (segment : List Char) :
    normalStep (componentsOf location).reverse (componentOf segment) =
      (componentsOf (walk location (String.ofList segment))).reverse := by
  have hwalk : String.ofList segment = ".." ↔ segment = ['.', '.'] :=
    @String.ofList_inj segment ['.', '.']
  by_cases hup : segment = ['.', '.']
  · rw [componentOf, if_pos hup, walk, if_pos (hwalk.mpr hup)]
    induction location using List.reverseRecOn with
    | nil => rfl
    | append_singleton before last _ => simp [componentsOf, normalStep]
  · rw [componentOf, if_neg hup, walk, if_neg (hwalk.not.mpr hup)]
    simp [componentsOf, normalStep]

theorem foldl_normalStep (segments : List (List Char)) (location : Location) :
    (segments.map componentOf).foldl normalStep (componentsOf location).reverse =
      (componentsOf ((segments.map String.ofList).foldl walk location)).reverse := by
  induction segments generalizing location with
  | nil => rfl
  | cons segment rest ih =>
      rw [List.map_cons, List.foldl_cons, normalStep_componentOf, ih]
      rfl

/-- The normal path of an absolute path is the path of the place it leads to. -/
theorem normalize_eq_pathOf {p : Path} (h : p.isAbsolute = true) (current : Location) :
    p.normalize = pathOf (destination current p) := by
  have hroot := (isAbsolute_iff p).mp h
  have hstart : Store.start current p = [] := if_pos h
  have hnames : ∀ n ∈ destination current p, IsName n := by
    rw [destination, hstart]
    exact isName_of_mem_foldl_walk (fun _ hm => isName_of_mem_moves hm) (List.forall_mem_nil _)
  have hnormal : normalComponents p.components = componentsOf (destination current p) := by
    have hfold := foldl_normalStep (spoken p.bytes.toList) []
    rw [normalComponents, foldl_components, hroot, destination, hstart, moves]
    exact (congrArg List.reverse hfold).trans (List.reverse_reverse _)
  rw [p.normalize_eq.1, hnormal, pathOf_eq_ofComponents hnames]

end EnumBindings.Path
