import EnumBindings.Proofs.FirstFault
import EnumBindings.Proofs.Go.Names
import EnumBindings.Proofs.Lines
import EnumBindings.Proofs.Rust.Names
import EnumBindings.Proofs.TableOrder

/-!
# Parts of a table

No rule for tables needs something to be there, and no block of an artifact looks at its neighbours.
So a table stays accepted when definitions leave it, and when members leave a definition that gives
all its values. The artifact is then the old one without their blocks, or with one block made anew
(`parts_stay_accepted`).

Both rest on one criterion that knows no order (`EnumTable.generate_eq_ok_iff_blocks`): names that
are distinct, definitions that are valid, declared names that are distinct and free. Each of the
three passes on to the parts of a list.
-/

namespace EnumBindings

open EnumBindings.Text

/-- Elements with different keys: a part of their list is known from the keys in it. -/
theorem Keyed.filter_eq_of_sublist {α β : Type} [DecidableEq β] (key : α → β) {l part : List α}
    (kept : part.Sublist l) (nodup : (l.map key).Nodup) :
    l.filter (fun x => key x ∈ part.map key) = part := by
  induction kept with
  | slnil => rfl
  | cons a rest ih =>
      rw [List.map_cons, List.nodup_cons] at nodup
      -- the key of an element that is left out does not come back among the others
      have hout : key a ∉ List.map key _ := fun hmem => nodup.1 ((rest.map key).subset hmem)
      rw [List.filter_cons_of_neg (by simpa using hout), ih nodup.2]
  | cons_cons a rest ih =>
      rw [List.map_cons, List.nodup_cons] at nodup
      rw [List.filter_cons_of_pos (by simp)]
      refine congrArg (a :: ·) (Eq.trans (List.filter_congr fun x hx => ?_) (ih nodup.2))
      have hne : key x ≠ key a := fun heq => nodup.1 (heq ▸ List.mem_map_of_mem hx)
      simp [hne]

/-! ## Blocks -/

namespace Style

/-- What stands in an artifact before the first enum type. -/
def opening (style : Style) (header : Header) : String :=
  unlines (header.lines style.language.lineComment ++ style.preludeLines)

/-- The block of an enum type, with the blank line above it. -/
def block (style : Style) (e : EnumType) : String := unlines ("" :: style.enumLines e)

theorem unlines_fileLines_eq_blocks (style : Style) (header : Header) (enums : List EnumType) :
    unlines (style.fileLines header enums) =
      style.opening header ++ String.join (enums.map style.block) := by
  have hblocks : unlines (enums.flatMap fun e => "" :: style.enumLines e) =
      String.join (enums.map style.block) := by
    induction enums with
    | nil => simp
    | cons e rest ih =>
        rw [List.flatMap_cons, unlines_append, ih, List.map_cons, String.join_cons, block]
  rw [fileLines, unlines_append, hblocks, opening]

/-! ## Declared names -/

/-- The names that an enum type declares at the top of a file. -/
def declaredNames : Style → EnumType → List String
  | go _ => Go.declaredNames
  | rust => Rust.declaredNames

/-- Names that are taken by the language or by the file itself. -/
def Taken : Style → String → Prop
  | go _ => Go.Taken
  | rust => Rust.Taken

/-- The check passes when the declared names are free of repetition and none is taken. -/
theorem checkNames_eq_ok_iff (style : Style) (enums : List EnumType) :
    style.checkNames enums = .ok () ↔ (enums.flatMap style.declaredNames).Nodup ∧
      ∀ x ∈ enums.flatMap style.declaredNames, ¬style.Taken x := by
  cases style with
  | go package => exact Go.checkNames_eq_ok_iff enums
  | rust => exact Rust.checkNames_eq_ok_iff enums

theorem checkNames_perm (style : Style) {enums enums' : List EnumType}
    (perm : enums.Perm enums') :
    style.checkNames enums = .ok () ↔ style.checkNames enums' = .ok () := by
  have hnames := perm.flatMap_right style.declaredNames
  rw [checkNames_eq_ok_iff, checkNames_eq_ok_iff, hnames.nodup_iff]
  simp only [hnames.mem_iff]

/-- Fewer names pass as well. -/
theorem checkNames_of_sublist {style : Style} {enums enums' : List EnumType}
    (fewer : (enums'.flatMap style.declaredNames).Sublist (enums.flatMap style.declaredNames))
    (checked : style.checkNames enums = .ok ()) : style.checkNames enums' = .ok () := by
  obtain ⟨nodup, free⟩ := (style.checkNames_eq_ok_iff enums).mp checked
  exact (style.checkNames_eq_ok_iff enums').mpr
    ⟨nodup.sublist fewer, fun x hx => free x (fewer.subset hx)⟩

end Style

/-! ## Accepted tables -/

namespace EnumTable

/-- What is accepted, and what comes of it. No order counts but that of the blocks. -/
theorem generate_eq_ok_iff_blocks (ds : List Definition) (style : Style) (header : Header)
    (artifact : Artifact) :
    (EnumTable.mk ds).generate style header = .ok artifact ↔
      (ds.map (·.name)).Nodup ∧ (∀ d ∈ ds, d.Valid) ∧
      style.checkNames (ds.map Definition.enumType) = .ok () ∧
      artifact.enums = (ds.map Definition.enumType).mergeSort Resolve.precedes ∧
      artifact.text = style.opening header ++ String.join (artifact.enums.map style.block) := by
  rw [generate_eq_ok_iff, resolve_eq_ok_iff, style.unlines_fileLines_eq_blocks]
  have hsorted := style.checkNames_perm
    (List.mergeSort_perm (ds.map Definition.enumType) Resolve.precedes)
  constructor
  · rintro ⟨⟨hdistinct, hvalid, henums⟩, hchecked, htext⟩
    exact ⟨hdistinct, hvalid, hsorted.mp (henums ▸ hchecked), henums, htext⟩
  · rintro ⟨hdistinct, hvalid, hchecked, henums, htext⟩
    exact ⟨⟨hdistinct, hvalid, henums⟩, henums ▸ hsorted.mpr hchecked, htext⟩

theorem generate_of_blocks {ds : List Definition} (style : Style) (header : Header)
    (distinct : (ds.map (·.name)).Nodup) (valid : ∀ d ∈ ds, d.Valid)
    (checked : style.checkNames (ds.map Definition.enumType) = .ok ()) {enums : List EnumType}
    (sorted : enums = (ds.map Definition.enumType).mergeSort Resolve.precedes) :
    (EnumTable.mk ds).generate style header =
      .ok ⟨enums, style.opening header ++ String.join (enums.map style.block)⟩ :=
  (generate_eq_ok_iff_blocks ds style header _).mpr ⟨distinct, valid, checked, sorted, rfl⟩

end EnumTable

/-- What is left of enum types in their order is in order. -/
theorem Resolve.mergeSort_filter {enums : List EnumType} (nodup : (enums.map (·.name)).Nodup)
    (p : EnumType → Bool) :
    (enums.filter p).mergeSort precedes = (enums.mergeSort precedes).filter p := by
  have hperm : (enums.filter p).Perm ((enums.mergeSort precedes).filter p) :=
    (List.mergeSort_perm enums precedes).symm.filter p
  have hnodup : ((enums.filter p).map (·.name)).Nodup :=
    nodup.sublist (List.filter_sublist.map _)
  have hsorted : ((enums.mergeSort precedes).filter p).Pairwise
      fun a b => precedes a b = true :=
    ((pairwise_lt_sorted nodup).filter p).imp fun h => (precedes_iff _ _).mpr (le_of_lt h)
  rw [sorted_perm hperm hnodup, List.mergeSort_of_pairwise hsorted]

/-! ## Fewer members -/

/-- The enum type with only its members of some names. -/
def EnumType.only (names : List String) (e : EnumType) : EnumType :=
  { e with members := e.members.filter fun m => m.name ∈ names }

/-- Among enum types, the one of a name with only its members of some names. -/
def EnumType.onlyIn (name : String) (names : List String) (e : EnumType) : EnumType :=
  if e.name = name then e.only names else e

theorem EnumType.name_onlyIn (name : String) (names : List String) (e : EnumType) :
    (e.onlyIn name names).name = e.name := by
  rw [onlyIn]
  split <;> rfl

section Given

variable {d : Definition} (given : ∀ spec ∈ d.members, spec.isNamed = false)

include given

/-- Where a value is given, it does not matter where its member stands. -/
theorem Definition.members_enumType_of_given :
    d.enumType.members = d.members.map (MemberSpec.memberAt 0) := by
  have hplace : ∀ p ∈ d.members.zipIdx, p.1.memberAt p.2 = p.1.memberAt 0 := by
    intro p hp
    have hgiven := given p.1 (List.fst_mem_of_mem_zipIdx hp)
    cases hspec : p.1 with
    | named name => rw [hspec] at hgiven; cases hgiven
    | explicit name value => rfl
  have hcomp : (fun p : MemberSpec × Nat => p.1.memberAt 0) = MemberSpec.memberAt 0 ∘ Prod.fst :=
    rfl
  rw [Definition.enumType, List.map_congr_left hplace, hcomp, ← List.map_map, List.zipIdx_map_fst]

theorem Definition.values_of_given : d.values = d.members.map (MemberSpec.valueAt 0) := by
  rw [← d.values_enumType, d.members_enumType_of_given given, List.map_map]
  rfl

theorem Resolve.isPositional_of_given (nonempty : d.members ≠ []) : isPositional d = false := by
  obtain ⟨spec, hspec⟩ := List.exists_mem_of_ne_nil _ nonempty
  exact (isPositional_eq_false_iff d).mpr ⟨spec, hspec, given spec hspec⟩

variable {part : List MemberSpec} (kept : part.Sublist d.members) (nonempty : part ≠ [])

include kept

theorem Definition.given_of_sublist :
    ∀ spec ∈ { d with members := part }.members, spec.isNamed = false :=
  fun spec hspec => given spec (kept.subset hspec)

include nonempty

/-- Some of the members make a valid definition, if all of them do. -/
theorem Definition.Valid.of_sublist (valid : d.Valid) : { d with members := part }.Valid := by
  have hvalues : { d with members := part }.values.Sublist d.values := by
    rw [Definition.values_of_given given,
      Definition.values_of_given (Definition.given_of_sublist given kept)]
    exact kept.map _
  exact {
    typeName := valid.typeName
    memberNames := fun spec hspec => valid.memberNames spec (kept.subset hspec)
    nonempty := nonempty
    form := .inr (Definition.given_of_sublist given kept)
    range := fun v hv => valid.range v (hvalues.subset hv)
    externalNames := valid.externalNames.sublist (kept.map _)
    constantNames := valid.constantNames.sublist (kept.map _)
    values := valid.values.sublist hvalues }

/-- It describes the enum type with the other members left out. -/
theorem Definition.enumType_of_sublist (valid : d.Valid) :
    { d with members := part }.enumType = d.enumType.only (part.map (·.name)) := by
  have hnames : (d.members.map (·.name)).Nodup := by
    refine List.Nodup.of_map Name.lowerHyphen ?_
    rw [List.map_map]
    exact valid.externalNames
  have hmembers : { d with members := part }.enumType.members =
      d.enumType.members.filter fun m => m.name ∈ part.map (·.name) := by
    have hpart := Keyed.filter_eq_of_sublist MemberSpec.name kept hnames
    rw [Definition.members_enumType_of_given (Definition.given_of_sublist given kept),
      Definition.members_enumType_of_given given, List.filter_map]
    exact congrArg _ hpart.symm
  have hpositional : Resolve.isPositional { d with members := part } = Resolve.isPositional d := by
    rw [Resolve.isPositional_of_given given valid.nonempty,
      Resolve.isPositional_of_given (Definition.given_of_sublist given kept) nonempty]
  exact EnumType.mk.injEq .. ▸ ⟨rfl, rfl, rfl, hpositional, hmembers⟩

end Given

/-- Fewer members declare fewer names. -/
theorem Style.declaredNames_only (style : Style) (names : List String) (e : EnumType) :
    (style.declaredNames (e.only names)).Sublist (style.declaredNames e) := by
  cases style with
  | go package =>
      have hconstants : ((e.only names).members.map (Go.constantName e)).Sublist
          (e.members.map (Go.constantName e)) := List.filter_sublist.map _
      have hall := (hconstants.append_right ((if e.isBitset then [] else [Go.countName e])
        ++ [Go.parseName e])).cons_cons e.name
      rw [declaredNames, Go.declaredNames_eq, Go.declaredNames_eq]
      exact hall
  | rust => exact .refl _

theorem Style.declaredNames_onlyIn (style : Style) (name : String) (names : List String)
    (e : EnumType) :
    (style.declaredNames (e.onlyIn name names)).Sublist (style.declaredNames e) := by
  rw [EnumType.onlyIn]
  split
  · exact style.declaredNames_only names e
  · exact .refl _

/-! ## Parts -/

/-- The enum types of a table in which one definition has lost members. -/
theorem Definition.map_enumType_replaced {before after : List Definition} {d d' : Definition}
    {names : List String} (nodup : ((before ++ d :: after).map (·.name)).Nodup)
    (fewer : d'.enumType = d.enumType.only names) :
    (before ++ d' :: after).map Definition.enumType =
      ((before ++ d :: after).map Definition.enumType).map (EnumType.onlyIn d.name names) := by
  have hothers : ∀ x ∈ before ++ after, x.name ≠ d.name := by
    rw [List.map_append, List.map_cons, List.nodup_middle, List.nodup_cons, ← List.map_append]
      at nodup
    exact fun x hx heq => nodup.1 (heq ▸ List.mem_map_of_mem hx)
  have hkept : ∀ x ∈ before ++ after, x.enumType = x.enumType.onlyIn d.name names :=
    fun x hx => (if_neg (hothers x hx)).symm
  rw [List.forall_mem_append] at hkept
  rw [List.map_map, List.map_append, List.map_append, List.map_cons, List.map_cons, fewer,
    List.map_congr_left hkept.1, List.map_congr_left hkept.2]
  exact congrArg (_ ++ · :: _) (if_pos rfl).symm

/-- Sorting looks at names only. -/
theorem Resolve.mergeSort_map {enums : List EnumType} {f : EnumType → EnumType}
    (named : ∀ e, (f e).name = e.name) :
    (enums.map f).mergeSort precedes = (enums.mergeSort precedes).map f := by
  refine (List.map_mergeSort fun a _ b _ => ?_).symm
  rw [precedes, precedes, named, named]

namespace EnumTable

section Accepted

variable {style : Style} {header : Header} {artifact : Artifact}

/-- Definitions that leave an accepted table take their blocks with them. -/
theorem generate_of_sublist {ds kept : List Definition}
    (accepted : (EnumTable.mk ds).generate style header = .ok artifact)
    (part : kept.Sublist ds) :
    ∃ artifact', (EnumTable.mk kept).generate style header = .ok artifact' ∧
      artifact'.enums = artifact.enums.filter (fun e => e.name ∈ kept.map (·.name)) ∧
      artifact'.text = style.opening header ++ String.join (artifact'.enums.map style.block) := by
  obtain ⟨nodup, valid, checked, henums, -⟩ := (generate_eq_ok_iff_blocks ..).mp accepted
  have hnodup := nodup_map_enumType nodup
  have hfewer := (part.map Definition.enumType).flatMap style.declaredNames
  have hpart := Keyed.filter_eq_of_sublist (·.name) (part.map Definition.enumType) hnodup
  have hsorted : artifact.enums.filter (fun e => e.name ∈ kept.map (·.name)) =
      (kept.map Definition.enumType).mergeSort Resolve.precedes := by
    rw [henums, ← Resolve.mergeSort_filter hnodup, ← hpart, List.map_map]
    rfl
  exact ⟨_, generate_of_blocks style header (nodup.sublist (part.map _))
    (fun d hd => valid d (part.subset hd)) (Style.checkNames_of_sublist hfewer checked) hsorted,
    rfl, rfl⟩

variable {before after : List Definition} {d : Definition} {part : List MemberSpec}
  (accepted : (EnumTable.mk (before ++ d :: after)).generate style header = .ok artifact)
  (given : ∀ spec ∈ d.members, spec.isNamed = false) (kept : part.Sublist d.members)

include accepted given kept

/-- Members that leave a definition change the block of its enum type alone. -/
theorem generate_of_fewer_members (nonempty : part ≠ []) :
    ∃ artifact', (EnumTable.mk (before ++ { d with members := part } :: after)).generate
        style header = .ok artifact' ∧
      artifact'.enums = artifact.enums.map (EnumType.onlyIn d.name (part.map (·.name))) ∧
      artifact'.text = style.opening header ++ String.join (artifact'.enums.map style.block) := by
  obtain ⟨nodup, valid, checked, henums, -⟩ := (generate_eq_ok_iff_blocks ..).mp accepted
  have hd : d ∈ before ++ d :: after := List.mem_append_right _ List.mem_cons_self
  have hvalid := Definition.Valid.of_sublist given kept nonempty (valid d hd)
  have honly := Definition.enumType_of_sublist given kept nonempty (valid d hd)
  have hreplaced := Definition.map_enumType_replaced nodup honly
  have hnames : (before ++ { d with members := part } :: after).map (·.name) =
      (before ++ d :: after).map (·.name) := by
    rw [List.map_append, List.map_append, List.map_cons, List.map_cons]
  have hall : ∀ x ∈ before ++ { d with members := part } :: after, x.Valid := by
    rw [List.forall_mem_append, List.forall_mem_cons] at valid ⊢
    exact ⟨valid.1, hvalid, valid.2.2⟩
  have hchecked : style.checkNames ((before ++ { d with members := part } :: after).map
      Definition.enumType) = .ok () := by
    refine Style.checkNames_of_sublist ?_ checked
    rw [hreplaced, List.flatMap_map]
    exact List.Sublist.flatMap_right _ fun e _ => style.declaredNames_onlyIn _ _ e
  have hsorted : artifact.enums.map (EnumType.onlyIn d.name (part.map (·.name))) =
      ((before ++ { d with members := part } :: after).map Definition.enumType).mergeSort
        Resolve.precedes := by
    rw [hreplaced, Resolve.mergeSort_map (EnumType.name_onlyIn _ _), henums]
  exact ⟨_, generate_of_blocks style header (hnames ▸ nodup) hall hchecked hsorted, rfl, rfl⟩

/-- The members that are left are those that were meant to stay. -/
theorem names_only_of_accepted {e : EnumType} (member : e ∈ artifact.enums)
    (named : e.name = d.name) :
    (e.only (part.map (·.name))).members.map (·.name) = part.map (·.name) := by
  obtain ⟨nodup, valid, -, henums, -⟩ := (generate_eq_ok_iff_blocks ..).mp accepted
  have hd : d ∈ before ++ d :: after := List.mem_append_right _ List.mem_cons_self
  rw [henums, List.mem_mergeSort] at member
  obtain rfl : e = d.enumType := List.inj_on_of_nodup_map (nodup_map_enumType nodup) member
    (List.mem_map_of_mem hd) named
  cases part with
  | nil => simp [EnumType.only]
  | cons spec rest =>
      rw [← Definition.enumType_of_sublist given kept (List.cons_ne_nil _ _) (valid d hd)]
      exact Definition.map_enumType_members _ _ _ fun _ _ => rfl

end Accepted

/-- A part of an accepted table is accepted, and its artifact is the old one without the blocks of
the enum types that have gone. An accepted table stays accepted when members leave a definition that
gives all its values, unless none is left: the members that stay are those of the old enum type, and
so are all other blocks. -/
theorem parts_stay_accepted {table : EnumTable} {style : Style} {header : Header}
    {artifact : Artifact} (accepted : table.generate style header = .ok artifact) :
    artifact.text = style.opening header ++ String.join (artifact.enums.map style.block) ∧
    (∀ kept : List Definition, kept.Sublist table.definitions →
      ∃ artifact', (EnumTable.mk kept).generate style header = .ok artifact' ∧
        artifact'.enums = artifact.enums.filter (fun e => e.name ∈ kept.map (·.name)) ∧
        artifact'.text = style.opening header ++ String.join (artifact'.enums.map style.block)) ∧
    ∀ (before after : List Definition) (d : Definition) (part : List MemberSpec),
      table.definitions = before ++ d :: after → (∀ spec ∈ d.members, spec.isNamed = false) →
      part.Sublist d.members → part ≠ [] →
      ∃ artifact', (EnumTable.mk (before ++ { d with members := part } :: after)).generate
          style header = .ok artifact' ∧
        artifact'.enums = artifact.enums.map (EnumType.onlyIn d.name (part.map (·.name))) ∧
        (∀ e ∈ artifact.enums, e.name = d.name →
          (e.only (part.map (·.name))).members.map (·.name) = part.map (·.name)) ∧
        artifact'.text = style.opening header ++ String.join (artifact.enums.map fun e =>
          if e.name = d.name then style.block (e.only (part.map (·.name))) else style.block e) := by
  obtain ⟨ds⟩ := table
  obtain ⟨-, -, -, -, htext⟩ := (generate_eq_ok_iff_blocks ds style header artifact).mp accepted
  refine ⟨htext, fun kept part => generate_of_sublist accepted part, ?_⟩
  rintro before after d part rfl given kept nonempty
  obtain ⟨artifact', haccepted, henums, htext'⟩ :=
    generate_of_fewer_members accepted given kept nonempty
  have hblock : ∀ e : EnumType, style.block (e.onlyIn d.name (part.map (·.name))) =
      if e.name = d.name then style.block (e.only (part.map (·.name))) else style.block e :=
    fun e => apply_ite style.block ..
  refine ⟨artifact', haccepted, henums,
    fun e => names_only_of_accepted accepted given kept, ?_⟩
  rw [htext', henums, List.map_map, Function.comp_def]
  simp only [hblock]

/-- The small table without its second enum type, and with one flag less in its first. -/
theorem parts_stay_accepted_panel :
    (∃ artifact, (EnumTable.mk
        [⟨"Access", [.explicit "Read" 1, .explicit "Write" 2147483648], true, false⟩,
          ⟨"Phase", [.explicit "Low" (-5), .explicit "Unknown" 7], false, false⟩]).generate
            .rust ⟨[]⟩ = .ok artifact ∧ artifact.enums = [Panel.access, Panel.phase]) ∧
    ∃ artifact, (EnumTable.mk
        [⟨"Access", [.explicit "Write" 2147483648], true, false⟩,
          ⟨"Align", [.named "Auto", .named "FlexStart"], false, true⟩,
          ⟨"Phase", [.explicit "Low" (-5), .explicit "Unknown" 7], false, false⟩]).generate
            .rust ⟨[]⟩ = .ok artifact ∧
      artifact.enums =
        [⟨"Access", .u32, false, false, [⟨"Write", "WRITE", "write", 2147483648⟩]⟩, Panel.align,
          Panel.phase] := by
  have accepted := generate_of_checks .rust Panel.resolve_table (by decide +kernel) ⟨[]⟩
  obtain ⟨-, hfewer, hmembers⟩ := parts_stay_accepted accepted
  obtain ⟨first, hfirst, henums, -⟩ := hfewer _ ((List.Sublist.refl _).cons _ |>.cons_cons _)
  obtain ⟨second, hsecond, henums', -, -⟩ := hmembers [] _ _ [.explicit "Write" 2147483648] rfl
    (by decide) (by decide) (by decide)
  exact ⟨⟨first, hfirst, henums.trans (by decide)⟩, second, hsecond, henums'.trans (by decide)⟩

end EnumTable

end EnumBindings
