import EnumBindings.Proofs.Resolution

/-!
# Which fault is reported

A definition can be wrong in several ways at once. `FirstFault` says which of its faults is the
first one, in the order in which a reader goes through it: the type name, whether there are
members, then the members from the first to the last, and at last whether two members share a key.
It is the one that resolution reports (`first_fault_reported`).
-/

namespace EnumBindings

open Name (IsIdentifier)

/-! ## Faults of members -/

/-- The values that a definition has room for. -/
def Definition.InRange (d : Definition) (v : Int) : Prop :=
  if d.bitset then 0 ≤ v ∧ v ≤ 2 ^ 32 - 1 else -2 ^ 31 ≤ v ∧ v ≤ 2 ^ 31 - 1

/-- What is wrong with a member at a position: its name, else the form of its value, else the value
itself. -/
inductive MemberFault (d : Definition) (index : Nat) (spec : MemberSpec) : GenerateError → Prop
  | identifier (bad : ¬IsIdentifier spec.name) :
      MemberFault d index spec (.invalidIdentifier d.name spec.name)
  | bitset (name : IsIdentifier spec.name) (bare : spec.isNamed = true) (flags : d.bitset = true) :
      MemberFault d index spec (.namedBitsetMember d.name spec.name)
  | mixed (name : IsIdentifier spec.name) (bare : spec.isNamed = true)
      (sequential : d.bitset = false) (given : ∃ other ∈ d.members, other.isNamed = false) :
      MemberFault d index spec (.mixedMembers d.name spec.name)
  | range (name : IsIdentifier spec.name)
      (form : spec.isNamed = true → d.bitset = false ∧ ∀ other ∈ d.members, other.isNamed = true)
      (outside : ¬d.InRange (spec.valueAt index)) :
      MemberFault d index spec (.valueOutOfRange d.name spec.name (spec.valueAt index)
        (if d.bitset then .u32 else .i32))

/-- Nothing is wrong with the member at a position. -/
def Definition.Passes (d : Definition) (index : Nat) : Prop :=
  ∀ spec, d.members[index]? = some spec → ∀ e, ¬MemberFault d index spec e

/-! ## Clashes of members -/

/-- What members are told apart by. -/
inductive Key where
  | external
  | constant
  | value

namespace Key

/-- Whether two members have a key in common. -/
def shared : Key → Member → Member → Bool
  | external, a, b => a.externalName == b.externalName
  | constant, a, b => a.constantName == b.constantName
  | value, a, b => a.value == b.value

/-- What is said about two members with a key in common. -/
def clash (enumName : String) : Key → Member → Member → GenerateError
  | external, a, b => .ambiguousExternalName enumName a.name b.name b.externalName
  | constant, a, b => .constantNameCollision enumName a.name b.name b.constantName
  | value, a, b => .duplicateValue enumName a.name b.name b.value

/-- The keys that count before a key. -/
def before : Key → List Key
  | external => []
  | constant => [external]
  | value => [external, constant]

end Key

/-- The first member that has a key in common with one before it is the one at `j`. Of its keys it
is the first that is shared, and it is shared with the member at `i` alone. -/
structure FirstClash (members : List Member) (key : Key) (i j : Nat) (a b : Member) : Prop where
  order : i < j
  first : members[i]? = some a
  second : members[j]? = some b
  shared : key.shared a b = true
  only : ∀ k < j, k ≠ i → ∀ c, members[k]? = some c → key.shared c b = false
  precedence : ∀ other ∈ key.before, ∀ k < j, ∀ c, members[k]? = some c → other.shared c b = false
  least : ∀ k l, k < l → l < j → ∀ c d, members[k]? = some c → members[l]? = some d →
    ∀ other : Key, other.shared c d = false

/-- The first fault of a definition. -/
inductive FirstFault (d : Definition) : GenerateError → Prop
  | typeName (bad : ¬IsIdentifier d.name) : FirstFault d (.invalidIdentifier d.name d.name)
  | empty (name : IsIdentifier d.name) (none : d.members = []) : FirstFault d (.emptyEnum d.name)
  | member (name : IsIdentifier d.name) {index : Nat} {spec : MemberSpec} {e : GenerateError}
      (there : d.members[index]? = some spec) (fault : MemberFault d index spec e)
      (earlier : ∀ k < index, d.Passes k) : FirstFault d e
  | clash (name : IsIdentifier d.name) (passed : ∀ k, d.Passes k) {key : Key} {i j : Nat}
      {a b : Member} (first : FirstClash d.enumType.members key i j a b) :
      FirstFault d (key.clash d.name a b)

namespace Resolve

/-! ## One lemma for each check -/

theorem checkIdentifier_eq_error_iff (enumName name : String) (e : GenerateError) :
    checkIdentifier enumName name = .error e ↔
      ¬IsIdentifier name ∧ e = .invalidIdentifier enumName name := by
  rw [← Name.isIdentifier_iff, checkIdentifier]
  cases Name.isIdentifier name <;> simp [eq_comm]

theorem isPositional_eq_false_iff (d : Definition) :
    isPositional d = false ↔ ∃ other ∈ d.members, other.isNamed = false := by
  simp [isPositional]

theorem member_eq_error_iff {d : Definition} {spec : MemberSpec} (hspec : spec ∈ d.members)
    (index : Nat) (e : GenerateError) :
    member d spec index = .error e ↔ MemberFault d index spec e := by
  have hrange : (representation d).contains (spec.valueAt index) = true ↔
      d.InRange (spec.valueAt index) := contains_representation_iff d _
  constructor
  · intro h
    unfold member at h
    cases hname : checkIdentifier d.name spec.name with
    | error e' =>
        rw [hname] at h
        cases h
        obtain ⟨hbad, rfl⟩ := (checkIdentifier_eq_error_iff _ _ _).mp hname
        exact .identifier hbad
    | ok _ =>
        have hidentifier := (checkIdentifier_eq_ok_iff _ _).mp hname
        cases hvalue : memberValue d index spec with
        | error e' =>
            rw [hname, hvalue] at h
            cases h
            cases spec with
            | explicit name value =>
                rw [memberValue_explicit hspec] at hvalue
                cases hvalue
            | named name =>
                rw [memberValue] at hvalue
                split at hvalue
                · rename_i hflags
                  cases hvalue
                  exact .bitset hidentifier rfl hflags
                · rename_i hflags
                  split at hvalue
                  · cases hvalue
                  · rename_i hpositional
                    cases hvalue
                    refine .mixed hidentifier rfl (Bool.eq_false_iff.mpr hflags) ?_
                    exact (isPositional_eq_false_iff d).mp (Bool.eq_false_iff.mpr hpositional)
        | ok v =>
            obtain ⟨hform, rfl⟩ := (memberValue_eq_ok_iff hspec index v).mp hvalue
            rw [hname, hvalue] at h
            by_cases hinside : (representation d).contains (spec.valueAt index) = true
            · simp only [bind, Except.bind, hinside, if_true] at h
              cases h
            · simp only [bind, Except.bind, hinside] at h
              cases h
              refine .range hidentifier (fun hbare => ?_) (fun hin => hinside (hrange.mpr hin))
              obtain ⟨hflags, hpositional⟩ := hform hbare
              exact ⟨hflags, (isPositional_iff d).mp hpositional⟩
  · intro h
    unfold member
    cases h with
    | identifier bad =>
        rw [(checkIdentifier_eq_error_iff _ _ _).mpr ⟨bad, rfl⟩]
        rfl
    | bitset name bare flags =>
        cases spec with
        | explicit name value => cases bare
        | named name' =>
            rw [(checkIdentifier_eq_ok_iff _ _).mpr name]
            simp [memberValue, flags, bind, Except.bind, MemberSpec.name]
    | mixed name bare sequential given =>
        have hpositional := (isPositional_eq_false_iff d).mpr given
        cases spec with
        | explicit name value => cases bare
        | named name' =>
            rw [(checkIdentifier_eq_ok_iff _ _).mpr name]
            simp [memberValue, sequential, hpositional, bind, Except.bind, MemberSpec.name]
    | range name form outside =>
        have hvalue : memberValue d index spec = .ok (spec.valueAt index) := by
          refine (memberValue_eq_ok_iff hspec index _).mpr ⟨fun hbare => ?_, rfl⟩
          exact ⟨(form hbare).1, (isPositional_iff d).mpr (form hbare).2⟩
        have hinside := hrange.not.mpr outside
        rw [(checkIdentifier_eq_ok_iff _ _).mpr name, hvalue]
        simp only [bind, Except.bind, hinside]
        rfl

/-- A member is accepted if nothing is wrong with it. -/
theorem accepted_iff {d : Definition} {spec : MemberSpec} (hspec : spec ∈ d.members)
    (index : Nat) : Accepted d spec index ↔ ∀ e, ¬MemberFault d index spec e := by
  constructor
  · intro hacc e hfault
    have hok := (member_eq_ok_iff hspec index _).mpr ⟨hacc, rfl⟩
    rw [(member_eq_error_iff hspec index e).mpr hfault] at hok
    cases hok
  · intro h
    cases hmember : member d spec index with
    | ok m => exact ((member_eq_ok_iff hspec index m).mp hmember).1
    | error e => exact absurd ((member_eq_error_iff hspec index e).mp hmember) (h e)

/-- The loop stops at the first member that is not accepted. -/
theorem membersFrom_eq_error_iff {d : Definition} {specs : List MemberSpec}
    (hspecs : ∀ spec ∈ specs, spec ∈ d.members) (index : Nat) (e : GenerateError) :
    membersFrom d index specs = .error e ↔
      ∃ k spec, specs[k]? = some spec ∧ MemberFault d (index + k) spec e ∧
        ∀ l < k, ∀ other, specs[l]? = some other → Accepted d other (index + l) := by
  induction specs generalizing index with
  | nil => simp [membersFrom]
  | cons spec rest ih =>
      obtain ⟨hspec, hothers⟩ := List.forall_mem_cons.mp hspecs
      rw [membersFrom]
      constructor
      · intro h
        cases hfirst : member d spec index with
        | error e' =>
            rw [hfirst] at h
            cases h
            exact ⟨0, spec, rfl, (member_eq_error_iff hspec _ _).mp hfirst, by simp⟩
        | ok m =>
            rw [hfirst] at h
            cases hrest : membersFrom d (index + 1) rest with
            | ok ms => rw [hrest] at h; cases h
            | error e' =>
                rw [hrest] at h
                cases h
                obtain ⟨k, found, hfound, hfault, hearlier⟩ := (ih hothers (index + 1)).mp hrest
                refine ⟨k + 1, found, hfound, by rwa [Nat.add_right_comm] at hfault, ?_⟩
                intro l hl other hother
                cases l with
                | zero =>
                    cases hother
                    exact ((member_eq_ok_iff hspec index m).mp hfirst).1
                | succ l =>
                    have hacc := hearlier l (by omega) other hother
                    rwa [Nat.add_right_comm] at hacc
      · rintro ⟨k, found, hfound, hfault, hearlier⟩
        cases k with
        | zero =>
            cases hfound
            rw [(member_eq_error_iff hspec index e).mpr hfault]
            rfl
        | succ k =>
            have hhead := hearlier 0 (by omega) spec rfl
            have hrest : membersFrom d (index + 1) rest = .error e := by
              refine (ih hothers (index + 1)).mpr ⟨k, found, hfound, ?_, ?_⟩
              · rwa [Nat.add_right_comm]
              · intro l hl other hother
                rw [Nat.add_right_comm]
                exact hearlier (l + 1) (by omega) other hother
            rw [(member_eq_ok_iff hspec index _).mpr ⟨hhead, rfl⟩, hrest]
            rfl

/-! ## Clashes -/

theorem apart_iff (a b : Member) : Apart a b ↔ ∀ key : Key, key.shared a b = false := by
  constructor
  · rintro ⟨hexternal, hconstant, hvalue⟩ key
    cases key <;> simpa [Key.shared]
  · intro h
    have hexternal := h .external
    have hconstant := h .constant
    have hvalue := h .value
    simp only [Key.shared, beq_eq_false_iff_ne] at hexternal hconstant hvalue
    exact ⟨hexternal, hconstant, hvalue⟩

theorem clash?_eq_some_iff (enumName : String) (earlier : List Member) (m : Member)
    (e : GenerateError) :
    clash? enumName earlier m = some e ↔
      ∃ key a, earlier.find? (Key.shared key · m) = some a ∧
        (∀ other ∈ key.before, ∀ c ∈ earlier, other.shared c m = false) ∧
        e = key.clash enumName a m := by
  have hnone (p : Member → Bool) : earlier.find? p = none ↔ ∀ c ∈ earlier, p c = false := by
    simp
  unfold clash?
  constructor
  · intro h
    split at h
    · rename_i a hexternal
      cases h
      exact ⟨.external, a, hexternal, by simp [Key.before], rfl⟩
    · rename_i hexternal
      rw [hnone] at hexternal
      split at h
      · rename_i a hconstant
        cases h
        exact ⟨.constant, a, hconstant, by simpa [Key.before, Key.shared] using hexternal, rfl⟩
      · rename_i hconstant
        rw [hnone] at hconstant
        split at h
        · rename_i a hvalue
          cases h
          refine ⟨.value, a, hvalue, ?_, rfl⟩
          simpa [Key.before, Key.shared] using And.intro hexternal hconstant
        · cases h
  · rintro ⟨key, a, hfind, hbefore, rfl⟩
    cases key with
    | external =>
        simp only [Key.shared] at hfind
        rw [hfind]
        rfl
    | constant =>
        have hexternal := (hnone _).mpr (hbefore .external (by simp [Key.before]))
        simp only [Key.shared] at hfind hexternal
        rw [hexternal, hfind]
        rfl
    | value =>
        have hexternal := (hnone _).mpr (hbefore .external (by simp [Key.before]))
        have hconstant := (hnone _).mpr (hbefore .constant (by simp [Key.before]))
        simp only [Key.shared] at hfind hexternal hconstant
        rw [hexternal, hconstant, hfind]
        rfl

/-- The scan stops at the first member that clashes. -/
theorem checkUnique_eq_error_iff (enumName : String) (earlier members : List Member)
    (e : GenerateError) :
    checkUnique enumName earlier members = .error e ↔
      ∃ j m, members[j]? = some m ∧ clash? enumName (earlier ++ members.take j) m = some e ∧
        ∀ l < j, ∀ c, members[l]? = some c →
          clash? enumName (earlier ++ members.take l) c = none := by
  induction members generalizing earlier with
  | nil => simp [checkUnique]
  | cons m rest ih =>
      have hshift (l : Nat) : earlier ++ (m :: rest).take (l + 1) =
          earlier ++ [m] ++ rest.take l := by simp
      rw [checkUnique]
      constructor
      · intro h
        cases hclash : clash? enumName earlier m with
        | some e' =>
            rw [hclash] at h
            cases h
            exact ⟨0, m, rfl, by simpa using hclash, by simp⟩
        | none =>
            rw [hclash] at h
            obtain ⟨j, found, hfound, hmeets, hearlier⟩ := (ih (earlier ++ [m])).mp h
            refine ⟨j + 1, found, hfound, by rwa [hshift], ?_⟩
            intro l hl c hc
            cases l with
            | zero => cases hc; simpa using hclash
            | succ l =>
                rw [hshift]
                exact hearlier l (by omega) c hc
      · rintro ⟨j, found, hfound, hmeets, hearlier⟩
        cases j with
        | zero =>
            cases hfound
            rw [List.take_zero, List.append_nil] at hmeets
            rw [hmeets]
        | succ j =>
            have hhead := hearlier 0 (by omega) m rfl
            rw [List.take_zero, List.append_nil] at hhead
            rw [hhead]
            refine (ih (earlier ++ [m])).mpr ⟨j, found, hfound, by rwa [hshift] at hmeets, ?_⟩
            intro l hl c hc
            have hnone := hearlier (l + 1) (by omega) c hc
            rwa [hshift] at hnone

theorem mem_take_iff {members : List Member} {j : Nat} {a : Member} :
    a ∈ members.take j ↔ ∃ i < j, members[i]? = some a := by
  simp only [List.mem_iff_getElem?, List.getElem?_take]
  constructor
  · rintro ⟨i, hi⟩
    split at hi
    · rename_i hlt
      exact ⟨i, hlt, hi⟩
    · cases hi
  · rintro ⟨i, hlt, hi⟩
    exact ⟨i, by rw [if_pos hlt, hi]⟩

/-- No member clashes up to a position if no two of the members before it have a key in common. -/
theorem forall_clash?_eq_none_iff (enumName : String) (members : List Member) (j : Nat) :
    (∀ l < j, ∀ d, members[l]? = some d → clash? enumName (members.take l) d = none) ↔
      ∀ k l, k < l → l < j → ∀ c d, members[k]? = some c → members[l]? = some d →
        ∀ key : Key, key.shared c d = false := by
  constructor
  · intro h k l hkl hlj c d hc hd
    have hapart := (clash?_eq_none_iff _ _ _).mp (h l hlj d hd) c (mem_take_iff.mpr ⟨k, hkl, hc⟩)
    exact (apart_iff c d).mp hapart
  · intro h l hlj d hd
    refine (clash?_eq_none_iff _ _ _).mpr fun c hc => ?_
    obtain ⟨k, hkl, hc⟩ := mem_take_iff.mp hc
    exact (apart_iff c d).mpr (h k l hkl hlj c d hc hd)

/-- Two members that share a key with a third share it with each other. -/
theorem shared_of_shared {key : Key} {a b c : Member} (ha : key.shared a c = true)
    (hb : key.shared b c = true) : key.shared a b = true := by
  cases key <;> simp only [Key.shared, beq_iff_eq] at ha hb ⊢ <;> rw [ha, hb]

/-- Where the members before one are told apart by all keys, it shares a key with one of them at
most, and that is the one that a search finds. -/
theorem find?_take_eq_some_iff {members : List Member} {key : Key} {j : Nat} {a b : Member}
    (least : ∀ k l, k < l → l < j → ∀ c d, members[k]? = some c → members[l]? = some d →
      ∀ other : Key, other.shared c d = false) :
    (members.take j).find? (key.shared · b) = some a ↔
      ∃ i < j, members[i]? = some a ∧ key.shared a b = true ∧
        ∀ k < j, k ≠ i → ∀ c, members[k]? = some c → key.shared c b = false := by
  constructor
  · intro h
    have hshared : key.shared a b = true := by simpa using List.find?_some h
    obtain ⟨i, hi, ha⟩ := mem_take_iff.mp (List.mem_of_find?_eq_some h)
    refine ⟨i, hi, ha, hshared, fun k hk hne c hc => ?_⟩
    by_contra hmeets
    have hmeets : key.shared c b = true := by simpa using hmeets
    rcases Nat.lt_or_gt_of_ne hne with hki | hik
    · have hboth := shared_of_shared hmeets hshared
      rw [least k i hki hi c a hc ha key] at hboth
      cases hboth
    · have hboth := shared_of_shared hshared hmeets
      rw [least i k hik hk a c ha hc key] at hboth
      cases hboth
  · rintro ⟨i, hi, ha, hshared, honly⟩
    cases hfind : (members.take j).find? (key.shared · b) with
    | none =>
        have hnone := List.find?_eq_none.mp hfind a (mem_take_iff.mpr ⟨i, hi, ha⟩)
        exact absurd hshared hnone
    | some c =>
        obtain ⟨k, hk, hc⟩ := mem_take_iff.mp (List.mem_of_find?_eq_some hfind)
        have hmeets : key.shared c b = true := by simpa using List.find?_some hfind
        by_cases hki : k = i
        · rw [← hc, hki, ha]
        · rw [honly k hk hki c hc] at hmeets
          cases hmeets

/-- The scan over all members reports the first clash. -/
theorem checkUnique_nil_eq_error_iff (enumName : String) (members : List Member)
    (e : GenerateError) :
    checkUnique enumName [] members = .error e ↔
      ∃ key i j a b, FirstClash members key i j a b ∧ e = key.clash enumName a b := by
  simp only [checkUnique_eq_error_iff, List.nil_append, clash?_eq_some_iff]
  constructor
  · rintro ⟨j, b, hb, ⟨key, a, hfind, hbefore, rfl⟩, hearlier⟩
    have least := (forall_clash?_eq_none_iff enumName members j).mp hearlier
    obtain ⟨i, hi, ha, hshared, honly⟩ := (find?_take_eq_some_iff least).mp hfind
    refine ⟨key, i, j, a, b, ⟨hi, ha, hb, hshared, honly, ?_, least⟩, rfl⟩
    intro other hother k hk c hc
    exact hbefore other hother c (mem_take_iff.mpr ⟨k, hk, hc⟩)
  · rintro ⟨key, i, j, a, b, h, rfl⟩
    refine ⟨j, b, h.second, ⟨key, a, ?_, ?_, rfl⟩, ?_⟩
    · exact (find?_take_eq_some_iff h.least).mpr ⟨i, h.order, h.first, h.shared, h.only⟩
    · intro other hother c hc
      obtain ⟨k, hk, hc⟩ := mem_take_iff.mp hc
      exact h.precedence other hother k hk c hc
    · exact (forall_clash?_eq_none_iff enumName members j).mpr h.least

end Resolve

/-! ## Whole definitions -/

open Resolve

/-- Whether the member at a position is accepted. -/
theorem Definition.passes_iff (d : Definition) (k : Nat) :
    d.Passes k ↔ ∀ spec, d.members[k]? = some spec → Accepted d spec k :=
  forall₂_congr fun _ hspec => (accepted_iff (List.mem_of_getElem? hspec) k).symm

/-- Whether all members are accepted, told by positions. -/
theorem Definition.forall_passes_iff (d : Definition) :
    (∀ p ∈ d.members.zipIdx, Accepted d p.1 p.2) ↔ ∀ k, d.Passes k := by
  simp only [passes_iff]
  constructor
  · intro h k spec hspec
    exact h (spec, k) (List.mem_zipIdx_iff_getElem?.mpr hspec)
  · rintro h ⟨spec, k⟩ hp
    exact h k spec (List.mem_zipIdx_iff_getElem?.mp hp)

/-- Resolution fails with the fault that is first. -/
theorem Definition.resolve_eq_error_iff (d : Definition) (e : GenerateError) :
    d.resolve = .error e ↔ FirstFault d e := by
  have hmember : membersFrom d 0 d.members = .error e ↔
      ∃ k spec, d.members[k]? = some spec ∧ MemberFault d k spec e ∧ ∀ l < k, d.Passes l := by
    simp only [membersFrom_eq_error_iff (fun _ h => h), Nat.zero_add, d.passes_iff]
  constructor
  · intro h
    unfold Definition.resolve at h
    cases hname : checkIdentifier d.name d.name with
    | error e' =>
        rw [hname] at h
        cases h
        obtain ⟨hbad, rfl⟩ := (checkIdentifier_eq_error_iff _ _ _).mp hname
        exact .typeName hbad
    | ok _ =>
        have hidentifier := (checkIdentifier_eq_ok_iff _ _).mp hname
        rw [hname] at h
        by_cases hempty : d.members = []
        · simp only [hempty, List.isEmpty_nil, if_true, bind, Except.bind] at h
          cases h
          exact .empty hidentifier hempty
        · cases hmembers : membersFrom d 0 d.members with
          | error e' =>
              simp only [hempty, hmembers, List.isEmpty_iff, if_false, bind, Except.bind] at h
              cases h
              obtain ⟨k, spec, hspec, hfault, hearlier⟩ := hmember.mp hmembers
              exact .member hidentifier hspec hfault hearlier
          | ok members =>
              obtain ⟨hacc, hms⟩ := (membersFrom_eq_ok_iff (fun _ h => h) 0 members).mp hmembers
              cases hunique : checkUnique d.name [] members with
              | ok _ =>
                  simp only [hempty, hmembers, hunique, List.isEmpty_iff, if_false, bind,
                    Except.bind, pure, Except.pure] at h
                  cases h
              | error e' =>
                  simp [hempty, hmembers, hunique, bind, Except.bind] at h
                  subst h
                  obtain ⟨key, i, j, a, b, hfirst, rfl⟩ :=
                    (checkUnique_nil_eq_error_iff _ _ _).mp hunique
                  rw [hms] at hfirst
                  exact .clash hidentifier (d.forall_passes_iff.mp hacc) hfirst
  · intro h
    unfold Definition.resolve
    cases h with
    | typeName bad =>
        rw [(checkIdentifier_eq_error_iff _ _ _).mpr ⟨bad, rfl⟩]
        rfl
    | empty name none =>
        rw [(checkIdentifier_eq_ok_iff _ _).mpr name, none]
        rfl
    | member name there fault earlier =>
        have hmembers := hmember.mpr ⟨_, _, there, fault, earlier⟩
        have hsome : d.members ≠ [] := by
          intro hnil
          rw [hnil] at there
          cases there
        rw [(checkIdentifier_eq_ok_iff _ _).mpr name]
        simp [hsome, hmembers, bind, Except.bind]
    | clash name passed first =>
        have hmembers := (membersFrom_eq_ok_iff (fun _ h => h) 0 _).mpr
          ⟨d.forall_passes_iff.mpr passed, rfl⟩
        have hunique := (checkUnique_nil_eq_error_iff d.name _ _).mpr
          ⟨_, _, _, _, _, first, rfl⟩
        have hsome : d.members ≠ [] := by
          intro hnil
          have hfirst := first.first
          rw [Definition.enumType, hnil] at hfirst
          cases hfirst
        rw [(checkIdentifier_eq_ok_iff _ _).mpr name]
        simp only [Definition.enumType] at hunique
        simp [hsome, hmembers, hunique, bind, Except.bind]

/-- A bare member is reported for want of a value only in an enum that is no flag set and in which
another member has one. -/
theorem FirstFault.of_mixedMembers {d : Definition} {enumName memberName : String}
    (h : FirstFault d (.mixedMembers enumName memberName)) :
    d.bitset = false ∧ MemberSpec.named memberName ∈ d.members ∧
      ∃ other ∈ d.members, other.isNamed = false := by
  generalize he : GenerateError.mixedMembers enumName memberName = e at h
  cases h with
  | typeName bad => cases he
  | empty name none => cases he
  | @member name index spec _ there fault earlier =>
      cases fault with
      | identifier bad => cases he
      | bitset name bare flags => cases he
      | range name form outside => cases he
      | mixed name bare sequential given =>
          cases spec with
          | explicit n v => cases bare
          | named n =>
              cases he
              exact ⟨sequential, List.mem_of_getElem? there, given⟩
  | @clash name passed key i j a b first => cases key <;> cases he

/-- A bare member is reported as one of a flag set only in a flag set. -/
theorem FirstFault.of_namedBitsetMember {d : Definition} {enumName memberName : String}
    (h : FirstFault d (.namedBitsetMember enumName memberName)) :
    d.bitset = true ∧ MemberSpec.named memberName ∈ d.members := by
  generalize he : GenerateError.namedBitsetMember enumName memberName = e at h
  cases h with
  | typeName bad => cases he
  | empty name none => cases he
  | @member name index spec _ there fault earlier =>
      cases fault with
      | identifier bad => cases he
      | mixed name bare sequential given => cases he
      | range name form outside => cases he
      | bitset name bare flags =>
          cases spec with
          | explicit n v => cases bare
          | named n =>
              cases he
              exact ⟨flags, List.mem_of_getElem? there⟩
  | @clash name passed key i j a b first => cases key <;> cases he

/-- Resolution fails exactly where a definition has a fault, and it says the first one. A bare
member is refused in an enum that has a member with a value on whichever side, and in a flag set,
and neither refusal stands for the other. -/
theorem Definition.first_fault_reported (d : Definition) :
    (∀ e, d.resolve = .error e ↔ FirstFault d e) ∧
      (∀ enumName memberName, d.resolve = .error (.mixedMembers enumName memberName) →
        d.bitset = false ∧ MemberSpec.named memberName ∈ d.members ∧
          ∃ other ∈ d.members, other.isNamed = false) ∧
      (∀ enumName memberName, d.resolve = .error (.namedBitsetMember enumName memberName) →
        d.bitset = true ∧ MemberSpec.named memberName ∈ d.members) := by
  refine ⟨d.resolve_eq_error_iff, fun enumName memberName h => ?_,
    fun enumName memberName h => ?_⟩
  · exact ((d.resolve_eq_error_iff _).mp h).of_mixedMembers
  · exact ((d.resolve_eq_error_iff _).mp h).of_namedBitsetMember

/-- The first member has a value, the second has none, and the third repeats the first: the second
is reported, as a bare member beside one with a value. -/
theorem Definition.first_fault_reported_edge :
    FirstFault
      { name := "Edge", preserve := false, bitset := false
        members := [.explicit "Left" 1, .named "Top", .explicit "Left" 1] }
      (.mixedMembers "Edge" "Top") ∧
    (MemberSpec.named "Top" ∈ [MemberSpec.explicit "Left" 1, .named "Top", .explicit "Left" 1]) := by
  have h := Definition.first_fault_reported
    { name := "Edge", preserve := false, bitset := false
      members := [.explicit "Left" 1, .named "Top", .explicit "Left" 1] }
  have hfails : Definition.resolve
      { name := "Edge", preserve := false, bitset := false
        members := [.explicit "Left" 1, .named "Top", .explicit "Left" 1] } =
      .error (.mixedMembers "Edge" "Top") := by decide +kernel
  exact ⟨(h.1 _).mp hfails, (h.2.1 _ _ hfails).2.1⟩

end EnumBindings
