import Mathlib.Data.String.Basic

/-!
# Strings in byte order

Strings are compared character by character, their encodings byte by byte. Both orders are the
same (`bytesOf_lt_iff`): a character with a smaller code is encoded so that the first byte that
differs is smaller (`below_of_lt`).
-/

namespace EnumBindings

/-- The bytes of a string. -/
def bytesOf (s : String) : List UInt8 := s.toList.flatMap String.utf8EncodeChar

theorem toList_toUTF8 (s : String) : s.toUTF8.data.toList = bytesOf s := by
  conv_lhs => rw [← String.ofList_toList (s := s)]
  exact List.toList_data_toByteArray

/-- Two lists of bytes differ, and the first byte that differs is smaller in one of them. -/
inductive Below : List UInt8 → List UInt8 → Prop
  | here {x y : UInt8} (a b : List UInt8) (h : x < y) : Below (x :: a) (y :: b)
  | later (x : UInt8) {a b : List UInt8} (h : Below a b) : Below (x :: a) (x :: b)

/-- What comes behind does not matter. -/
theorem Below.append_lt {a b : List UInt8} (h : Below a b) (a' b' : List UInt8) :
    a ++ a' < b ++ b' := by
  induction h with
  | here a b h => exact List.cons_lt_cons_iff.mpr (.inl h)
  | later x _ ih => exact List.cons_lt_cons_iff.mpr (.inr ⟨rfl, ih⟩)

section Digits

variable {m n : Nat} {a b : List UInt8}

theorem below_of_digit_lt (h : m < n) (hn : n < 256) :
    Below (UInt8.ofNat m :: a) (UInt8.ofNat n :: b) := by
  refine .here a b ?_
  rw [UInt8.lt_iff_toNat_lt, UInt8.toNat_ofNat', UInt8.toNat_ofNat']
  omega

theorem below_of_digit_eq (h : m = n) (hrest : Below a b) :
    Below (UInt8.ofNat m :: a) (UInt8.ofNat n :: b) :=
  h ▸ .later _ hrest

end Digits

/-- A character with a smaller code is encoded with smaller bytes. -/
theorem below_of_lt {c d : Char} (h : c < d) :
    Below (String.utf8EncodeChar c) (String.utf8EncodeChar d) := by
  have hlt : c.val.toNat < d.val.toNat := h
  have hd : d.val.toNat < 1114112 := by
    have hvalid := d.valid
    rw [UInt32.isValidChar, Nat.isValidChar] at hvalid
    omega
  unfold String.utf8EncodeChar
  dsimp only
  generalize c.val.toNat = m at hlt
  generalize d.val.toNat = n at hlt hd
  -- the number of bytes grows with the code, and the first byte with the number of bytes
  split
  · split
    · exact below_of_digit_lt hlt (by omega)
    split
    · exact below_of_digit_lt (by omega) (by omega)
    split <;> exact below_of_digit_lt (by omega) (by omega)
  rw [if_neg (show ¬n ≤ 127 by omega)]
  split
  · split
    · rcases Nat.lt_or_ge (m / 64) (n / 64) with hfirst | hfirst
      · exact below_of_digit_lt (by omega) (by omega)
      · exact below_of_digit_eq (by omega) (below_of_digit_lt (by omega) (by omega))
    split <;> exact below_of_digit_lt (by omega) (by omega)
  rw [if_neg (show ¬n ≤ 2047 by omega)]
  split
  · split
    · rcases Nat.lt_or_ge (m / 4096) (n / 4096) with hfirst | hfirst
      · exact below_of_digit_lt (by omega) (by omega)
      refine below_of_digit_eq (by omega) ?_
      rcases Nat.lt_or_ge (m / 64) (n / 64) with hsecond | hsecond
      · exact below_of_digit_lt (by omega) (by omega)
      · exact below_of_digit_eq (by omega) (below_of_digit_lt (by omega) (by omega))
    · exact below_of_digit_lt (by omega) (by omega)
  rw [if_neg (show ¬n ≤ 65535 by omega)]
  rcases Nat.lt_or_ge (m / 262144) (n / 262144) with hfirst | hfirst
  · exact below_of_digit_lt (by omega) (by omega)
  refine below_of_digit_eq (by omega) ?_
  rcases Nat.lt_or_ge (m / 4096) (n / 4096) with hsecond | hsecond
  · exact below_of_digit_lt (by omega) (by omega)
  refine below_of_digit_eq (by omega) ?_
  rcases Nat.lt_or_ge (m / 64) (n / 64) with hthird | hthird
  · exact below_of_digit_lt (by omega) (by omega)
  · exact below_of_digit_eq (by omega) (below_of_digit_lt (by omega) (by omega))

theorem encoded_lt_of_lt {l l' : List Char} (h : l < l') :
    l.flatMap String.utf8EncodeChar < l'.flatMap String.utf8EncodeChar := by
  induction l generalizing l' with
  | nil =>
      cases l' with
      | nil => exact absurd h (List.lt_irrefl [])
      | cons d rest =>
          rw [List.flatMap_nil, List.flatMap_cons]
          obtain ⟨first, more, hfirst⟩ := List.exists_cons_of_ne_nil (String.utf8EncodeChar_ne_nil (c := d))
          rw [hfirst]
          exact List.nil_lt_cons ..
  | cons c l ih =>
      cases l' with
      | nil => exact absurd h (List.not_lt_nil _)
      | cons d rest =>
          rw [List.flatMap_cons, List.flatMap_cons]
          rcases List.cons_lt_cons_iff.mp h with hlt | ⟨rfl, hrest⟩
          · exact (below_of_lt hlt).append_lt _ _
          · exact List.append_left_lt (ih hrest)

/-- The order of strings is the order of their bytes. -/
theorem bytesOf_lt_iff (a b : String) : bytesOf a < bytesOf b ↔ a < b := by
  have hforward : ∀ {a b : String}, a < b → bytesOf a < bytesOf b := fun h =>
    encoded_lt_of_lt (String.lt_iff_toList_lt.mp h)
  refine ⟨fun h => ?_, hforward⟩
  rcases lt_trichotomy a b with hlt | rfl | hgt
  · exact hlt
  · exact absurd h (List.lt_irrefl _)
  · exact absurd h (List.lt_asymm (hforward hgt))

end EnumBindings
