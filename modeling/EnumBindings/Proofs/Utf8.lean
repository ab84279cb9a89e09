import EnumBindings.Path
import Mathlib.Data.List.Basic

/-!
# Bytes of a text

Reading the bytes of a text gives its characters back (`shown_encode`), and bytes have a text
exactly where they are the bytes of it (`text?_eq_some_iff`). So a path has a text exactly where a
text spells it.
-/

namespace EnumBindings

namespace Utf8

/-! ## One character -/

theorem toNat_ofNat {n : Nat} (h : n < 0x100) : (Char.ofNat n).toNat = n := by
  have hvalid : n.isValidChar := .inl (by omega)
  rw [Char.ofNat, dif_pos hvalid]
  rfl

/-- The number of a character is no half of a pair and not too great. -/
theorem toNat_bounds (c : Char) : c.toNat < 0xD800 ∨ 0xDFFF < c.toNat ∧ c.toNat < 0x110000 :=
  c.valid

section Steps

variable {opened : Opened} {b : Char} {rest : List Char}

theorem decodeFrom_open (hascii : ¬b.toNat < 0x80) (h : open? b = some opened) :
    decodeFrom none (b :: rest) = decodeFrom (some opened) rest := by
  rw [decodeFrom, advance, begin, if_neg hascii, h]
  rfl

theorem decodeFrom_more {more : Nat} (hleast : opened.least ≤ b.toNat)
    (hgreatest : b.toNat ≤ opened.greatest) (hmore : opened.more = more + 1) :
    decodeFrom (some opened) (b :: rest) =
      decodeFrom (some ⟨opened.bytes ++ [b], opened.number * 64 + (b.toNat - 0x80), more, 0x80,
        0xBF⟩) rest := by
  simp [decodeFrom, advance, hleast, hgreatest, hmore]

theorem decodeFrom_last (hleast : opened.least ≤ b.toNat) (hgreatest : b.toNat ≤ opened.greatest)
    (hmore : opened.more = 0) :
    decodeFrom (some opened) (b :: rest) =
      .char (Char.ofNat (opened.number * 64 + (b.toNat - 0x80))) :: decodeFrom none rest := by
  simp [decodeFrom, advance, hleast, hgreatest, hmore]

end Steps

section Heads

variable {n : Nat}

theorem open?_two (hleast : 0x80 ≤ n) (hgreatest : n < 0x800) :
    open? (Char.ofNat (0xC0 + n / 64)) =
      some ⟨[Char.ofNat (0xC0 + n / 64)], n / 64, 0, 0x80, 0xBF⟩ := by
  have hbyte : (Char.ofNat (0xC0 + n / 64)).toNat = 0xC0 + n / 64 := toNat_ofNat (by omega)
  simp only [open?, hbyte]
  rw [if_neg (by omega), if_pos (by omega), Nat.add_sub_cancel_left]

/-- The bounds on the second byte of three leave it in. -/
theorem open?_three (hleast : 0x800 ≤ n) (hgreatest : n < 0x10000)
    (hpair : n < 0xD800 ∨ 0xDFFF < n) : ∃ least greatest,
    open? (Char.ofNat (0xE0 + n / 4096)) =
      some ⟨[Char.ofNat (0xE0 + n / 4096)], n / 4096, 1, least, greatest⟩ ∧
    least ≤ 0x80 + n / 64 % 64 ∧ 0x80 + n / 64 % 64 ≤ greatest := by
  have hbyte : (Char.ofNat (0xE0 + n / 4096)).toNat = 0xE0 + n / 4096 := toNat_ofNat (by omega)
  simp only [open?, hbyte]
  rw [if_neg (by omega), if_neg (by omega)]
  by_cases hfirst : n / 4096 = 0
  · refine ⟨0xA0, 0xBF, ?_, by omega, by omega⟩
    rw [if_pos (by omega), hfirst]
  rw [if_neg (by omega)]
  by_cases hhalf : n / 4096 = 0xD
  · refine ⟨0x80, 0x9F, ?_, by omega, by omega⟩
    rw [if_pos (by omega), hhalf]
  · refine ⟨0x80, 0xBF, ?_, by omega, by omega⟩
    rw [if_neg (by omega), if_pos (by omega), Nat.add_sub_cancel_left]

/-- The bounds on the second byte of four leave it in. -/
theorem open?_four (hleast : 0x10000 ≤ n) (hgreatest : n < 0x110000) : ∃ least greatest,
    open? (Char.ofNat (0xF0 + n / 262144)) =
      some ⟨[Char.ofNat (0xF0 + n / 262144)], n / 262144, 2, least, greatest⟩ ∧
    least ≤ 0x80 + n / 4096 % 64 ∧ 0x80 + n / 4096 % 64 ≤ greatest := by
  have hbyte : (Char.ofNat (0xF0 + n / 262144)).toNat = 0xF0 + n / 262144 :=
    toNat_ofNat (by omega)
  simp only [open?, hbyte]
  rw [if_neg (by omega), if_neg (by omega), if_neg (by omega), if_neg (by omega),
    if_neg (by omega)]
  by_cases hfirst : n / 262144 = 0
  · refine ⟨0x90, 0xBF, ?_, by omega, by omega⟩
    rw [if_pos (by omega), hfirst]
  rw [if_neg (by omega)]
  by_cases hlast : n / 262144 = 4
  · refine ⟨0x80, 0x8F, ?_, by omega, by omega⟩
    rw [if_neg (by omega), if_pos (by omega), hlast]
  · refine ⟨0x80, 0xBF, ?_, by omega, by omega⟩
    rw [if_pos (by omega), Nat.add_sub_cancel_left]

end Heads

/-! ### Bytes behind the first -/

theorem toNat_inner (m : Nat) : (Char.ofNat (0x80 + m % 64)).toNat = 0x80 + m % 64 :=
  toNat_ofNat (by omega)

/-- A byte behind the second one has the bounds of all such bytes. -/
theorem inner_bounds (m : Nat) : 0x80 ≤ (Char.ofNat (0x80 + m % 64)).toNat ∧
    (Char.ofNat (0x80 + m % 64)).toNat ≤ 0xBF := by
  rw [toNat_inner]
  omega

section Characters

variable {c : Char} (rest : List Char)

theorem decodeFrom_two (hleast : 0x80 ≤ c.toNat) (hgreatest : c.toNat < 0x800) :
    decodeFrom none
      (Char.ofNat (0xC0 + c.toNat / 64) :: Char.ofNat (0x80 + c.toNat % 64) :: rest) =
      .char c :: decodeFrom none rest := by
  have hhead : (Char.ofNat (0xC0 + c.toNat / 64)).toNat = 0xC0 + c.toNat / 64 :=
    toNat_ofNat (by omega)
  have hnumber : c.toNat / 64 * 64 + (0x80 + c.toNat % 64 - 0x80) = c.toNat := by omega
  rw [decodeFrom_open (by omega) (open?_two hleast hgreatest),
    decodeFrom_last (inner_bounds _).1 (inner_bounds _).2 rfl, toNat_inner, hnumber,
    Char.ofNat_toNat]

theorem decodeFrom_three (hleast : 0x800 ≤ c.toNat) (hgreatest : c.toNat < 0x10000) :
    decodeFrom none
      (Char.ofNat (0xE0 + c.toNat / 4096) :: Char.ofNat (0x80 + c.toNat / 64 % 64) ::
        Char.ofNat (0x80 + c.toNat % 64) :: rest) =
      .char c :: decodeFrom none rest := by
  have hbounds := toNat_bounds c
  obtain ⟨least, greatest, hopen, hlow, hhigh⟩ := open?_three hleast hgreatest (by omega)
  have hhead : (Char.ofNat (0xE0 + c.toNat / 4096)).toNat = 0xE0 + c.toNat / 4096 :=
    toNat_ofNat (by omega)
  have hnumber : (c.toNat / 4096 * 64 + (0x80 + c.toNat / 64 % 64 - 0x80)) * 64
      + (0x80 + c.toNat % 64 - 0x80) = c.toNat := by omega
  rw [← toNat_inner] at hlow hhigh
  rw [decodeFrom_open (by omega) hopen, decodeFrom_more hlow hhigh rfl,
    decodeFrom_last (inner_bounds _).1 (inner_bounds _).2 rfl, toNat_inner, toNat_inner, hnumber,
    Char.ofNat_toNat]

theorem decodeFrom_four (hleast : 0x10000 ≤ c.toNat) :
    decodeFrom none
      (Char.ofNat (0xF0 + c.toNat / 262144) :: Char.ofNat (0x80 + c.toNat / 4096 % 64) ::
        Char.ofNat (0x80 + c.toNat / 64 % 64) :: Char.ofNat (0x80 + c.toNat % 64) :: rest) =
      .char c :: decodeFrom none rest := by
  have hbounds := toNat_bounds c
  obtain ⟨least, greatest, hopen, hlow, hhigh⟩ := open?_four hleast (by omega)
  have hhead : (Char.ofNat (0xF0 + c.toNat / 262144)).toNat = 0xF0 + c.toNat / 262144 :=
    toNat_ofNat (by omega)
  have hnumber : ((c.toNat / 262144 * 64 + (0x80 + c.toNat / 4096 % 64 - 0x80)) * 64
      + (0x80 + c.toNat / 64 % 64 - 0x80)) * 64 + (0x80 + c.toNat % 64 - 0x80) = c.toNat := by
    omega
  rw [← toNat_inner] at hlow hhigh
  rw [decodeFrom_open (by omega) hopen, decodeFrom_more hlow hhigh rfl,
    decodeFrom_more (inner_bounds _).1 (inner_bounds _).2 rfl,
    decodeFrom_last (inner_bounds _).1 (inner_bounds _).2 rfl, toNat_inner, toNat_inner,
    toNat_inner, hnumber, Char.ofNat_toNat]

end Characters

/-- The bytes of a character are read as the character, whatever stands behind them. -/
theorem decodeFrom_encodeChar (c : Char) (rest : List Char) :
    decodeFrom none (encodeChar c ++ rest) = .char c :: decodeFrom none rest := by
  unfold encodeChar
  dsimp only
  by_cases hone : c.toNat < 0x80
  · rw [if_pos hone]
    simp [decodeFrom, advance, begin, hone]
  rw [if_neg hone]
  by_cases htwo : c.toNat < 0x800
  · rw [if_pos htwo]
    exact decodeFrom_two rest (by omega) htwo
  rw [if_neg htwo]
  by_cases hthree : c.toNat < 0x10000
  · rw [if_pos hthree]
    exact decodeFrom_three rest (by omega) hthree
  · rw [if_neg hthree]
    exact decodeFrom_four rest (by omega)

/-! ## Whole texts -/

theorem decodeFrom_flatMap (chars : List Char) :
    decodeFrom none (chars.flatMap encodeChar) = chars.map .char := by
  induction chars with
  | nil => rfl
  | cons c rest ih => rw [List.flatMap_cons, decodeFrom_encodeChar, ih, List.map_cons]

/-- A text is read back from its bytes. -/
@[simp] theorem shown_encode (text : String) : shown (encode text) = text := by
  rw [shown, shownPieces, decode, encode, String.toList_ofList, decodeFrom_flatMap, List.map_map]
  have hshown : Piece.shown ∘ Piece.char = id := rfl
  rw [hshown, List.map_id, String.ofList_toList]

/-- Bytes have a text where they are its bytes. -/
theorem text?_eq_some_iff {bytes : ByteString} {text : String} :
    text? bytes = some text ↔ bytes = encode text := by
  unfold text?
  constructor
  · intro h
    split at h
    · rename_i hbytes
      rw [← Option.some.inj h, hbytes]
    · cases h
  · rintro rfl
    rw [shown_encode, if_pos rfl]

end Utf8

/-! ## Paths -/

namespace Path

/-- A text spells a path. -/
def IsText (p : Path) : Prop := ∃ text, p = ofText text

theorem text?_eq_some_iff {p : Path} {text : String} : p.text? = some text ↔ p = ofText text := by
  rw [text?, Utf8.text?_eq_some_iff, ofText]
  exact ⟨fun h => congrArg Path.mk h, fun h => congrArg Path.bytes h⟩

/-- A path that is text is shown as that text. -/
@[simp] theorem shown_ofText (text : String) : (ofText text).shown = text := Utf8.shown_encode text

theorem text?_eq_none_iff {p : Path} : p.text? = none ↔ ¬p.IsText := by
  rw [Option.eq_none_iff_forall_ne_some, IsText, not_exists]
  exact forall_congr' fun text => not_congr text?_eq_some_iff

theorem IsText.text?_eq {p : Path} (h : p.IsText) : p.text? = some p.shown := by
  obtain ⟨text, rfl⟩ := h
  rw [shown_ofText]
  exact text?_eq_some_iff.mpr rfl

instance (p : Path) : Decidable p.IsText :=
  decidable_of_iff (p.text?.isSome = true) <| by
    rw [Option.isSome_iff_exists]
    exact exists_congr fun _ => text?_eq_some_iff

end Path

end EnumBindings
