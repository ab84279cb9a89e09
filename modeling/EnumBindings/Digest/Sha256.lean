/-!
# SHA-256

The checksum of an artifact is the SHA-256 digest of its bytes, written as 64 lower-case digits
of base 16. Status lines show the first twelve of them.
-/

namespace EnumBindings.Sha256

/-! ## Padding -/

/-- Zero bytes behind the end mark, the fewest that leave room for the length in whole blocks. -/
def paddingZeros (size : Nat) : Nat := (119 - size % 64) % 64

/-- The `count` low bytes of a number, most significant first. -/
def bigEndian (count n : Nat) : List UInt8 :=
  (List.range count).reverse.map fun i => (n >>> (8 * i)).toUInt8

/-- A message with an end mark, zeros and its length in bits; it fills whole blocks. -/
def pad (message : ByteArray) : ByteArray :=
  ⟨message.data ++ #[0x80] ++ Array.replicate (paddingZeros message.size) 0
    ++ (bigEndian 8 (8 * message.size)).toArray⟩

/-! ## Words -/

/-- Eight words: the state of the digest between blocks. -/
structure State where
  a : UInt32
  b : UInt32
  c : UInt32
  d : UInt32
  e : UInt32
  f : UInt32
  g : UInt32
  h : UInt32

/-- The state before the first block. -/
def initialState : State :=
  ⟨0x6A09E667, 0xBB67AE85, 0x3C6EF372, 0xA54FF53A, 0x510E527F, 0x9B05688C, 0x1F83D9AB, 0x5BE0CD19⟩

/-- One constant for each round. -/
def roundConstants : List UInt32 :=
  [0x428A2F98, 0x71374491, 0xB5C0FBCF, 0xE9B5DBA5, 0x3956C25B, 0x59F111F1, 0x923F82A4, 0xAB1C5ED5,
   0xD807AA98, 0x12835B01, 0x243185BE, 0x550C7DC3, 0x72BE5D74, 0x80DEB1FE, 0x9BDC06A7, 0xC19BF174,
   0xE49B69C1, 0xEFBE4786, 0x0FC19DC6, 0x240CA1CC, 0x2DE92C6F, 0x4A7484AA, 0x5CB0A9DC, 0x76F988DA,
   0x983E5152, 0xA831C66D, 0xB00327C8, 0xBF597FC7, 0xC6E00BF3, 0xD5A79147, 0x06CA6351, 0x14292967,
   0x27B70A85, 0x2E1B2138, 0x4D2C6DFC, 0x53380D13, 0x650A7354, 0x766A0ABB, 0x81C2C92E, 0x92722C85,
   0xA2BFE8A1, 0xA81A664B, 0xC24B8B70, 0xC76C51A3, 0xD192E819, 0xD6990624, 0xF40E3585, 0x106AA070,
   0x19A4C116, 0x1E376C08, 0x2748774C, 0x34B0BCB5, 0x391C0CB3, 0x4ED8AA4A, 0x5B9CCA4F, 0x682E6FF3,
   0x748F82EE, 0x78A5636F, 0x84C87814, 0x8CC70208, 0x90BEFFFA, 0xA4506CEB, 0xBEF9A3F7, 0xC67178F2]

/-- A word turned right by `n` bits. -/
def rotateRight (x n : UInt32) : UInt32 := (x >>> n) ||| (x <<< (32 - n))

/-- The word whose first byte stands at an index. -/
def wordAt (bytes : ByteArray) (i : Nat) : UInt32 :=
  let byte (k : Nat) : UInt32 := (bytes[i + k]?.getD 0).toUInt32
  (byte 0 <<< 24) ||| (byte 1 <<< 16) ||| (byte 2 <<< 8) ||| byte 3

/-- The next word of a schedule from the words before it. -/
def nextWord (words : Array UInt32) : UInt32 :=
  let back (k : Nat) : UInt32 := words[words.size - k]?.getD 0
  let x := back 15
  let y := back 2
  let s := rotateRight x 7 ^^^ rotateRight x 18 ^^^ (x >>> 3)
  let t := rotateRight y 17 ^^^ rotateRight y 19 ^^^ (y >>> 10)
  back 16 + s + back 7 + t

/-- The 64 words of a block: its own sixteen, then each from those before it. -/
def schedule (bytes : ByteArray) (start : Nat) : Array UInt32 :=
  let own := (Array.range 16).map fun i => wordAt bytes (start + 4 * i)
  (List.range 48).foldl (fun words _ => words.push (nextWord words)) own

/-! ## Digest -/

/-- One round. -/
def round (s : State) (constant word : UInt32) : State :=
  let sum1 := rotateRight s.e 6 ^^^ rotateRight s.e 11 ^^^ rotateRight s.e 25
  let choice := (s.e &&& s.f) ^^^ (~~~s.e &&& s.g)
  let t1 := s.h + sum1 + choice + constant + word
  let sum0 := rotateRight s.a 2 ^^^ rotateRight s.a 13 ^^^ rotateRight s.a 22
  let majority := (s.a &&& s.b) ^^^ (s.a &&& s.c) ^^^ (s.b &&& s.c)
  ⟨t1 + sum0 + majority, s.a, s.b, s.c, s.d + t1, s.e, s.f, s.g⟩

/-- The state behind a block. -/
def compress (bytes : ByteArray) (s : State) (start : Nat) : State :=
  let r := (roundConstants.zip (schedule bytes start).toList).foldl (fun t (k, w) => round t k w) s
  ⟨s.a + r.a, s.b + r.b, s.c + r.c, s.d + r.d, s.e + r.e, s.f + r.f, s.g + r.g, s.h + r.h⟩

/-- The words of a digest. -/
def State.words (s : State) : List UInt32 := [s.a, s.b, s.c, s.d, s.e, s.f, s.g, s.h]

/-- The digest of a message as a state. -/
def digest (message : ByteArray) : State :=
  let padded := pad message
  (List.range (padded.size / 64)).foldl (fun s i => compress padded s (64 * i)) initialState

/-- The eight digits of a word in base 16. -/
def wordDigits (w : UInt32) : List Char :=
  (List.range 8).reverse.map fun i => Nat.digitChar ((w.toNat >>> (4 * i)) % 16)

/-- The checksum of a message as text. -/
def checksum (message : ByteArray) : String :=
  String.ofList ((digest message).words.flatMap wordDigits)

/-- The checksum of a text, which is that of its UTF-8 bytes. -/
def ofText (text : String) : String := checksum text.toUTF8

/-! ## Short form -/

/-- The leading characters that fill exactly `count` bytes, if some do. -/
def takeBytes : Nat → List Char → Option (List Char)
  | 0, _ => some []
  | _ + 1, [] => none
  | count + 1, c :: rest =>
    if c.utf8Size ≤ count + 1 then (takeBytes (count + 1 - c.utf8Size) rest).map (c :: ·) else none
termination_by _ cs => cs.length

/-- The first twelve bytes of a checksum; a text that cannot be cut there stays whole. -/
def short (text : String) : String :=
  match takeBytes 12 text.toList with
  | some cs => String.ofList cs
  | none => text

end EnumBindings.Sha256
