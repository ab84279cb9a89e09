import EnumBindings.Toml.Blank

/-!
# Strings of a document

Strings stand between quotation marks, where a backslash has a meaning, or between apostrophes,
where it has none; either mark may be written three times to span lines. A reader gets the
characters behind the opening mark and gives the text with what stands behind the closing one.
-/

namespace EnumBindings.Toml

/-- A number from digits in base 16. -/
def hexValue? (digits : List Char) : Option Nat :=
  digits.foldlM (fun n c =>
    if c.isDigit then some (16 * n + (c.toNat - 48))
    else if 'a' ≤ c && c ≤ 'f' then some (16 * n + (c.toNat - 87))
    else if 'A' ≤ c && c ≤ 'F' then some (16 * n + (c.toNat - 55))
    else none) 0

/-- The character of a number, if there is one. -/
def scalar? (digits : List Char) : Option Char := do
  let n ← hexValue? digits
  if n.isValidChar then some (Char.ofNat n) else none

/-- The character of a letter behind a backslash. -/
def shortEscape? : Char → Option Char
  | 'b' => some '\x08'
  | 't' => some '\t'
  | 'n' => some '\n'
  | 'f' => some '\x0c'
  | 'r' => some '\r'
  | '"' => some '"'
  | '\\' => some '\\'
  | _ => none

/-- A character in front of a text that was read. -/
def before (c : Char) (read : List Char × List Char) : List Char × List Char :=
  (c :: read.1, read.2)

/-- The text up to the closing apostrophe. -/
def literalText : List Char → Option (List Char × List Char)
  | [] => none
  | '\x27' :: rest => some ([], rest)
  | c :: rest => if isPlain c then (literalText rest).map (before c) else none

/-- The text up to the closing quotation mark. -/
def basicText : List Char → Option (List Char × List Char)
  | [] => none
  | '"' :: rest => some ([], rest)
  | '\\' :: 'u' :: a :: b :: c :: d :: rest => do
    let x ← scalar? [a, b, c, d]
    (basicText rest).map (before x)
  | '\\' :: 'U' :: a :: b :: c :: d :: e :: f :: g :: h :: rest => do
    let x ← scalar? [a, b, c, d, e, f, g, h]
    (basicText rest).map (before x)
  | '\\' :: c :: rest => do
    let x ← shortEscape? c
    (basicText rest).map (before x)
  | c :: rest => if isPlain c then (basicText rest).map (before c) else none

/-- The text up to three apostrophes. Two more of them before the closing ones belong to it. -/
def literalLines : List Char → Option (List Char × List Char)
  | [] => none
  | '\x27' :: '\x27' :: '\x27' :: '\x27' :: '\x27' :: rest => some (['\x27', '\x27'], rest)
  | '\x27' :: '\x27' :: '\x27' :: '\x27' :: rest => some (['\x27'], rest)
  | '\x27' :: '\x27' :: '\x27' :: rest => some ([], rest)
  | '\r' :: '\n' :: rest => (literalLines rest).map (before '\n')
  | c :: rest => if isPlain c || c = '\n' then (literalLines rest).map (before c) else none

/-- The text up to three quotation marks. A backslash at the end of a line takes away the line
end and every blank and line end behind it; `skipping` says that this goes on. -/
def basicLines : (skipping : Bool) → List Char → Option (List Char × List Char)
  | _, [] => none
  | true, ' ' :: rest => basicLines true rest
  | true, '\t' :: rest => basicLines true rest
  | true, '\n' :: rest => basicLines true rest
  | true, '\r' :: '\n' :: rest => basicLines true rest
  | _, '"' :: '"' :: '"' :: '"' :: '"' :: rest => some (['"', '"'], rest)
  | _, '"' :: '"' :: '"' :: '"' :: rest => some (['"'], rest)
  | _, '"' :: '"' :: '"' :: rest => some ([], rest)
  | _, '\r' :: '\n' :: rest => (basicLines false rest).map (before '\n')
  | _, '\\' :: 'u' :: a :: b :: c :: d :: rest => do
    let x ← scalar? [a, b, c, d]
    (basicLines false rest).map (before x)
  | _, '\\' :: 'U' :: a :: b :: c :: d :: e :: f :: g :: h :: rest => do
    let x ← scalar? [a, b, c, d, e, f, g, h]
    (basicLines false rest).map (before x)
  | _, '\\' :: c :: rest =>
    match shortEscape? c with
    | some x => (basicLines false rest).map (before x)
    | none =>
      if (lineEnd? (skipBlanks (c :: rest))).isSome then basicLines true (c :: rest) else none
  | _, c :: rest =>
    if isPlain c || c = '\n' then (basicLines false rest).map (before c) else none

/-- Characters without a line end in front. -/
def skipLineEnd (chars : List Char) : List Char := (lineEnd? chars).getD chars

/-- A string on one line with either mark. -/
def lineText? : List Char → Option (List Char × List Char)
  | '"' :: rest => basicText rest
  | '\x27' :: rest => literalText rest
  | _ => none

/-- A string with any mark. A line end right behind three marks does not count. -/
def text? : List Char → Option (List Char × List Char)
  | '"' :: '"' :: '"' :: rest => basicLines false (skipLineEnd rest)
  | '\x27' :: '\x27' :: '\x27' :: rest => literalLines (skipLineEnd rest)
  | chars => lineText? chars

end EnumBindings.Toml
