import EnumBindings.Number.Shortest

/-!
# JSON text

What is written for tools. Objects keep the order of their entries, which may be sorted first;
text is compact or laid out over lines.
-/

namespace EnumBindings

/-- A JSON value. -/
inductive Json where
  | null
  | bool (value : Bool)
  | number (value : Int)
  /-- A number that is not written as a whole one. -/
  | real (negative : Bool) (magnitude : Binary64)
  | string (text : String)
  | array (elements : List Json)
  | object (entries : List (String × Json))
deriving Repr, Inhabited

namespace Json

/-- A character of a string. -/
def escaped (c : Char) : List Char :=
  if c = '"' then ['\\', '"']
  else if c = '\\' then ['\\', '\\']
  else if c = '\n' then ['\\', 'n']
  else if c = '\r' then ['\\', 'r']
  else if c = '\t' then ['\\', 't']
  else if c = '\x08' then ['\\', 'b']
  else if c = '\x0c' then ['\\', 'f']
  else if c.toNat < 0x20 then
    ['\\', 'u', '0', '0', Nat.digitChar (c.toNat / 16), Nat.digitChar (c.toNat % 16)]
  else [c]

/-- A string with its marks. -/
def quote (text : String) : String :=
  "\"" ++ String.ofList (text.toList.flatMap escaped) ++ "\""

/-- The exponents, for a point behind the first digit, that need no notation of their own. -/
def isPlainExponent (e : Int) : Bool := -5 ≤ e && e ≤ 15

/-- Digits with a point behind the first one, if there are more. -/
def pointedFirst : List Char → List Char
  | [] => []
  | [c] => [c]
  | c :: rest => c :: '.' :: rest

/-- A number by its shortest digits; a tie goes to the even digit. Small and great numbers have an
exponent with its sign. -/
def realText (negative : Bool) (magnitude : Binary64) : String :=
  let (digits, k) := magnitude.shortest .even
  let chars := Nat.toDigits 10 digits
  let e : Int := chars.length - 1 + k
  (if negative then "-" else "")
    ++ if isPlainExponent e then Binary64.positional digits k
      else
        String.ofList (pointedFirst chars) ++ "e" ++ (if e < 0 then "-" else "+")
          ++ toString e.natAbs

mutual

/-- A value with the entries of every object sorted by key. -/
def sorted : Json → Json
  | array elements => array (sortedElements elements)
  | object entries => object ((sortedEntries entries).mergeSort fun a b => a.1 ≤ b.1)
  | other => other

/-- Elements with sorted objects. -/
def sortedElements : List Json → List Json
  | [] => []
  | v :: rest => sorted v :: sortedElements rest

/-- Entries with sorted objects in their values. -/
def sortedEntries : List (String × Json) → List (String × Json)
  | [] => []
  | (k, v) :: rest => (k, sorted v) :: sortedEntries rest

end

mutual

/-- A value without any blanks. -/
def compact : Json → String
  | null => "null"
  | bool value => toString value
  | number value => toString value
  | real negative magnitude => realText negative magnitude
  | string text => quote text
  | array elements => "[" ++ ",".intercalate (compactElements elements) ++ "]"
  | object entries => "\x7b" ++ ",".intercalate (compactEntries entries) ++ "\x7d"

/-- The texts of elements. -/
def compactElements : List Json → List String
  | [] => []
  | v :: rest => compact v :: compactElements rest

/-- The texts of entries. -/
def compactEntries : List (String × Json) → List String
  | [] => []
  | (k, v) :: rest => (quote k ++ ":" ++ compact v) :: compactEntries rest

end

/-- Lines of an array or an object between their marks. -/
def block (opening closing indent : String) (items : List String) : String :=
  if items.isEmpty then opening ++ closing
  else
    opening ++ "\n" ++ ",\n".intercalate (items.map fun item => indent ++ "  " ++ item)
      ++ "\n" ++ indent ++ closing

mutual

/-- A value over several lines, two blanks for each level. -/
def pretty (indent : String) : Json → String
  | array elements => block "[" "]" indent (prettyElements (indent ++ "  ") elements)
  | object entries => block "\x7b" "\x7d" indent (prettyEntries (indent ++ "  ") entries)
  | other => compact other

/-- The texts of elements. -/
def prettyElements (indent : String) : List Json → List String
  | [] => []
  | v :: rest => pretty indent v :: prettyElements indent rest

/-- The texts of entries. -/
def prettyEntries (indent : String) : List (String × Json) → List String
  | [] => []
  | (k, v) :: rest => (quote k ++ ": " ++ pretty indent v) :: prettyEntries indent rest

end

end Json

end EnumBindings
