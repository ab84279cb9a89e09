import EnumBindings.Toml.Assign
import EnumBindings.Toml.Date
import EnumBindings.Toml.Number

/-!
# Reading values

A value is a string, a single word (number, date or truth value), an array between brackets or a
table between braces. Arrays and tables may be nested up to a fixed depth. A reader gives the
value with the characters behind it.
-/

namespace EnumBindings.Toml

/-- The greatest depth of nested arrays and tables. -/
def maxDepth : Nat := 79

/-- Whether a character ends a word. -/
def endsWord (c : Char) : Bool :=
  isBlank c || c == '\n' || c == '\r' || c == '#' || c == ',' || c == ']' || c == '\x7d'

/-- A word and the characters behind it. A time may follow its date behind one blank. -/
def splitWord (chars : List Char) : List Char × List Char :=
  let word := chars.takeWhile (!endsWord ·)
  match chars.dropWhile (!endsWord ·) with
  | ' ' :: c :: rest =>
    if c.isDigit && (calendarDate? word).any (·.2.isEmpty) then
      (word ++ ' ' :: (c :: rest).takeWhile (!endsWord ·), (c :: rest).dropWhile (!endsWord ·))
    else (word, ' ' :: c :: rest)
  | rest => (word, rest)

/-- The value of a word. -/
def word? (word : List Char) : Option Value :=
  if word = ['t', 'r', 'u', 'e'] then some (.boolean true)
  else if word = ['f', 'a', 'l', 's', 'e'] then some (.boolean false)
  else number? word <|> (date? word).map .date

/-- A string or a word. -/
def plainValue? (chars : List Char) : Option (Value × List Char) :=
  match chars with
  | '"' :: _ | '\x27' :: _ =>
    (text? chars).map fun (text, rest) => (.string (String.ofList text), rest)
  | _ =>
    let (word, rest) := splitWord chars
    (word? word).map (·, rest)

/-- The elements of an array up to its closing bracket; at most `count` of them. -/
def elements? (value? : List Char → Option (Value × List Char)) :
    (count : Nat) → List Char → Option (List Value × List Char)
  | 0, _ => none
  | count + 1, chars => do
    match ← skipFiller false chars with
    | ']' :: rest => some ([], rest)
    | chars =>
      let (value, rest) ← value? chars
      match ← skipFiller false rest with
      | ',' :: rest =>
        (elements? value? count rest).map fun (values, rest) => (value :: values, rest)
      | ']' :: rest => some ([value], rest)
      | _ => none

/-- A key with its value. -/
def keyValue? (value? : List Char → Option (Value × List Char)) (chars : List Char) :
    Option ((Key × Value) × List Char) := do
  match ← key? chars with
  | (key, '=' :: rest) =>
    let (value, rest) ← value? (skipBlanks rest)
    some ((key, value), skipBlanks rest)
  | _ => none

/-- The entries of a table up to its closing brace; at most `count` of them. -/
def entries? (value? : List Char → Option (Value × List Char)) :
    (count : Nat) → List Char → Option (List (Key × Value) × List Char)
  | 0, _ => none
  | count + 1, chars => do
    let (entry, rest) ← keyValue? value? chars
    match rest with
    | ',' :: rest => (entries? value? count rest).map fun (others, rest) => (entry :: others, rest)
    | '\x7d' :: rest => some ([entry], rest)
    | _ => none

/-- The table of keys and values between braces. -/
def bracedTable? (entries : List (Key × Value)) : Option Value :=
  let put (table : Entries) (entry : Key × Value) : Option Entries :=
    assign true entry.1.path entry.1.last entry.2 table
  (entries.foldlM put []).map (.table .braces)

/-- A value with at most `depth` levels of arrays and tables. Every element takes at least one
character, so the number of characters bounds the number of elements. -/
def valueOf? : (depth : Nat) → List Char → Option (Value × List Char)
  | depth + 1, '[' :: rest =>
    (elements? (valueOf? depth) (rest.length + 1) rest).map fun (values, rest) =>
      (.array values, rest)
  | depth + 1, '\x7b' :: rest =>
    match skipBlanks rest with
    | '\x7d' :: rest => some (.table .braces [], rest)
    | rest => do
      let (entries, rest) ← entries? (valueOf? depth) (rest.length + 1) rest
      let table ← bracedTable? entries
      some (table, rest)
  | _, chars => plainValue? chars

/-- A value. -/
def value? (chars : List Char) : Option (Value × List Char) := valueOf? maxDepth chars

end EnumBindings.Toml
