import EnumBindings.Artifact.Go
import EnumBindings.Proofs.Source.Numeral
import EnumBindings.Proofs.Source.Tree

/-!
# Go programs

The part of the Go language that generated files are written in, read from text alone: nothing
here knows how the text was made. A file is cut into tokens, statements get the semicolons that
the language puts at line ends, and every declaration is recognised by its shape. What has no
shape here is refused.
-/

namespace EnumBindings.Go

open EnumBindings.Source

/-! ## Syntax -/

/-- An expression without a part that is evaluated before it. -/
inductive Operand where
  | name (identifier : String)
  | number (value : Int)
  | text (content : String)
  | field (record name : String)
deriving Repr, DecidableEq

inductive Expression where
  | operand (operand : Operand)
  /-- The address of a new record. -/
  | record (type : String) (fields : List (String × Operand))
  | call (package function : String) (arguments : List Operand)
deriving Repr, DecidableEq

/-- What a function does: it returns at once, or in every clause of one switch. -/
inductive Body where
  | results (values : List Expression)
  | switch (subject : Operand) (clauses : List (Operand × List Expression))
      (otherwise : List Expression)
deriving Repr, DecidableEq

structure Receiver where
  name : String
  type : String
  pointer : Bool
deriving Repr, DecidableEq

structure Function where
  receiver : Option Receiver
  name : String
  parameters : List (String × String)
  results : List String
  body : Body
deriving Repr, DecidableEq

/-- One line of a block of constants. Without a value it repeats the line before it. -/
structure ConstantSpec where
  name : String
  type : Option String
  value : Option Operand
deriving Repr, DecidableEq

inductive Declaration where
  | imported (path : String)
  | defined (name underlying : String)
  | record (name : String) (fields : List (String × String))
  | constants (specs : List ConstantSpec)
  /-- An array without a name. -/
  | blank (element : String) (elements : List Operand)
  | function (f : Function)
deriving Repr, DecidableEq

/-- The declarations of a file behind its package clause. -/
structure Program where
  declarations : List Declaration
deriving Repr, DecidableEq

structure File where
  package : String
  program : Program
deriving Repr, DecidableEq

/-! ## Semicolons -/

/-- Whether a statement can end behind a token. -/
def canEnd : Token → Bool
  | .word letters =>
    !keywords.contains letters || ["break", "continue", "fallthrough", "return"].contains letters
  | .text _ => true
  | .mark c => [')', ']', '\x7d'].contains c
  | .lineEnd => false

/-- Puts a semicolon at each line end where a statement can end. The flag says whether one can
behind the token before. -/
def terminate : Bool → List Token → List Token
  | _, [] => []
  | ends, .lineEnd :: rest => (if ends then [.mark ';'] else []) ++ terminate false rest
  | _, .word letters :: rest => .word letters :: terminate (canEnd (.word letters)) rest
  | _, .text content :: rest => .text content :: terminate true rest
  | _, .mark c :: rest => .mark c :: terminate (canEnd (.mark c)) rest

/-! ## Reading -/

/-- Words that can be names. -/
def isName (letters : String) : Bool :=
  letters.toList.head?.any (fun c => !c.isDigit) && !keywords.contains letters

def operand? : List Tree → Option Operand
  | [.text content] => some (.text content)
  | [.word letters] =>
    if isName letters then some (.name letters)
    else (numeral? letters).map fun n : Nat => .number n
  | [.mark c, .word letters] =>
    if c = '-' then (numeral? letters).map fun n : Nat => .number (-n) else none
  | [.word record, .mark c, .word field] =>
    if c = '.' && isName record && isName field then some (.field record field) else none
  | _ => none

def entry? : List Tree → Option (String × Operand)
  | .word key :: .mark c :: value =>
    if c = ':' && isName key then (operand? value).map (key, ·) else none
  | _ => none

def expression? : List Tree → Option Expression
  | [.mark c, .word type, .group .curly fields] =>
    if c = '&' && isName type then ((pieces ',' fields).mapM entry?).map (.record type)
    else none
  | [.word package, .mark c, .word function, .group .round arguments] =>
    if c = '.' && isName package && isName function then
      ((pieces ',' arguments).mapM operand?).map (.call package function)
    else none
  | ts => (operand? ts).map .operand

/-- The results behind `return`. -/
def returned? : List Tree → Option (List Expression)
  | .word letters :: values =>
    if letters = "return" then (pieces ',' values).mapM expression? else none
  | _ => none

/-- One clause of a switch, with what it returns. -/
def clause? : List Tree → Option (Operand × List Expression)
  | .word letters :: rest =>
    if letters = "case" then
      match pieces ':' rest with
      | [label, body] => do return (← operand? label, ← returned? body)
      | _ => none
    else none
  | _ => none

/-- What the last clause of a switch returns. -/
def otherwise? : List Tree → Option (List Expression)
  | .word letters :: .mark c :: body =>
    if letters = "default" && c = ':' then returned? body else none
  | _ => none

def clauses? : List (List Tree) → Option (List (Operand × List Expression) × List Expression) :=
  initAndLast? clause? otherwise?

def statement? : List Tree → Option Body
  | [.word letters, .word subject, .group .curly content] =>
    if letters = "switch" && isName subject then
      (clauses? (pieces ';' content)).map fun c => .switch (.name subject) c.1 c.2
    else none
  | ts => (returned? ts).map .results

def body? (content : List Tree) : Option Body :=
  match pieces ';' content with
  | [ts] => statement? ts
  | _ => none

def typed? : List Tree → Option (String × String)
  | [.word name, .word type] => if isName name && isName type then some (name, type) else none
  | _ => none

def type? : List Tree → Option String
  | [.word type] => if isName type then some type else none
  | _ => none

def receiver? : List Tree → Option Receiver
  | [.word name, .mark c, .word type] =>
    if c = '*' && isName name && isName type then some ⟨name, type, true⟩ else none
  | ts => (typed? ts).map fun r => ⟨r.1, r.2, false⟩

/-- A function from its name on. -/
def signature? (receiver : Option Receiver) : List Tree → Option Function
  | [.word name, .group .round parameters, .word result, .group .curly content] =>
    if isName name && isName result then do
      return ⟨receiver, name, ← (pieces ',' parameters).mapM typed?, [result],
        ← body? content⟩
    else none
  | [.word name, .group .round parameters, .group .round results, .group .curly content] =>
    if isName name then do
      return ⟨receiver, name, ← (pieces ',' parameters).mapM typed?,
        ← (pieces ',' results).mapM type?, ← body? content⟩
    else none
  | _ => none

def function? : List Tree → Option Function
  | .group .round receiver :: rest => do signature? (some (← receiver? receiver)) rest
  | ts => signature? none ts

def constantSpec? : List Tree → Option ConstantSpec
  | [.word name] => if isName name then some ⟨name, none, none⟩ else none
  | .word name :: .mark c :: value =>
    if c = '=' && isName name then (operand? value).map fun v => ⟨name, none, some v⟩
    else none
  | .word name :: .word type :: .mark c :: value =>
    if c = '=' && isName name && isName type then
      (operand? value).map fun v => ⟨name, some type, some v⟩
    else none
  | _ => none

/-- A declaration behind its keyword. -/
def importDeclaration? : List Tree → Option Declaration
  | [.text path] => if isName path then some (.imported path) else none
  | _ => none

def typeDeclaration? : List Tree → Option Declaration
  | [.word name, .word letters, .group .curly fields] =>
    if letters = "struct" && isName name then
      ((pieces ';' fields).mapM typed?).map (.record name)
    else none
  | ts => (typed? ts).map fun t => .defined t.1 t.2

def constDeclaration? : List Tree → Option Declaration
  | [.group .round specs] => ((pieces ';' specs).mapM constantSpec?).map .constants
  | ts => (constantSpec? ts).map fun spec => .constants [spec]

def varDeclaration? : List Tree → Option Declaration
  | [.word name, .mark c, .group .square dots, .word type, .group .curly elements] =>
    if name = "_" && c = '=' && dots.map (Tree.isMark '.') = [true, true, true] && isName type
    then ((pieces ',' elements).mapM operand?).map (.blank type)
    else none
  | _ => none

def declaration? : List Tree → Option Declaration
  | .word keyword :: rest =>
    if keyword = "import" then importDeclaration? rest
    else if keyword = "type" then typeDeclaration? rest
    else if keyword = "const" then constDeclaration? rest
    else if keyword = "var" then varDeclaration? rest
    else if keyword = "func" then (function? rest).map .function
    else none
  | _ => none

/-- The statements of a text at its top level. -/
def statements? (text : String) : Option (List (List Tree)) := do
  let tokens ← tokens? text
  let trees ← nest? [] [] (terminate false tokens)
  return pieces ';' trees

/-- Reads declarations, the text of a file behind its package clause. -/
def program? (text : String) : Option Program := do
  return ⟨← (← statements? text).mapM declaration?⟩

def file? (text : String) : Option File := do
  match ← statements? text with
  | [.word keyword, .word package] :: rest =>
    if keyword = "package" && isName package then
      return ⟨package, ⟨← rest.mapM declaration?⟩⟩
    else none
  | _ => none

end EnumBindings.Go
