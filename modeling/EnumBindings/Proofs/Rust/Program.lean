import EnumBindings.Artifact.Rust
import EnumBindings.Proofs.Source.Numeral
import EnumBindings.Proofs.Source.Tree

/-!
# Rust modules

The part of the Rust language that generated files are written in, read from text alone: nothing
here knows how the text was made. Line ends mean nothing, an item ends with a semicolon or with
its braces, and every item is recognised by its shape. What has no shape here is refused.

Types are kept as their tokens. Visibility is not kept, and comments, documentation among them,
are not read.
-/

namespace EnumBindings.Rust

open EnumBindings.Source

/-! ## Syntax -/

/-- An expression without a part that is evaluated before it. -/
inductive Operand where
  | number (value : Int)
  | text (content : String)
  | name (identifier : String)
  /-- An associated item of a type. -/
  | path (type name : String)
  | field (record name : String)
  /-- A method without further arguments. -/
  | method (receiver name : String)
deriving Repr, DecidableEq

inductive Expression where
  | operand (operand : Operand)
  | borrow (name : String)
  | call (function : String) (argument : Operand)
  /-- A call on the result of an operation. -/
  | combine (function : String) (left : Operand) (operator : Char) (right : Operand)
  /-- A call on a new record. -/
  | build (function type : String) (fields : List (String × Operand))
  /-- Whether the common bits of two numbers are a third. -/
  | common (left right whole : Operand)
  | invoke (receiver method : String) (argument : Operand)
  | expand (name : String) (arguments : List Operand)
deriving Repr, DecidableEq

inductive Pattern where
  | path (type name : String)
  | text (content : String)
deriving Repr, DecidableEq

/-- An array that exists once. -/
structure Stored where
  name : String
  element : String
  length : Nat
  elements : List Operand
deriving Repr, DecidableEq

/-- What a function does. -/
inductive Body where
  | value (e : Expression)
  | choice (subject : String) (arms : List (Pattern × Expression)) (otherwise : Expression)
  | listing (stored : Stored) (result : Expression)
deriving Repr, DecidableEq

structure Function where
  name : String
  parameters : List (String × List Token)
  result : List Token
  body : Body
deriving Repr, DecidableEq

inductive Associated where
  | constant (name type : String) (value : Expression)
  | named (name : String) (type : List Token)
  | function (f : Function)
deriving Repr, DecidableEq

inductive Kind where
  | imported (path : List String)
  /-- A structure of one field without a name. -/
  | tuple (name field : String)
  | record (name : String) (fields : List (String × List Token))
  | implementation (trait : Option (List String)) (type : String) (items : List Associated)
  | stored (s : Stored)
deriving Repr, DecidableEq

/-- An item of a module, with the attributes above it. -/
structure Item where
  attributes : List (List Token)
  kind : Kind
deriving Repr, DecidableEq

structure Module where
  items : List Item
deriving Repr, DecidableEq

/-! ## Reading expressions -/

/-- Words that can be names. -/
def isName (letters : String) : Bool :=
  letters.toList.head?.any (fun c => !c.isDigit) && !keywords.contains letters

/-- Words that can stand for a value in a function. -/
def isVariable (letters : String) : Bool := isName letters || letters == "self"

/-- Fields without a name are numbered. -/
def isField (letters : String) : Bool := isName letters || (numeral? letters).isSome

def operand? : List Tree → Option Operand
  | [.text content] => some (.text content)
  | [.word letters] =>
    if isVariable letters then some (.name letters)
    else (numeral? letters).map fun n : Nat => .number n
  | [.mark '-', .word letters] => (numeral? letters).map fun n : Nat => .number (-n)
  | [.word type, .mark ':', .mark ':', .word name] =>
    if isName type && isName name then some (.path type name) else none
  | [.word record, .mark '.', .word name] =>
    if isVariable record && isField name then some (.field record name) else none
  | [.word receiver, .mark '.', .word name, .group .round []] =>
    if isVariable receiver && isName name then some (.method receiver name) else none
  | _ => none

def entry? : List Tree → Option (String × Operand)
  | .word key :: .mark ':' :: value => if isName key then (operand? value).map (key, ·) else none
  | _ => none

/-- The call of a function on what stands between its brackets. -/
def call? (function : String) : List Tree → Option Expression
  | [.word type, .group .curly fields] =>
    if isName type then ((pieces ',' fields).mapM entry?).map (.build function type) else none
  | [.word left, .mark '.', .word i, .mark operator, .word right, .mark '.', .word j] => do
    return .combine function (← operand? [.word left, .mark '.', .word i]) operator
      (← operand? [.word right, .mark '.', .word j])
  | argument => (operand? argument).map (.call function)

def expression? : List Tree → Option Expression
  | [.mark '&', .word name] => if isName name then some (.borrow name) else none
  | [.word function, .group .round argument] =>
    if isName function then call? function argument else none
  | [.word name, .mark '!', .group .round arguments] =>
    if isName name then ((pieces ',' arguments).mapM operand?).map (.expand name) else none
  | [.word receiver, .mark '.', .word method, .group .round (first :: rest)] =>
    if isVariable receiver && isName method then
      (operand? (first :: rest)).map (.invoke receiver method)
    else none
  | [.word left, .mark '.', .word i, .mark '&', .word right, .mark '.', .word j, .mark '=',
     .mark '=', .word whole, .mark '.', .word k] => do
    return .common (← operand? [.word left, .mark '.', .word i])
      (← operand? [.word right, .mark '.', .word j])
      (← operand? [.word whole, .mark '.', .word k])
  | ts => (operand? ts).map .operand

/-! ## Reading functions -/

def arm? : List Tree → Option (Pattern × Expression)
  | .word type :: .mark ':' :: .mark ':' :: .word name :: .mark '=' :: .mark '>' :: body =>
    if isName type && isName name then (expression? body).map (.path type name, ·) else none
  | .text content :: .mark '=' :: .mark '>' :: body => (expression? body).map (.text content, ·)
  | _ => none

/-- What the last arm of a match gives. -/
def otherwise? : List Tree → Option Expression
  | .word letters :: .mark '=' :: .mark '>' :: body =>
    if letters = "_" then expression? body else none
  | _ => none

def arms? : List (List Tree) → Option (List (Pattern × Expression) × Expression) :=
  initAndLast? arm? otherwise?

/-- The array behind `static`. -/
def stored? : List Tree → Option Stored
  | [.word name, .mark ':', .group .square [.word element, .mark ';', .word length], .mark '=',
     .group .square elements] =>
    if isName name && isName element then do
      return ⟨name, element, ← numeral? length, ← (pieces ',' elements).mapM operand?⟩
    else none
  | _ => none

def body? : List Tree → Option Body
  | [.word letters, .word subject, .group .curly arms] =>
    if letters = "match" && isVariable subject then
      (arms? (pieces ',' arms)).map fun a => .choice subject a.1 a.2
    else none
  | .word letters :: name :: colon :: type :: equals :: value :: .mark ';' :: result =>
    if letters = "static" then do
      return .listing (← stored? [name, colon, type, equals, value]) (← expression? result)
    else none
  | ts => (expression? ts).map .value

def parameter? : List Tree → Option (String × List Token)
  | [.word name] => if name = "self" then some (name, [.word "Self"]) else none
  | [.mark '&', .word name] =>
    if name = "self" then some (name, [.mark '&', .word "Self"]) else none
  | .word name :: .mark ':' :: type => if isName name then some (name, flat type) else none
  | _ => none

/-- A function from its name on, without its braces. -/
def function? (content : List Tree) : List Tree → Option Function
  | .word name :: .group .round parameters :: .mark '-' :: .mark '>' :: result =>
    if isName name then do
      return ⟨name, ← (pieces ',' parameters).mapM parameter?, flat result, ← body? content⟩
    else none
  | _ => none

/-! ## Reading items -/

/-- Cuts trees behind each semicolon and each pair of braces. A piece comes without its end; if
braces are its end, it comes with what they hold. -/
def chunks? : List Tree → List Tree → Option (List (List Tree × Option (List Tree)))
  | before, [] => if before.isEmpty then some [] else none
  | before, .mark ';' :: rest => (chunks? [] rest).map ((before, none) :: ·)
  | before, .group .curly content :: rest => (chunks? [] rest).map ((before, some content) :: ·)
  | before, t :: rest => chunks? (before ++ [t]) rest

/-- Drops the mark of what can be seen from outside. -/
def unmarked : List Tree → List Tree
  | .word letters :: rest => if letters = "pub" then rest else .word letters :: rest
  | ts => ts

/-- An associated item behind the mark of its visibility. -/
def bareAssociated? : List Tree × Option (List Tree) → Option Associated
  | (.word "const" :: .word "fn" :: f, some content) => (function? content f).map .function
  | (.word "fn" :: f, some content) => (function? content f).map .function
  | (.word "const" :: .word name :: .mark ':' :: .word type :: .mark '=' :: value, none) =>
    if isName name && isName type then (expression? value).map (.constant name type) else none
  | (.word "type" :: .word name :: .mark '=' :: type, none) =>
    if isName name then some (.named name (flat type)) else none
  | _ => none

def associated? (chunk : List Tree × Option (List Tree)) : Option Associated :=
  bareAssociated? (unmarked chunk.1, chunk.2)

def path? : List Tree → Option (List String)
  | [.word name] => if isName name then some [name] else none
  | .word name :: .mark ':' :: .mark ':' :: rest =>
    if isName name then (path? rest).map (name :: ·) else none
  | _ => none

def trait? : List Tree → Option (List String × String)
  | [.word name, .word letters, .word type] =>
    if letters = "for" && isName name && isName type then some ([name], type) else none
  | .word name :: .mark ':' :: .mark ':' :: rest =>
    if isName name then (trait? rest).map fun t => (name :: t.1, t.2) else none
  | _ => none

def field? (ts : List Tree) : Option (String × List Token) :=
  match unmarked ts with
  | .word name :: .mark ':' :: type => if isName name then some (name, flat type) else none
  | _ => none

/-- What is implemented for which type. -/
def implemented? : List Tree → Option (Option (List String) × String)
  | [.word type] => if isName type then some (none, type) else none
  | ts => (trait? ts).map fun t => (some t.1, t.2)

/-- An item behind its attributes and the mark of its visibility. -/
def kind? : List Tree × Option (List Tree) → Option Kind
  | (.word "use" :: path, none) => (path? path).map .imported
  | (.word "struct" :: [.word name, .group .round field], none) =>
    match unmarked field with
    | [.word type] => if isName name && isName type then some (.tuple name type) else none
    | _ => none
  | (.word "struct" :: [.word name], some fields) =>
    if isName name then ((pieces ',' fields).mapM field?).map (.record name) else none
  | (.word "impl" :: target, some content) => do
    let (trait, type) ← implemented? target
    return .implementation trait type (← (← chunks? [] content).mapM associated?)
  | (.word "static" :: s, none) => (stored? s).map .stored
  | _ => none

/-- The attributes above an item, and the rest of it. -/
def attributed : List Tree → List (List Token) × List Tree
  | .mark '#' :: .group .square content :: rest =>
    (flat content :: (attributed rest).1, (attributed rest).2)
  | ts => ([], ts)

def item? (chunk : List Tree × Option (List Tree)) : Option Item :=
  (kind? (unmarked (attributed chunk.1).2, chunk.2)).map fun kind =>
    ⟨(attributed chunk.1).1, kind⟩

/-- The language gives no meaning to line ends. -/
def joined (tokens : List Token) : List Token := tokens.filter (· != .lineEnd)

def module? (text : String) : Option Module := do
  let trees ← nest? [] [] (joined (← tokens? text))
  return ⟨← (← chunks? [] trees).mapM item?⟩

end EnumBindings.Rust
