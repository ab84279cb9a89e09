import EnumBindings.Proofs.Rust.Program

/-!
# What a Rust module means

Types and statics are looked up among everything that a module declares, associated items among
the inherent items of their type, and a name that is declared twice stands for nothing. The
names of the built-in types and of `Ok` and `Err` keep their meaning whatever the module
declares. Functions are run on values, and arguments and results are held against the types
that the function states.
-/

namespace EnumBindings.Rust

open EnumBindings.Source

/-! ## Declared names -/

/-- The names that an item gives to the module. -/
def Kind.names : Kind → List String
  | imported path => path.getLast?.toList
  | tuple name _ => [name]
  | record name _ => [name]
  | implementation _ _ _ => []
  | stored s => [s.name]

/-- The field of the structure of a name, with the attributes above the structure. -/
def Item.tuple? (type : String) (i : Item) : Option (String × List (List Token)) :=
  match i.kind with
  | .tuple name field => if name = type then some (field, i.attributes) else none
  | _ => none

def Item.fields? (type : String) (i : Item) : Option (List (String × List Token)) :=
  match i.kind with
  | .record name fields => if name = type then some fields else none
  | _ => none

/-- The static array over a type, with the attributes above it. -/
def Item.stored? (element : String) (i : Item) : Option (List (List Token) × Stored) :=
  match i.kind with
  | .stored s => if s.element = element then some (i.attributes, s) else none
  | _ => none

/-- What is implemented for a type without a trait. -/
def Item.inherent (type : String) (i : Item) : List Associated :=
  match i.kind with
  | .implementation none target items => if target = type then items else []
  | _ => []

def Item.implemented? (trait : List String) (type : String) (i : Item) :
    Option (List Associated) :=
  match i.kind with
  | .implementation (some t) target items =>
    if t = trait ∧ target = type then some items else none
  | _ => none

def Associated.name : Associated → String
  | constant name _ _ => name
  | named name _ => name
  | function f => f.name

/-- The name and the number of a constant that is made by the constructor of its own type. -/
def Associated.constant? (type : String) : Associated → Option (String × Int)
  | constant name t (.call f (.number v)) => if t = type ∧ f = type then some (name, v) else none
  | _ => none

def Associated.function? (name : String) : Associated → Option Function
  | function f => if f.name = name then some f else none
  | _ => none

def Associated.type? (name : String) : Associated → Option (List Token)
  | named n type => if n = name then some type else none
  | _ => none

/-- Whether a value fits an integer type. -/
def fits (integer : String) (v : Int) : Bool :=
  if integer = "i32" then -2 ^ 31 ≤ v && v < 2 ^ 31
  else if integer = "u32" then 0 ≤ v && v < 2 ^ 32
  else false

/-- Whether attributes derive a trait. -/
def derives (trait : String) (attributes : List (List Token)) : Bool :=
  attributes.any fun a => a.head? == some (.word "derive") && a.contains (.word trait)

namespace Module

variable (m : Module)

/-- Every name of the module, as often as it is declared. -/
def names : List String := m.items.flatMap (·.kind.names)

/-! ## Lookups -/

/-- What the one item of a name gives. -/
def declared? {α : Type} (name : String) (find : Item → Option α) : Option α :=
  if m.names.count name = 1 then m.items.findSome? find else none

def tuple? (type : String) : Option (String × List (List Token)) :=
  m.declared? type (Item.tuple? type)

def fields? (type : String) : Option (List (String × List Token)) :=
  m.declared? type (Item.fields? type)

def holds (type : String) (v : Int) : Bool := (m.tuple? type).any fun t => fits t.1 v

/-- Whether constants of a type can stand in patterns. -/
def comparable (type : String) : Bool :=
  (m.tuple? type).any fun t => derives "PartialEq" t.2 && derives "Eq" t.2

def inherent (type : String) : List Associated := m.items.flatMap (Item.inherent type)

def has (type name : String) : Bool := (m.inherent type).any (·.name == name)

def constants (type : String) : List (String × Int) :=
  (m.inherent type).filterMap (Associated.constant? type)

def associated? (type name : String) : Option Associated :=
  if ((m.inherent type).map Associated.name).count name = 1 then
    (m.inherent type).find? (·.name == name)
  else none

/-- The number of a constant, which has to fit its type. -/
def constant? (type name : String) : Option Int :=
  (((m.associated? type name).bind (Associated.constant? type)).map (·.2)).filter (m.holds type)

def implements (trait : List String) (type : String) : Bool :=
  m.items.any fun i => (Item.implemented? trait type i).isSome

/-- What the one implementation of a trait for a type holds. -/
def implemented? (trait : List String) (type : String) : Option (List Associated) :=
  match m.items.filterMap (Item.implemented? trait type) with
  | [items] => some items
  | _ => none

def storeds (element : String) : List (List (List Token) × Stored) :=
  m.items.filterMap (Item.stored? element)

end Module

/-! ## Values and their types -/

inductive Value where
  | number (n : Int)
  | truth (b : Bool)
  | text (content : String)
  /-- A text of its own. -/
  | owned (content : String)
  /-- A structure of one number. -/
  | tuple (type : String) (n : Int)
  /-- An array of such structures. -/
  | slice (type : String) (elements : List Int)
  | accepted (type : String) (n : Int)
  /-- An error, which is a record of texts. -/
  | refused (type : String) (fields : List (String × String))
deriving Repr, DecidableEq

def borrowedText : List Token := [.mark '&', .word "str"]

def staticText : List Token := [.mark '&', .mark '\'', .word "static", .word "str"]

def staticSlice (type : String) : List Token :=
  [.mark '&', .mark '\'', .word "static", .mark '[', .word type, .mark ']']

/-- The type with the error type that the implementation names. -/
def ownResult : List Token :=
  [.word "Result", .mark '<', .word "Self", .mark ',', .word "Self", .mark ':', .mark ':',
   .word "Err", .mark '>']

/-- Where a function stands: the type it is implemented for, and the error type named there. -/
structure Place where
  self : String
  failure : Option (List Token)
deriving Repr, DecidableEq

/-- Whether a value has a type. -/
def Module.hasType (m : Module) (place : Place) (type : List Token) : Value → Bool
  | .number _ => type == [.word "usize"]
  | .truth _ => type == [.word "bool"]
  | .text _ => type == borrowedText || type == staticText
  | .owned _ => type == [.word "String"]
  | .tuple t n => m.holds t n && (type == [.word t] || type == [.word "Self"] && t == place.self)
  | .slice t _ => type == staticSlice t
  | .accepted t _ => type == ownResult && t == place.self
  | .refused t _ => type == ownResult && place.failure == some [.word t]

/-! ## Running functions -/

/-- Operations on the bits of numbers that are not negative. -/
def bits? (operator : Char) : Int → Int → Option Int
  | .ofNat a, .ofNat b =>
    if operator = '|' then some (.ofNat (a ||| b))
    else if operator = '&' then some (.ofNat (a &&& b))
    else none
  | _, _ => none

namespace Module

variable (m : Module)

def operandValue? (locals : List (String × Value)) : Operand → Option Value
  | .number n => some (.number n)
  | .text content => some (.text content)
  | .name identifier => locals.lookup identifier
  | .path type name => (m.constant? type name).map (.tuple type)
  | .field record name =>
    match locals.lookup record with
    | some (.tuple _ n) => if name = "0" then some (.number n) else none
    | _ => none
  | .method receiver name =>
    match locals.lookup receiver with
    | some (.text content) => if name = "to_string" then some (.owned content) else none
    | _ => none

def number? (locals : List (String × Value)) (o : Operand) : Option Int :=
  match m.operandValue? locals o with
  | some (.number n) => some n
  | _ => none

def element? (type : String) (o : Operand) : Option Int :=
  match m.operandValue? [] o with
  | some (.tuple t n) => if t = type then some n else none
  | _ => none

/-- A field of a new record, held against the field that the record has in its place. -/
def fieldText? (place : Place) (locals : List (String × Value))
    (field : (String × List Token) × (String × Operand)) : Option (String × String) :=
  if field.1.1 = field.2.1 then
    match m.operandValue? locals field.2.2 with
    | some (.text content) =>
      if m.hasType place field.1.2 (.text content) then some (field.1.1, content) else none
    | some (.owned content) =>
      if m.hasType place field.1.2 (.owned content) then some (field.1.1, content) else none
    | _ => none
  else none

/-- A structure made from a number that fits it. -/
def construct? (type : String) (n : Int) : Option Value :=
  if m.holds type n then some (.tuple type n) else none

def value? (place : Place) (locals : List (String × Value)) : Expression → Option Value
  | .operand o => m.operandValue? locals o
  | .call f o =>
    match m.operandValue? locals o with
    | some (.tuple type n) => if f = "Ok" then some (.accepted type n) else none
    | some (.number n) => m.construct? f n
    | _ => none
  | .combine f left operator right => do
    m.construct? f (← bits? operator (← m.number? locals left) (← m.number? locals right))
  | .common left right whole => do
    let n ← bits? '&' (← m.number? locals left) (← m.number? locals right)
    return .truth (n == (← m.number? locals whole))
  | .build f type fields => do
    let declared ← m.fields? type
    if f = "Err" && declared.length == fields.length then
      return .refused type (← (declared.zip fields).mapM (m.fieldText? place locals))
    else none
  | _ => none

def patternValue? : Pattern → Option Value
  | .path type name => if m.comparable type then m.operandValue? [] (.path type name) else none
  | .text content => some (.text content)

/-- What a match gives for a value: the first arm with an equal pattern decides. -/
def select? (v : Value) (otherwise : Expression) :
    List (Pattern × Expression) → Option Expression
  | [] => some otherwise
  | (pattern, e) :: rest => do
    if (← m.patternValue? pattern) = v then return e else select? v otherwise rest

/-- The elements of an array, which are as many as it says. -/
def elements? (s : Stored) : Option (List Int) :=
  if s.elements.length = s.length then s.elements.mapM (m.element? s.element) else none

def run? (place : Place) (locals : List (String × Value)) : Body → Option Value
  | .value e => m.value? place locals e
  | .choice subject arms otherwise => do
    m.value? place locals (← m.select? (← locals.lookup subject) otherwise arms)
  | .listing s (.borrow name) =>
    if name = s.name then (m.elements? s).map (.slice s.element) else none
  | .listing _ _ => none

/-- What a function answers to arguments of its types. -/
def answer? (place : Place) (f : Function) (arguments : List Value) : Option Value :=
  if f.parameters.length = arguments.length ∧
      (f.parameters.zip arguments).all (fun p => m.hasType place p.1.2 p.2) then
    (m.run? place ((f.parameters.map (·.1)).zip arguments) f.body).filter
      (m.hasType place f.result)
  else none

def call? (type name : String) (arguments : List Value) : Option Value := do
  let f ← (← m.associated? type name).function? name
  m.answer? ⟨type, none⟩ f arguments

def callTrait? (trait : List String) (type name : String) (arguments : List Value) :
    Option Value := do
  let items ← m.implemented? trait type
  match items.filterMap (Associated.function? name) with
  | [f] => m.answer? ⟨type, items.findSome? (Associated.type? "Err")⟩ f arguments
  | _ => none

end Module

end EnumBindings.Rust
