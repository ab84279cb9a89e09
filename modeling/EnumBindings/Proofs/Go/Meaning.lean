import EnumBindings.Proofs.Go.Program

/-!
# What a Go program means

Names are looked up among everything that a program declares at its top level, and a name that
is declared twice stands for nothing. A constant has the value of its literal or, where `iota`
stands, the number of its line; `iota` is the one predeclared name that keeps its meaning
whatever the program declares. Functions are run on values that carry their types.
-/

namespace EnumBindings.Go

/-! ## Declared names -/

/-- The names that a declaration gives to the whole package. Methods belong to their types. -/
def Declaration.names : Declaration → List String
  | imported path => [path]
  | defined name _ => [name]
  | record name _ => [name]
  | constants specs => specs.map (·.name)
  | blank _ _ => []
  | function f => if f.receiver.isNone then [f.name] else []

/-- A constant with its value and, unless it is untyped, its type. -/
structure Constant where
  name : String
  type : Option String
  value : Int
deriving Repr, DecidableEq

def initial? (iota : Nat) : Operand → Option Int
  | .number n => some n
  | .name identifier => if identifier = "iota" then some iota else none
  | _ => none

/-- The constants of a block from a line on, given the last type and value before it. -/
def blockConstants : Option String → Option Operand → Nat → List ConstantSpec → List Constant
  | _, _, _, [] => []
  | type, value, line, spec :: rest =>
    let type := if spec.value.isSome then spec.type else type
    let value := spec.value.or value
    ((value.bind (initial? line)).map fun v => ⟨spec.name, type, v⟩).toList
      ++ blockConstants type value (line + 1) rest

def Declaration.constantValues : Declaration → List Constant
  | constants specs => blockConstants none none 0 specs
  | _ => []

def Declaration.underlying? (type : String) : Declaration → Option String
  | defined name underlying => if name = type then some underlying else none
  | _ => none

def Declaration.fields? (type : String) : Declaration → Option (List (String × String))
  | record name fields => if name = type then some fields else none
  | _ => none

def Declaration.constant? (name : String) (d : Declaration) : Option Constant :=
  d.constantValues.find? (·.name == name)

def Declaration.function? : Declaration → Option Function
  | function f => some f
  | _ => none

/-- The function of a given name, which is no method. -/
def Declaration.callable? (name : String) : Declaration → Option Function
  | function f => if f.receiver.isNone && f.name == name then some f else none
  | _ => none

/-- The elements of an array without a name. -/
def Declaration.blank? (type : String) : Declaration → Option (List Operand)
  | blank element elements => if element = type then some elements else none
  | _ => none

/-- Whether every platform represents a value in an integer type; an `int` may have 32 bits. -/
def fits (underlying : String) (v : Int) : Bool :=
  if underlying = "int" then -2 ^ 31 ≤ v && v < 2 ^ 31
  else if underlying = "uint32" then 0 ≤ v && v < 2 ^ 32
  else false

namespace Program

variable (p : Program)

/-- Every name declared at the top level, as often as it is declared. -/
def names : List String := p.declarations.flatMap Declaration.names

def constants : List Constant := p.declarations.flatMap Declaration.constantValues

def functions : List Function := p.declarations.filterMap Declaration.function?

def blanks (type : String) : List (List Operand) :=
  p.declarations.filterMap (Declaration.blank? type)

/-! ## Lookups -/

/-- What the one declaration of a name gives. -/
def declared? {α : Type} (name : String) (find : Declaration → Option α) : Option α :=
  if p.names.count name = 1 then p.declarations.findSome? find else none

def underlying? (type : String) : Option String :=
  p.declared? type (Declaration.underlying? type)

def fields? (type : String) : Option (List (String × String)) :=
  p.declared? type (Declaration.fields? type)

def holds (type : String) (v : Int) : Bool := (p.underlying? type).any (fits · v)

/-- The constant of a name. A typed constant has to fit its type. -/
def constant? (name : String) : Option Constant :=
  (p.declared? name (Declaration.constant? name)).filter fun c => c.type.all (p.holds · c.value)

def function? (name : String) : Option Function :=
  p.declared? name (Declaration.callable? name)

/-- The method of a name on the values of a type. -/
def method? (type name : String) : Option Function :=
  match p.functions.filter fun f =>
      f.receiver.any (fun r => r.type == type && !r.pointer) && f.name == name with
  | [f] => some f
  | _ => none

/-- Whether pointers to a type are errors. -/
def isError (type : String) : Bool :=
  p.functions.any fun f =>
    f.receiver.any (·.type == type) && f.name == "Error" && f.parameters == [] &&
      f.results == ["string"]

end Program

/-! ## Values -/

inductive Value where
  /-- A number, of a defined type or an untyped one. -/
  | number (type : Option String) (n : Int)
  | text (content : String)
  | nil
  /-- The address of a record of texts. -/
  | record (type : String) (fields : List (String × String))
deriving Repr, DecidableEq

namespace Program

variable (p : Program)

/-- The value of an operand. Parameters hide what the program declares, which hides what is
predeclared. -/
def operandValue? (locals : List (String × Value)) : Operand → Option Value
  | .number n => some (.number none n)
  | .text content => some (.text content)
  | .field _ _ => none
  | .name identifier =>
    match locals.lookup identifier with
    | some v => some v
    | none =>
      if identifier ∈ p.names then (p.constant? identifier).map fun c => .number c.type c.value
      else if identifier = "nil" then some .nil
      else none

/-- A field of a new record with its text. -/
def fieldText? (locals : List (String × Value)) (field : String × Operand) :
    Option (String × String) :=
  match p.operandValue? locals field.2 with
  | some (.text content) => some (field.1, content)
  | _ => none

/-- The value of an expression. A new record names all fields of its type in their order. -/
def value? (locals : List (String × Value)) : Expression → Option Value
  | .operand o => p.operandValue? locals o
  | .record type fields =>
    if p.fields? type = some (fields.map fun f => (f.1, "string")) then
      (fields.mapM (p.fieldText? locals)).map (.record type)
    else none
  | .call _ _ _ => none

/-- A value where a type is wanted. -/
def assign? (type : String) : Value → Option Value
  | .number none n => if p.holds type n then some (.number (some type) n) else none
  | .number (some t) n => if t = type && p.holds t n then some (.number (some t) n) else none
  | .text content => if type = "string" then some (.text content) else none
  | .nil => if type = "error" then some .nil else none
  | .record t fields => if type = "error" && p.isError t then some (.record t fields) else none

/-- Values where types are wanted, one for each. -/
def assignAll? : List String → List Value → Option (List Value)
  | [], [] => some []
  | type :: types, v :: values => do
    let first ← p.assign? type v
    let others ← assignAll? types values
    return first :: others
  | _, _ => none

/-- What a switch returns for a value: the first clause with an equal label decides. -/
def select? (locals : List (String × Value)) (v : Value) (otherwise : List Expression) :
    List (Operand × List Expression) → Option (List Expression)
  | [] => some otherwise
  | (label, values) :: rest => do
    let l ← p.operandValue? locals label
    if l = v then return values else select? locals v otherwise rest

/-- Runs a body on the values of its parameters. -/
def run? (locals : List (String × Value)) (results : List String) (body : Body) :
    Option (List Value) := do
  let values ← match body with
    | .results values => some values
    | .switch subject clauses otherwise => do
      p.select? locals (← p.operandValue? locals subject) otherwise clauses
  p.assignAll? results (← values.mapM (p.value? locals))

def call? (name : String) (arguments : List Value) : Option (List Value) := do
  let f ← p.function? name
  let values ← p.assignAll? (f.parameters.map (·.2)) arguments
  p.run? ((f.parameters.map (·.1)).zip values) f.results f.body

def callMethod? (type name : String) (v : Value) : Option (List Value) := do
  let f ← p.method? type name
  let receiver ← f.receiver
  p.run? [(receiver.name, ← p.assign? type v)] f.results f.body

end Program

/-- The labels of the switch of a function, if it has one. -/
def Function.labels (f : Function) : List Operand :=
  match f.body with
  | .results _ => []
  | .switch _ clauses _ => clauses.map (·.1)

/-- Every switch has constant labels, no two of them equal. -/
def Program.DistinctLabels (p : Program) : Prop :=
  ∀ f ∈ p.functions, ∃ values, f.labels.mapM (p.operandValue? []) = some values ∧ values.Nodup

end EnumBindings.Go
