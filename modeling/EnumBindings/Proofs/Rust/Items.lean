import EnumBindings.Proofs.Rust.Meaning
import EnumBindings.Proofs.Source.Spelling

/-!
# The items of an enum type

The items that an enum type is written as, `enumItems`, and the pieces of text that stand for
them, `enumChunks`. A piece is what stands before the end of an item, with what the item holds
in braces if these are its end.
-/

namespace EnumBindings.Rust

open EnumBindings.Source

/-! ## Items -/

def deriveTrees : List Tree :=
  [.word "derive", .group .round [.word "Debug", .mark ',', .word "Clone", .mark ',',
    .word "Copy", .mark ',', .word "PartialEq", .mark ',', .word "Eq", .mark ',', .word "Hash"]]

def reprTrees : List Tree := [.word "repr", .group .round [.word "transparent"]]

def tupleItem (e : EnumType) : Item :=
  ⟨[flat deriveTrees, flat reprTrees], .tuple e.name (integerType e.representation)⟩

/-- An array of all constants. -/
def listed (name : String) (e : EnumType) : Stored where
  name := name
  element := e.name
  length := e.count
  elements := e.members.map fun m => .path e.name m.constantName

def constantItems (e : EnumType) : List Associated :=
  e.members.map fun m => .constant m.constantName e.name (.call e.name (.number m.value))

def valuesFunction (e : EnumType) : Function where
  name := "values"
  parameters := []
  result := staticSlice e.name
  body := .listing (listed "VALUES" e) (.borrow "VALUES")

def containsFunction (e : EnumType) : Function where
  name := "contains"
  parameters := [("self", [.word "Self"]), ("other", [.word e.name])]
  result := [.word "bool"]
  body := .value (.common (.field "self" "0") (.field "other" "0") (.field "other" "0"))

def countFunction (e : EnumType) : Function where
  name := "count"
  parameters := []
  result := [.word "usize"]
  body := .value (.operand (.number e.count))

def sizeFunction (e : EnumType) : Function :=
  if e.isBitset then containsFunction e else countFunction e

def nameFunction (e : EnumType) : Function where
  name := "as_str"
  parameters := [("self", [.word "Self"])]
  result := staticText
  body := .choice "self"
    (e.members.map fun m => (.path e.name m.constantName, .operand (.text m.externalName)))
    (.operand (.text EnumType.unknownName))

def inherentItems (e : EnumType) : List Associated :=
  constantItems e
    ++ [Associated.function (valuesFunction e), .function (sizeFunction e), .function (nameFunction e)]

def displayFunction (e : Expression) : Function where
  name := "fmt"
  parameters := [("self", [.mark '&', .word "Self"]),
    ("f", [.mark '&', .word "mut", .word "fmt", .mark ':', .mark ':', .word "Formatter",
      .mark '<', .mark '\'', .word "_", .mark '>'])]
  result := [.word "fmt", .mark ':', .mark ':', .word "Result"]
  body := .value e

def displayItem (type : String) (e : Expression) : Item :=
  ⟨[], .implementation (some ["fmt", "Display"]) type [.function (displayFunction e)]⟩

def parseFunction (e : EnumType) : Function where
  name := "from_str"
  parameters := [("s", borrowedText)]
  result := ownResult
  body := .choice "s"
    (e.members.map fun m => (.text m.externalName, .call "Ok" (.path e.name m.constantName)))
    (.build "Err" errorType [("type_name", .text e.name), ("value", .method "s" "to_string")])

def parseItems (e : EnumType) : List Associated :=
  [.named "Err" [.word errorType], .function (parseFunction e)]

def operationFunction (e : EnumType) (method : String) (operator : Char) : Function where
  name := method
  parameters := [("self", [.word "Self"]), ("rhs", [.word e.name])]
  result := [.word e.name]
  body := .value (.combine e.name (.field "self" "0") operator (.field "rhs" "0"))

def operationItems (e : EnumType) (method : String) (operator : Char) : List Associated :=
  [.named "Output" [.word e.name], .function (operationFunction e method operator)]

/-- Union and intersection of flags. -/
def operationsItems (e : EnumType) : List Item :=
  if e.isBitset then
    [⟨[], .implementation (some ["std", "ops", "BitOr"]) e.name (operationItems e "bitor" '|')⟩,
     ⟨[], .implementation (some ["std", "ops", "BitAnd"]) e.name
       (operationItems e "bitand" '&')⟩]
  else []

def keepAliveItems (e : EnumType) : List Item :=
  if e.preserve then [⟨[[.word "used"]], .stored (listed (keepAliveName e) e)⟩] else []

/-- Everything that an enum type is written as. -/
def enumItems (e : EnumType) : List Item :=
  [tupleItem e, ⟨[], .implementation none e.name (inherentItems e)⟩,
   displayItem e.name (.invoke "f" "write_str" (.method "self" "as_str")),
   ⟨[], .implementation (some ["FromStr"]) e.name (parseItems e)⟩]
    ++ (operationsItems e ++ keepAliveItems e)

/-! ## Trees -/

/-- An item without its end; if it ends with braces, with what they hold. -/
abbrev Chunk := List Tree × Option (List Tree)

/-- The end of an item. -/
def Chunk.ending : Option (List Tree) → Tree
  | none => .mark ';'
  | some content => .group .curly content

/-- The trees of items, each with its end. -/
def closed (chunks : List Chunk) : List Tree :=
  chunks.flatMap fun c => c.1 ++ [Chunk.ending c.2]

theorem closed_cons (c : Chunk) (rest : List Chunk) :
    closed (c :: rest) = c.1 ++ Chunk.ending c.2 :: closed rest := by
  rw [closed, List.flatMap_cons, List.append_assoc]
  rfl

theorem closed_append (a b : List Chunk) : closed (a ++ b) = closed a ++ closed b :=
  List.flatMap_append

/-- A type with a number of elements. -/
def sizedTrees (e : EnumType) : Tree :=
  .group .square [.word e.name, .mark ';', .word (toString e.count)]

def constantPathTrees (e : EnumType) (m : Member) : List Tree :=
  [.word e.name, .mark ':', .mark ':', .word m.constantName]

/-- An array of all constants. -/
def elementTrees (e : EnumType) : Tree :=
  .group .square (ended ',' (e.members.map (constantPathTrees e)))

def storedTrees (name : String) (e : EnumType) : List Tree :=
  [.word name, .mark ':', sizedTrees e, .mark '=', elementTrees e]

def tupleChunk (e : EnumType) : Chunk :=
  ([.mark '#', .group .square deriveTrees, .mark '#', .group .square reprTrees, .word "pub",
    .word "struct", .word e.name,
    .group .round [.word "pub", .word (integerType e.representation)]], none)

def constantChunk (e : EnumType) (m : Member) : Chunk :=
  ([.word "pub", .word "const", .word m.constantName, .mark ':', .word e.name, .mark '=',
    .word e.name, .group .round (valueTrees e.representation m.value)], none)

def valuesChunk (e : EnumType) : Chunk :=
  ([.word "pub", .word "fn", .word "values", .group .round [], .mark '-', .mark '>', .mark '&',
    .mark '\'', .word "static", .group .square [.word e.name]],
   some (.word "static" :: (storedTrees "VALUES" e
     ++ [Tree.mark ';', .mark '&', .word "VALUES"])))

def containsChunk (e : EnumType) : Chunk :=
  ([.word "pub", .word "const", .word "fn", .word "contains",
    .group .round [.word "self", .mark ',', .word "other", .mark ':', .word e.name],
    .mark '-', .mark '>', .word "bool"],
   some [.word "self", .mark '.', .word "0", .mark '&', .word "other", .mark '.', .word "0",
     .mark '=', .mark '=', .word "other", .mark '.', .word "0"])

def countChunk (e : EnumType) : Chunk :=
  ([.word "pub", .word "const", .word "fn", .word "count", .group .round [], .mark '-',
    .mark '>', .word "usize"], some [.word (toString e.count)])

def sizeChunk (e : EnumType) : Chunk :=
  if e.isBitset then containsChunk e else countChunk e

/-- An arm of a match. -/
def armTrees (pattern value : List Tree) : List Tree :=
  pattern ++ .mark '=' :: .mark '>' :: value

def nameArms (e : EnumType) : List (List Tree) :=
  e.members.map (fun m => armTrees (constantPathTrees e m) [.text m.externalName])
    ++ [armTrees [.word "_"] [.text EnumType.unknownName]]

def nameChunk (e : EnumType) : Chunk :=
  ([.word "pub", .word "fn", .word "as_str", .group .round [.word "self"], .mark '-', .mark '>',
    .mark '&', .mark '\'', .word "static", .word "str"],
   some [.word "match", .word "self", .group .curly (ended ',' (nameArms e))])

def inherentChunks (e : EnumType) : List Chunk :=
  e.members.map (constantChunk e) ++ [valuesChunk e, sizeChunk e, nameChunk e]

/-- What is implemented for the type itself. -/
def ownChunk (e : EnumType) : Chunk :=
  ([.word "impl", .word e.name], some (closed (inherentChunks e)))

/-- The body that shows a value by its name. -/
def showTrees : List Tree :=
  [.word "f", .mark '.', .word "write_str",
   .group .round [.word "self", .mark '.', .word "as_str", .group .round []]]

def displayChunk (type : String) (body : List Tree) : Chunk :=
  ([.word "impl", .word "fmt", .mark ':', .mark ':', .word "Display", .word "for", .word type],
   some (closed [([.word "fn", .word "fmt",
     .group .round [.mark '&', .word "self", .mark ',', .word "f", .mark ':', .mark '&',
       .word "mut", .word "fmt", .mark ':', .mark ':', .word "Formatter", .mark '<', .mark '\'',
       .word "_", .mark '>'],
     .mark '-', .mark '>', .word "fmt", .mark ':', .mark ':', .word "Result"], some body)]))

/-- The value given for a text that names no member. -/
def failureTrees (e : EnumType) : List Tree :=
  [.word "Err", .group .round [.word errorType, .group .curly (ended ','
    [[.word "type_name", .mark ':', .text e.name],
     [.word "value", .mark ':', .word "s", .mark '.', .word "to_string", .group .round []]])]]

def parseArms (e : EnumType) : List (List Tree) :=
  e.members.map (fun m =>
      armTrees [.text m.externalName] [.word "Ok", .group .round (constantPathTrees e m)])
    ++ [armTrees [.word "_"] (failureTrees e)]

def parseChunks (e : EnumType) : List Chunk :=
  [([.word "type", .word "Err", .mark '=', .word errorType], none),
   ([.word "fn", .word "from_str", .group .round [.word "s", .mark ':', .mark '&', .word "str"],
     .mark '-', .mark '>', .word "Result", .mark '<', .word "Self", .mark ',', .word "Self",
     .mark ':', .mark ':', .word "Err", .mark '>'],
    some [.word "match", .word "s", .group .curly (ended ',' (parseArms e))])]

/-- Reading a value from its name. -/
def fromStrChunk (e : EnumType) : Chunk :=
  ([.word "impl", .word "FromStr", .word "for", .word e.name], some (closed (parseChunks e)))

def operationChunk (e : EnumType) (trait method : String) (operator : Char) : Chunk :=
  ([.word "impl", .word "std", .mark ':', .mark ':', .word "ops", .mark ':', .mark ':',
    .word trait, .word "for", .word e.name],
   some (closed
     [([.word "type", .word "Output", .mark '=', .word e.name], none),
      ([.word "fn", .word method,
        .group .round [.word "self", .mark ',', .word "rhs", .mark ':', .word e.name],
        .mark '-', .mark '>', .word e.name],
       some [.word e.name, .group .round [.word "self", .mark '.', .word "0", .mark operator,
         .word "rhs", .mark '.', .word "0"]])]))

def operationsChunks (e : EnumType) : List Chunk :=
  if e.isBitset then
    [operationChunk e "BitOr" "bitor" '|', operationChunk e "BitAnd" "bitand" '&']
  else []

def keepAliveChunks (e : EnumType) : List Chunk :=
  if e.preserve then
    [(.mark '#' :: .group .square [.word "used"] :: .word "static"
      :: storedTrees (keepAliveName e) e, none)]
  else []

/-- The pieces of text of an enum type. -/
def enumChunks (e : EnumType) : List Chunk :=
  [tupleChunk e, ownChunk e, displayChunk e.name showTrees, fromStrChunk e]
    ++ (operationsChunks e ++ keepAliveChunks e)

/-- The pieces one by one, as their lines are put together. -/
theorem closed_enumChunks (e : EnumType) :
    closed (enumChunks e) = closed [tupleChunk e] ++ (closed [ownChunk e]
      ++ (closed [displayChunk e.name showTrees] ++ (closed [fromStrChunk e]
      ++ (closed (operationsChunks e) ++ closed (keepAliveChunks e))))) := by
  simp only [← closed_append]
  rfl

end EnumBindings.Rust
