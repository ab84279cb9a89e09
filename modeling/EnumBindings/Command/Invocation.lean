import EnumBindings.Command.Usage

/-!
# Reading a command line

A command line is options, a command, and the arguments of the command. An option may have its
value behind `=` or as the next word; what looks like an option is never taken as such a value,
and behind `--` nothing looks like an option. A value that was seen is judged when the next
argument is taken or the line ends, so of several mistakes the one that is met first in this
order is reported. Words are bytes: a path is any of them, other values have to be text.
-/

namespace EnumBindings.Command

/-! ## What was given -/

/-- The values given at one level. -/
structure Given where
  /-- The arguments in the order in which they were taken. -/
  arguments : List Argument
  color : Option ColorChoice
  /-- Events are asked for, or status lines are. -/
  json : Option Bool
  config : Option Path
  table : Option Path
  language : Option Language
  out : Option Path
  package : Option String
  name : Option String
  shell : Option Shell
deriving Repr, Inhabited

namespace Given

/-- Nothing. -/
def nothing : Given := ⟨[], none, none, none, none, none, none, none, none, none⟩

/-- Whether an argument was given. -/
def has (given : Given) (a : Argument) : Bool := given.arguments.contains a

/-- A path, which is never empty. -/
def path (a : Argument) (value : ByteString) : Except UsageError Path :=
  if value.isEmpty then .error (.noValue a) else .ok ⟨value⟩

/-- A text. -/
def text (value : ByteString) : Except UsageError String :=
  match Utf8.text? value with
  | some text => .ok text
  | none => .error .notText

/-- A word from a fixed choice. -/
def word {α : Type} (a : Argument) (value : ByteString) (value? : Option α) :
    Except UsageError α :=
  match value? with
  | some value => .ok value
  | none =>
    if value.isEmpty then .error (.noValue a) else .error (.badValue a (Utf8.shown value) none)

/-- A word that a reader of the library takes, with the reason if it does not. -/
def judged {α : Type} (a : Argument) (text : String) (value? : Option α) (reason : String) :
    Except UsageError α :=
  match value? with
  | some value => .ok value
  | none => .error (.badValue a text (some reason))

/-- Whether events are asked for, by the word for it. -/
def formatOf? (word : ByteString) : Option Bool :=
  if word = "human" then some false else if word = "json" then some true else none

/-- Sets the value of an argument. -/
def set (given : Given) (a : Argument) (value : ByteString) : Except UsageError Given :=
  match a with
  | .color => do
    let text ← text value
    let color ← judged a text (ColorChoice.parse? text) (ColorChoice.unknownMessage text)
    return { given with color := some color }
  | .messageFormat => do
    return { given with json := some (← word a value (formatOf? value)) }
  | .config => do return { given with config := some (← path a value) }
  | .table => do return { given with table := some (← path a value) }
  | .lang => do
    let text ← text value
    let language ← judged a text (Language.parse? text) (Language.unknownMessage text)
    return { given with language := some language }
  | .out => do return { given with out := some (← path a value) }
  | .package => do return { given with package := some (← text value) }
  | .name => do return { given with name := some (← text value) }
  | .shell => do return { given with shell := some (← word a value (Shell.parse? value)) }
  | _ => .ok given

/-- Takes an argument with its value; a switch has an empty one. No argument is taken twice. -/
def take (given : Given) (a : Argument) (value : ByteString) : Except UsageError Given :=
  if given.has a then .error (.repeated a)
  else { given with arguments := given.arguments ++ [a] }.set a value

end Given

/-! ## Taking arguments -/

/-- Why there is nothing to run. -/
inductive Stop where
  | help
  | version
  | usage (error : UsageError)
deriving Repr, DecidableEq

/-- How far one level was read. -/
structure Reading where
  level : Level
  given : Given
  /-- An argument that was seen and not yet taken, with its value if that was seen too. -/
  pending : Option (Argument × Option ByteString)
  /-- Values that may still come. -/
  positionals : List Argument
  /-- Nothing looks like an option any more. -/
  trailing : Bool
deriving Repr

namespace Reading

/-- A level of which nothing was read. -/
def begin (level : Level) : Reading := ⟨level, .nothing, none, level.positionals, false⟩

/-- Takes the argument that is pending. -/
def settle (r : Reading) : Except Stop Reading :=
  match r.pending with
  | none => .ok r
  | some (a, none) => .error (.usage (.noValue a))
  | some (a, some value) =>
    match r.given.take a value with
    | .ok given => .ok { r with given, pending := none }
    | .error error => .error (.usage error)

/-- Whether the next word is the value of an option. -/
def isWaiting (r : Reading) : Bool := !r.trailing && r.pending.any (·.2.isNone)

/-- Takes a switch. -/
def takeSwitch (r : Reading) (a : Argument) : Except Stop Reading := do
  let r ← r.settle
  match a with
  | .help => throw .help
  | .version => throw .version
  | _ =>
    match r.given.take a "" with
    | .ok given => return { r with given }
    | .error error => throw (.usage error)

/-- Takes an option whose value stands behind `=`. -/
def takeAttached (r : Reading) (a : Argument) (value : ByteString) : Except Stop Reading := do
  let r ← r.settle
  match r.given.take a value with
  | .ok given => return { r with given }
  | .error error => throw (.usage error)

/-- Reads a word behind two dashes. -/
def readLong (r : Reading) (name : List Char) (value : Option ByteString) :
    Except Stop Reading :=
  let name := String.ofList name
  match r.level.long? name with
  | none => .error (.usage (.unexpected ("--" ++ Utf8.shown name)))
  | some a =>
    match a.valueName?, value with
    | none, none => r.takeSwitch a
    | none, some value => .error (.usage (.extraValue a (Utf8.shown value)))
    | some _, some value => r.takeAttached a value
    | some _, none => do return { ← r.settle with pending := some (a, none) }

/-- Reads characters behind one dash, each of which is a switch. -/
def readShort (r : Reading) : List Utf8.Piece → Except Stop Reading
  | [] => .ok r
  | .stray bytes :: rest =>
    .error (.usage (.unexpected ("-" ++ Utf8.shownPieces (.stray bytes :: rest))))
  | .char c :: rest =>
    match r.level.short? c with
    | none => .error (.usage (.unexpected ("-" ++ String.singleton c)))
    | some a => do (← r.takeSwitch a).readShort rest

/-- What is said about a word for which there is no place. -/
def noPlace (r : Reading) (word : ByteString) : UsageError :=
  match r.level with
  | .behind _ => .unexpected (Utf8.shown word)
  | .front =>
    if r.trailing && ((Verb.parse? word).isSome || word = helpWord) then
      .unexpected (Utf8.shown word)
    else .unknownCommand (Utf8.shown word)

/-- Reads a value that is known by its position. -/
def readPositional (r : Reading) (word : ByteString) : Except Stop Reading :=
  match r.positionals with
  | [] => .error (.usage (r.noPlace word))
  | a :: rest => do return { ← r.settle with pending := some (a, some word), positionals := rest }

/-- A word behind two dashes as a name and the value behind `=`. -/
def splitValue (chars : List Char) : List Char × Option ByteString :=
  match chars.dropWhile (· != '=') with
  | [] => (chars, none)
  | _ :: value => (chars.takeWhile (· != '='), some (String.ofList value))

/-- Reads a word. -/
def read (r : Reading) (word : ByteString) : Except Stop Reading :=
  if r.trailing then r.readPositional word
  else
    match word.toList with
    | ['-', '-'] => .ok { r with trailing := true }
    | '-' :: '-' :: rest => r.readLong (splitValue rest).1 (splitValue rest).2
    | '-' :: c :: rest => r.readShort (Utf8.decodeFrom none (c :: rest))
    | _ =>
      match r.isWaiting, r.pending with
      | true, some (a, _) => .ok { r with pending := some (a, some word) }
      | _, _ => r.readPositional word

/-- Reads words up to a command, which only stands in front. Gives the words from it on. -/
def readAll (r : Reading) : List ByteString → Except Stop (Reading × List ByteString)
  | [] => .ok (r, [])
  | word :: rest =>
    if r.level = .front && !r.trailing && !r.isWaiting
        && ((Verb.parse? word).isSome || word = helpWord) then
      .ok (r, word :: rest)
    else do (← r.read word).readAll rest

end Reading

/-! ## Closing a level -/

/-- Values from outside the command line, for options that were not given. -/
abbrev Environment := List (String × ByteString)

/-- The variable that stands in for an option. -/
def substitute? : Argument → Option String
  | .config => some "FLEXGEN_CONFIG"
  | .color => some "FLEXGEN_COLOR"
  | _ => none

/-- The value from outside for an option. -/
def fromEnvironment? (environment : Environment) (a : Argument) : Option ByteString :=
  (substitute? a).bind fun name => List.lookup name environment

/-- Sets options that were not given from outside. They do not count as given. -/
def fillIn (environment : Environment) (given : Given) :
    List Argument → Except UsageError Given
  | [] => .ok given
  | a :: rest =>
    match fromEnvironment? environment a with
    | some value =>
      if given.has a then fillIn environment given rest
      else do fillIn environment (← given.set a value) rest
    | none => fillIn environment given rest

/-- The arguments that an argument must not stand beside. -/
def conflicts : Argument → List Argument
  | .verbose => [.quiet]
  | .quiet => [.verbose]
  | _ => []

/-- The first conflict in the order of the arguments. -/
def conflict? (given : Given) : Option UsageError :=
  given.arguments.findSome? fun a =>
    ((conflicts a).find? given.has).map fun b => UsageError.conflict a b

/-- The arguments that an argument asks for. -/
def requirements : Argument → List Argument
  | .lang => [.out]
  | .out => [.lang]
  | .package => [.lang]
  | _ => []

/-- The arguments that a level asks for. -/
def Level.required : Level → List Argument
  | behind .completions => [.shell]
  | _ => []

/-- The arguments that are asked for and were not given. -/
def missing (level : Level) (given : Given) : List Argument :=
  (level.required ++ given.arguments.flatMap requirements).eraseDups.filter (!given.has ·)

/-- Closes a level behind a command. -/
def close (environment : Environment) (r : Reading) : Except Stop Given := do
  let r ← r.settle
  let checked : Except UsageError Given := do
    let given ← fillIn environment r.given r.level.options
    if let some error := conflict? given then throw error
    match missing r.level given with
    | [] => return given
    | arguments => throw (.missing arguments)
  checked.mapError .usage

/-! ## Whole command lines -/

/-- What a command is asked for. -/
inductive Request where
  | generate (config table : Option Path) (output : Option (Language × Path))
      (package : Option String) (check : Bool)
  | table (name : Option String) (config table : Option Path) (json : Bool)
  | platforms (config : Option Path) (json : Bool)
  | completions (shell : Shell)
deriving Repr

/-- A command line that can be run. -/
structure Invocation where
  verbose : Bool
  quiet : Bool
  color : ColorChoice
  json : Bool
  request : Request
deriving Repr

/-- Reads the words behind the word for help, which are commands. -/
def readHelp : List ByteString → Stop
  | [] => .help
  | word :: rest =>
    if (Verb.parse? word).isSome || word = helpWord then
      match rest with
      | [] => .help
      | next :: _ => .usage (.unknownCommand (Utf8.shown next))
    else .usage (.unknownCommand (Utf8.shown word))

/-- What a command was asked for. -/
def requestOf (verb : Verb) (given : Given) : Request :=
  match verb with
  | .generate =>
    let output := do return (← given.language, ← given.out)
    .generate given.config given.table output given.package (given.has .check)
  | .table => .table given.name given.config given.table (given.has .json)
  | .platforms => .platforms given.config (given.has .json)
  | .completions => .completions (given.shell.getD .bash)

/-- The color choice: what was given behind the command, in front of it, or from outside. -/
def colorOf (front behind : Given) : ColorChoice :=
  let explicit (given : Given) : Option ColorChoice :=
    if given.has .color then given.color else none
  ((explicit behind <|> explicit front) <|> (behind.color <|> front.color)).getD .auto

/-- The line of options in front and a command with its arguments. -/
def invocation (front : Given) (verb : Verb) (behind : Given) : Invocation :=
  { verbose := front.has .verbose || behind.has .verbose
    quiet := front.has .quiet || behind.has .quiet
    color := colorOf front behind
    json := (behind.json <|> front.json).getD false
    request := requestOf verb behind }

/-- Reads a command line. What follows the command is judged before what stands in front. -/
def parse (environment : Environment) (words : List ByteString) : Except Stop Invocation := do
  let (front, rest) ← (Reading.begin .front).readAll words
  match rest with
  | [] =>
    let front ← front.settle
    let given ← (fillIn environment front.given Level.front.options).mapError .usage
    let nothing := given.arguments.isEmpty && given.color.isNone
    throw (.usage (if nothing then .nothing else .noCommand))
  | word :: rest =>
    match Verb.parse? word with
    | none => throw (readHelp rest)
    | some verb =>
      let (behind, _) ← (Reading.begin (.behind verb)).readAll rest
      let behind ← close environment behind
      let front ← close environment front
      return invocation front verb behind

end EnumBindings.Command
