import EnumBindings.Console
import EnumBindings.Language
import EnumBindings.Path

/-!
# Arguments of the command line

Which arguments there are, how they are written, where they may stand, and what their values can
be. Some options are known to every command and may stand in front of it as well.
-/

namespace EnumBindings.Command

/-- A command. -/
inductive Verb where
  | generate
  | table
  | platforms
  | completions
deriving Repr, DecidableEq

/-- All commands. -/
def Verb.all : List Verb := [.generate, .table, .platforms, .completions]

/-- The word for a command. -/
def Verb.name : Verb → String
  | generate => "generate"
  | table => "table"
  | platforms => "platforms"
  | completions => "completions"

/-- A command by its word. -/
def Verb.parse? (word : String) : Option Verb := all.find? (·.name == word)

/-- The word that asks for help instead of a command. -/
def helpWord : String := "help"

/-- A command shell. -/
inductive Shell where
  | bash
  | elvish
  | fish
  | powershell
  | zsh
deriving Repr, DecidableEq, Inhabited

/-- The word for a shell. -/
def Shell.name : Shell → String
  | bash => "bash"
  | elvish => "elvish"
  | fish => "fish"
  | powershell => "powershell"
  | zsh => "zsh"

/-- A shell by its word. -/
def Shell.parse? (word : String) : Option Shell :=
  [bash, elvish, fish, powershell, zsh].find? (·.name == word)

/-- An argument. -/
inductive Argument where
  | verbose
  | quiet
  | color
  | messageFormat
  | help
  | version
  | config
  | table
  | lang
  | out
  | package
  | check
  | json
  /-- The enum type to show. -/
  | name
  | shell
deriving Repr, DecidableEq

namespace Argument

/-- The long spelling of an option, or the word for a value without one. -/
def long : Argument → String
  | verbose => "verbose"
  | quiet => "quiet"
  | color => "color"
  | messageFormat => "message-format"
  | help => "help"
  | version => "version"
  | config => "config"
  | table => "table"
  | lang => "lang"
  | out => "out"
  | package => "package"
  | check => "check"
  | json => "json"
  | name => "name"
  | shell => "shell"

/-- The short spelling of an option. -/
def short? : Argument → Option Char
  | verbose => some 'v'
  | quiet => some 'q'
  | help => some 'h'
  | version => some 'V'
  | _ => none

/-- What the value of an argument is called; a switch has no value. -/
def valueName? : Argument → Option String
  | color => some "WHEN"
  | messageFormat => some "MESSAGE_FORMAT"
  | config => some "CONFIG"
  | table => some "TABLE"
  | lang => some "LANG"
  | out => some "OUT"
  | package => some "PACKAGE"
  | name => some "NAME"
  | shell => some "SHELL"
  | _ => none

/-- Whether an argument is known by its position. -/
def isPositional : Argument → Bool
  | name | shell => true
  | _ => false

/-- An argument as messages show it. -/
def text (a : Argument) : String :=
  match a.valueName? with
  | none => "--" ++ a.long
  | some value =>
    if a.isPositional then "<" ++ value ++ ">" else "--" ++ a.long ++ " <" ++ value ++ ">"

/-- Options known to every command. -/
def shared : List Argument := [verbose, quiet, color, messageFormat, help]

end Argument

/-- Where arguments stand: in front of the command or behind it. -/
inductive Level where
  | front
  | behind (verb : Verb)
deriving Repr, DecidableEq

/-- The options known at a level. -/
def Level.options : Level → List Argument
  | front => Argument.shared ++ [.version]
  | behind .generate => [.config, .table, .lang, .out, .package, .check] ++ Argument.shared
  | behind .table => [.config, .table, .json] ++ Argument.shared
  | behind .platforms => [.config, .json] ++ Argument.shared
  | behind .completions => Argument.shared

/-- The values known by position at a level, in order. -/
def Level.positionals : Level → List Argument
  | behind .table => [.name]
  | behind .completions => [.shell]
  | _ => []

/-- The option of a long spelling. -/
def Level.long? (level : Level) (name : String) : Option Argument :=
  level.options.find? (·.long == name)

/-- The option of a short spelling. -/
def Level.short? (level : Level) (c : Char) : Option Argument :=
  level.options.find? (·.short? == some c)

end EnumBindings.Command
