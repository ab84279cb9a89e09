import EnumBindings.Command.Argument
import EnumBindings.Text.Painted

/-!
# Command lines that are refused
-/

namespace EnumBindings.Command

open EnumBindings.Text

/-- Why a command line is refused. -/
inductive UsageError where
  /-- There is no such argument, or no place for it. -/
  | unexpected (text : String)
  | unknownCommand (word : String)
  /-- Options without a command. -/
  | noCommand
  /-- Nothing at all. -/
  | nothing
  /-- Arguments that others ask for. -/
  | missing (arguments : List Argument)
  | conflict (first second : Argument)
  | repeated (argument : Argument)
  | noValue (argument : Argument)
  | badValue (argument : Argument) (text : String) (reason : Option String)
  /-- A switch with a value. -/
  | extraValue (argument : Argument) (text : String)
  /-- A value that has to be text and is none. -/
  | notText
deriving Repr, DecidableEq

namespace UsageError

/-- What was given and is wrong. -/
def wrong (text : String) : String := "'" ++ painted "33" text ++ "'"

/-- What is written just so. -/
def literal (text : String) : String := "'" ++ painted "1" text ++ "'"

/-- What should be there. -/
def wanted (text : String) : String := painted "32" text

/-- What is said about a refused command line; nothing if a summary of the usage says it all. -/
def message? : UsageError → Option String
  | unexpected text => some ("unexpected argument " ++ wrong text ++ " found")
  | unknownCommand word => some ("unrecognized subcommand " ++ wrong word)
  | noCommand => some (wrong "flexgen" ++ " requires a subcommand but one was not provided")
  | nothing => none
  | missing arguments =>
    some ("the following required arguments were not provided:"
      ++ String.join (arguments.map fun a => "\n  " ++ wanted a.text))
  | conflict first second =>
    some ("the argument " ++ wrong first.text ++ " cannot be used with " ++ wrong second.text)
  | repeated argument =>
    some ("the argument " ++ wrong argument.text ++ " cannot be used multiple times")
  | noValue argument =>
    some ("a value is required for " ++ wrong argument.text ++ " but none was supplied")
  | badValue argument text reason =>
    some ("invalid value " ++ wrong text ++ " for " ++ literal argument.text
      ++ (reason.map (": " ++ ·)).getD "")
  | extraValue argument text =>
    some ("unexpected value " ++ wrong text ++ " for " ++ literal argument.text
      ++ " found; no more were expected")
  | notText => some "invalid UTF-8 was detected in one or more arguments"

end UsageError

/-- The title of the program. -/
def title : String := "flexgen - enum binding generator for the Yoga layout engine"

/-- What `--version` prints. -/
def versionText : String := "flexgen 0.1.0\n"

/-- A summary of the usage. -/
def helpText : String :=
  title ++ "\n\n"
    ++ "Usage: flexgen [OPTIONS] <COMMAND>\n\n"
    ++ "Commands:\n"
    ++ "  generate     Generate enum bindings\n"
    ++ "  table        Show the resolved enum table\n"
    ++ "  platforms    List supported native build targets\n"
    ++ "  completions  Generate shell completions\n"
    ++ "  help         Print this message\n\n"
    ++ "Options:\n"
    ++ "  -v, --verbose                          Enable verbose output\n"
    ++ "  -q, --quiet                            Print errors only\n"
    ++ "      --color <WHEN>                     Coloring: auto, always, never\n"
    ++ "      --message-format <MESSAGE_FORMAT>  Output format: human, json\n"
    ++ "  -h, --help                             Print help\n"
    ++ "  -V, --version                          Print version\n"

/-- What a person reads on a terminal about a refused command line. -/
def UsageError.text (e : UsageError) : String :=
  match e.message? with
  | some message =>
    painted "1;31" "error:" ++ " " ++ message ++ "\n\nFor more information, try "
      ++ UsageError.literal "--help" ++ ".\n"
  | none => helpText

/-- A script that completes the commands in a shell. -/
def completionScript (shell : Shell) : String :=
  let words := " ".intercalate (Verb.all.map Verb.name ++ [helpWord])
  match shell with
  | .bash => "complete -W \"" ++ words ++ "\" flexgen\n"
  | .zsh => "#compdef flexgen\n_arguments \"1:command:(" ++ words ++ ")\"\n"
  | .fish => "complete -c flexgen -f -a \"" ++ words ++ "\"\n"
  | .elvish =>
    "set edit:completion:arg-completer[flexgen] = \x7b|@words| put " ++ words ++ " \x7d\n"
  | .powershell =>
    "Register-ArgumentCompleter -Native -CommandName flexgen -ScriptBlock \x7b\n"
      ++ "  \"" ++ words ++ "\".Split(\" \")\n\x7d\n"

end EnumBindings.Command
