import EnumBindings.Text.Painted
import EnumBindings.Text.Quoted

/-!
# Terminals

Where a run writes, and the log of what it does, which is only written when it is asked for.
-/

namespace EnumBindings

/-- How much a line of the log matters. -/
inductive LogLevel where
  | debug
  | info
deriving Repr, DecidableEq

/-- How the log is written. -/
inductive LogStyle where
  | off
  | plain
  | colored
deriving Repr, DecidableEq, Inhabited

/-- A level as it stands at the start of a line. -/
def LogLevel.label : LogLevel → String
  | debug => "DEBUG"
  | info => " INFO"

/-- The code of the color of a level. -/
def LogLevel.color : LogLevel → String
  | debug => "34"
  | info => "32"

/-- A character of a message. What could steer a terminal is shown by number. -/
def logged (c : Char) : List Char :=
  if ['\x07', '\x08', '\x0c', '\x1b', '\x7f'].contains c then
    ['\\', 'x', Nat.digitChar (c.toNat / 16), Nat.digitChar (c.toNat % 16)]
  else if 0x80 ≤ c.toNat && c.toNat ≤ 0x9F then Text.byNumber c
  else [c]

/-- A message as it stands in a line. -/
def loggedText (message : String) : String := String.ofList (message.toList.flatMap logged)

/-- A line of the log. -/
def LogStyle.line (style : LogStyle) (level : LogLevel) (message : String) : String :=
  match style with
  | off => ""
  | plain => level.label ++ " " ++ loggedText message ++ "\n"
  | colored => Text.painted level.color level.label ++ " " ++ loggedText message ++ "\n"

/-- A log. -/
class Journal (m : Type → Type) where
  log : LogLevel → String → m Unit

/-- A log with the two outputs of a program and a clock. -/
class Terminal (m : Type → Type) extends Journal m where
  /-- From here on the log is written in a style. -/
  startLog : LogStyle → m Unit
  /-- Writes on standard output. -/
  print : String → m Unit
  /-- Writes on standard error. -/
  printError : String → m Unit
  /-- Whether standard error is read by a person. -/
  isInteractive : m Bool
  /-- Nanoseconds since some moment in the past. -/
  now : m Nat

end EnumBindings
