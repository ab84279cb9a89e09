import EnumBindings.Json
import EnumBindings.Text.Casing
import EnumBindings.Text.Lines
import EnumBindings.Text.Painted

/-!
# What a run says

People read status lines on standard error, a verb in a column of twelve characters and a
message behind it. Tools read events on standard output, one JSON value on a line; then there are
no status lines.
-/

namespace EnumBindings

open EnumBindings.Text

/-- When status lines are colored. -/
inductive ColorChoice where
  /-- If standard error is a terminal. -/
  | auto
  | always
  | never
deriving Repr, DecidableEq, Inhabited

/-- A choice by its word, in any case. -/
def ColorChoice.parse? (text : String) : Option ColorChoice :=
  let word := lowercase text
  if word = "auto" then some auto
  else if word = "always" then some always
  else if word = "never" then some never
  else none

/-- What is said about a word that is no choice. -/
def ColorChoice.unknownMessage (text : String) : String :=
  "invalid color choice '" ++ text ++ "'; expected 'auto', 'always', or 'never'"

/-- The verb of a status line. -/
inductive Status where
  | checking
  | generated
  | fresh
  | stale
  | finished
  | error
deriving Repr, DecidableEq, Inhabited

namespace Status

/-- A verb as text. -/
def label : Status → String
  | checking => "Checking"
  | generated => "Generated"
  | fresh => "Fresh"
  | stale => "Stale"
  | finished => "Finished"
  | error => "error"

/-- The code of the color of a verb. -/
def color : Status → String
  | checking => "1;36"
  | generated | fresh | finished => "1;32"
  | stale => "1;33"
  | error => "1;31"

end Status

/-- How a run talks. -/
structure Console where
  /-- Events are written instead of status lines. -/
  json : Bool
  /-- Only errors are reported. -/
  quiet : Bool
  color : Bool
deriving Repr, DecidableEq, Inhabited

namespace Console

/-- The console of some choices. Events win over quiet; `terminal` says what standard error is. -/
def ofChoices (quiet : Bool) (color : ColorChoice) (json terminal : Bool) : Console :=
  { json
    quiet := quiet && !json
    color := !json && (match color with
      | .auto => terminal
      | .always => true
      | .never => false) }

/-- The column of verbs. -/
def verbWidth : Nat := 12

/-- A verb in its column. -/
def verb (console : Console) (status : Status) : String :=
  let column := alignRight verbWidth status.label
  if console.color then painted status.color column else column

/-- What a status line puts on standard error. Quiet keeps errors only. -/
def statusText (console : Console) (status : Status) (message : String) : String :=
  if console.json || (console.quiet && status != .error) then ""
  else console.verb status ++ " " ++ message ++ "\n"

/-- What an event puts on standard output. -/
def eventText (console : Console) (event : Json) : String :=
  if console.json then event.sorted.compact ++ "\n" else ""

/-- The event of an error. -/
def errorEvent (message : String) : Json :=
  .object [("reason", .string "error"), ("message", .string message)]

/-- What an error puts on standard output. -/
def errorEventText (console : Console) (message : String) : String :=
  console.eventText (errorEvent message)

/-- What an error puts on standard error. -/
def errorStatusText (console : Console) (message : String) : String :=
  console.statusText .error message

end Console

end EnumBindings
