import EnumBindings.Path
import EnumBindings.Text.Lines
import EnumBindings.Text.Painted

/-!
# Diagnostics

An explanation of an error for people: what went wrong, where, why, and what could be done.
-/

namespace EnumBindings

/-- An explanation of an error. -/
structure Diagnostic where
  message : String
  /-- Lines that say why. -/
  context : List String
  /-- Ways to mend it. -/
  suggestions : List String
  /-- The file at fault. -/
  location : Option Path
deriving Repr, DecidableEq, Inhabited

namespace Diagnostic

/-- An explanation that is only a message. -/
def ofMessage (message : String) : Diagnostic := ⟨message, [], [], none⟩

/-- An error by its message, the texts of the causes below it, and general advice. -/
def ofCauses (message : String) (causes : List String) (help : Option String) : Diagnostic :=
  ⟨message, causes, help.toList, none⟩

/-- A text in the colors of a terminal, if these are wanted. -/
def painted (color : Bool) (code text : String) : String :=
  if color then Text.painted code text else text

/-- The numbered lines of the suggestions, from a number on. -/
def suggestionLines : Nat → List String → List String
  | _, [] => []
  | n, s :: rest => ("  " ++ toString n ++ ". " ++ s) :: suggestionLines (n + 1) rest

/-- The lines of a diagnostic. -/
def lines (d : Diagnostic) (color : Bool) : List String :=
  [painted color "1;31" "error" ++ ": " ++ d.message]
    ++ d.location.toList.map (fun p => "  --> " ++ p.shown)
    ++ d.context.map ("  -> " ++ ·)
    ++ (if d.suggestions.isEmpty then []
        else ["", painted color "1;32" "help" ++ ": consider:"] ++ suggestionLines 1 d.suggestions)

/-- A diagnostic as text, every line ended. -/
def text (d : Diagnostic) (color : Bool) : String :=
  Text.unlines (d.lines color)

end Diagnostic

end EnumBindings
