/-!
# Painted text

A terminal shows a text in a color when the text stands between two control sequences. The color
is given by its code.
-/

namespace EnumBindings.Text

/-- A text in a color of a terminal. -/
def painted (code text : String) : String := "\x1b[" ++ code ++ "m" ++ text ++ "\x1b[0m"

end EnumBindings.Text
