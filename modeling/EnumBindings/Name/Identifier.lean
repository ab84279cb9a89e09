/-!
# Identifiers

Type and member names are pasted into source text of several languages, so only names are
accepted that every one of them accepts: an ASCII letter, then ASCII letters, digits and
underscores.
-/

namespace EnumBindings.Name

/-- Characters of an identifier behind the first. -/
def isIdentifierRest (c : Char) : Bool := c.isAlphanum || c == '_'

/-- Whether characters form an identifier. -/
def isIdentifierChars : List Char → Bool
  | [] => false
  | c :: rest => c.isAlpha && rest.all isIdentifierRest

/-- Whether a name can stand in generated source text. -/
def isIdentifier (name : String) : Bool := isIdentifierChars name.toList

end EnumBindings.Name
