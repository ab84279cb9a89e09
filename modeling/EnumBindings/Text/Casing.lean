import EnumBindings.Text.CaseTable

/-!
# Upper and lower case

Case is the one of the Unicode standard. Inside ASCII it is read off the code point, outside
from the tables, so a statement about ASCII names never meets a table. A single character can
have several characters as its other form (`ß` is `SS`), therefore the mappings give lists.
-/

namespace EnumBindings.Text

/-- The property `Uppercase`. Title-case letters such as `ǅ` do not have it. -/
def isUppercase (c : Char) : Bool :=
  if c.toNat < 0x80 then c.isUpper else uppercaseRuns.any (·.contains c.toNat)

/-- The other form of a character outside ASCII, or the character itself. -/
def caseForm (shifts : List ShiftedRun) (expansions : List (Nat × List Nat)) (c : Char) :
    List Char :=
  match expansions.lookup c.toNat with
  | some codes => codes.map Char.ofNat
  | none =>
    match shifts.find? (·.run.contains c.toNat) with
    | some shift => [Char.ofNat (c.toNat + shift.offset).toNat]
    | none => [c]

/-- Upper-case form of one character. -/
def upper (c : Char) : List Char :=
  if c.toNat < 0x80 then [c.toUpper] else caseForm uppercaseShifts uppercaseExpansions c

/-- Lower-case form of one character, whatever stands around it. -/
def lower (c : Char) : List Char :=
  if c.toNat < 0x80 then [c.toLower] else caseForm lowercaseShifts lowercaseExpansions c

/-! ## Whole strings

A capital sigma at the end of a word becomes `ς`. It ends a word when a cased character stands
before it and none behind it, case-ignorable characters not counted.
-/

/-- The property `Cased`. -/
def isCased (c : Char) : Bool :=
  if c.toNat < 0x80 then c.isAlpha else casedRuns.any (·.contains c.toNat)

/-- The property `Case_Ignorable`: marks that a search for a cased neighbour passes over. -/
def isCaseIgnorable (c : Char) : Bool :=
  if c.toNat < 0x80 then [0x27, 0x2E, 0x3A, 0x5E, 0x60].contains c.toNat
  else caseIgnorableRuns.any (·.contains c.toNat)

/-- The first character that is not case-ignorable exists and is cased. -/
def meetsCased (cs : List Char) : Bool :=
  (cs.dropWhile isCaseIgnorable).head?.any isCased

/-- Lower-case form of characters, given what stands before them in reversed order. -/
def lowercaseAfter (before : List Char) : List Char → List Char
  | [] => []
  | c :: rest =>
    let form :=
      if c = 'Σ' then [if meetsCased before && !meetsCased rest then 'ς' else 'σ'] else lower c
    form ++ lowercaseAfter (c :: before) rest

/-- Lower-case form of a whole string. -/
def lowercase (s : String) : String :=
  String.ofList (lowercaseAfter [] s.toList)

end EnumBindings.Text
