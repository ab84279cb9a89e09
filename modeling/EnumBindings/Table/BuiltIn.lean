import EnumBindings.Table.Definition

/-!
# The built-in table

The enum types of the layout library, in the order of their names. Where no other table is given,
bindings are made from these.
-/

namespace EnumBindings.BuiltIn

/-- An enum type numbered by position. -/
def sequential (name : String) (members : List String) : Definition :=
  ⟨name, members.map .named, false, false⟩

/-- The definitions of the table. -/
def definitions : List Definition :=
  [sequential "Align"
      ["Auto", "FlexStart", "Center", "FlexEnd", "Stretch", "Baseline", "SpaceBetween",
       "SpaceAround", "SpaceEvenly"],
   sequential "BoxSizing"
      ["BorderBox", "ContentBox"],
   sequential "Dimension"
      ["Width", "Height"],
   sequential "Direction"
      ["Inherit", "LTR", "RTL"],
   sequential "Display"
      ["Flex", "None", "Contents"],
   sequential "Edge"
      ["Left", "Top", "Right", "Bottom", "Start", "End", "Horizontal", "Vertical", "All"],
   { name := "Errata"
     members :=
      [.explicit "None" 0,
       .explicit "StretchFlexBasis" 1,
       .explicit "AbsolutePositionWithoutInsetsExcludesPadding" 2,
       .explicit "AbsolutePercentAgainstInnerSize" 4,
       .explicit "All" 0x7FFFFFFF,
       .explicit "Classic" 0x7FFFFFFE]
     bitset := true
     preserve := false },
   sequential "ExperimentalFeature"
      ["WebFlexBasis"],
   sequential "FlexDirection"
      ["Column", "ColumnReverse", "Row", "RowReverse"],
   sequential "Gutter"
      ["Column", "Row", "All"],
   sequential "Justify"
      ["FlexStart", "Center", "FlexEnd", "SpaceBetween", "SpaceAround", "SpaceEvenly"],
   { sequential "LogLevel"
      ["Error", "Warn", "Info", "Debug", "Verbose", "Fatal"] with preserve := true },
   sequential "MeasureMode"
      ["Undefined", "Exactly", "AtMost"],
   sequential "NodeType"
      ["Default", "Text"],
   sequential "Overflow"
      ["Visible", "Hidden", "Scroll"],
   sequential "PositionType"
      ["Static", "Relative", "Absolute"],
   sequential "Unit"
      ["Undefined", "Point", "Percent", "Auto", "MaxContent", "FitContent", "Stretch"],
   sequential "Wrap"
      ["NoWrap", "Wrap", "WrapReverse"]]

end EnumBindings.BuiltIn

namespace EnumBindings

/-- The built-in table. -/
def EnumTable.builtIn : EnumTable := ⟨BuiltIn.definitions⟩

/-- What the built-in table is called where its origin is named. -/
def EnumTable.builtInOrigin : String := "<canonical>"

end EnumBindings
