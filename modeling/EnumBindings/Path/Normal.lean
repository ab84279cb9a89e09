import EnumBindings.Path

/-!
# Normal paths

Two spellings name one place, as far as text alone can tell, when they have the same normal path:
`.` is dropped, and `..` takes away the name before it.
-/

namespace EnumBindings.Path

/-- A path without its last component. A path that nothing holds stays as it is. -/
def pop (p : Path) : Path := p.parent?.getD p

/-- Goes on from a normal path by one component. `..` takes away the last component if that is a
name, goes nowhere from the root, and is written down where there is nothing to take away. -/
def follow (out : Path) : Component → Path
  | .here => out
  | .up =>
    match out.components.getLast? with
    | some (.name _) => out.pop
    | some .root => out
    | _ => out.join ⟨Component.up.bytes⟩
  | c => out.join ⟨c.bytes⟩

/-- The normal path of a path. -/
def normalize (p : Path) : Path := p.components.foldl follow ⟨""⟩

end EnumBindings.Path
