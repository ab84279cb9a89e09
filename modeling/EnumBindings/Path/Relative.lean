import EnumBindings.Path

/-!
# Relative paths

How to reach one path from another by text alone.
-/

namespace EnumBindings.Path

/-- The components that lead from `base` to `target`. Steps in common are skipped at the start
only; once a step was taken, equal components are no longer skipped. There is no way out of `..`. -/
def difference? : (steps base target : List Component) → Option (List Component)
  | steps, [], target => some (steps ++ target)
  | steps, base, [] => some (steps ++ base.map fun _ => .up)
  | steps, b :: base, t :: target =>
    if steps.isEmpty && t == b then difference? steps base target
    else if b == .here then difference? (steps ++ [t]) base target
    else if b == .up then none
    else some (steps ++ .up :: base.map (fun _ => .up) ++ t :: target)

/-- The path that leads from `base` to a path; the path itself if there is none. -/
def relativeTo (p base : Path) : Path :=
  if p.isAbsolute != base.isAbsolute then p
  else
    match difference? [] base.components p.components with
    | some steps => ofComponents steps
    | none => p

end EnumBindings.Path
