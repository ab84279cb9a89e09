import EnumBindings.Proofs.Generate.Prepare

/-!
# Distinct outputs

Outputs are told apart by their normal paths. These are canonical: they have one form, making one
normal again changes nothing, and it does not matter whether the parts of a path are made normal
first. So two outputs are refused exactly if their paths lead to one place
(`normal_paths_canonical`).
-/

namespace EnumBindings

open EnumBindings.Generate (checkDistinct)
open EnumBindings.Path (destination)

/-- Outputs are refused exactly if two of them lead to one place. -/
theorem Generate.checkDistinct_fails_iff {here : Path} (absolute : here.isAbsolute = true)
    (outputs : List Output) :
    (∃ failure, checkDistinct here [] outputs = .error failure) ↔
      ∃ (i j : Nat) (a b : Output), i < j ∧ outputs[i]? = some a ∧ outputs[j]? = some b ∧
        destination (destination [] here) a.path = destination (destination [] here) b.path := by
  have hfails : (∃ failure, checkDistinct here [] outputs = .error failure) ↔
      ¬checkDistinct here [] outputs = .ok () := by
    cases checkDistinct here [] outputs <;> simp
  rw [hfails, checkDistinct_iff_destination absolute, List.nodup_iff_getElem?_ne_getElem?]
  constructor
  · intro hrepeated
    push Not at hrepeated
    obtain ⟨i, j, horder, hj, hsame⟩ := hrepeated
    rw [List.length_map] at hj
    have hi : i < outputs.length := horder.trans hj
    refine ⟨i, j, outputs[i], outputs[j], horder, List.getElem?_eq_getElem hi,
      List.getElem?_eq_getElem hj, ?_⟩
    simpa [hi, hj] using hsame
  · rintro ⟨i, j, a, b, horder, ha, hb, hsame⟩ hdistinct
    have hj : j < outputs.length := (List.getElem?_eq_some_iff.mp hb).1
    refine hdistinct i j horder (by rwa [List.length_map]) ?_
    rw [List.getElem?_map, List.getElem?_map, ha, hb, Option.map_some, Option.map_some, hsame]

/-- Normal paths are canonical. They have one form, are absolute where the path is, and are their
own normal paths; they come of a stack of components, and are written in one way only; and the parts
of a path can be made normal first. So under an absolute directory outputs are refused exactly if
two of them lead to one place. -/
theorem normal_paths_canonical :
    (∀ p : Path, Path.NormalForm p.isAbsolute p.normalize.components ∧
      .here ∉ p.normalize.components ∧ p.normalize.isAbsolute = p.isAbsolute ∧
      p.normalize.normalize = p.normalize ∧
      p.normalize.components = Path.normalComponents p.components ∧
      p.normalize = Path.ofComponents (Path.normalComponents p.components)) ∧
    (∀ p q : Path, p.normalize = q.normalize ↔ p.normalize.components = q.normalize.components) ∧
    (∀ base p : Path, (base.join p).normalize = (base.normalize.join p.normalize).normalize) ∧
    ∀ (here : Path) (outputs : List Output), here.isAbsolute = true →
      ((∃ failure, checkDistinct here [] outputs = .error failure) ↔
        ∃ (i j : Nat) (a b : Output), i < j ∧ outputs[i]? = some a ∧ outputs[j]? = some b ∧
          destination (destination [] here) a.path = destination (destination [] here) b.path) := by
  refine ⟨fun p => ?_, Path.normalize_eq_iff_components, Path.normalize_join, ?_⟩
  · obtain ⟨hstack, hread⟩ := p.normalize_eq
    have hform := Path.normalForm_normalComponents p
    rw [← hread] at hform
    exact ⟨hform, hform.here_not_mem, p.isAbsolute_normalize, p.normalize_normalize, hread, hstack⟩
  · intro here outputs absolute
    exact Generate.checkDistinct_fails_iff absolute outputs

/-- Two spellings of one output, under a directory that is itself spelled with `..`. -/
theorem normal_paths_canonical_spelled :
    (Path.mk "/project/src/..").isAbsolute = true ∧
    ∃ failure, checkDistinct ⟨"/project/src/.."⟩ []
      [⟨.rust, ⟨"./gen//enums.rs"⟩, none⟩, ⟨.rust, ⟨"/../project/gen/../gen/enums.rs"⟩, none⟩] =
        .error failure := by
  obtain ⟨-, -, -, hfails⟩ := normal_paths_canonical
  have absolute : (Path.mk "/project/src/..").isAbsolute = true := by decide
  refine ⟨absolute, (hfails _ _ absolute).mpr ⟨0, 1, _, _, by decide, rfl, rfl, ?_⟩⟩
  decide

end EnumBindings
