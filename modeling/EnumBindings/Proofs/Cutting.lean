import EnumBindings.Name.Words
import Mathlib.Data.List.SplitBy

/-!
# Cutting a name into words

The pass over a name cuts it between two neighbours exactly where they are not `joined`, so its
words are the groups that `List.splitBy` makes of the name (`words_eq_splitBy`). Behind any front
of the name the pass knows the words that end there and the place where the next one begins; this
is what `finish_foldl` says of every state it goes through.
-/

namespace EnumBindings.Name

open EnumBindings.Text

/-! ## Places -/

@[simp] theorem byteSize_nil : byteSize [] = 0 := rfl

@[simp] theorem byteSize_cons (c : Char) (rest : List Char) :
    byteSize (c :: rest) = c.utf8Size + byteSize rest := rfl

@[simp] theorem byteSize_append (front back : List Char) :
    byteSize (front ++ back) = byteSize front + byteSize back := by
  induction front with
  | nil => rw [List.nil_append, byteSize_nil, Nat.zero_add]
  | cons c rest ih => rw [List.cons_append, byteSize_cons, byteSize_cons, ih, Nat.add_assoc]

theorem byteSize_pos {chars : List Char} (h : chars ≠ []) : 0 < byteSize chars := by
  obtain ⟨c, rest, rfl⟩ := List.exists_cons_of_ne_nil h
  have := c.utf8Size_pos
  rw [byteSize_cons]
  omega

theorem dropBytes_append (front back : List Char) :
    dropBytes (byteSize front) (front ++ back) = back := by
  induction front with
  | nil => cases back <;> rfl
  | cons c rest ih =>
      have hpos := c.utf8Size_pos
      obtain ⟨n, hn⟩ := Nat.exists_eq_add_one.mpr (byteSize_pos (List.cons_ne_nil c rest))
      have hrest : n + 1 - c.utf8Size = byteSize rest := by
        rw [byteSize_cons] at hn
        omega
      rw [hn, List.cons_append, dropBytes, hrest, ih]

theorem takeBytes_append (front back : List Char) :
    takeBytes (byteSize front) (front ++ back) = front := by
  induction front with
  | nil => cases back <;> rfl
  | cons c rest ih =>
      have hpos := c.utf8Size_pos
      obtain ⟨n, hn⟩ := Nat.exists_eq_add_one.mpr (byteSize_pos (List.cons_ne_nil c rest))
      have hrest : n + 1 - c.utf8Size = byteSize rest := by
        rw [byteSize_cons] at hn
        omega
      rw [hn, List.cons_append, takeBytes, hrest, ih]

/-- The characters between two places are those that stand there. -/
theorem slice_append (front middle back : List Char) :
    slice (front ++ (middle ++ back)) (byteSize front) (byteSize (front ++ middle)) = middle := by
  rw [slice, dropBytes_append, byteSize_append, Nat.add_sub_cancel_left, takeBytes_append]

/-! ## The pass -/

/-- Two neighbouring characters stay in one word unless the second is upper-case and the first
is not. -/
def joined (a b : Char) : Bool := isUppercase a || !isUppercase b

/-- What the pass makes of the characters behind a front: the words `done` are cut off, and the word
that it is in holds `word` and ends, so far, with `a`. The induction is on what was not read, and
`splitBy` goes through the same groups. -/
theorem finish_foldl {name rest word : List Char} {done : List (List Char)} {a : Char} {i : Nat}
    (hname : name = done.flatten ++ ((word ++ [a]) ++ rest)) (hi : i ≠ 0) :
    (((withOffsets (byteSize (done.flatten ++ (word ++ [a]))) rest).zipIdx i).foldl (Cut.step name)
        ⟨done, byteSize done.flatten, isUppercase a⟩).finish name =
      List.splitBy.loop joined rest a word.reverse done.reverse := by
  induction rest generalizing done word a i with
  | nil =>
      have hlast : slice name (byteSize done.flatten) (byteSize name) = word ++ [a] := by
        have hslice := slice_append done.flatten (word ++ [a]) []
        rwa [List.append_nil, ← List.append_nil (word ++ [a]), ← hname, List.append_nil] at hslice
      have hleft : byteSize done.flatten < byteSize name := by
        have := byteSize_pos (List.concat_ne_nil a word)
        rw [hname, byteSize_append, List.append_nil]
        omega
      rw [withOffsets, List.zipIdx_nil, List.foldl_nil, Cut.finish, if_pos hleft, hlast]
      simp [List.splitBy.loop]
  | cons c rest ih =>
      have hnext : withOffsets (byteSize (done.flatten ++ (word ++ [a]))) (c :: rest) =
          (byteSize (done.flatten ++ (word ++ [a])), c) ::
            withOffsets (byteSize (done.flatten ++ ((word ++ [a]) ++ [c]))) rest := by
        simp [withOffsets, Nat.add_assoc]
      rw [hnext, List.zipIdx_cons, List.foldl_cons]
      cases hjoined : joined a c with
      | true =>
          have hstep : Cut.step name ⟨done, byteSize done.flatten, isUppercase a⟩
              ((byteSize (done.flatten ++ (word ++ [a])), c), i) =
                ⟨done, byteSize done.flatten, isUppercase c⟩ := by
            rw [joined, Bool.or_eq_true, Bool.not_eq_true'] at hjoined
            rcases hjoined with h | h <;> simp [Cut.step, h]
          rw [hstep, ih (by simpa using hname) (Nat.succ_ne_zero i)]
          simp [List.splitBy.loop, hjoined]
      | false =>
          have hslice : slice name (byteSize done.flatten)
              (byteSize (done.flatten ++ (word ++ [a]))) = word ++ [a] := by
            rw [hname]
            exact slice_append done.flatten (word ++ [a]) (c :: rest)
          have hstep : Cut.step name ⟨done, byteSize done.flatten, isUppercase a⟩
              ((byteSize (done.flatten ++ (word ++ [a])), c), i) =
                ⟨done ++ [word ++ [a]], byteSize (done ++ [word ++ [a]]).flatten,
                  isUppercase c⟩ := by
            rw [joined, Bool.or_eq_false_iff, Bool.not_eq_false'] at hjoined
            simp only [Cut.step, hslice, bne_iff_ne.mpr hi, hjoined]
            simp
          have hnew : name = (done ++ [word ++ [a]]).flatten ++ (([] ++ [c]) ++ rest) := by
            simpa using hname
          have hrest := ih hnew (Nat.succ_ne_zero i)
          rw [hstep]
          simpa [List.splitBy.loop, hjoined] using hrest

/-- The words of a name are its longest groups of joined neighbours. -/
theorem words_eq_splitBy (name : List Char) : words name = name.splitBy joined := by
  cases name with
  | nil => rfl
  | cons a rest =>
      -- the first character never opens a second word
      have hfirst : Cut.step (a :: rest) .blank ((0, a), 0) = ⟨[], 0, isUppercase a⟩ := rfl
      have hname : a :: rest = ([] : List (List Char)).flatten ++ (([] ++ [a]) ++ rest) := rfl
      have hrest := finish_foldl hname Nat.one_ne_zero
      rw [words, withOffsets, List.zipIdx_cons, List.foldl_cons, hfirst, Nat.zero_add]
      simpa [List.splitBy] using hrest

@[simp] theorem flatten_words (name : List Char) : (words name).flatten = name := by
  rw [words_eq_splitBy, List.flatten_splitBy]

theorem words_eq_nil_iff {name : List Char} : words name = [] ↔ name = [] := by
  rw [words_eq_splitBy, List.splitBy_eq_nil]

theorem ne_nil_of_mem_words {name word : List Char} (h : word ∈ words name) : word ≠ [] := by
  rw [words_eq_splitBy] at h
  exact List.ne_nil_of_mem_splitBy h

/-- A word is not cut again. -/
theorem isChain_of_mem_words {name word : List Char} (h : word ∈ words name) :
    word.IsChain fun a b => joined a b = true := by
  rw [words_eq_splitBy] at h
  exact List.isChain_of_mem_splitBy h

end EnumBindings.Name
