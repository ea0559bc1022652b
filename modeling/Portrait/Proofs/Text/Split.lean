import Mathlib.Data.String.Basic

/-!
# Splitting texts at a character

`String.splitOn` walks over positions in bytes and remembers how much of the separator it has seen.
Where the separator is a single character, it does to the characters what `List.splitOnP` does.

Main statement: `splitOn_singleton`.
-/

set_option autoImplicit false

namespace Portrait.Text

open String

theorem unoffsetBy_next {s : String} {c : Char} {i : Pos.Raw} (h : i.get s = c) :
    (i.next s).unoffsetBy ⟨c.utf8Size⟩ = i := by
  rw [Pos.Raw.ext_iff, Pos.Raw.next, h]
  simp

/-- A separator of one character is never half seen. -/
theorem splitOnAux_singleton (s : String) (c : Char) (start place : Pos.Raw)
    (parts : List String) :
    splitOnAux s (String.singleton c) start place 0 parts =
      splitAux s (· == c) start place parts := by
  have hget : Pos.Raw.get (String.singleton c) 0 = c := by simpa using get_of_valid [] [c]
  have hnext : Pos.Raw.next (String.singleton c) 0 = ⟨c.utf8Size⟩ := by
    simpa using next_of_valid [] c []
  have hend : Pos.Raw.atEnd (String.singleton c) ⟨c.utf8Size⟩ = true := by
    simpa using (atEnd_of_valid [c] []).2 rfl
  fun_induction splitAux s (· == c) start place parts with
  | case1 start place parts hs =>
    rw [splitOnAux, if_pos hs]
  | case2 start place parts hs _ hc next ih =>
    have hplace : (place.next s).unoffsetBy ⟨c.utf8Size⟩ = place := unoffsetBy_next (by simpa using hc)
    rw [splitOnAux, if_neg hs, hget, if_pos hc]
    simp only [hnext, hend, if_true, hplace]
    exact ih
  | case3 start place parts hs _ hc ih =>
    rw [splitOnAux, if_neg hs, hget, if_neg hc]
    exact ih

theorem splitOn_singleton (s : String) (c : Char) :
    s.splitOn (String.singleton c) = (s.toList.splitOnP (· == c)).map ofList := by
  rw [← splitToList_of_valid, splitOn, splitToList, if_neg (by simp)]
  exact splitOnAux_singleton s c 0 0 []

end Portrait.Text
