import Mathlib.Algebra.Group.Nat.Defs
import Portrait.Text.Integer

/-!
# Whole numbers and their texts

A whole number is written as decimal digits, none of which is a zero in front, after a minus sign if
it is negative.

* `decimal` — the digits of a number without sign.
* `ofString_toString` — the text of a number in these terms.

Main statement: the text is read as the number that it was written for, unless it has too many digits
(`parse?_toString`).
-/

set_option autoImplicit false

namespace Portrait.Text

/-- The decimal digits of a number. -/
def decimal (n : Nat) : CodePoints := (Nat.toDigits 10 n).map Char.toNat

variable {n : Nat} {c : Nat}

theorem ofString_toString (n : Int) :
    CodePoints.ofString (toString n) = (if n < 0 then [0x2D] else []) ++ decimal n.natAbs := by
  cases n with
  | ofNat m =>
    show CodePoints.ofString (Nat.repr m) = _
    rw [if_neg (by simp), CodePoints.ofString, Nat.toList_repr]
    rfl
  | negSucc m =>
    show CodePoints.ofString ("-" ++ Nat.repr (m + 1)) = _
    rw [if_pos (Int.negSucc_lt_zero m), CodePoints.ofString, String.toList_append, Nat.toList_repr,
      List.map_append]
    rfl

theorem decimal_ne_nil : decimal n ≠ [] := by simp [decimal]

theorem digit_of_mem_decimal (h : c ∈ decimal n) : 0x30 ≤ c ∧ c ≤ 0x39 := by
  obtain ⟨d, hd, rfl⟩ := List.mem_map.1 h
  have hdigit : d.isDigit = true := Nat.isDigit_of_mem_toDigits (by decide) (by decide) hd
  simp only [Char.isDigit, Bool.and_eq_true, decide_eq_true_eq] at hdigit
  exact hdigit

/-- The digits of a number spell it. -/
theorem ofDigits_decimal : Integer.ofDigits ((decimal n).map (· - 0x30)) = n := by
  have hfold : Integer.ofDigits ((decimal n).map (· - 0x30)) =
      Nat.ofDigitChars 10 (Nat.toDigits 10 n) 0 := by
    rw [decimal, List.map_map, Integer.ofDigits, List.foldl_map, Nat.ofDigitChars_eq_foldl]
    simp only [Function.comp_apply, Nat.mul_comm]
    rfl
  rw [hfold, Nat.ofDigitChars_ten_toDigits]

/-- No number but zero is written with a zero in front. -/
theorem head?_decimal (h : 0 < n) : (decimal n).head? ≠ some 0x30 := by
  induction n using Nat.base_induction 10 (by decide) with
  | single m hm =>
    rw [decimal, Nat.toDigits_of_lt_base hm]
    revert h
    decide +revert
  | digit m k hk hm ih =>
    have hsplit : decimal (10 * m + k) = decimal m ++ decimal k := by
      simp only [decimal, ← List.map_append, Nat.toDigits_append_toDigits (by decide) hm hk]
    obtain ⟨d, ds, hds⟩ := List.exists_cons_of_ne_nil (decimal_ne_nil (n := m))
    rw [hsplit, hds, List.cons_append, List.head?_cons]
    rw [hds, List.head?_cons] at ih
    exact ih hm

theorem length_decimal_le_iff {k : Nat} (hk : 0 < k) : (decimal n).length ≤ k ↔ n < 10 ^ k := by
  rw [decimal, List.length_map]
  exact Nat.length_toDigits_le_iff (by decide) hk

theorem trim_eq_self {α : Type} {p : α → Bool} {l : List α} (h : ∀ a ∈ l, p a = false) :
    trim p l = l := by
  have hdrop : ∀ l : List α, (∀ a ∈ l, p a = false) → l.dropWhile p = l := by
    intro l h
    cases l with
    | nil => rfl
    | cons a l => rw [List.dropWhile_cons, h a (List.mem_cons_self ..)]; rfl
  rw [trim, hdrop l h, hdrop l.reverse fun a ha => h a (List.mem_reverse.1 ha), List.reverse_reverse]

namespace Integer

theorem digit?_of_ascii (h : 0x30 ≤ c ∧ c ≤ 0x39) : digit? c = some (c - 0x30) := by
  rw [digit?, digitZeros, List.findSome?_cons, if_pos (by omega)]

theorem digits?_of_ascii {cs : CodePoints} (h : ∀ c ∈ cs, 0x30 ≤ c ∧ c ≤ 0x39) (done : List Nat) :
    digits? done cs = some (done.reverse ++ cs.map (· - 0x30)) := by
  induction cs generalizing done with
  | nil => simp [digits?]
  | cons c cs ih =>
    rw [digits?.eq_def]
    simp only [digit?_of_ascii (h c (List.mem_cons_self ..))]
    rw [ih fun a ha => h a (List.mem_cons_of_mem _ ha)]
    simp

theorem magnitude?_decimal (h : n < 10 ^ maxDigits) : magnitude? (decimal n) = some n := by
  have hlength : (decimal n).length ≤ maxDigits := (length_decimal_le_iff (by decide)).2 h
  have hshort : ¬ ((decimal n).map (· - 0x30) = [] ∨
      maxDigits < ((decimal n).map (· - 0x30)).length) := by
    rw [List.map_eq_nil_iff, List.length_map]
    rintro (hnil | hlong)
    · exact decimal_ne_nil hnil
    · omega
  have hdigits : digits? [] (decimal n) = some ((decimal n).map (· - 0x30)) :=
    digits?_of_ascii (fun _ => digit_of_mem_decimal) []
  rw [magnitude?, hdigits]
  simp only
  rw [if_neg hshort, ofDigits_decimal]

theorem isMargin_of_ascii (h : 0x2D ≤ c ∧ c ≤ 0x39) : isMargin c = false := by
  have hall : ∀ c < 0x3A, 0x2D ≤ c → isMargin c = false := by decide
  exact hall c (by omega) h.1

/-- The text of a number is read as that number. -/
theorem parse?_toString {n : Int} (h : n.natAbs < 10 ^ maxDigits) :
    parse? (CodePoints.ofString (toString n)) = some n := by
  have hmargin : ∀ c ∈ (if n < 0 then [0x2D] else []) ++ decimal n.natAbs, isMargin c = false := by
    intro c hc
    apply isMargin_of_ascii
    rcases List.mem_append.1 hc with hsign | hdigit
    · split at hsign
      · rw [List.mem_singleton] at hsign
        omega
      · cases hsign
    · have := digit_of_mem_decimal hdigit
      omega
  rw [ofString_toString, parse?, trim_eq_self hmargin]
  by_cases hn : n < 0
  · rw [if_pos hn]
    simp only [List.cons_append, List.nil_append]
    rw [magnitude?_decimal h]
    show some (-(n.natAbs : Int)) = some n
    congr 1
    omega
  · rw [if_neg hn, List.nil_append]
    obtain ⟨d, ds, hds⟩ := List.exists_cons_of_ne_nil (decimal_ne_nil (n := n.natAbs))
    have hd : 0x30 ≤ d ∧ d ≤ 0x39 := digit_of_mem_decimal (by rw [hds]; exact List.mem_cons_self ..)
    split
    · rename_i hplus
      rw [hds] at hplus
      cases hplus
      omega
    · rename_i hminus
      rw [hds] at hminus
      cases hminus
      omega
    · rw [magnitude?_decimal h, Option.map_some]
      congr 1
      exact Int.natAbs_of_nonneg (by omega)

end Integer

end Portrait.Text
