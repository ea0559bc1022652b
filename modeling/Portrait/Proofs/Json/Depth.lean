import Mathlib.Data.List.Infix
import Portrait.Proofs.Json.RoundTrip

/-!
# How deeply values may be nested

Reading gives up on values that are nested too deeply. Then there must have been a bracket for each
level, so that it never gives up on a text with few brackets.

* `openings` — the number of brackets in a text that open an array or an object.
* `MovesOn` — what is left after reading is the end of what there was.
* `GivesUpAfter` — reading gives up on texts with many brackets only.

Main statements: `openings_of_tooDeep`, and `ofBytes_brackets` for a text of nothing but brackets.
-/

set_option autoImplicit false

namespace Portrait

/-! ## Outcomes -/

theorem map_eq_ok {ε α β : Type} {x : Except ε α} {f : α → β} {b : β} (h : x.map f = .ok b) :
    ∃ a, x = .ok a ∧ f a = b := by
  cases x with
  | error e => cases h
  | ok a => exact ⟨a, rfl, Except.ok.inj h⟩

theorem map_eq_error {ε α β : Type} {x : Except ε α} {f : α → β} {e : ε}
    (h : x.map f = .error e) : x = .error e := by
  cases x with
  | error e' => exact congrArg Except.error (Except.error.inj h)
  | ok a => cases h

namespace Json

/-! ## Readers -/

variable {α : Type}

/-- Does the code point open an array or an object? -/
def isOpening (c : Nat) : Bool := c = 0x5B || c = 0x7B

/-- The number of brackets that open an array or an object. -/
def openings (cs : CodePoints) : Nat := cs.countP isOpening

/-- What is left after reading is the end of what there was. -/
def MovesOn (read : Cursor → Except Fault (α × Cursor)) : Prop :=
  ∀ {c a c'}, read c = .ok (a, c') → c'.rest <:+ c.rest

/-- Reading gives up only on texts with more than `n` opening brackets. -/
def GivesUpAfter (n : Nat) (read : Cursor → Except Fault (α × Cursor)) : Prop :=
  ∀ {c}, read c = .error .tooDeep → n < openings c.rest

theorem openings_le {cs cs' : CodePoints} (h : cs' <:+ cs) : openings cs' ≤ openings cs :=
  h.sublist.countP_le

theorem openings_cons {c : Nat} (h : isOpening c = true) (cs : CodePoints) :
    openings (c :: cs) = openings cs + 1 := List.countP_cons_of_pos h

theorem rest_advance (c : Cursor) (n : Nat) : (c.advance n).rest <:+ c.rest :=
  List.drop_suffix n c.rest

theorem rest_skipSpaces (c : Cursor) : (skipSpaces c).rest <:+ c.rest := rest_advance c _

/-! ## Atoms -/

section Atoms

variable {start place : Nat} {done cs s : CodePoints} {high : Bool} {c c' : Cursor} {j : Json}

theorem suffix_of_readText (h : readText start place done high cs = .ok (s, c')) :
    c'.rest <:+ cs := by
  fun_induction readText start place done high cs
  case case2 =>
    cases h
    exact List.suffix_cons ..
  case case4 ih | case5 ih => exact (ih h).trans (List.suffix_append [_, _, _, _, _, _] _)
  case case8 ih => exact (ih h).trans (List.suffix_append [_, _] _)
  case case11 ih => exact (ih h).trans (List.suffix_cons ..)
  all_goals cases h

theorem readText_ne_tooDeep : readText start place done high cs ≠ .error .tooDeep := by
  fun_induction readText start place done high cs
  case case4 ih | case5 ih | case8 ih | case11 ih => exact ih
  all_goals simp

/-- A number is read from the front of a text, or there is none, or it is too long. -/
theorem readNumber_cases (c : Cursor) : readNumber c = .error (.badSyntax c.place) ∨
    readNumber c = .error .longNumber ∨ ∃ j n, readNumber c = .ok (j, c.advance n) := by
  generalize hread : readNumber c = result
  rw [readNumber] at hread
  dsimp only at hread
  generalize (if c.rest.head? = some 0x2D then c.rest.drop 1 else c.rest) = signed at hread
  generalize signed.drop (wholeDigits signed).length = after at hread
  generalize (if fractionDigits after = [] then 0 else (fractionDigits after).length + 1) = length
    at hread
  by_cases hwhole : wholeDigits signed = []
  · rw [if_pos hwhole] at hread
    exact .inl hread.symm
  rw [if_neg hwhole] at hread
  by_cases hplain : length = 0 ∧ (exponent (after.drop length)).1 = 0
  · rw [if_pos hplain] at hread
    by_cases hlong : Text.Integer.maxDigits < (wholeDigits signed).length
    · rw [if_pos hlong] at hread
      exact .inr (.inl hread.symm)
    · rw [if_neg hlong] at hread
      exact .inr (.inr ⟨_, _, hread.symm⟩)
  · rw [if_neg hplain] at hread
    exact .inr (.inr ⟨_, _, hread.symm⟩)

theorem movesOn_readNumber : MovesOn readNumber := by
  intro c a c' h
  rcases readNumber_cases c with heq | heq | ⟨j, n, heq⟩
  all_goals
    rw [heq] at h
    cases h
  exact rest_advance c n

theorem readNumber_ne_tooDeep : readNumber c ≠ .error .tooDeep := by
  rcases readNumber_cases c with heq | heq | ⟨j, n, heq⟩
  all_goals simp [heq]

theorem movesOn_readAtom : MovesOn readAtom := by
  intro c a c' h
  rw [readAtom] at h
  split at h
  · cases h
    exact rest_advance c _
  · exact movesOn_readNumber h

theorem readAtom_ne_tooDeep : readAtom c ≠ .error .tooDeep := by
  rw [readAtom]
  split
  · simp
  · exact readNumber_ne_tooDeep

end Atoms

/-! ## Sequences -/

section Sequences

variable {close fuel n : Nat} {item : Cursor → Except Fault (α × Cursor)} {done : List α}
  {value : Cursor → Except Fault (Json × Cursor)}

/-- The next item of a sequence begins after a comma. -/
theorem rest_next (c : Cursor) :
    (skipSpaces ((skipSpaces c).advance 1)).rest <:+ c.rest :=
  (rest_skipSpaces _).trans ((rest_advance _ 1).trans (rest_skipSpaces c))

theorem movesOn_readMore (hitem : MovesOn item) : MovesOn (readMore close item done · fuel) := by
  intro c a c' h
  induction fuel generalizing done c with
  | zero => cases h
  | succ fuel ih =>
    simp only [readMore] at h
    split at h
    · cases h
    split at h
    · cases h
      exact (rest_advance _ 1).trans (rest_skipSpaces c)
    split at h
    · cases h
    split at h
    · cases h
    · rename_i hnext
      exact (ih h).trans ((hitem hnext).trans (rest_next c))

theorem givesUpAfter_readMore (hitem : MovesOn item) (hdeep : GivesUpAfter n item) :
    GivesUpAfter n (readMore close item done · fuel) := by
  intro c h
  induction fuel generalizing done c with
  | zero => cases h
  | succ fuel ih =>
    simp only [readMore] at h
    split at h
    · cases h
    split at h
    · cases h
    split at h
    · cases h
    split at h
    · rename_i hnext
      cases h
      exact Nat.lt_of_lt_of_le (hdeep hnext) (openings_le (rest_next c))
    · rename_i hnext
      exact Nat.lt_of_lt_of_le (ih h) (openings_le ((hitem hnext).trans (rest_next c)))

theorem movesOn_readSequence (hitem : MovesOn item) : MovesOn (readSequence close item) := by
  intro c a c' h
  simp only [readSequence] at h
  split at h
  · cases h
    exact (rest_advance _ 1).trans (rest_skipSpaces c)
  split at h
  · cases h
  · rename_i hfirst
    exact (movesOn_readMore hitem h).trans ((hitem hfirst).trans (rest_skipSpaces c))

theorem givesUpAfter_readSequence (hitem : MovesOn item) (hdeep : GivesUpAfter n item) :
    GivesUpAfter n (readSequence close item) := by
  intro c h
  simp only [readSequence] at h
  split at h
  · cases h
  split at h
  · rename_i hfirst
    cases h
    exact Nat.lt_of_lt_of_le (hdeep hfirst) (openings_le (rest_skipSpaces c))
  · rename_i hfirst
    exact Nat.lt_of_lt_of_le (givesUpAfter_readMore hitem hdeep h)
      (openings_le ((hitem hfirst).trans (rest_skipSpaces c)))

theorem movesOn_readMember (hvalue : MovesOn value) : MovesOn (readMember value) := by
  intro c a c' h
  simp only [readMember] at h
  split at h
  · rename_i rest hrest
    split at h
    · cases h
    rename_i hname
    split at h
    · split at h
      · cases h
      · rename_i hj
        cases h
        have hopen : rest <:+ c.rest := hrest ▸ List.suffix_cons ..
        exact (hvalue hj).trans ((rest_next _).trans ((suffix_of_readText hname).trans hopen))
    · cases h
  · cases h

theorem givesUpAfter_readMember (hdeep : GivesUpAfter n value) :
    GivesUpAfter n (readMember value) := by
  intro c h
  simp only [readMember] at h
  split at h
  · rename_i rest hrest
    split at h
    · rename_i hname
      cases h
      exact absurd hname readText_ne_tooDeep
    rename_i hname
    split at h
    · split at h
      · rename_i hj
        cases h
        have hopen : rest <:+ c.rest := hrest ▸ List.suffix_cons ..
        exact Nat.lt_of_lt_of_le (hdeep hj)
          (openings_le ((rest_next _).trans ((suffix_of_readText hname).trans hopen)))
      · cases h
    · cases h
  · cases h

end Sequences

/-! ## Values -/

section Values

variable {c c' : Cursor} {depth : Nat}

theorem movesOn_readValue (depth : Nat) : MovesOn (readValue depth) := by
  induction depth with
  | zero =>
    intro c a c' h
    rw [readValue] at h
    split at h
    · rename_i rest hrest
      obtain ⟨⟨s, c''⟩, htext, heq⟩ := map_eq_ok h
      cases heq
      exact (suffix_of_readText htext).trans (hrest ▸ List.suffix_cons ..)
    · cases h
    · cases h
    · exact movesOn_readAtom h
  | succ depth ih =>
    intro c a c' h
    rw [readValue] at h
    split at h
    · rename_i rest hrest
      obtain ⟨⟨s, c''⟩, htext, heq⟩ := map_eq_ok h
      cases heq
      exact (suffix_of_readText htext).trans (hrest ▸ List.suffix_cons ..)
    · obtain ⟨⟨items, c''⟩, hitems, heq⟩ := map_eq_ok h
      cases heq
      exact (movesOn_readSequence ih hitems).trans (rest_advance c 1)
    · obtain ⟨⟨members, c''⟩, hmembers, heq⟩ := map_eq_ok h
      cases heq
      exact (movesOn_readSequence (movesOn_readMember ih) hmembers).trans (rest_advance c 1)
    · exact movesOn_readAtom h

/-- A value that is nested too deeply has a bracket for each level. -/
theorem givesUpAfter_readValue (depth : Nat) : GivesUpAfter depth (readValue depth) := by
  induction depth with
  | zero =>
    intro c h
    rw [readValue] at h
    split at h
    · exact absurd (map_eq_error h) readText_ne_tooDeep
    · rename_i rest hrest
      rw [hrest, openings_cons rfl]
      exact Nat.succ_pos _
    · rename_i rest hrest
      rw [hrest, openings_cons rfl]
      exact Nat.succ_pos _
    · exact absurd h readAtom_ne_tooDeep
  | succ depth ih =>
    intro c h
    rw [readValue] at h
    have hbelow {b : Nat} {rest : CodePoints} (hrest : c.rest = b :: rest)
        (hb : isOpening b = true) (hdeep : depth < openings (c.advance 1).rest) :
        depth + 1 < openings c.rest := by
      rw [hrest, openings_cons hb]
      rw [Cursor.advance, hrest] at hdeep
      exact Nat.succ_lt_succ hdeep
    split at h
    · exact absurd (map_eq_error h) readText_ne_tooDeep
    · rename_i rest hrest
      exact hbelow hrest rfl
        (givesUpAfter_readSequence (movesOn_readValue depth) ih (map_eq_error h))
    · rename_i rest hrest
      exact hbelow hrest rfl
        (givesUpAfter_readSequence (movesOn_readMember (movesOn_readValue depth))
          (givesUpAfter_readMember ih) (map_eq_error h))
    · exact absurd h readAtom_ne_tooDeep

/-- **Reading gives up on a text only if it has more brackets than there may be levels.** -/
theorem openings_of_tooDeep {bs : Bytes} (h : ofBytes depth bs = .error .tooDeep) :
    ∃ cs, CodePoints.ofBytes? bs = some cs ∧ depth + 1 < openings cs := by
  rw [ofBytes] at h
  split at h
  · cases h
  rename_i cs hcs
  refine ⟨cs, hcs, ?_⟩
  rw [parse] at h
  split at h
  · rename_i hread
    cases h
    exact Nat.lt_of_lt_of_le (givesUpAfter_readValue (depth + 1) hread)
      (openings_le (rest_skipSpaces ⟨0, cs⟩))
  · dsimp only at h
    split at h <;> cases h

/-! ## Nothing but brackets -/

theorem skipSpaces_brackets (n place : Nat) :
    skipSpaces ⟨place, List.replicate n 0x5B⟩ = ⟨place, List.replicate n 0x5B⟩ := by
  apply skipSpaces_eq
  intro c hc
  rw [(List.mem_replicate.1 (List.mem_of_mem_head? hc)).2]
  rfl

theorem readValue_brackets {n : Nat} (h : depth < n) (place : Nat) :
    readValue depth ⟨place, List.replicate n 0x5B⟩ = .error .tooDeep := by
  induction depth generalizing n place with
  | zero =>
    obtain ⟨n, rfl⟩ := Nat.exists_eq_succ_of_ne_zero (Nat.ne_of_gt h)
    rfl
  | succ depth ih =>
    obtain ⟨n, rfl⟩ := Nat.exists_eq_succ_of_ne_zero (Nat.ne_of_gt (Nat.zero_lt_of_lt h))
    have hinner := ih (Nat.lt_of_succ_lt_succ h) (place + 1)
    have hclose : ¬ (List.replicate n 0x5B).head? = some 0x5D := by
      intro hc
      cases (List.mem_replicate.1 (List.mem_of_mem_head? hc)).2
    have hsequence : readSequence 0x5D (readValue depth) ⟨place + 1, List.replicate n 0x5B⟩ =
        .error .tooDeep := by
      simp only [readSequence, skipSpaces_brackets, if_neg hclose, hinner]
    rw [List.replicate_succ]
    show (readSequence 0x5D (readValue depth) ⟨place + 1, List.replicate n 0x5B⟩).map _ = _
    rw [hsequence]
    rfl

/-- Reading gives up on a text of many brackets. -/
theorem ofBytes_brackets {n : Nat} (h : depth + 1 < n) :
    ofBytes depth (List.replicate n 0x5B) = .error .tooDeep := by
  have hascii : ∀ b ∈ List.replicate n (0x5B : UInt8), b ≠ 0 ∧ b < 0x80 := by
    intro b hb
    rw [(List.mem_replicate.1 hb).2]
    decide
  have hfirst : (List.replicate n (0x5B : UInt8)).head? = some 0x5B := by
    obtain ⟨n, rfl⟩ := Nat.exists_eq_succ_of_ne_zero (Nat.ne_of_gt (Nat.zero_lt_of_lt h))
    rfl
  have hcode : (0x5B : UInt8).toNat = 0x5B := rfl
  rw [ofBytes, CodePoints.ofBytes?_of_ascii (.inl hfirst) hascii, List.map_replicate, hcode]
  simp only [parse, skipSpaces_brackets, readValue_brackets h]

end Values

end Json

end Portrait
