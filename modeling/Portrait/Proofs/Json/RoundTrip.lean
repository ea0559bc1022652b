import Portrait.Json.Parser
import Portrait.Json.Printer
import Portrait.Proofs.Text.Integer

/-!
# Flat objects and their notation

The objects that tokens are made of hold nothing but plain texts and whole numbers. What is written
for such an object is read as that object.

* `get?_ofMembers` — the member of an object with a name.
* `IsPlain` — a code point that stands for itself in quotes.
* `IsAtom`, `IsFlat` — plain texts and whole numbers, and objects of them.
* `Reads` — a reader takes a text for a value, whatever follows.

Main statement: `ofBytes_print`.
-/

set_option autoImplicit false

namespace Portrait

/-! ## Texts in ASCII -/

namespace CodePoints

theorem utf8From_of_ascii {bs : Bytes} (h : ∀ b ∈ bs, b < 0x80) (done : CodePoints) :
    utf8From done bs = some (done.reverse ++ bs.map UInt8.toNat) := by
  induction bs generalizing done with
  | nil => simp [utf8From]
  | cons b bs ih =>
    rw [utf8From.eq_def]
    simp only
    rw [if_pos (h b (List.mem_cons_self ..)), ih fun a ha => h a (List.mem_cons_of_mem _ ha)]
    simp

/-- A text in ASCII that begins with a bracket and has no zeros is taken for what it is. -/
theorem ofBytes?_of_ascii {bs : Bytes} (hfirst : bs.head? = some 0x5B ∨ bs.head? = some 0x7B)
    (h : ∀ b ∈ bs, b ≠ 0 ∧ b < 0x80) : ofBytes? bs = some (bs.map UInt8.toNat) := by
  have hutf8 : ofUtf8? bs = some (bs.map UInt8.toNat) :=
    utf8From_of_ascii (fun b hb => (h b hb).2) []
  -- no mark begins with a bracket, so only the second byte is asked for
  rcases hfirst with hfirst | hfirst
  all_goals
    obtain ⟨rest, rfl⟩ := List.head?_eq_some_iff.1 hfirst
    rcases rest with _ | ⟨b, _ | ⟨c, _ | ⟨d, rest⟩⟩⟩
    · exact hutf8
    · have hb : b ≠ 0 := (h b (by simp)).1
      exact (if_neg hb).trans hutf8
    · exact hutf8
    · have hb : b ≠ 0 := (h b (by simp)).1
      exact (if_neg hb).trans hutf8

theorem ofString_inj {a b : String} : ofString a = ofString b ↔ a = b := by
  constructor
  · intro h
    have hinj : ∀ c d : Char, c.toNat = d.toNat → c = d := fun _ _ => Char.toNat_inj.1
    exact String.toList_inj.1 ((List.map_inj_right hinj).1 h)
  · rintro rfl
    rfl

/-- The code points of a string are those of characters. -/
theorem toString?_ofString (s : String) : (ofString s).toString? = some s := by
  have hvalid : ((ofString s).all fun c => decide c.isValidChar) = true := by
    rw [List.all_eq_true]
    intro n hn
    obtain ⟨c, -, rfl⟩ := List.mem_map.1 hn
    exact decide_eq_true c.valid
  have hback : Char.ofNat ∘ Char.toNat = id := funext Char.ofNat_toNat
  rw [toString?, if_pos hvalid, ofString, List.map_map, hback, List.map_id, String.ofList_toList]

end CodePoints

namespace Json

/-- The member of an object that was made of named values. -/
theorem get?_ofMembers (members : List (String × Json)) (name : String) :
    (ofMembers members).get? (CodePoints.ofString name) =
      (members.reverse.find? fun m => m.1 == name).map Prod.snd := by
  have hname : ((fun m : CodePoints × Json => m.1 == CodePoints.ofString name) ∘
      fun m : String × Json => (CodePoints.ofString m.1, m.2)) = fun m => m.1 == name := by
    funext m
    rw [Function.comp_apply, Bool.eq_iff_iff, beq_iff_eq, beq_iff_eq, CodePoints.ofString_inj]
  rw [ofMembers, get?, ← List.map_reverse, List.find?_map, Option.map_map, hname]
  rfl

/-- A code point that is written as itself. -/
def IsPlain (c : Nat) : Prop := 0x20 ≤ c ∧ c ≤ 0x7E ∧ c ≠ 0x22 ∧ c ≠ 0x5C

instance (c : Nat) : Decidable (IsPlain c) := inferInstanceAs (Decidable (_ ∧ _))

/-- A plain text, or a whole number that is not too long. -/
inductive IsAtom : Json → Prop where
  | text {s : CodePoints} (plain : ∀ c ∈ s, IsPlain c) : IsAtom (text s)
  | whole {n : Int} (short : n.natAbs < 10 ^ Text.Integer.maxDigits) : IsAtom (whole n)

/-- Members with plain names and nothing but atoms. -/
def IsFlat (members : List (CodePoints × Json)) : Prop :=
  ∀ m ∈ members, (∀ c ∈ m.1, IsPlain c) ∧ IsAtom m.2

/-- The text that follows a value in an object, or nothing. -/
def Separated (rest : CodePoints) : Prop := ∀ c, rest.head? = some c → c = 0x2C ∨ c = 0x7D

/-- A reader takes a text for a value, whatever follows in an object. -/
def Reads {α : Type} (read : Cursor → Except Fault (α × Cursor)) (cs : CodePoints) (a : α) : Prop :=
  ∀ place rest, Separated rest → ∃ place', read ⟨place, cs ++ rest⟩ = .ok (a, ⟨place', rest⟩)

variable {s : CodePoints} {c : Nat} {j : Json} {members : List (CodePoints × Json)}

theorem skipSpaces_eq (place : Nat) {cs : CodePoints}
    (h : ∀ c, cs.head? = some c → isSpace c = false) : skipSpaces ⟨place, cs⟩ = ⟨place, cs⟩ := by
  cases cs with
  | nil => rfl
  | cons c cs =>
    have hc : isSpace c = false := h c rfl
    simp [skipSpaces, Cursor.advance, hc]

/-! ## Texts -/

theorem printCode_plain (h : IsPlain c) : printCode c = [c] := by
  obtain ⟨hlow, hhigh, hquote, hslash⟩ := h
  unfold printCode
  split
  all_goals first | contradiction | omega | rw [if_pos ⟨hlow, hhigh⟩]

theorem printText_plain (h : ∀ c ∈ s, IsPlain c) : printText s = 0x22 :: s ++ [0x22] := by
  have hflat : s.flatMap printCode = s := by
    induction s with
    | nil => rfl
    | cons c s ih =>
      rw [List.flatMap_cons, printCode_plain (h c (List.mem_cons_self ..)),
        ih fun a ha => h a (List.mem_cons_of_mem _ ha)]
      rfl
  rw [printText, hflat]

theorem readText_cons (h : IsPlain c) (start place : Nat) (done : CodePoints) (high : Bool)
    (rest : CodePoints) :
    readText start place done high (c :: rest) =
      readText start (place + 1) (c :: done) false rest := by
  obtain ⟨hlow, -, hquote, hslash⟩ := h
  rw [readText.eq_def]
  split
  all_goals rename_i heq
  all_goals cases heq
  all_goals first | contradiction | exact if_neg (by omega)

/-- Plain text in quotes is read as itself. -/
theorem readText_plain (h : ∀ c ∈ s, IsPlain c) (start place : Nat) (done : CodePoints) (high : Bool)
    (rest : CodePoints) :
    readText start place done high (s ++ 0x22 :: rest) =
      .ok (done.reverse ++ s, ⟨place + s.length + 1, rest⟩) := by
  induction s generalizing place done high with
  | nil => simp [readText]
  | cons c s ih =>
    rw [List.cons_append, readText_cons (h c (List.mem_cons_self ..)),
      ih fun a ha => h a (List.mem_cons_of_mem _ ha)]
    simp only [List.reverse_cons, List.append_assoc, List.singleton_append, List.length_cons]
    rw [show place + 1 + s.length + 1 = place + (s.length + 1) + 1 by omega]

/-! ## Numbers -/

theorem takeWhile_append_of_all {p : Nat → Bool} {ds rest : CodePoints} (hds : ∀ d ∈ ds, p d = true)
    (hrest : ∀ c, rest.head? = some c → p c = false) : (ds ++ rest).takeWhile p = ds := by
  rw [List.takeWhile_append_of_pos hds]
  cases rest with
  | nil => simp
  | cons c rest => simp [hrest c rfl]

theorem isDigit_iff : isDigit c = true ↔ 0x30 ≤ c ∧ c ≤ 0x39 := by
  simp [isDigit]

theorem Separated.not_digit {rest : CodePoints} (h : Separated rest) (c : Nat)
    (hc : rest.head? = some c) : isDigit c = false := by
  rcases h c hc with rfl | rfl <;> rfl

/-- The digits of a number are all of its whole part. -/
theorem wholeDigits_decimal {n : Nat} {rest : CodePoints} (h : Separated rest) :
    wholeDigits (Text.decimal n ++ rest) = Text.decimal n := by
  have hall : ∀ d ∈ Text.decimal n, isDigit d = true := fun d hd =>
    isDigit_iff.2 (Text.digit_of_mem_decimal hd)
  obtain ⟨d, ds, hds⟩ := List.exists_cons_of_ne_nil (Text.decimal_ne_nil (n := n))
  unfold wholeDigits
  split
  · rename_i hzero
    by_cases hn : n = 0
    · subst hn
      rfl
    · rw [hds, List.cons_append] at hzero
      have hhead := Text.head?_decimal (Nat.pos_of_ne_zero hn)
      rw [hds, List.head?_cons] at hhead
      cases hzero
      exact absurd rfl hhead
  · exact takeWhile_append_of_all hall h.not_digit

theorem exponent_of_separated {rest : CodePoints} (h : Separated rest) : exponent rest = (0, 0) := by
  cases rest with
  | nil => rfl
  | cons c rest => rcases h c rfl with rfl | rfl <;> rfl

theorem fractionDigits_of_separated {rest : CodePoints} (h : Separated rest) :
    fractionDigits rest = [] := by
  cases rest with
  | nil => rfl
  | cons c rest => rcases h c rfl with rfl | rfl <;> rfl

/-- A whole number that is not too long is read as itself. -/
theorem reads_number {n : Int} (h : n.natAbs < 10 ^ Text.Integer.maxDigits) :
    Reads readNumber (CodePoints.ofString (toString n)) (whole n) := by
  intro place rest hrest
  have hlength : ¬ Text.Integer.maxDigits < (Text.decimal n.natAbs).length := by
    have := (Text.length_decimal_le_iff (n := n.natAbs) (k := Text.Integer.maxDigits) (by decide)).2 h
    omega
  have hvalue : natOf (Text.decimal n.natAbs ++ []) = n.natAbs := by
    rw [List.append_nil]
    exact Text.ofDigits_decimal
  by_cases hn : n < 0
  · refine ⟨place + (1 + (Text.decimal n.natAbs).length), ?_⟩
    have habs : -(n.natAbs : Int) = n := by omega
    rw [Text.ofString_toString, if_pos hn, readNumber]
    simp only [List.cons_append, List.nil_append, List.head?_cons, if_true, List.drop_one,
      List.tail_cons, wholeDigits_decimal hrest, Text.decimal_ne_nil, if_false, List.drop_left,
      fractionDigits_of_separated hrest, List.drop_zero, exponent_of_separated hrest, hvalue, habs,
      and_self]
    rw [if_neg hlength]
    simp [Cursor.advance, Nat.add_comm 1]
  · refine ⟨place + (Text.decimal n.natAbs).length, ?_⟩
    have habs : (n.natAbs : Int) = n := by omega
    have hsign : ¬ (Text.decimal n.natAbs ++ rest).head? = some 0x2D := by
      obtain ⟨d, ds, hds⟩ := List.exists_cons_of_ne_nil (Text.decimal_ne_nil (n := n.natAbs))
      have hd := Text.digit_of_mem_decimal (c := d) (n := n.natAbs) (by simp [hds])
      rw [hds, List.cons_append, List.head?_cons, Option.some.injEq]
      omega
    rw [Text.ofString_toString, if_neg hn, readNumber]
    simp only [List.nil_append, hsign, if_false, wholeDigits_decimal hrest, Text.decimal_ne_nil,
      List.drop_left, fractionDigits_of_separated hrest, if_true, List.drop_zero,
      exponent_of_separated hrest, hvalue, habs, and_self]
    rw [if_neg hlength]
    simp [Cursor.advance]

/-! ## Values -/

/-- The text of a number begins with a minus sign and a digit, or with a digit. -/
theorem exists_digit (n : Int) : ∃ d ds, 0x30 ≤ d ∧ d ≤ 0x39 ∧
    CodePoints.ofString (toString n) = (if n < 0 then [0x2D] else []) ++ d :: ds := by
  obtain ⟨d, ds, hds⟩ := List.exists_cons_of_ne_nil (Text.decimal_ne_nil (n := n.natAbs))
  have hd := Text.digit_of_mem_decimal (c := d) (n := n.natAbs) (by simp [hds])
  exact ⟨d, ds, hd.1, hd.2, by rw [Text.ofString_toString, hds]⟩

theorem readAtom_number (n : Int) (place : Nat) (rest : CodePoints) :
    readAtom ⟨place, CodePoints.ofString (toString n) ++ rest⟩ =
      readNumber ⟨place, CodePoints.ofString (toString n) ++ rest⟩ := by
  have hwords : (words.find? fun w =>
      w.1.isPrefixOf (CodePoints.ofString (toString n) ++ rest)) = none := by
    obtain ⟨d, ds, hlow, hhigh, hn⟩ := exists_digit n
    have hletter : ∀ k : Nat, 0x39 < k → (k == d) = false := by
      intro k hk
      rw [beq_eq_false_iff_ne]
      omega
    have hsign : ((0x2D : Nat) == d) = false := by
      rw [beq_eq_false_iff_ne]
      omega
    rw [hn]
    split
    · simp [words, CodePoints.ofString, List.isPrefixOf, hletter]
    · simp [words, CodePoints.ofString, List.isPrefixOf, hletter, hsign]
  rw [readAtom, hwords]

theorem readValue_number (n : Int) (depth place : Nat) (rest : CodePoints) :
    readValue depth ⟨place, CodePoints.ofString (toString n) ++ rest⟩ =
      readNumber ⟨place, CodePoints.ofString (toString n) ++ rest⟩ := by
  rw [← readAtom_number]
  obtain ⟨d, ds, hlow, hhigh, hn⟩ := exists_digit n
  rw [hn]
  unfold readValue
  split <;> split <;> rename_i heq <;> first | rfl | skip
  all_goals
    split at heq
    · cases heq
    · cases heq
      omega

/-- Atoms are read as themselves. -/
theorem reads_atom (h : IsAtom j) (depth : Nat) : Reads (readValue depth) (print j) j := by
  intro place rest hrest
  cases h with
  | @text s plain =>
    refine ⟨place + 1 + s.length + 1, ?_⟩
    have htext : print (text s) ++ rest = 0x22 :: (s ++ 0x22 :: rest) := by
      rw [print, printText_plain plain]
      simp
    rw [htext]
    cases depth <;> simp only [readValue, readText_plain plain] <;> rfl
  | @whole n short =>
    rw [print, readValue_number]
    exact reads_number short place rest hrest

/-- No atom begins with a blank. -/
theorem skipSpaces_atom (h : IsAtom j) (place : Nat) (rest : CodePoints) :
    skipSpaces ⟨place, print j ++ rest⟩ = ⟨place, print j ++ rest⟩ := by
  apply skipSpaces_eq
  intro c hc
  cases h with
  | text plain =>
    cases hc
    rfl
  | @whole n short =>
    obtain ⟨d, ds, hlow, hhigh, hn⟩ := exists_digit n
    rw [print, hn] at hc
    split at hc
    · cases hc
      rfl
    · cases hc
      simp [isSpace]
      omega

/-! ## Objects -/

variable {name : CodePoints}

/-- A member is read as itself. -/
theorem reads_member (hname : ∀ c ∈ name, IsPlain c) (hj : IsAtom j) (depth : Nat) :
    Reads (readMember (readValue depth)) (printText name ++ 0x3A :: print j) (name, j) := by
  intro place rest hrest
  obtain ⟨place', hvalue⟩ := reads_atom hj depth (place + 1 + name.length + 1 + 1) rest hrest
  refine ⟨place', ?_⟩
  have htext : printText name ++ 0x3A :: print j ++ rest =
      0x22 :: (name ++ 0x22 :: 0x3A :: (print j ++ rest)) := by
    rw [printText_plain hname]
    simp
  have hcolon : skipSpaces ⟨place + 1 + name.length + 1, 0x3A :: (print j ++ rest)⟩ =
      ⟨place + 1 + name.length + 1, 0x3A :: (print j ++ rest)⟩ := by
    apply skipSpaces_eq
    rintro c ⟨⟩
    rfl
  rw [htext]
  simp only [readMember, readText_plain hname, List.reverse_nil, List.nil_append, hcolon,
    List.head?_cons, if_true, Cursor.advance, List.drop_one, List.tail_cons, skipSpaces_atom hj,
    hvalue]

theorem skipSpaces_member (place : Nat) (rest : CodePoints) :
    skipSpaces ⟨place, printText name ++ rest⟩ = ⟨place, printText name ++ rest⟩ := by
  apply skipSpaces_eq
  rintro c ⟨⟩
  rfl

theorem separated_members (rest : CodePoints) : Separated (printMembers members ++ rest) := by
  intro c hc
  cases members with
  | nil =>
    cases hc
    exact .inr rfl
  | cons m members =>
    cases hc
    exact .inl rfl

/-- What follows the first member of an object is read as the other members. -/
theorem readMore_members (h : IsFlat members) (depth place : Nat)
    (done : List (CodePoints × Json)) (fuel : Nat) (hfuel : members.length < fuel)
    (rest : CodePoints) :
    ∃ place', readMore 0x7D (readMember (readValue depth)) done
        ⟨place, printMembers members ++ rest⟩ fuel =
      .ok (done.reverse ++ members, ⟨place', rest⟩) := by
  induction members generalizing place done fuel with
  | nil =>
    obtain ⟨fuel, rfl⟩ := Nat.exists_eq_succ_of_ne_zero (Nat.ne_of_gt hfuel)
    refine ⟨place + 1, ?_⟩
    simp [readMore, printMembers, skipSpaces, Cursor.advance, isSpace]
  | cons m members ih =>
    obtain ⟨name, j⟩ := m
    obtain ⟨hname, hj⟩ := h (name, j) (List.mem_cons_self ..)
    obtain ⟨fuel, rfl⟩ := Nat.exists_eq_succ_of_ne_zero (Nat.ne_of_gt (Nat.zero_lt_of_lt hfuel))
    obtain ⟨place₁, hitem⟩ := reads_member hname hj depth (place + 1)
      (printMembers members ++ rest) (separated_members rest)
    obtain ⟨place₂, hmore⟩ := ih (fun m hm => h m (List.mem_cons_of_mem _ hm)) place₁
      ((name, j) :: done) fuel (Nat.lt_of_succ_lt_succ hfuel)
    refine ⟨place₂, ?_⟩
    have htext : printMembers ((name, j) :: members) ++ rest =
        0x2C :: (printText name ++ (0x3A :: print j ++ (printMembers members ++ rest))) := by
      simp [printMembers]
    have hcomma : skipSpaces ⟨place, printMembers ((name, j) :: members) ++ rest⟩ =
        ⟨place, printMembers ((name, j) :: members) ++ rest⟩ := by
      apply skipSpaces_eq
      rw [htext]
      rintro c ⟨⟩
      rfl
    rw [readMore, hcomma, htext]
    simp only [Cursor.advance, List.drop_one, List.tail_cons, skipSpaces_member]
    rw [← List.append_assoc, hitem]
    simp only [hmore, List.reverse_cons, List.append_assoc, List.singleton_append]
    rfl

theorem length_members_lt (rest : CodePoints) :
    members.length < (printMembers members ++ rest).length := by
  induction members with
  | nil => simp [printMembers]
  | cons m members ih =>
    obtain ⟨name, j⟩ := m
    simp only [printMembers, List.length_append, List.length_cons] at ih ⊢
    omega

theorem readValue_object (depth place : Nat) (rest : CodePoints) :
    readValue (depth + 1) ⟨place, 0x7B :: rest⟩ =
      (readSequence 0x7D (readMember (readValue depth)) ⟨place + 1, rest⟩).map
        fun (members, c) => (object members, c) := rfl

/-- Flat objects are read as themselves, however little may be nested in them. -/
theorem parse_print (h : IsFlat members) (depth : Nat) :
    parse depth (print (object members)) = .ok (object members) := by
  have hopen : ∀ rest, skipSpaces ⟨0, 0x7B :: rest⟩ = ⟨0, 0x7B :: rest⟩ := by
    intro rest
    apply skipSpaces_eq
    rintro c ⟨⟩
    rfl
  cases members with
  | nil => rfl
  | cons m members =>
    obtain ⟨name, j⟩ := m
    obtain ⟨hname, hj⟩ := h (name, j) (List.mem_cons_self ..)
    obtain ⟨place₁, hitem⟩ := reads_member hname hj depth 1 (printMembers members ++ [])
      (separated_members [])
    obtain ⟨place₂, hmore⟩ := readMore_members (fun m hm => h m (List.mem_cons_of_mem _ hm)) depth
      place₁ [(name, j)] ((printMembers members ++ []).length + 1)
      (Nat.lt_succ_of_lt (length_members_lt [])) []
    have htext : print (object ((name, j) :: members)) =
        0x7B :: (printText name ++ (0x3A :: print j ++ (printMembers members ++ []))) := by
      simp [print]
    have hsequence : readSequence 0x7D (readMember (readValue depth))
        ⟨1, printText name ++ (0x3A :: print j ++ (printMembers members ++ []))⟩ =
          .ok ((name, j) :: members, ⟨place₂, []⟩) := by
      rw [readSequence, skipSpaces_member, ← List.append_assoc, hitem]
      simp only [hmore]
      rfl
    rw [parse, htext, hopen, readValue_object, hsequence]
    rfl

/-! ## Bytes -/

theorem ascii_of_plain (h : IsPlain c) : 0 < c ∧ c < 0x80 := by
  obtain ⟨hlow, hhigh, -, -⟩ := h
  omega

theorem ascii_text (h : ∀ c ∈ s, IsPlain c) (hc : c ∈ printText s) : 0 < c ∧ c < 0x80 := by
  rw [printText_plain h] at hc
  simp only [List.cons_append, List.mem_cons, List.mem_append, List.not_mem_nil, or_false] at hc
  rcases hc with rfl | hs | rfl
  · decide
  · exact ascii_of_plain (h c hs)
  · decide

theorem ascii_atom (h : IsAtom j) (hc : c ∈ print j) : 0 < c ∧ c < 0x80 := by
  cases h with
  | text plain => exact ascii_text plain (by rwa [print] at hc)
  | @whole n short =>
    rw [print, Text.ofString_toString] at hc
    rcases List.mem_append.1 hc with hsign | hdigit
    · split at hsign
      · rw [List.mem_singleton.1 hsign]
        decide
      · cases hsign
    · have := Text.digit_of_mem_decimal hdigit
      omega

theorem ascii_members (h : IsFlat members) (hc : c ∈ printMembers members) : 0 < c ∧ c < 0x80 := by
  induction members with
  | nil =>
    rw [printMembers, List.mem_singleton] at hc
    subst hc
    decide
  | cons m members ih =>
    obtain ⟨name, j⟩ := m
    obtain ⟨hname, hj⟩ := h (name, j) (List.mem_cons_self ..)
    simp only [printMembers, List.cons_append, List.mem_cons, List.mem_append] at hc
    rcases hc with rfl | (hc | rfl | hc) | hc
    · decide
    · exact ascii_text hname hc
    · decide
    · exact ascii_atom hj hc
    · exact ih (fun m hm => h m (List.mem_cons_of_mem _ hm)) hc

theorem ascii_object (h : IsFlat members) (hc : c ∈ print (object members)) : 0 < c ∧ c < 0x80 := by
  cases members with
  | nil =>
    rw [print] at hc
    revert c
    decide
  | cons m members =>
    have hrest : c = 0x7B ∨ c ∈ printMembers (m :: members) := by
      obtain ⟨name, j⟩ := m
      simp only [print, printMembers, List.cons_append, List.mem_cons, List.mem_append] at hc ⊢
      exact hc.imp_right .inr
    rcases hrest with rfl | hc
    · decide
    · exact ascii_members h hc

/-- What is written for a flat object is read as that object. -/
theorem ofBytes_print (h : IsFlat members) (depth : Nat) :
    ofBytes depth ((print (object members)).map UInt8.ofNat) = .ok (object members) := by
  have hback : ((print (object members)).map UInt8.ofNat).map UInt8.toNat =
      print (object members) := by
    have hcode : ∀ c ∈ print (object members), (UInt8.toNat ∘ UInt8.ofNat) c = id c := by
      intro c hc
      have hlt : c < 0x80 := (ascii_object h hc).2
      simp only [Function.comp_apply, id_eq, UInt8.toNat_ofNat']
      omega
    rw [List.map_map, List.map_congr_left hcode, List.map_id]
  have hascii : ∀ b ∈ (print (object members)).map UInt8.ofNat, b ≠ 0 ∧ b < 0x80 := by
    intro b hb
    obtain ⟨c, hc, rfl⟩ := List.mem_map.1 hb
    obtain ⟨hpos, hlt⟩ := ascii_object h hc
    have hnat : (UInt8.ofNat c).toNat = c := by
      rw [UInt8.toNat_ofNat']
      omega
    constructor
    · intro hzero
      rw [hzero] at hnat
      simp at hnat
      omega
    · rw [UInt8.lt_iff_toNat_lt, hnat]
      exact hlt
  have hfirst : ((print (object members)).map UInt8.ofNat).head? = some 0x7B := by
    rcases members with _ | ⟨⟨name, j⟩, members⟩ <;> rfl
  rw [ofBytes, CodePoints.ofBytes?_of_ascii (.inr hfirst) hascii, hback]
  exact parse_print h depth

end Json

end Portrait
