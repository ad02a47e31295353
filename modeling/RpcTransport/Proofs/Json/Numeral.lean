import Mathlib.Data.List.Basic
import RpcTransport.Json.Printer
import RpcTransport.Json.Numeral

/-! A character that cannot go on a numeral ends it, and what follows has no part in its value. -/
namespace RpcTransport.Json.Numeral

/-- The characters of which numerals are made. -/
def continues (c : Char) : Bool :=
  c.isDigit || c == '.' || c == 'e' || c == 'E' || c == '+' || c == '-'

/-- No numeral goes on here. -/
def Stops (rest : List Char) : Prop :=
  ∀ c cs, rest = c :: cs → continues c = false

theorem stops_nil : Stops [] := nofun

theorem stops_cons {c : Char} (h : continues c = false) (cs : List Char) : Stops (c :: cs) := by
  rintro _ _ ⟨⟩
  exact h

namespace Stops

variable {c : Char} {cs : List Char}

theorem not_digit (h : Stops (c :: cs)) : c.isDigit = false := by
  have hEnd := h c cs rfl
  simp only [continues, Bool.or_eq_false_iff] at hEnd
  exact hEnd.1.1.1.1.1

theorem ne {d : Char} (h : Stops (c :: cs)) (hd : continues d = true) : c ≠ d := by
  rintro rfl
  rw [h c cs rfl] at hd
  cases hd

end Stops

/-- What is read, with a text behind what is left. -/
def before (tail : List Char) : Except Fault (Number × List Char) → Option (Number × List Char)
  | .ok (n, rest) => some (n, rest ++ tail)
  | .error _ => none

theorem Draft.double_def : Draft.double = fun draft rest =>
    match Binary64.ofDecimal? draft.negative draft.digits draft.exponent with
    | some f => .ok (.double f, rest)
    | none => .error (.before .numberOutOfRange rest) := by
  delta Draft.double
  exact rfl

/-- Whether a draft has a double does not depend on what follows it. -/
theorem Draft.double_eq (draft : Draft) : ∃ value : Option Binary64, ∀ rest, draft.double rest =
    match value with
    | some f => .ok (.double f, rest)
    | none => .error (.before .numberOutOfRange rest) := by
  rw [Draft.double_def]
  exact ⟨_, fun _ => rfl⟩

theorem Draft.double_append (draft : Draft) (cs tail : List Char) :
    (draft.double (cs ++ tail)).toOption = before tail (draft.double cs) := by
  obtain ⟨value, hValue⟩ := draft.double_eq
  rw [hValue, hValue]
  cases value <;> rfl

theorem signed_append (draft : Draft) (down : Bool) (value : Nat) (cs tail : List Char) :
    (exponentDigits.signed draft down value (cs ++ tail)).toOption =
      before tail (exponentDigits.signed draft down value cs) := by
  unfold exponentDigits.signed
  exact Draft.double_append _ cs tail

theorem exponentDigits_cons (draft : Draft) (down : Bool) (value : Nat) (c : Char)
    (cs : List Char) : exponentDigits draft down value (c :: cs) =
      if c.isDigit then
        if value * 10 + digitValue c ≤ greatestExponent then
          exponentDigits draft down (value * 10 + digitValue c) cs
        else if draft.digits ≠ 0 ∧ ¬down then .error (.before .numberOutOfRange cs)
        else .ok (.double ⟨draft.negative, 0, 0⟩, skipDigits cs)
      else exponentDigits.signed draft down value (c :: cs) := by
  rw [exponentDigits]

/-- The digit with which an exponent goes on behind its sign. -/
def unsignedExponent (draft : Draft) (down : Bool) :
    List Char → Except Fault (Number × List Char)
  | [] => .error (.before .endInValue [])
  | c :: rest =>
    if c.isDigit then exponentDigits draft down (digitValue c) rest
    else .error (.atFirst .invalidNumber (c :: rest))

theorem exponent_minus (draft : Draft) (cs : List Char) :
    exponent draft ('-' :: cs) = unsignedExponent draft true cs := by
  cases cs <;> rfl

theorem exponent_plus (draft : Draft) (cs : List Char) :
    exponent draft ('+' :: cs) = unsignedExponent draft false cs := by
  cases cs <;> rfl

/-- Without a sign an exponent is not negative. -/
theorem exponent_unsigned (draft : Draft) {cs : List Char}
    (hMinus : ∀ rest, cs ≠ '-' :: rest) (hPlus : ∀ rest, cs ≠ '+' :: rest) :
    exponent draft cs = unsignedExponent draft false cs := by
  unfold exponent
  split
  rename_i down unsigned h
  split at h
  · exact absurd rfl (hMinus _)
  · exact absurd rfl (hPlus _)
  · cases h
    cases cs <;> rfl

section Tail

variable {tail : List Char} (hTail : Stops tail)
include hTail

theorem startsWithDigit_append (cs : List Char) :
    startsWithDigit (cs ++ tail) = startsWithDigit cs := by
  cases cs with
  | cons c cs => rfl
  | nil =>
      cases tail with
      | nil => rfl
      | cons c cs => exact hTail.not_digit

theorem skipDigits_append (cs : List Char) : skipDigits (cs ++ tail) = skipDigits cs ++ tail := by
  induction cs with
  | nil =>
      cases tail with
      | nil => rfl
      | cons c cs =>
          simp [skipDigits, hTail.not_digit]
  | cons c cs ih =>
      unfold skipDigits at ih ⊢
      cases hc : c.isDigit <;> simp [hc, ih]

theorem takeDigits_append (cs : List Char) :
    (cs ++ tail).takeWhile Char.isDigit = cs.takeWhile Char.isDigit := by
  induction cs with
  | nil =>
      cases tail with
      | nil => rfl
      | cons c cs => simp [hTail.not_digit]
  | cons c cs ih => cases hc : c.isDigit <;> simp [hc, ih]

theorem keep_append (kept : Nat) (cs : List Char) :
    keep kept (cs ++ tail) =
      ((keep kept cs).1, (keep kept cs).2.1, (keep kept cs).2.2 ++ tail) := by
  induction cs generalizing kept with
  | nil =>
      cases tail with
      | nil => rfl
      | cons c cs => simp [keep, hTail.not_digit]
  | cons c cs ih =>
      simp only [List.cons_append, keep]
      split <;> simp [ih]

/-- A text that goes on with a character of numerals does so before its tail. -/
theorem ne_cons_append {d : Char} (hd : continues d = true) {cs : List Char}
    (h : ∀ rest, cs ≠ d :: rest) (rest : List Char) : cs ++ tail ≠ d :: rest := by
  intro hAll
  cases cs with
  | nil =>
      subst hAll
      exact hTail.ne hd rfl
  | cons c cs =>
      cases hAll
      exact h _ rfl

theorem exponentDigits_append (draft : Draft) (down : Bool) (value : Nat) (cs : List Char) :
    (exponentDigits draft down value (cs ++ tail)).toOption =
      before tail (exponentDigits draft down value cs) := by
  induction cs generalizing value with
  | nil =>
      have hEnd (rest : List Char) (h : Stops rest) : exponentDigits draft down value rest =
          exponentDigits.signed draft down value rest := by
        cases rest with
        | nil => rw [exponentDigits]
        | cons c cs =>
            rw [exponentDigits_cons, if_neg (by simp [h.not_digit])]
      rw [hEnd [] stops_nil, hEnd ([] ++ tail) hTail]
      exact signed_append draft down value [] tail
  | cons c cs ih =>
      rw [List.cons_append, exponentDigits_cons, exponentDigits_cons, skipDigits_append hTail]
      split
      · split
        · exact ih _
        · split <;> rfl
      · exact signed_append draft down value (c :: cs) tail

theorem unsignedExponent_append (draft : Draft) (down : Bool) (cs : List Char) :
    (unsignedExponent draft down (cs ++ tail)).toOption =
      before tail (unsignedExponent draft down cs) := by
  cases cs with
  | nil =>
      cases tail with
      | nil => rfl
      | cons c cs =>
          simp only [List.nil_append, unsignedExponent,
            hTail.not_digit, Bool.false_eq_true, ite_false]
          rfl
  | cons c cs =>
      simp only [List.cons_append, unsignedExponent]
      split
      · exact exponentDigits_append hTail _ _ _ _
      · rfl

theorem exponent_append (draft : Draft) (cs : List Char) :
    (exponent draft (cs ++ tail)).toOption = before tail (exponent draft cs) := by
  by_cases hMinus : ∃ rest, cs = '-' :: rest
  · obtain ⟨rest, rfl⟩ := hMinus
    rw [List.cons_append, exponent_minus, exponent_minus]
    exact unsignedExponent_append hTail draft true rest
  by_cases hPlus : ∃ rest, cs = '+' :: rest
  · obtain ⟨rest, rfl⟩ := hPlus
    rw [List.cons_append, exponent_plus, exponent_plus]
    exact unsignedExponent_append hTail draft false rest
  have hMinus : ∀ rest, cs ≠ '-' :: rest := fun rest h => hMinus ⟨rest, h⟩
  have hPlus : ∀ rest, cs ≠ '+' :: rest := fun rest h => hPlus ⟨rest, h⟩
  rw [exponent_unsigned draft hMinus hPlus,
    exponent_unsigned draft (ne_cons_append hTail rfl hMinus) (ne_cons_append hTail rfl hPlus)]
  exact unsignedExponent_append hTail draft false cs

theorem afterDigits_append (draft : Draft) (cs : List Char) :
    (afterDigits draft (cs ++ tail)).toOption = before tail (afterDigits draft cs) := by
  cases cs with
  | nil =>
      cases tail with
      | nil =>
          rw [List.append_nil, afterDigits]
          exact Draft.double_append draft [] []
      | cons c cs =>
          have hc : ¬(c = 'e' ∨ c = 'E') := by
            rintro (h | h) <;> exact hTail.ne rfl h
          rw [List.nil_append, afterDigits, afterDigits, if_neg hc]
          exact Draft.double_append draft [] (c :: cs)
  | cons c cs =>
      rw [List.cons_append, afterDigits, afterDigits]
      split
      · exact exponent_append hTail draft cs
      · exact Draft.double_append _ (c :: cs) tail

theorem fraction_append (draft : Draft) (cs : List Char) :
    (fraction draft (cs ++ tail)).toOption = before tail (fraction draft cs) := by
  simp only [fraction, keep_append hTail, startsWithDigit_append hTail]
  split
  · rw [skipDigits_append hTail]
    exact afterDigits_append hTail _ _
  · split
    · rfl
    · exact afterDigits_append hTail _ _

omit hTail in
theorem whole_append (negative : Bool) (digits : Nat) (cs : List Char) :
    (whole negative digits (cs ++ tail)).toOption = before tail (whole negative digits cs) := by
  unfold whole
  split
  · rfl
  · split
    · rfl
    · exact Draft.double_append _ _ _

theorem afterWhole_append (negative : Bool) (digits : Nat) (cs : List Char) :
    (afterWhole negative digits (cs ++ tail)).toOption =
      before tail (afterWhole negative digits cs) := by
  cases cs with
  | nil =>
      cases tail with
      | nil =>
          rw [List.append_nil, afterWhole]
          exact whole_append negative digits []
      | cons c cs =>
          have hPoint : c ≠ '.' := hTail.ne rfl
          have hLetter : ¬(c = 'e' ∨ c = 'E') := by
            rintro (h | h) <;> exact hTail.ne rfl h
          rw [List.nil_append, afterWhole, afterWhole, if_neg hPoint, if_neg hLetter]
          exact whole_append negative digits []
  | cons c cs =>
      rw [List.cons_append, afterWhole, afterWhole]
      split
      · exact fraction_append hTail _ cs
      · split
        · exact exponent_append hTail _ cs
        · exact whole_append negative digits (c :: cs)

theorem afterLongWhole_append (negative : Bool) (digits : Nat) (cs : List Char) :
    (afterLongWhole negative digits (cs ++ tail)).toOption =
      before tail (afterLongWhole negative digits cs) := by
  unfold afterLongWhole
  simp only [takeDigits_append hTail, skipDigits_append hTail]
  by_cases hPoint : ∃ rest, skipDigits cs = '.' :: rest
  · obtain ⟨rest, hRest⟩ := hPoint
    rw [hRest]
    exact fraction_append hTail _ rest
  · have hPoint : ∀ rest, skipDigits cs ≠ '.' :: rest := fun rest h => hPoint ⟨rest, h⟩
    have hLong := ne_cons_append hTail rfl hPoint
    split
    · exact absurd ‹_› (hLong _)
    · exact afterDigits_append hTail _ _

/-- A number that ends is read from its own characters. -/
theorem read_append (negative : Bool) (cs : List Char) :
    (read negative (cs ++ tail)).toOption = before tail (read negative cs) := by
  cases cs with
  | nil =>
      cases tail with
      | nil => rfl
      | cons c cs =>
          have hZero : c ≠ '0' := hTail.ne rfl
          rw [List.nil_append, read, read, if_neg hZero,
            if_neg (by simp [hTail.not_digit])]
          rfl
  | cons c cs =>
      simp only [List.cons_append, read, startsWithDigit_append hTail, keep_append hTail]
      split
      · split
        · rfl
        · exact afterWhole_append hTail _ _ _
      · split
        · split
          · exact afterLongWhole_append hTail _ _ _
          · exact afterWhole_append hTail _ _ _
        · rfl

end Tail

/-! What is left behind a number is the end of the text. -/

/-- The rest is an end of the text. -/
def Leaves (cs : List Char) (outcome : Except Fault (Number × List Char)) : Prop :=
  ∀ n rest, outcome = .ok (n, rest) → rest <:+ cs

theorem leaves_ok {cs rest : List Char} (n : Number) (h : rest <:+ cs) :
    Leaves cs (.ok (n, rest)) := by
  rintro _ _ ⟨⟩
  exact h

theorem leaves_error (cs : List Char) (fault : Fault) : Leaves cs (.error fault) := nofun

theorem Leaves.mono {cs ds : List Char} {outcome : Except Fault (Number × List Char)}
    (h : Leaves cs outcome) (hSuffix : cs <:+ ds) : Leaves ds outcome :=
  fun n rest hOk => (h n rest hOk).trans hSuffix

theorem skipDigits_suffix (cs : List Char) : skipDigits cs <:+ cs :=
  List.dropWhile_suffix _

theorem keep_suffix (kept : Nat) (cs : List Char) : (keep kept cs).2.2 <:+ cs := by
  induction cs generalizing kept with
  | nil => exact List.suffix_rfl
  | cons c cs ih =>
      rw [keep]
      split
      · exact (ih _).trans (List.suffix_cons c cs)
      · exact List.suffix_rfl

theorem Draft.double_leaves (draft : Draft) (cs : List Char) : Leaves cs (draft.double cs) := by
  obtain ⟨value, hValue⟩ := draft.double_eq
  rw [hValue]
  cases value with
  | none => exact leaves_error cs _
  | some f => exact leaves_ok _ List.suffix_rfl

theorem exponentDigits_leaves (draft : Draft) (down : Bool) (value : Nat) (cs : List Char) :
    Leaves cs (exponentDigits draft down value cs) := by
  have hSigned (value : Nat) (cs : List Char) :
      Leaves cs (exponentDigits.signed draft down value cs) := Draft.double_leaves _ cs
  induction cs generalizing value with
  | nil =>
      rw [exponentDigits]
      exact hSigned value []
  | cons c cs ih =>
      rw [exponentDigits_cons]
      split
      · split
        · exact (ih _).mono (List.suffix_cons c cs)
        · split
          · exact leaves_error _ _
          · exact leaves_ok _ ((skipDigits_suffix cs).trans (List.suffix_cons c cs))
      · exact hSigned value (c :: cs)

theorem unsignedExponent_leaves (draft : Draft) (down : Bool) (cs : List Char) :
    Leaves cs (unsignedExponent draft down cs) := by
  cases cs with
  | nil => exact leaves_error _ _
  | cons c cs =>
      rw [unsignedExponent]
      split
      · exact (exponentDigits_leaves _ _ _ cs).mono (List.suffix_cons c cs)
      · exact leaves_error _ _

theorem exponent_leaves (draft : Draft) (cs : List Char) : Leaves cs (exponent draft cs) := by
  by_cases hMinus : ∃ rest, cs = '-' :: rest
  · obtain ⟨rest, rfl⟩ := hMinus
    rw [exponent_minus]
    exact (unsignedExponent_leaves draft true rest).mono (List.suffix_cons _ rest)
  by_cases hPlus : ∃ rest, cs = '+' :: rest
  · obtain ⟨rest, rfl⟩ := hPlus
    rw [exponent_plus]
    exact (unsignedExponent_leaves draft false rest).mono (List.suffix_cons _ rest)
  rw [exponent_unsigned draft (fun rest h => hMinus ⟨rest, h⟩) (fun rest h => hPlus ⟨rest, h⟩)]
  exact unsignedExponent_leaves draft false cs

theorem afterDigits_leaves (draft : Draft) (cs : List Char) :
    Leaves cs (afterDigits draft cs) := by
  cases cs with
  | nil =>
      rw [afterDigits]
      exact draft.double_leaves []
  | cons c cs =>
      rw [afterDigits]
      split
      · exact (exponent_leaves draft cs).mono (List.suffix_cons c cs)
      · exact draft.double_leaves (c :: cs)

theorem fraction_leaves (draft : Draft) (cs : List Char) : Leaves cs (fraction draft cs) := by
  have hKeep := keep_suffix draft.digits cs
  simp only [fraction]
  split
  · exact (afterDigits_leaves _ _).mono ((skipDigits_suffix _).trans hKeep)
  · split
    · exact leaves_error _ _
    · exact (afterDigits_leaves _ _).mono hKeep

theorem whole_leaves (negative : Bool) (digits : Nat) (cs : List Char) :
    Leaves cs (whole negative digits cs) := by
  unfold whole
  split
  · exact leaves_ok _ List.suffix_rfl
  · split
    · exact leaves_ok _ List.suffix_rfl
    · exact Draft.double_leaves _ cs

theorem afterWhole_leaves (negative : Bool) (digits : Nat) (cs : List Char) :
    Leaves cs (afterWhole negative digits cs) := by
  cases cs with
  | nil =>
      rw [afterWhole]
      exact whole_leaves negative digits []
  | cons c cs =>
      rw [afterWhole]
      split
      · exact (fraction_leaves _ cs).mono (List.suffix_cons c cs)
      · split
        · exact (exponent_leaves _ cs).mono (List.suffix_cons c cs)
        · exact whole_leaves negative digits (c :: cs)

theorem afterLongWhole_leaves (negative : Bool) (digits : Nat) (cs : List Char) :
    Leaves cs (afterLongWhole negative digits cs) := by
  have hSkip := skipDigits_suffix cs
  unfold afterLongWhole
  split
  · rename_i rest hRest
    rw [hRest] at hSkip
    exact (fraction_leaves _ rest).mono ((List.suffix_cons _ rest).trans hSkip)
  · exact (afterDigits_leaves _ _).mono hSkip

/-- A number takes at least one character. -/
theorem read_leaves (negative : Bool) (c : Char) (cs : List Char) :
    Leaves cs (read negative (c :: cs)) := by
  have hKeep := keep_suffix (digitValue c) cs
  simp only [read]
  split
  · split
    · exact leaves_error _ _
    · exact afterWhole_leaves _ _ cs
  · split
    · split
      · exact (afterLongWhole_leaves _ _ _).mono hKeep
      · exact (afterWhole_leaves _ _ _).mono hKeep
    · exact leaves_error _ _

theorem read_suffix {negative : Bool} {cs rest : List Char} {n : Number}
    (hRead : read negative cs = .ok (n, rest)) : rest <:+ cs := by
  cases cs with
  | nil => cases hRead
  | cons c cs => exact (read_leaves negative c cs n rest hRead).trans (List.suffix_cons c cs)

/-- A number that is read to the end of a text and could not go on there has the
characters of a numeral, and would be the same before any text where it ends. -/
theorem read_split {negative : Bool} {cs rest : List Char} {n : Number}
    (hRead : read negative cs = .ok (n, rest)) (hRest : Stops rest) :
    ∃ numeral, cs = numeral ++ rest ∧ numeral ≠ [] ∧ (∀ c ∈ numeral, continues c) ∧
      read negative numeral = .ok (n, []) := by
  have hSplit := List.takeWhile_append_dropWhile (p := continues) (l := cs)
  have hStops : Stops (cs.dropWhile continues) := by
    intro c rest hTail
    simpa [hTail] using List.head_dropWhile_not continues (l := cs) (by simp [hTail])
  have hAll := read_append hStops negative (cs.takeWhile continues)
  rw [hSplit, hRead] at hAll
  cases hNumeral : read negative (cs.takeWhile continues) with
  | error fault => rw [hNumeral] at hAll; cases hAll
  | ok out =>
      obtain ⟨m, left⟩ := out
      rw [hNumeral] at hAll
      cases hAll
      cases left with
      | nil =>
          refine ⟨cs.takeWhile continues, hSplit.symm, ?_, ?_, hNumeral⟩
          · intro hNil
            rw [hNil] at hNumeral
            cases hNumeral
          · exact List.all_eq_true.mp List.all_takeWhile
      | cons c left =>
          have hHere := (read_suffix hNumeral).subset List.mem_cons_self
          have hc := List.all_eq_true.mp (List.all_takeWhile (p := continues)) c hHere
          rw [hRest c _ rfl] at hc
          cases hc

/-! Digits are read back as the number that they stand for. -/

theorem le_ofDigitChars (ds : List Char) (kept : Nat) : kept ≤ Nat.ofDigitChars 10 ds kept := by
  rw [Nat.ofDigitChars_eq_ofDigitChars_zero]
  have hPow : 0 < 10 ^ ds.length := Nat.pow_pos (by decide)
  have := Nat.le_mul_of_pos_left kept hPow
  omega

theorem keep_digits {ds : List Char} (hDigits : ∀ c ∈ ds, c.isDigit) {kept : Nat}
    (h : Nat.ofDigitChars 10 ds kept < UInt64.size) :
    keep kept ds = (Nat.ofDigitChars 10 ds kept, ds.length, []) := by
  induction ds generalizing kept with
  | nil => rfl
  | cons c ds ih =>
      have hNext : 10 * kept + (c.toNat - '0'.toNat) = kept * 10 + digitValue c := by
        rw [Nat.mul_comm, digitValue]
      rw [Nat.ofDigitChars_cons, hNext] at h ⊢
      have hFits := Nat.lt_of_le_of_lt (le_ofDigitChars ds (kept * 10 + digitValue c)) h
      rw [keep, if_pos ⟨hDigits c List.mem_cons_self, hFits⟩,
        ih (fun d hd => hDigits d (List.mem_cons_of_mem c hd)) h]
      rfl

/-- No digit zero in front. -/
theorem head_toDigits {n : Nat} (hn : n ≠ 0) : (Nat.toDigits 10 n).head? ≠ some '0' := by
  induction n using Nat.base_induction 10 (by decide) with
  | single m hm =>
      rw [Nat.toDigits_of_lt_base hm]
      simpa [Nat.digitChar_eq_zero] using hn
  | digit m k hk hm ih =>
      rw [Nat.toDigits_of_base_le (by decide) (by omega)]
      have hDiv : (10 * m + k) / 10 = m := by omega
      rw [hDiv, List.head?_append_of_ne_nil _ Nat.toDigits_ne_nil]
      exact ih (Nat.ne_of_gt hm)

theorem afterWhole_nil (negative : Bool) (digits : Nat) :
    afterWhole negative digits [] = whole negative digits [] := by
  rw [afterWhole]

theorem read_cons (negative : Bool) {c : Char} (cs : List Char) (hZero : c ≠ '0')
    (hDigit : c.isDigit) : read negative (c :: cs) =
      if startsWithDigit (keep (digitValue c) cs).2.2 then
        afterLongWhole negative (keep (digitValue c) cs).1 (keep (digitValue c) cs).2.2
      else afterWhole negative (keep (digitValue c) cs).1 (keep (digitValue c) cs).2.2 := by
  rw [read, if_neg hZero, if_pos hDigit]

theorem read_toDigits (negative : Bool) {n : Nat} (h : n < UInt64.size) :
    read negative (Nat.toDigits 10 n) = whole negative n [] := by
  by_cases hn : n = 0
  · subst hn
    rw [Nat.toDigits_zero, read, if_pos rfl, if_neg (by decide), afterWhole_nil]
  have hDigits : ∀ c ∈ Nat.toDigits 10 n, c.isDigit :=
    fun c => Nat.isDigit_of_mem_toDigits (by decide) (by decide)
  have hHead := head_toDigits hn
  have hValue := @Nat.ofDigitChars_ten_toDigits n
  cases hText : Nat.toDigits 10 n with
  | nil => exact absurd hText Nat.toDigits_ne_nil
  | cons c cs =>
      rw [hText] at hDigits hHead hValue
      have hZero : c ≠ '0' := fun hc => hHead (by rw [hc]; rfl)
      have hFirst : 10 * 0 + (c.toNat - '0'.toNat) = digitValue c := by rw [digitValue]; omega
      rw [Nat.ofDigitChars_cons, hFirst] at hValue
      have hKeep := keep_digits (fun d hd => hDigits d (List.mem_cons_of_mem c hd))
        (by rw [hValue]; exact h)
      rw [hValue] at hKeep
      rw [read_cons negative cs hZero (hDigits c List.mem_cons_self), hKeep,
        if_neg (by simp [startsWithDigit])]
      exact afterWhole_nil negative n

theorem read_nonneg {n : Nat} (h : n < UInt64.size) :
    read false (Nat.toDigits 10 n) = .ok (.integer n, []) := by
  rw [read_toDigits false h, whole, if_pos (by decide)]

theorem read_neg {n : Nat} (hPos : n ≠ 0) (h : n ≤ Nat.pow 2 63) :
    read true (Nat.toDigits 10 n) = .ok (.integer (-n), []) := by
  have hSize : n < UInt64.size := Nat.lt_of_le_of_lt h (by decide)
  rw [read_toDigits true hSize, whole, if_neg (by decide), if_pos ⟨hPos, h⟩]

end RpcTransport.Json.Numeral
