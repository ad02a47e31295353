import Mathlib
import RpcTransport.Text.Utf8

/-! The decoder takes exactly the encodings of texts. -/
namespace RpcTransport.Text.Utf8

/-- The bytes of a text. -/
def encoded (text : String) : List UInt8 :=
  text.toUTF8.data.toList

theorem encoded_ofList (cs : List Char) :
    encoded (.ofList cs) = cs.flatMap String.utf8EncodeChar := by
  simp [encoded, List.utf8Encode, List.data_toByteArray]

section Bytes

variable {a b : UInt8}

theorem width?_eq (a : UInt8) :
    width? a = if a.toNat < 0x80 then some 1
      else if 0xC2 ≤ a.toNat ∧ a.toNat ≤ 0xDF then some 2
      else if 0xE0 ≤ a.toNat ∧ a.toNat ≤ 0xEF then some 3
      else if 0xF0 ≤ a.toNat ∧ a.toNat ≤ 0xF4 then some 4
      else none := by
  simp [width?, UInt8.lt_iff_toNat_lt, UInt8.le_iff_toNat_le]

/-- The first byte of a form tells its width. -/
theorem width?_eq_some {n : Nat} : width? a = some n ↔
    n = 1 ∧ a.toNat < 0x80 ∨ n = 2 ∧ 0xC2 ≤ a.toNat ∧ a.toNat ≤ 0xDF ∨
      n = 3 ∧ 0xE0 ≤ a.toNat ∧ a.toNat ≤ 0xEF ∨ n = 4 ∧ 0xF0 ≤ a.toNat ∧ a.toNat ≤ 0xF4 := by
  rw [width?_eq]
  split_ifs <;> simp <;> omega

theorem isTail_iff : isTail b = true ↔ 0x80 ≤ b.toNat ∧ b.toNat ≤ 0xBF := by
  simp [isTail, UInt8.le_iff_toNat_le]

/-- Four first bytes narrow down the second one. -/
theorem second_iff : second a b = true ↔ (0x80 ≤ b.toNat ∧ b.toNat ≤ 0xBF) ∧
    (a.toNat = 0xE0 → 0xA0 ≤ b.toNat) ∧ (a.toNat = 0xED → b.toNat ≤ 0x9F) ∧
    (a.toNat = 0xF0 → 0x90 ≤ b.toNat) ∧ (a.toNat = 0xF4 → b.toNat ≤ 0x8F) := by
  simp only [second, isTail, UInt8.le_iff_toNat_le, ← UInt8.toNat_inj, UInt8.reduceToNat]
  split_ifs <;> simp <;> omega

end Bytes

/-- The bytes of a character, with its code point. -/
inductive Form : List UInt8 → Nat → Prop where
  | one {a : UInt8} (first : width? a = some 1) : Form [a] a.toNat
  | two {a b : UInt8} (first : width? a = some 2) (next : second a b = true) :
      Form [a, b] (join (a.toNat % 32) b)
  | three {a b c : UInt8} (first : width? a = some 3) (next : second a b = true)
      (third : isTail c = true) : Form [a, b, c] (join (join (a.toNat % 16) b) c)
  | four {a b c d : UInt8} (first : width? a = some 4) (next : second a b = true)
      (third : isTail c = true) (fourth : isTail d = true) :
      Form [a, b, c, d] (join (join (join (a.toNat % 8) b) c) d)

/-- A form is no surrogate and not above the last character. -/
theorem Form.isValidChar {form : List UInt8} {n : Nat} (h : Form form n) : n.isValidChar := by
  unfold Nat.isValidChar
  cases h with
  | one first =>
      rw [width?_eq_some] at first
      omega
  | two first next =>
      rw [width?_eq_some] at first
      unfold join
      omega
  | three first next third =>
      rw [width?_eq_some] at first
      rw [second_iff] at next
      unfold join
      omega
  | four first next third fourth =>
      rw [width?_eq_some] at first
      rw [second_iff] at next
      unfold join
      omega

theorem utf8EncodeChar_ofNat {n : Nat} (h : n.isValidChar) :
    String.utf8EncodeChar (.ofNat n) =
      if n ≤ 127 then [.ofNat n]
      else if n ≤ 2047 then [.ofNat (n / 64 % 32 + 192), .ofNat (n % 64 + 128)]
      else if n ≤ 65535 then
        [.ofNat (n / 4096 % 16 + 224), .ofNat (n / 64 % 64 + 128), .ofNat (n % 64 + 128)]
      else [.ofNat (n / 262144 % 8 + 240), .ofNat (n / 4096 % 64 + 128),
        .ofNat (n / 64 % 64 + 128), .ofNat (n % 64 + 128)] := by
  rw [String.utf8EncodeChar, Char.toNat_val, Char.toNat_ofNat, if_pos h]

theorem ofNat_eq {m : Nat} {b : UInt8} (h : m = b.toNat) : UInt8.ofNat m = b := by
  rw [h, UInt8.ofNat_toNat]

/-- The bytes of a form are those of a character. -/
theorem Form.encode_eq {form : List UInt8} {n : Nat} (h : Form form n) :
    String.utf8EncodeChar (.ofNat n) = form := by
  rw [utf8EncodeChar_ofNat h.isValidChar]
  cases h with
  | one first =>
      rw [width?_eq_some] at first
      rw [if_pos (by omega), UInt8.ofNat_toNat]
  | @two a b first next =>
      rw [width?_eq_some] at first
      rw [second_iff] at next
      unfold join
      rw [if_neg (by omega), if_pos (by omega), ofNat_eq (b := a) (by omega),
        ofNat_eq (b := b) (by omega)]
  | @three a b c first next third =>
      rw [width?_eq_some] at first
      rw [second_iff] at next
      rw [isTail_iff] at third
      unfold join
      rw [if_neg (by omega), if_neg (by omega), if_pos (by omega), ofNat_eq (b := a) (by omega),
        ofNat_eq (b := b) (by omega), ofNat_eq (b := c) (by omega)]
  | @four a b c d first next third fourth =>
      rw [width?_eq_some] at first
      rw [second_iff] at next
      rw [isTail_iff] at third fourth
      unfold join
      rw [if_neg (by omega), if_neg (by omega), if_neg (by omega), ofNat_eq (b := a) (by omega),
        ofNat_eq (b := b) (by omega), ofNat_eq (b := c) (by omega), ofNat_eq (b := d) (by omega)]

theorem toNat_ofNat_of_lt {m : Nat} (h : m < 256) : (UInt8.ofNat m).toNat = m := by
  rw [UInt8.toNat_ofNat', Nat.mod_eq_of_lt h]

/-- The bytes of a character are a form. -/
theorem form_encode (c : Char) : Form (String.utf8EncodeChar c) c.toNat := by
  have hValid : c.toNat.isValidChar := c.valid
  have hEncode := utf8EncodeChar_ofNat hValid
  rw [Char.ofNat_toNat] at hEncode
  rw [hEncode]
  unfold Nat.isValidChar at hValid
  generalize c.toNat = n at hValid
  have hLow : (UInt8.ofNat (n % 64 + 128)).toNat = n % 64 + 128 := toNat_ofNat_of_lt (by omega)
  have hMiddle : (UInt8.ofNat (n / 64 % 64 + 128)).toNat = n / 64 % 64 + 128 :=
    toNat_ofNat_of_lt (by omega)
  split_ifs with hOne hTwo hThree
  · have hFirst : (UInt8.ofNat n).toNat = n := toNat_ofNat_of_lt (by omega)
    have hForm := Form.one (a := .ofNat n) (by rw [width?_eq_some]; omega)
    rwa [hFirst] at hForm
  · have hFirst : (UInt8.ofNat (n / 64 % 32 + 192)).toNat = n / 64 % 32 + 192 :=
      toNat_ofNat_of_lt (by omega)
    have hNat : join ((UInt8.ofNat (n / 64 % 32 + 192)).toNat % 32) (.ofNat (n % 64 + 128)) = n := by
      unfold join
      omega
    have hForm := Form.two (a := .ofNat (n / 64 % 32 + 192)) (b := .ofNat (n % 64 + 128))
      (by rw [width?_eq_some]; omega) (by rw [second_iff]; omega)
    rwa [hNat] at hForm
  · have hFirst : (UInt8.ofNat (n / 4096 % 16 + 224)).toNat = n / 4096 % 16 + 224 :=
      toNat_ofNat_of_lt (by omega)
    have hNat : join (join ((UInt8.ofNat (n / 4096 % 16 + 224)).toNat % 16)
        (.ofNat (n / 64 % 64 + 128))) (.ofNat (n % 64 + 128)) = n := by
      unfold join
      omega
    have hForm := Form.three (a := .ofNat (n / 4096 % 16 + 224))
      (b := .ofNat (n / 64 % 64 + 128)) (c := .ofNat (n % 64 + 128))
      (by rw [width?_eq_some]; omega) (by rw [second_iff]; omega) (by rw [isTail_iff]; omega)
    rwa [hNat] at hForm
  · have hFirst : (UInt8.ofNat (n / 262144 % 8 + 240)).toNat = n / 262144 % 8 + 240 :=
      toNat_ofNat_of_lt (by omega)
    have hSecond : (UInt8.ofNat (n / 4096 % 64 + 128)).toNat = n / 4096 % 64 + 128 :=
      toNat_ofNat_of_lt (by omega)
    have hNat : join (join (join ((UInt8.ofNat (n / 262144 % 8 + 240)).toNat % 8)
        (.ofNat (n / 4096 % 64 + 128))) (.ofNat (n / 64 % 64 + 128)))
          (.ofNat (n % 64 + 128)) = n := by
      unfold join
      omega
    have hForm := Form.four (a := .ofNat (n / 262144 % 8 + 240))
      (b := .ofNat (n / 4096 % 64 + 128)) (c := .ofNat (n / 64 % 64 + 128))
      (d := .ofNat (n % 64 + 128)) (by rw [width?_eq_some]; omega) (by rw [second_iff]; omega)
      (by rw [isTail_iff]; omega) (by rw [isTail_iff]; omega)
    rwa [hNat] at hForm

/-- A byte below 0x80 stands for itself and nothing else. -/
theorem Form.eq_of_mem {form : List UInt8} {n : Nat} (h : Form form n) {b : UInt8}
    (hMem : b ∈ form) (hSingle : b.toNat < 0x80) : form = [b] ∧ n = b.toNat := by
  cases h with
  | one first =>
      rw [List.mem_singleton] at hMem
      rw [hMem]
      exact ⟨rfl, rfl⟩
  | two first next =>
      rw [width?_eq_some] at first
      rw [second_iff] at next
      simp only [List.mem_cons, List.not_mem_nil, or_false] at hMem
      rcases hMem with rfl | rfl <;> omega
  | three first next third =>
      rw [width?_eq_some] at first
      rw [second_iff] at next
      rw [isTail_iff] at third
      simp only [List.mem_cons, List.not_mem_nil, or_false] at hMem
      rcases hMem with rfl | rfl | rfl <;> omega
  | four first next third fourth =>
      rw [width?_eq_some] at first
      rw [second_iff] at next
      rw [isTail_iff] at third fourth
      simp only [List.mem_cons, List.not_mem_nil, or_false] at hMem
      rcases hMem with rfl | rfl | rfl | rfl <;> omega

/-- A byte below 0x80 comes from its own character only. -/
theorem eq_of_mem_encode {c : Char} {b : UInt8} (h : b ∈ String.utf8EncodeChar c)
    (hSingle : b.toNat < 0x80) : c = .ofNat b.toNat := by
  rw [← ((form_encode c).eq_of_mem h hSingle).2, Char.ofNat_toNat]

theorem decodeFrom_form {form : List UInt8} {n : Nat} (h : Form form n) (index : Nat)
    (rest : List UInt8) :
    decodeFrom index (form ++ rest) =
      (decodeFrom (index + form.length) rest).map (.ofNat n :: ·) := by
  cases h with
  | one first =>
      simp only [List.cons_append, List.nil_append, decodeFrom, first]
      rfl
  | two first next =>
      simp only [List.cons_append, List.nil_append, decodeFrom, first, next]
      rfl
  | three first next third =>
      simp only [List.cons_append, List.nil_append, decodeFrom, first, next, third]
      rfl
  | four first next third fourth =>
      simp only [List.cons_append, List.nil_append, decodeFrom, first, next, third, fourth]
      rfl

theorem eq_cons_of_bind {E α : Type} {x : Except E (List α)} {a : α} {all : List α}
    (h : (do let later ← x; pure (a :: later)) = .ok all) :
    ∃ later, x = .ok later ∧ all = a :: later := by
  cases x with
  | error error => cases h
  | ok later => exact ⟨later, rfl, (Except.ok.inj h).symm⟩

/-- What is decoded has the bytes. -/
theorem encode_of_decodeFrom {index : Nat} {bytes : List UInt8} {cs : List Char}
    (h : decodeFrom index bytes = .ok cs) : cs.flatMap String.utf8EncodeChar = bytes := by
  fun_induction decodeFrom index bytes generalizing cs with
  | case1 index =>
      cases h
      rfl
  | case2 index a rest first ih =>
      obtain ⟨later, hLater, rfl⟩ := eq_cons_of_bind h
      rw [List.flatMap_cons, ih hLater, (Form.one first).encode_eq]
      rfl
  | case3 index a b rest first next ih =>
      obtain ⟨later, hLater, rfl⟩ := eq_cons_of_bind h
      rw [List.flatMap_cons, ih hLater, (Form.two first next).encode_eq]
      rfl
  | case5 index a b first next c rest third ih =>
      obtain ⟨later, hLater, rfl⟩ := eq_cons_of_bind h
      rw [List.flatMap_cons, ih hLater, (Form.three first next third).encode_eq]
      rfl
  | case9 index a b first next c third d rest fourth ih =>
      obtain ⟨later, hLater, rfl⟩ := eq_cons_of_bind h
      rw [List.flatMap_cons, ih hLater, (Form.four first next third fourth).encode_eq]
      rfl
  | _ => cases h

/-- The bytes of characters are decoded to them. -/
theorem decodeFrom_encode (index : Nat) (cs : List Char) :
    decodeFrom index (cs.flatMap String.utf8EncodeChar) = .ok cs := by
  induction cs generalizing index with
  | nil => rfl
  | cons c cs ih =>
      rw [List.flatMap_cons, decodeFrom_form (form_encode c), ih, Char.ofNat_toNat]
      rfl

/-- Bytes are decoded to the text that has them. -/
theorem decode_eq_ok_iff {bytes : List UInt8} {text : String} :
    decode bytes = .ok text ↔ encoded text = bytes := by
  constructor
  · intro h
    unfold decode at h
    cases hBytes : decodeFrom 0 bytes with
    | error fault =>
        rw [hBytes] at h
        cases h
    | ok cs =>
        rw [hBytes] at h
        cases h
        rw [encoded_ofList, encode_of_decodeFrom hBytes]
  · rintro rfl
    rw [← String.ofList_toList (s := text), encoded_ofList, decode, decodeFrom_encode]
    rfl

end RpcTransport.Text.Utf8
