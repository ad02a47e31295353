import RpcTransport.Json.Printer
import RpcTransport.Json.Reader

namespace RpcTransport

/-- What comes after a success saw its value. -/
theorem bind_ok {ε α β : Type} {x : Except ε α} {f : α → Except ε β} {b : β}
    (h : x >>= f = .ok b) : ∃ a, x = .ok a ∧ f a = .ok b := by
  cases x with
  | error fault => cases h
  | ok a => exact ⟨a, rfl, h⟩

theorem eq_ok_of_toOption {ε α : Type} {x : Except ε α} {a : α} (h : x.toOption = some a) :
    x = .ok a := by
  cases x with
  | error fault => cases h
  | ok b => cases h; rfl

namespace Json.Reader

/-- The reading takes some characters off the text, none of them a control
character, and would do so whatever followed them. -/
def Takes {α : Type} (reading : List Char → Except Fault (α × List Char)) (cs : List Char)
    (a : α) (rest : List Char) : Prop :=
  ∃ taken, cs = taken ++ rest ∧ (∀ c ∈ taken, 0x20 ≤ c.toNat) ∧
    ∀ behind, reading (taken ++ behind) = .ok (a, behind)

theorem word_split {value json : Json} {expected cs rest : List Char}
    (h : word value expected cs = .ok (json, rest)) : json = value ∧ cs = expected ++ rest := by
  induction expected generalizing cs with
  | nil =>
      cases h
      exact ⟨rfl, rfl⟩
  | cons e es ih =>
      cases cs with
      | nil => cases h
      | cons c cs =>
          rw [word] at h
          split at h
          · subst c
            obtain ⟨rfl, rfl⟩ := ih h
            exact ⟨rfl, rfl⟩
          · cases h

theorem word_append (value : Json) (expected behind : List Char) :
    word value expected (expected ++ behind) = .ok (value, behind) := by
  induction expected with
  | nil => rfl
  | cons e es ih => rw [List.cons_append, word, if_pos rfl, ih]

theorem visible_of_hexValue? {c : Char} {n : Nat} (h : hexValue? c = some n) :
    0x20 ≤ c.toNat := by
  unfold hexValue? at h
  split at h
  · rename_i hc
    simp only [Char.isDigit, Bool.and_eq_true, decide_eq_true_eq] at hc
    have : '0'.toNat ≤ c.toNat := hc.1
    exact Nat.le_trans (by decide) this
  · split at h
    · rename_i hc
      have : 'a'.toNat ≤ c.toNat := hc.1
      exact Nat.le_trans (by decide) this
    · split at h
      · rename_i hc
        have : 'A'.toNat ≤ c.toNat := hc.1
        exact Nat.le_trans (by decide) this
      · cases h

theorem hex_takes {cs rest : List Char} {unit : Nat} (h : hex cs = .ok (unit, rest)) :
    Takes hex cs unit rest := by
  unfold hex at h
  split at h
  · rename_i a b c d hDigits
    cases h
    rcases cs with _ | ⟨w, _ | ⟨x, _ | ⟨y, _ | ⟨z, rest⟩⟩⟩⟩ <;>
      simp [List.mapM_cons, Option.bind_eq_some_iff] at hDigits
    obtain ⟨hw, hx, hy, hz⟩ := hDigits
    refine ⟨[w, x, y, z], rfl, ?_, fun behind => ?_⟩
    · simp only [List.forall_mem_cons]
      exact ⟨visible_of_hexValue? hw, visible_of_hexValue? hx, visible_of_hexValue? hy,
        visible_of_hexValue? hz, nofun⟩
    · simp [hex, hw, hx, hy, hz]
  · split at h <;> cases h

theorem between_ok {c : Char} {cs rest : List Char} (h : between c cs = .ok rest) :
    cs = c :: rest := by
  cases cs with
  | nil => cases h
  | cons d cs =>
      rw [between] at h
      split at h
      · subst d
        cases h
        rfl
      · cases h

theorem between_cons (c : Char) (behind : List Char) : between c (c :: behind) = .ok behind := by
  rw [between, if_pos rfl]

theorem codeUnits_takes {cs rest : List Char} {d : Char} (h : codeUnits cs = .ok (d, rest)) :
    Takes codeUnits cs d rest := by
  obtain ⟨⟨unit, behindUnit⟩, hUnit, hRest⟩ := bind_ok h
  obtain ⟨lead, rfl, hLead, hLeadReading⟩ := hex_takes hUnit
  dsimp only at hRest
  split at hRest
  · cases hRest
  rename_i hTrailing
  split at hRest
  · rename_i hLeading
    obtain ⟨behindSlash, hSlash, hRest⟩ := bind_ok hRest
    obtain ⟨behindLetter, hLetter, hRest⟩ := bind_ok hRest
    obtain ⟨⟨trail, behindTrail⟩, hTrail, hPair⟩ := bind_ok hRest
    obtain ⟨second, rfl, hSecond, hSecondReading⟩ := hex_takes hTrail
    cases between_ok hLetter
    cases between_ok hSlash
    dsimp only at hPair
    split at hPair
    · rename_i hTrail
      obtain ⟨rfl, rfl⟩ := Prod.mk.inj (Except.ok.inj hPair)
      refine ⟨lead ++ '\\' :: 'u' :: second, by simp, ?_, fun behind => ?_⟩
      · intro c hc
        simp only [List.mem_append, List.mem_cons] at hc
        rcases hc with hc | rfl | rfl | hc
        · exact hLead c hc
        · decide
        · decide
        · exact hSecond c hc
      · rw [List.append_assoc, codeUnits, hLeadReading]
        simp only [bind, Except.bind, hTrailing, hLeading, Bool.false_eq_true, ite_false, ite_true,
          List.cons_append, between_cons, hSecondReading, hTrail]
        rfl
    · cases hPair
  · rename_i hLeading
    cases hRest
    refine ⟨lead, rfl, hLead, fun behind => ?_⟩
    rw [codeUnits, hLeadReading]
    simp only [bind, Except.bind, hTrailing, hLeading]
    rfl

theorem visible_of_letter? {c d : Char} (h : letter? c = some d) : 0x20 ≤ c.toNat := by
  unfold letter? at h
  split at h <;> first | decide | cases h

theorem escape_takes {cs rest : List Char} {d : Char} (h : escape cs = .ok (d, rest)) :
    Takes escape cs d rest := by
  cases cs with
  | nil => cases h
  | cons c cs =>
      rw [escape] at h
      split at h
      · subst c
        obtain ⟨taken, rfl, hTaken, hReading⟩ := codeUnits_takes h
        refine ⟨'u' :: taken, rfl, List.forall_mem_cons.mpr ⟨by decide, hTaken⟩, fun behind => ?_⟩
        rw [List.cons_append, escape, if_pos rfl, hReading]
      · rename_i hc
        cases hLetter : letter? c with
        | none => rw [hLetter] at h; cases h
        | some e =>
            rw [hLetter] at h
            cases h
            refine ⟨[c], rfl, List.forall_mem_singleton.mpr (visible_of_letter? hLetter),
              fun behind => ?_⟩
            rw [List.singleton_append, escape, if_neg hc, hLetter]

theorem escape_append {code : List Char} {d : Char} (h : escape code = .ok (d, []))
    (behind : List Char) : escape (code ++ behind) = .ok (d, behind) := by
  obtain ⟨taken, rfl, -, hReading⟩ := escape_takes h
  rw [List.append_nil]
  exact hReading behind

theorem visible_of_escape {code : List Char} {d : Char} (h : escape code = .ok (d, [])) :
    ∀ c ∈ code, 0x20 ≤ c.toNat := by
  obtain ⟨taken, rfl, hVisible, -⟩ := escape_takes h
  rwa [List.append_nil]

/-- The text between the quotes of a string, and the characters that it stands for. -/
inductive Quoted : List Char → List Char → Prop
  | nil : Quoted [] []
  | escape {code body ds : List Char} {d : Char} (hCode : Reader.escape code = .ok (d, []))
      (hBody : Quoted body ds) : Quoted ('\\' :: (code ++ body)) (d :: ds)
  | char {body ds : List Char} {c : Char} (hQuote : c ≠ '"') (hSlash : c ≠ '\\')
      (hVisible : 0x20 ≤ c.toNat) (hBody : Quoted body ds) : Quoted (c :: body) (c :: ds)

namespace Quoted

variable {body ds : List Char}

theorem visible (h : Quoted body ds) : ∀ c ∈ body, 0x20 ≤ c.toNat := by
  induction h with
  | nil =>
      intro c hNone
      cases hNone
  | escape hCode _ ih =>
      refine List.forall_mem_cons.mpr ⟨by decide, fun c hc => ?_⟩
      exact (List.mem_append.mp hc).elim (visible_of_escape hCode c) (ih c)
  | char _ _ hVisible _ ih => exact List.forall_mem_cons.mpr ⟨hVisible, ih⟩

/-- The characters are read from the text, given room for all of it. -/
theorem characters_eq (h : Quoted body ds) (behind : List Char) {room : Nat}
    (hRoom : body.length < room) :
    characters room (body ++ '"' :: behind) = .ok (ds, behind) := by
  induction h generalizing room with
  | nil =>
      obtain ⟨room, rfl⟩ := Nat.exists_eq_add_of_lt hRoom
      rw [List.nil_append, characters, if_pos rfl]
  | @escape code body ds d hCode _ ih =>
      cases room with
      | zero => cases hRoom
      | succ room =>
          have hShort : body.length < room := by
            simp only [List.length_cons, List.length_append] at hRoom
            omega
          rw [List.cons_append, List.append_assoc, characters, if_neg (by decide), if_pos rfl,
            escape_append hCode]
          simp only [bind, Except.bind, ih hShort]
          rfl
  | char hQuote hSlash hVisible _ ih =>
      cases room with
      | zero => cases hRoom
      | succ room =>
          rw [List.cons_append, characters, if_neg hQuote, if_neg hSlash,
            if_neg (Nat.not_lt_of_le hVisible), ih (Nat.lt_of_succ_lt_succ hRoom)]
          rfl

end Quoted

/-- The characters of a string are read from the text before its closing quote. -/
theorem characters_split {fuel : Nat} {cs rest ds : List Char}
    (h : characters fuel cs = .ok (ds, rest)) :
    ∃ body, cs = body ++ '"' :: rest ∧ Quoted body ds := by
  induction fuel generalizing cs ds with
  | zero => cases h
  | succ fuel ih =>
      cases cs with
      | nil => cases h
      | cons c cs =>
          rw [characters] at h
          split at h
          · subst c
            cases h
            exact ⟨[], rfl, .nil⟩
          rename_i hQuote
          split at h
          · subst c
            obtain ⟨⟨d, behindCode⟩, hEscape, h⟩ := bind_ok h
            obtain ⟨⟨es, behindBody⟩, hMore, h⟩ := bind_ok h
            cases h
            obtain ⟨code, rfl, -, hReading⟩ := escape_takes hEscape
            obtain ⟨body, rfl, hBody⟩ := ih hMore
            have hCode : escape code = .ok (d, []) := by
              have hAlone := hReading []
              rwa [List.append_nil] at hAlone
            exact ⟨'\\' :: (code ++ body), by simp, .escape hCode hBody⟩
          rename_i hSlash
          split at h
          · cases h
          rename_i hVisible
          obtain ⟨⟨es, behindBody⟩, hMore, h⟩ := bind_ok h
          cases h
          obtain ⟨body, rfl, hBody⟩ := ih hMore
          exact ⟨c :: body, rfl, .char hQuote hSlash (Nat.le_of_not_lt hVisible) hBody⟩

theorem Quoted.string_eq {s : String} {body : List Char} (h : Quoted body s.toList)
    (behind : List Char) : string (body ++ '"' :: behind) = .ok (s, behind) := by
  rw [string, h.characters_eq behind (by rw [List.length_append]; omega)]
  simp [bind, Except.bind, pure, Except.pure]

/-- A string is read from the text between its quotes. -/
theorem string_split {cs rest : List Char} {s : String} (h : string cs = .ok (s, rest)) :
    ∃ body, cs = body ++ '"' :: rest ∧ Quoted body s.toList := by
  obtain ⟨⟨ds, behindQuote⟩, hCharacters, h⟩ := bind_ok h
  cases h
  obtain ⟨body, rfl, hBody⟩ := characters_split hCharacters
  refine ⟨body, rfl, ?_⟩
  rwa [String.toList_ofList]

theorem codeUnits_control : ∀ n : Fin 0x20,
    (codeUnits ['0', '0', digit (n / 16), digit (n % 16)]).toOption = some (.ofNat n, []) := by
  decide +kernel

/-- A character that is not printed as it is has an escape. -/
theorem Quoted.escaped_append (c : Char) {body ds : List Char} (h : Quoted body ds) :
    Quoted (escaped c ++ body) (c :: ds) := by
  unfold escaped
  split
  case h_8 hQuote hSlash _ _ _ _ _ =>
    split
    · rename_i hControl
      have hUnits := codeUnits_control ⟨c.toNat, hControl⟩
      rw [Char.ofNat_toNat] at hUnits
      exact .escape (eq_ok_of_toOption hUnits) h
    · exact .char hQuote hSlash (Nat.le_of_not_lt ‹_›) h
  all_goals exact .escape rfl h

theorem quoted_escaped (cs : List Char) : Quoted (cs.flatMap escaped) cs := by
  induction cs with
  | nil => exact .nil
  | cons c cs ih => exact ih.escaped_append c

theorem visible_of_mem_stringText {s : String} {c : Char} (h : c ∈ stringText s) :
    0x20 ≤ c.toNat := by
  rw [stringText, List.cons_append, List.mem_cons, List.mem_append, List.mem_singleton] at h
  rcases h with rfl | h | rfl
  · decide
  · exact (quoted_escaped s.toList).visible c h
  · decide

end Json.Reader

end RpcTransport
