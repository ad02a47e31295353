import Mathlib.Data.List.DropRight
import RpcTransport.Proofs.Json.Grammar
import RpcTransport.Text.Blank

/-! Moving line ends. In a text that is JSON a line feed stands between two tokens. -/
namespace RpcTransport.Json

open Text (isBlank trimmed)

/-- The second text is the first with other line ends. A gap that holds a line feed may
hold any white space of Unicode, but stands for white space of JSON. -/
inductive Reflows : List Char → List Char → Prop
  | nil : Reflows [] []
  | char {cs ds : List Char} (c : Char) (rest : Reflows cs ds) : Reflows (c :: cs) (c :: ds)
  | gap {cs ds old new : List Char} (hBlank : ∀ c ∈ old, isBlank c) (hFeed : '\n' ∈ old)
      (hSome : new ≠ []) (hSpace : ∀ c ∈ new, Reader.isSpace c) (rest : Reflows cs ds) :
      Reflows (old ++ cs) (new ++ ds)

theorem isBlank_of_isSpace {c : Char} (h : Reader.isSpace c) : isBlank c := by
  simp only [Reader.isSpace, Bool.or_eq_true, beq_iff_eq] at h
  obtain ((rfl | rfl) | rfl) | rfl := h <;> decide

namespace Reflows

theorem refl (cs : List Char) : Reflows cs cs := by
  induction cs with
  | nil => exact .nil
  | cons c cs ih => exact .char c ih

theorem append {as bs cs ds : List Char} (h : Reflows as bs) (hRest : Reflows cs ds) :
    Reflows (as ++ cs) (bs ++ ds) := by
  induction h with
  | nil => exact hRest
  | char c _ ih => exact .char c ih
  | gap hBlank hFeed hSome hSpace _ ih =>
      rw [List.append_assoc, List.append_assoc]
      exact .gap hBlank hFeed hSome hSpace ih

/-- A line feed is white space that may stand for a gap. -/
theorem isSpace_feed : ∀ c ∈ ['\n'], Reader.isSpace c :=
  List.forall_mem_singleton.mpr rfl

/-- One gap alone. -/
theorem single {old new : List Char} (hBlank : ∀ c ∈ old, isBlank c) (hFeed : '\n' ∈ old)
    (hSome : new ≠ []) (hSpace : ∀ c ∈ new, Reader.isSpace c) : Reflows old new := by
  have h := gap hBlank hFeed hSome hSpace nil
  rwa [List.append_nil, List.append_nil] at h

theorem reverse {cs ds : List Char} (h : Reflows cs ds) : Reflows cs.reverse ds.reverse := by
  induction h with
  | nil => exact .nil
  | char c _ ih =>
      rw [List.reverse_cons, List.reverse_cons]
      exact ih.append (refl [c])
  | gap hBlank hFeed hSome hSpace _ ih =>
      rw [List.reverse_append, List.reverse_append]
      refine ih.append (single ?_ ?_ ?_ ?_)
      · simpa using hBlank
      · simpa using hFeed
      · simpa using hSome
      · simpa using hSpace

theorem dropWhile {cs ds : List Char} (h : Reflows cs ds) :
    Reflows (cs.dropWhile isBlank) (ds.dropWhile isBlank) := by
  induction h with
  | nil => exact .nil
  | char c rest ih =>
      cases hc : isBlank c with
      | true =>
          rw [List.dropWhile_cons_of_pos hc, List.dropWhile_cons_of_pos hc]
          exact ih
      | false =>
          rw [List.dropWhile_cons_of_neg (by simp [hc]), List.dropWhile_cons_of_neg (by simp [hc])]
          exact .char c rest
  | gap hBlank _ _ hSpace _ ih =>
      rw [List.dropWhile_append_of_pos hBlank,
        List.dropWhile_append_of_pos fun c hc => isBlank_of_isSpace (hSpace c hc)]
      exact ih

theorem trimmed {cs ds : List Char} (h : Reflows cs ds) : Reflows (trimmed cs) (trimmed ds) :=
  h.dropWhile.reverse.dropWhile.reverse

/-- What stands before a token is white space on both sides, or is no JSON. -/
theorem skipSpace {cs ds : List Char} (h : Reflows cs ds) :
    (∃ c rest, Reader.skipSpace cs = c :: rest ∧ isBlank c) ∨
      Reflows (Reader.skipSpace cs) (Reader.skipSpace ds) := by
  induction h with
  | nil => exact .inr .nil
  | @char cs ds c rest ih =>
      cases hSpace : Reader.isSpace c with
      | true =>
          have hSkip (es : List Char) : Reader.skipSpace (c :: es) = Reader.skipSpace es :=
            List.dropWhile_cons_of_pos hSpace
          rwa [hSkip, hSkip]
      | false =>
          have hSkip (es : List Char) : Reader.skipSpace (c :: es) = c :: es :=
            List.dropWhile_cons_of_neg (by simp [hSpace])
          rw [hSkip, hSkip]
          exact .inr (.char c rest)
  | @gap cs ds old new hBlank _ _ hSpace _ ih =>
      have hNew : Reader.skipSpace (new ++ ds) = Reader.skipSpace ds :=
        List.dropWhile_append_of_pos hSpace
      cases hOld : old.dropWhile Reader.isSpace with
      | nil =>
          have hSkip : Reader.skipSpace (old ++ cs) = Reader.skipSpace cs :=
            List.dropWhile_append_of_pos (List.dropWhile_eq_nil_iff.mp hOld)
          rwa [hSkip, hNew]
      | cons c rest =>
          refine .inl ⟨c, rest ++ cs, ?_, hBlank c ?_⟩
          · rw [Reader.skipSpace, List.dropWhile_append, hOld]
            rfl
          · exact (List.dropWhile_suffix _).subset (hOld ▸ List.mem_cons_self)

theorem eq_nil {ds : List Char} (h : Reflows [] ds) : ds = [] := by
  generalize hNil : [] = cs at h
  cases h with
  | nil => rfl
  | char c rest => cases hNil
  | gap _ hFeed =>
      have hOld := (List.append_eq_nil_iff.mp hNil.symm).1
      rw [hOld] at hFeed
      cases hFeed

/-- A character that is not white space stays. -/
theorem cons {c : Char} {cs ds : List Char} (hc : isBlank c = false) (h : Reflows (c :: cs) ds) :
    ∃ es, ds = c :: es ∧ Reflows cs es := by
  generalize hAll : c :: cs = all at h
  cases h with
  | nil => cases hAll
  | char d rest =>
      cases hAll
      exact ⟨_, rfl, rest⟩
  | @gap _ _ old _ hBlank hFeed =>
      cases old with
      | nil => cases hFeed
      | cons d old =>
          cases hAll
          have := hBlank c List.mem_cons_self
          rw [hc] at this
          cases this

/-- Characters that are not white space stay. -/
theorem token {token cs ds : List Char} (hToken : ∀ c ∈ token, isBlank c = false)
    (h : Reflows (token ++ cs) ds) : ∃ es, ds = token ++ es ∧ Reflows cs es := by
  induction token generalizing ds with
  | nil => exact ⟨ds, rfl, h⟩
  | cons c token ih =>
      obtain ⟨rest, rfl, hRest⟩ := cons (hToken c List.mem_cons_self) h
      obtain ⟨es, rfl, hBehind⟩ := ih (fun d hd => hToken d (List.mem_cons_of_mem c hd)) hRest
      exact ⟨es, rfl, hBehind⟩

/-- A stretch without a line feed stays if it ends in no white space. -/
theorem line {line cs ds : List Char} {c : Char} (hLine : '\n' ∉ line) (hc : isBlank c = false)
    (h : Reflows (line ++ c :: cs) ds) : ∃ es, ds = line ++ c :: es ∧ Reflows cs es := by
  induction line generalizing ds with
  | nil => exact cons hc h
  | cons d line ih =>
      generalize hAll : d :: line ++ c :: cs = all at h
      cases h with
      | nil => cases hAll
      | char e rest =>
          cases hAll
          obtain ⟨es, rfl, hBehind⟩ := ih (fun hd => hLine (List.mem_cons_of_mem d hd)) rest
          exact ⟨es, rfl, hBehind⟩
      | @gap _ _ old _ hBlank hFeed =>
          -- the gap holds a line feed, so it would reach as far as `c`
          rcases List.append_eq_append_iff.mp hAll with ⟨more, hOld, hMore⟩ | ⟨more, hLong, -⟩
          · cases more with
            | nil =>
                rw [List.append_nil] at hOld
                exact absurd (hOld ▸ hFeed) hLine
            | cons e more =>
                cases hMore
                have hIn := hBlank c (hOld ▸ List.mem_append_right _ List.mem_cons_self)
                rw [hc] at hIn
                cases hIn
          · exact absurd (hLong ▸ List.mem_append_left _ hFeed) hLine

/-- A number that ends still ends. -/
theorem stops {cs ds : List Char} (h : Reflows cs ds) (hStops : Numeral.Stops cs) :
    Numeral.Stops ds := by
  cases h with
  | nil => exact Numeral.stops_nil
  | char c rest => exact Numeral.stops_cons (hStops c _ rfl) _
  | @gap _ _ _ new _ _ hSome hSpace _ =>
      cases new with
      | nil => exact absurd rfl hSome
      | cons c new =>
          exact Numeral.stops_cons (Reader.continues_of_isSpace (hSpace c List.mem_cons_self)) _

end Reflows

namespace Reader

theorem isBlank_of_continues {c : Char} (h : Numeral.continues c) : isBlank c = false := by
  simp only [Numeral.continues, Bool.or_eq_true, beq_iff_eq] at h
  obtain ((((h | rfl) | rfl) | rfl) | rfl) | rfl := h
  · simp only [Char.isDigit, Bool.and_eq_true, decide_eq_true_eq] at h
    have hLeast : 48 ≤ c.toNat := h.1
    have hGreatest : c.toNat ≤ 57 := h.2
    simp [isBlank]
    omega
  all_goals decide

theorem IsNumeral.continues {numeral : List Char} {n : Number} (h : IsNumeral numeral n) :
    ∀ c ∈ numeral, Numeral.continues c := by
  have hRead {negative : Bool} {digits : List Char}
      (h : Numeral.read negative digits = .ok (n, [])) : ∀ c ∈ digits, Numeral.continues c := by
    obtain ⟨numeral, rfl, -, hContinues, -⟩ := Numeral.read_split h Numeral.stops_nil
    rwa [List.append_nil]
  cases h with
  | unsigned _ h => exact hRead h
  | negative h => exact List.forall_mem_cons.mpr ⟨rfl, hRead h⟩

theorem isBlank_of_isWord {c : Char} {letters : List Char} {json : Json}
    (h : IsWord c letters json) : ∀ d ∈ c :: letters, isBlank d = false := by
  have hAll : (c :: letters).all (fun d => !isBlank d) = true := by cases h <;> decide
  simpa using hAll

theorem Quoted.no_feed {body ds : List Char} (h : Quoted body ds) : '\n' ∉ body :=
  fun hFeed => absurd (h.visible _ hFeed) (by decide)

/-- The first character of a value is no white space of any kind. -/
theorem Reads.head_value {depth : Nat} {cs behind : List Char} {json : Json}
    (h : Reads depth cs (.value json) behind) :
    ∃ c rest, skipSpace cs = c :: rest ∧ isBlank c = false := by
  cases h with
  | word hToken hWord => exact ⟨_, _, hToken, isBlank_of_isWord hWord _ List.mem_cons_self⟩
  | @number _ _ numeral _ _ hToken hNumeral =>
      cases numeral with
      | nil => exact absurd rfl hNumeral.ne_nil
      | cons c digits =>
          exact ⟨_, _, hToken, isBlank_of_continues (hNumeral.continues c List.mem_cons_self)⟩
  | string hToken _ => exact ⟨_, _, hToken, rfl⟩
  | array hToken _ => exact ⟨_, _, hToken, rfl⟩
  | object hToken _ => exact ⟨_, _, hToken, rfl⟩

/-- Where a token begins, both texts go on alike. -/
theorem skipSpace_of_reflows {cs ds rest : List Char} {c : Char} (h : Reflows cs ds)
    (hToken : skipSpace cs = c :: rest) (hc : isBlank c = false) :
    Reflows (c :: rest) (skipSpace ds) := by
  obtain ⟨d, more, hBlank, hd⟩ | hSkip := h.skipSpace
  · rw [hToken] at hBlank
    cases hBlank
    rw [hc] at hd
    cases hd
  · rwa [hToken] at hSkip

/-- A mark is found again. -/
theorem mark_of_reflows {cs ds rest : List Char} {c : Char} (h : Reflows cs ds)
    (hToken : skipSpace cs = c :: rest) (hc : isBlank c = false) :
    ∃ behind, skipSpace ds = c :: behind ∧ Reflows rest behind :=
  (skipSpace_of_reflows h hToken hc).cons hc

/-- The first character of an item is found again, and the item can be read from there. -/
theorem first_of_reflows {depth : Nat} {cs ds first next : List Char} {c : Char} {item : Json}
    (h : Reflows cs ds) (hToken : skipSpace cs = c :: first)
    (hItem : Reads depth (c :: first) (.value item) next) :
    ∃ later, skipSpace ds = c :: later ∧ Reflows (c :: first) (c :: later) := by
  obtain ⟨d, rest, hAgain, hd⟩ := hItem.head_value
  have hSame : c :: first = d :: rest := by
    rw [← hAgain, ← hToken, skipSpace, skipSpace, List.dropWhile_idempotent]
  cases hSame
  obtain ⟨later, hLater, hBehind⟩ := mark_of_reflows h hToken hd
  exact ⟨later, hLater, .char c hBehind⟩

/-- Moving line ends changes nothing in what is read. -/
theorem reads_of_reflows {depth : Nat} {cs ds behind : List Char} {parsed : Parsed}
    (hReads : Reads depth cs parsed behind) (h : Reflows cs ds) :
    ∃ after, Reads depth ds parsed after ∧ Reflows behind after := by
  induction hReads generalizing ds with
  | word hToken hWord =>
      have hSkip := skipSpace_of_reflows h hToken (isBlank_of_isWord hWord _ List.mem_cons_self)
      obtain ⟨after, hAfter, hBehind⟩ := hSkip.token (isBlank_of_isWord hWord)
      exact ⟨after, .word hAfter hWord, hBehind⟩
  | @number _ _ numeral _ _ hToken hNumeral hStops =>
      have hChars : ∀ c ∈ numeral, isBlank c = false :=
        fun c hc => isBlank_of_continues (hNumeral.continues c hc)
      cases numeral with
      | nil => exact absurd rfl hNumeral.ne_nil
      | cons c digits =>
          have hSkip := skipSpace_of_reflows h hToken (hChars c List.mem_cons_self)
          obtain ⟨after, hAfter, hBehind⟩ := hSkip.token hChars
          exact ⟨after, .number hAfter hNumeral (hBehind.stops hStops), hBehind⟩
  | string hToken hString =>
      obtain ⟨rest, hRest, hBody⟩ := mark_of_reflows h hToken rfl
      obtain ⟨after, rfl, hBehind⟩ := hBody.line hString.no_feed rfl
      exact ⟨after, .string hRest hString, hBehind⟩
  | array hToken _ ih =>
      obtain ⟨inside, hInside, hRest⟩ := mark_of_reflows h hToken rfl
      obtain ⟨after, hItems, hBehind⟩ := ih hRest
      exact ⟨after, .array hInside hItems, hBehind⟩
  | object hToken _ ih =>
      obtain ⟨inside, hInside, hRest⟩ := mark_of_reflows h hToken rfl
      obtain ⟨after, hMembers, hBehind⟩ := ih hRest
      exact ⟨after, .object hInside hMembers, hBehind⟩
  | noItems hToken =>
      obtain ⟨after, hAfter, hBehind⟩ := mark_of_reflows h hToken rfl
      exact ⟨after, .noItems hAfter, hBehind⟩
  | items hToken hOpen hItem _ ihItem ihMore =>
      obtain ⟨later, hLater, hFirst⟩ := first_of_reflows h hToken hItem
      obtain ⟨next, hNext, hRest⟩ := ihItem hFirst
      obtain ⟨after, hMore, hBehind⟩ := ihMore hRest
      exact ⟨after, .items hLater hOpen hNext hMore, hBehind⟩
  | lastItem hToken =>
      obtain ⟨after, hAfter, hBehind⟩ := mark_of_reflows h hToken rfl
      exact ⟨after, .lastItem hAfter, hBehind⟩
  | nextItem hComma hToken hOpen hItem _ ihItem ihMore =>
      obtain ⟨comma, hFound, hRest⟩ := mark_of_reflows h hComma rfl
      obtain ⟨later, hLater, hFirst⟩ := first_of_reflows hRest hToken hItem
      obtain ⟨next, hNext, hRest⟩ := ihItem hFirst
      obtain ⟨after, hMore, hBehind⟩ := ihMore hRest
      exact ⟨after, .nextItem hFound hLater hOpen hNext hMore, hBehind⟩
  | noMembers hToken =>
      obtain ⟨after, hAfter, hBehind⟩ := mark_of_reflows h hToken rfl
      exact ⟨after, .noMembers hAfter, hBehind⟩
  | members hToken _ ih =>
      obtain ⟨key, hKey, hRest⟩ := mark_of_reflows h hToken rfl
      obtain ⟨after, hEntry, hBehind⟩ := ih hRest
      exact ⟨after, .members hKey hEntry, hBehind⟩
  | entry hKey hColon _ _ ihValue ihMore =>
      obtain ⟨colon, rfl, hRest⟩ := h.line hKey.no_feed rfl
      obtain ⟨first, hFirst, hRest⟩ := mark_of_reflows hRest hColon rfl
      obtain ⟨next, hNext, hRest⟩ := ihValue hRest
      obtain ⟨after, hMore, hBehind⟩ := ihMore hRest
      exact ⟨after, .entry hKey hFirst hNext hMore, hBehind⟩
  | lastMember hToken =>
      obtain ⟨after, hAfter, hBehind⟩ := mark_of_reflows h hToken rfl
      exact ⟨after, .lastMember hAfter, hBehind⟩
  | nextMember hComma hToken _ ih =>
      obtain ⟨comma, hFound, hRest⟩ := mark_of_reflows h hComma rfl
      obtain ⟨key, hKey, hRest⟩ := mark_of_reflows hRest hToken rfl
      obtain ⟨after, hEntry, hBehind⟩ := ih hRest
      exact ⟨after, .nextMember hFound hKey hEntry, hBehind⟩

end Reader

/-- Moving line ends keeps the value of a whole text. -/
theorem Spells.reflows {cs ds : List Char} {json : Json} (h : Spells cs json)
    (hFlow : Reflows cs ds) : Spells ds json := by
  obtain ⟨rest, hReads, hEnd⟩ := h
  obtain ⟨after, hAfter, hBehind⟩ := Reader.reads_of_reflows hReads hFlow
  refine ⟨after, hAfter, ?_⟩
  obtain ⟨c, more, hMore, -⟩ | hSkip := hBehind.skipSpace
  · rw [hEnd] at hMore
    cases hMore
  · rw [hEnd] at hSkip
    exact hSkip.eq_nil

end RpcTransport.Json
