import RpcTransport.Proofs.Json.Numeral
import RpcTransport.Proofs.Json.Text

/-! What the reader accepts, as rules that follow it from token to token. -/
namespace RpcTransport.Json.Reader

/-- The words, each with its first letter and the others. -/
inductive IsWord : Char → List Char → Json → Prop
  | null : IsWord 'n' ['u', 'l', 'l'] .null
  | true : IsWord 't' ['r', 'u', 'e'] (.bool true)
  | false : IsWord 'f' ['a', 'l', 's', 'e'] (.bool false)

/-- The numerals, with their signs. -/
inductive IsNumeral : List Char → Number → Prop
  | unsigned {c : Char} {digits : List Char} {n : Number} (hDigit : c.isDigit)
      (hRead : Numeral.read false (c :: digits) = .ok (n, [])) : IsNumeral (c :: digits) n
  | negative {digits : List Char} {n : Number}
      (hRead : Numeral.read true digits = .ok (n, [])) : IsNumeral ('-' :: digits) n

/-- What is read at one place. -/
inductive Parsed where
  | value (json : Json)
  /-- The items behind an opening bracket. -/
  | items (items : List Json)
  /-- The items behind another item. -/
  | moreItems (items : List Json)
  /-- The members behind an opening brace. -/
  | members (members : List (String × Json))
  /-- The members behind the quote that opens a key. -/
  | entry (members : List (String × Json))
  /-- The members behind another member. -/
  | moreMembers (members : List (String × Json))

/-- Behind `cs` comes `behind`, once `parsed` is read. -/
inductive Reads : (depth : Nat) → (cs : List Char) → (parsed : Parsed) → (behind : List Char) → Prop
  | word {depth : Nat} {cs letters behind : List Char} {c : Char} {json : Json}
      (hToken : skipSpace cs = c :: (letters ++ behind)) (hWord : IsWord c letters json) :
      Reads depth cs (.value json) behind
  | number {depth : Nat} {cs numeral behind : List Char} {n : Number}
      (hToken : skipSpace cs = numeral ++ behind) (hNumeral : IsNumeral numeral n)
      (hBehind : Numeral.Stops behind) : Reads depth cs (.value (.number n)) behind
  | string {depth : Nat} {cs body behind : List Char} {s : String}
      (hToken : skipSpace cs = '"' :: (body ++ '"' :: behind)) (hString : Quoted body s.toList) :
      Reads depth cs (.value (.string s)) behind
  | array {depth : Nat} {cs inside behind : List Char} {items : List Json}
      (hToken : skipSpace cs = '[' :: inside) (hItems : Reads depth inside (.items items) behind) :
      Reads (depth + 1) cs (.value (.array items)) behind
  | object {depth : Nat} {cs inside behind : List Char} {members : List (String × Json)}
      (hToken : skipSpace cs = '\x7b' :: inside)
      (hMembers : Reads depth inside (.members members) behind) :
      Reads (depth + 1) cs (.value (.object members)) behind
  | noItems {depth : Nat} {cs behind : List Char} (hToken : skipSpace cs = ']' :: behind) :
      Reads depth cs (.items []) behind
  | items {depth : Nat} {cs first next behind : List Char} {c : Char} {item : Json}
      {more : List Json} (hToken : skipSpace cs = c :: first) (hOpen : c ≠ ']')
      (hItem : Reads depth (c :: first) (.value item) next)
      (hMore : Reads depth next (.moreItems more) behind) :
      Reads depth cs (.items (item :: more)) behind
  | lastItem {depth : Nat} {cs behind : List Char} (hToken : skipSpace cs = ']' :: behind) :
      Reads depth cs (.moreItems []) behind
  | nextItem {depth : Nat} {cs comma first next behind : List Char} {c : Char} {item : Json}
      {more : List Json} (hComma : skipSpace cs = ',' :: comma)
      (hToken : skipSpace comma = c :: first) (hOpen : c ≠ ']')
      (hItem : Reads depth (c :: first) (.value item) next)
      (hMore : Reads depth next (.moreItems more) behind) :
      Reads depth cs (.moreItems (item :: more)) behind
  | noMembers {depth : Nat} {cs behind : List Char} (hToken : skipSpace cs = '\x7d' :: behind) :
      Reads depth cs (.members []) behind
  | members {depth : Nat} {cs key behind : List Char} {members : List (String × Json)}
      (hToken : skipSpace cs = '"' :: key) (hEntry : Reads depth key (.entry members) behind) :
      Reads depth cs (.members members) behind
  | entry {depth : Nat} {body colon first next behind : List Char} {key : String} {value : Json}
      {more : List (String × Json)} (hKey : Quoted body key.toList)
      (hColon : skipSpace colon = ':' :: first) (hValue : Reads depth first (.value value) next)
      (hMore : Reads depth next (.moreMembers more) behind) :
      Reads depth (body ++ '"' :: colon) (.entry ((key, value) :: more)) behind
  | lastMember {depth : Nat} {cs behind : List Char} (hToken : skipSpace cs = '\x7d' :: behind) :
      Reads depth cs (.moreMembers []) behind
  | nextMember {depth : Nat} {cs comma key behind : List Char} {members : List (String × Json)}
      (hComma : skipSpace cs = ',' :: comma) (hToken : skipSpace comma = '"' :: key)
      (hEntry : Reads depth key (.entry members) behind) :
      Reads depth cs (.moreMembers members) behind

/-- Reads a member behind the quote that opens its key, and the members behind it. -/
def entry (fuel depth : Nat) (cs : List Char) :
    Except Fault (List (String × Json) × List Char) := do
  let (key, rest) ← string cs
  let (value, rest) ← value fuel depth (← colon rest)
  let (more, rest) ← moreMembers fuel depth rest
  return ((key, value) :: more, rest)

/-- What the reader answers where `parsed` is looked for. -/
def Answers (fuel depth : Nat) (cs : List Char) (parsed : Parsed) (behind : List Char) : Prop :=
  match parsed with
  | .value json => value fuel depth cs = .ok (json, behind)
  | .items is => items fuel depth cs = .ok (is, behind)
  | .moreItems is => moreItems fuel depth cs = .ok (is, behind)
  | .members ms => members fuel depth cs = .ok (ms, behind)
  | .entry ms => entry fuel depth cs = .ok (ms, behind)
  | .moreMembers ms => moreMembers fuel depth cs = .ok (ms, behind)

/-! Lengths, and from them the number of calls. -/

theorem skipSpace_suffix (cs : List Char) : skipSpace cs <:+ cs :=
  List.dropWhile_suffix _

theorem lt_of_token {cs rest : List Char} {c : Char} (h : skipSpace cs = c :: rest) :
    rest.length < cs.length := by
  have hLength := (skipSpace_suffix cs).length_le
  rw [h] at hLength
  exact hLength

theorem IsNumeral.ne_nil {numeral : List Char} {n : Number} (h : IsNumeral numeral n) :
    numeral ≠ [] := by
  cases h <;> exact List.cons_ne_nil _ _

/-- Whatever is read takes a character at least. -/
theorem Reads.length_lt {depth : Nat} {cs behind : List Char} {parsed : Parsed}
    (h : Reads depth cs parsed behind) : behind.length < cs.length := by
  induction h with
  | word hToken _ | string hToken _ =>
      have := lt_of_token hToken
      simp only [List.length_append, List.length_cons] at this
      omega
  | @number _ cs numeral _ _ hToken hNumeral _ =>
      have hLength := (skipSpace_suffix cs).length_le
      have hSome := List.length_pos_iff.mpr hNumeral.ne_nil
      rw [hToken, List.length_append] at hLength
      omega
  | array hToken _ ih | object hToken _ ih | members hToken _ ih =>
      exact Nat.lt_trans ih (lt_of_token hToken)
  | noItems hToken | lastItem hToken | noMembers hToken | lastMember hToken =>
      exact lt_of_token hToken
  | items hToken _ _ _ ihItem ihMore =>
      have := lt_of_token hToken
      rw [List.length_cons] at ihItem
      omega
  | nextItem hComma hToken _ _ _ ihItem ihMore =>
      have := lt_of_token hComma
      have := lt_of_token hToken
      rw [List.length_cons] at ihItem
      omega
  | entry _ hColon _ _ ihValue ihMore =>
      have := lt_of_token hColon
      simp only [List.length_append, List.length_cons]
      omega
  | nextMember hComma hToken _ ih =>
      have := lt_of_token hComma
      have := lt_of_token hToken
      omega

/-! What has a derivation is accepted. -/

theorem ne_of_isDigit {c d : Char} (h : c.isDigit) (hd : d.isDigit = false) : c ≠ d := by
  rintro rfl
  rw [h] at hd
  cases hd

/-- A number is read where it ends. -/
theorem read_of_stops {negative : Bool} {numeral behind : List Char} {n : Number}
    (hRead : Numeral.read negative numeral = .ok (n, [])) (hBehind : Numeral.Stops behind) :
    Numeral.read negative (numeral ++ behind) = .ok (n, behind) := by
  have hAll := Numeral.read_append hBehind negative numeral
  rw [hRead] at hAll
  exact eq_ok_of_toOption hAll

section Rules

variable {depth : Nat} {cs behind : List Char} (fuel : Nat)

theorem value_word {letters : List Char} {c : Char} {json : Json}
    (hToken : skipSpace cs = c :: (letters ++ behind)) (hWord : IsWord c letters json) :
    value (fuel + 1) depth cs = .ok (json, behind) := by
  simp only [value, hToken]
  cases hWord <;> exact word_append _ _ _

theorem value_digit {c : Char} (hDigit : c.isDigit) {rest : List Char}
    (hToken : skipSpace cs = c :: rest) :
    value (fuel + 1) depth cs =
      (Numeral.read false (c :: rest)).map fun (n, rest) => (.number n, rest) := by
  rw [value, hToken]
  dsimp only
  rw [if_neg (ne_of_isDigit hDigit (by decide)), if_neg (ne_of_isDigit hDigit (by decide)),
    if_neg (ne_of_isDigit hDigit (by decide)), if_neg (ne_of_isDigit hDigit (by decide)),
    if_pos hDigit]
  cases Numeral.read false (c :: rest) <;> rfl

theorem value_number {numeral : List Char} {n : Number}
    (hToken : skipSpace cs = numeral ++ behind) (hNumeral : IsNumeral numeral n)
    (hBehind : Numeral.Stops behind) :
    value (fuel + 1) depth cs = .ok (.number n, behind) := by
  cases hNumeral with
  | unsigned hDigit hRead =>
      have hAll := read_of_stops hRead hBehind
      rw [List.cons_append] at hToken hAll
      rw [value_digit fuel hDigit hToken, hAll]
      rfl
  | negative hRead =>
      simp only [value, hToken, List.cons_append, Char.reduceEq, reduceIte,
        read_of_stops hRead hBehind]
      rfl

theorem value_string {body : List Char} {s : String}
    (hToken : skipSpace cs = '"' :: (body ++ '"' :: behind)) (hString : Quoted body s.toList) :
    value (fuel + 1) depth cs = .ok (.string s, behind) := by
  simp only [value, hToken, Char.reduceEq, reduceIte, Char.reduceIsDigit, Bool.false_eq_true,
    hString.string_eq]
  rfl

theorem value_array {inside : List Char} {is : List Json} (hToken : skipSpace cs = '[' :: inside)
    (hItems : items fuel depth inside = .ok (is, behind)) :
    value (fuel + 1) (depth + 1) cs = .ok (.array is, behind) := by
  simp only [value, hToken, Char.reduceEq, reduceIte, Char.reduceIsDigit, Bool.false_eq_true,
    hItems]
  rfl

theorem value_object {inside : List Char} {ms : List (String × Json)}
    (hToken : skipSpace cs = '\x7b' :: inside)
    (hMembers : members fuel depth inside = .ok (ms, behind)) :
    value (fuel + 1) (depth + 1) cs = .ok (.object ms, behind) := by
  simp only [value, hToken, Char.reduceEq, reduceIte, Char.reduceIsDigit, Bool.false_eq_true,
    hMembers]
  rfl

theorem items_cons {first next : List Char} {c : Char} {item : Json} {more : List Json}
    (hToken : skipSpace cs = c :: first) (hOpen : c ≠ ']')
    (hItem : value fuel depth (c :: first) = .ok (item, next))
    (hMore : moreItems fuel depth next = .ok (more, behind)) :
    items (fuel + 1) depth cs = .ok (item :: more, behind) := by
  simp only [items, hToken, hOpen, reduceIte, hItem, bind, Except.bind, hMore]
  rfl

theorem moreItems_cons {comma first next : List Char} {c : Char} {item : Json} {more : List Json}
    (hComma : skipSpace cs = ',' :: comma) (hToken : skipSpace comma = c :: first)
    (hOpen : c ≠ ']') (hItem : value fuel depth (c :: first) = .ok (item, next))
    (hMore : moreItems fuel depth next = .ok (more, behind)) :
    moreItems (fuel + 1) depth cs = .ok (item :: more, behind) := by
  simp only [moreItems, hComma, Char.reduceEq, hToken, hOpen, reduceIte, hItem, bind, Except.bind,
    hMore]
  rfl

theorem entry_cons {body colon first next : List Char} {key : String} {json : Json}
    {more : List (String × Json)} (hKey : Quoted body key.toList)
    (hColon : skipSpace colon = ':' :: first) (hValue : value fuel depth first = .ok (json, next))
    (hMore : moreMembers fuel depth next = .ok (more, behind)) :
    entry fuel depth (body ++ '"' :: colon) = .ok ((key, json) :: more, behind) := by
  simp only [entry, hKey.string_eq, Reader.colon, hColon, bind, Except.bind, reduceIte, hValue,
    hMore]
  rfl

end Rules

theorem exists_room {n fuel : Nat} (h : n < fuel) : ∃ room, fuel = room + 1 :=
  Nat.exists_eq_add_one_of_ne_zero (Nat.ne_zero_of_lt h)

/-- A bound for the number of nested calls. The first item of an array is looked for
twice at one place. -/
def calls (cs : List Char) : Parsed → Nat
  | .items _ => 2 * cs.length + 1
  | _ => 2 * cs.length

theorem answers_of_reads {depth : Nat} {cs behind : List Char} {parsed : Parsed}
    (h : Reads depth cs parsed behind) {fuel : Nat} (hFuel : calls cs parsed < fuel) :
    Answers fuel depth cs parsed behind := by
  induction h generalizing fuel with
  | word hToken hWord =>
      obtain ⟨fuel, rfl⟩ := exists_room hFuel
      exact value_word fuel hToken hWord
  | number hToken hNumeral hBehind =>
      obtain ⟨fuel, rfl⟩ := exists_room hFuel
      exact value_number fuel hToken hNumeral hBehind
  | string hToken hString =>
      obtain ⟨fuel, rfl⟩ := exists_room hFuel
      exact value_string fuel hToken hString
  | array hToken hItems ih =>
      obtain ⟨fuel, rfl⟩ := exists_room hFuel
      have hShorter := lt_of_token hToken
      exact value_array fuel hToken (ih (by simp only [calls] at *; omega))
  | object hToken hMembers ih =>
      obtain ⟨fuel, rfl⟩ := exists_room hFuel
      have hShorter := lt_of_token hToken
      exact value_object fuel hToken (ih (by simp only [calls] at *; omega))
  | noItems hToken =>
      obtain ⟨fuel, rfl⟩ := exists_room hFuel
      simp only [Answers, items, hToken, reduceIte]
  | items hToken hOpen hItem hMore ihItem ihMore =>
      obtain ⟨fuel, rfl⟩ := exists_room hFuel
      have hShorter := lt_of_token hToken
      have hLess := hItem.length_lt
      simp only [calls, List.length_cons] at *
      exact items_cons fuel hToken hOpen (ihItem (by omega)) (ihMore (by omega))
  | lastItem hToken =>
      obtain ⟨fuel, rfl⟩ := exists_room hFuel
      simp only [Answers, moreItems, hToken, reduceIte]
  | nextItem hComma hToken hOpen hItem hMore ihItem ihMore =>
      obtain ⟨fuel, rfl⟩ := exists_room hFuel
      have hShorter := lt_of_token hComma
      have hShortest := lt_of_token hToken
      have hLess := hItem.length_lt
      simp only [calls, List.length_cons] at *
      exact moreItems_cons fuel hComma hToken hOpen (ihItem (by omega)) (ihMore (by omega))
  | noMembers hToken =>
      obtain ⟨fuel, rfl⟩ := exists_room hFuel
      simp only [Answers, members, hToken, reduceIte]
  | members hToken hEntry ih =>
      obtain ⟨fuel, rfl⟩ := exists_room hFuel
      have hShorter := lt_of_token hToken
      have hInside := @ih fuel (by simp only [calls] at *; omega)
      simp only [Answers, members, hToken, Char.reduceEq, reduceIte]
      exact hInside
  | entry hKey hColon hValue hMore ihValue ihMore =>
      have hShorter := lt_of_token hColon
      have hLess := hValue.length_lt
      simp only [calls, List.length_append, List.length_cons] at *
      exact entry_cons fuel hKey hColon (ihValue (by omega)) (ihMore (by omega))
  | lastMember hToken =>
      obtain ⟨fuel, rfl⟩ := exists_room hFuel
      simp only [Answers, moreMembers, hToken, reduceIte]
  | nextMember hComma hToken hEntry ih =>
      obtain ⟨fuel, rfl⟩ := exists_room hFuel
      have hShorter := lt_of_token hComma
      have hShortest := lt_of_token hToken
      have hInside := @ih fuel (by simp only [calls] at *; omega)
      simp only [Answers, moreMembers, hComma, hToken, Char.reduceEq, reduceIte]
      exact hInside

/-! What is accepted has a derivation. -/

/-- White space ends a number. -/
theorem continues_of_isSpace {c : Char} (h : isSpace c) : Numeral.continues c = false := by
  simp only [isSpace, Bool.or_eq_true, beq_iff_eq] at h
  obtain ((rfl | rfl) | rfl) | rfl := h <;> rfl

theorem stops_of_skipSpace {cs : List Char} (h : Numeral.Stops (skipSpace cs)) :
    Numeral.Stops cs := by
  rintro d ds rfl
  by_cases hSpace : isSpace d
  · exact continues_of_isSpace hSpace
  · rw [skipSpace, List.dropWhile_cons_of_neg hSpace] at h
    exact h d ds rfl

theorem stops_of_token {cs rest : List Char} {c : Char} (h : skipSpace cs = c :: rest)
    (hc : Numeral.continues c = false) : Numeral.Stops cs :=
  stops_of_skipSpace (h ▸ Numeral.stops_cons hc rest)

theorem Reads.stops_of_moreItems {depth : Nat} {cs behind : List Char} {more : List Json}
    (h : Reads depth cs (.moreItems more) behind) : Numeral.Stops cs := by
  cases h with
  | lastItem hToken => exact stops_of_token hToken rfl
  | nextItem hComma => exact stops_of_token hComma rfl

theorem Reads.stops_of_moreMembers {depth : Nat} {cs behind : List Char}
    {more : List (String × Json)} (h : Reads depth cs (.moreMembers more) behind) :
    Numeral.Stops cs := by
  cases h with
  | lastMember hToken => exact stops_of_token hToken rfl
  | nextMember hComma => exact stops_of_token hComma rfl

/-- With so many calls, what is accepted before a place where no number goes on has a
derivation. -/
def Sound (fuel : Nat) : Prop :=
  ∀ (parsed : Parsed) {depth : Nat} {cs behind : List Char},
    Answers fuel depth cs parsed behind → Numeral.Stops behind → Reads depth cs parsed behind

section Sound

variable {fuel depth : Nat} {cs behind : List Char}

theorem word_sound {c : Char} {rest letters : List Char} {json found : Json}
    (hToken : skipSpace cs = c :: rest) (hWord : IsWord c letters json)
    (h : word json letters rest = .ok (found, behind)) : Reads depth cs (.value found) behind := by
  obtain ⟨rfl, rfl⟩ := word_split h
  exact .word hToken hWord

theorem value_sound (ih : Sound fuel) {json : Json}
    (h : value (fuel + 1) depth cs = .ok (json, behind)) (hStops : Numeral.Stops behind) :
    Reads depth cs (.value json) behind := by
  rw [value] at h
  split at h
  · cases h
  rename_i c rest hToken
  split at h
  · subst c
    exact word_sound hToken .null h
  split at h
  · subst c
    exact word_sound hToken .true h
  split at h
  · subst c
    exact word_sound hToken .false h
  split at h
  · subst c
    obtain ⟨⟨n, behindNumber⟩, hRead, h⟩ := bind_ok h
    cases h
    obtain ⟨numeral, rfl, -, -, hNumeral⟩ := Numeral.read_split hRead hStops
    exact .number hToken (.negative hNumeral) hStops
  split at h
  · rename_i hDigit
    obtain ⟨⟨n, behindNumber⟩, hRead, h⟩ := bind_ok h
    cases h
    obtain ⟨numeral, hAll, hSome, -, hNumeral⟩ := Numeral.read_split hRead hStops
    rw [hAll] at hToken
    cases numeral with
    | nil => exact absurd rfl hSome
    | cons d digits =>
        cases hAll
        exact .number hToken (.unsigned hDigit hNumeral) hStops
  split at h
  · subst c
    obtain ⟨⟨s, behindString⟩, hRead, h⟩ := bind_ok h
    cases h
    obtain ⟨body, rfl, hBody⟩ := string_split hRead
    exact .string hToken hBody
  split at h
  · subst c
    cases depth with
    | zero => cases h
    | succ depth =>
        obtain ⟨⟨is, behindItems⟩, hItems, h⟩ := bind_ok h
        cases h
        exact .array hToken (ih (.items is) hItems hStops)
  split at h
  · subst c
    cases depth with
    | zero => cases h
    | succ depth =>
        obtain ⟨⟨ms, behindMembers⟩, hMembers, h⟩ := bind_ok h
        cases h
        exact .object hToken (ih (.members ms) hMembers hStops)
  · cases h

theorem items_sound (ih : Sound fuel) {is : List Json}
    (h : items (fuel + 1) depth cs = .ok (is, behind)) (hStops : Numeral.Stops behind) :
    Reads depth cs (.items is) behind := by
  rw [items] at h
  split at h
  · cases h
  rename_i c rest hToken
  split at h
  · subst c
    cases h
    exact .noItems hToken
  · rename_i hOpen
    obtain ⟨⟨item, next⟩, hItem, h⟩ := bind_ok h
    obtain ⟨⟨more, behindMore⟩, hMore, h⟩ := bind_ok h
    cases h
    have hRest := ih (.moreItems more) hMore hStops
    exact .items hToken hOpen (ih (.value item) hItem hRest.stops_of_moreItems) hRest

theorem moreItems_sound (ih : Sound fuel) {is : List Json}
    (h : moreItems (fuel + 1) depth cs = .ok (is, behind)) (hStops : Numeral.Stops behind) :
    Reads depth cs (.moreItems is) behind := by
  rw [moreItems] at h
  split at h
  · cases h
  rename_i c comma hComma
  split at h
  · subst c
    cases h
    exact .lastItem hComma
  split at h
  · subst c
    split at h
    · cases h
    rename_i d rest hToken
    split at h
    · cases h
    rename_i hOpen
    obtain ⟨⟨item, next⟩, hItem, h⟩ := bind_ok h
    obtain ⟨⟨more, behindMore⟩, hMore, h⟩ := bind_ok h
    cases h
    have hRest := ih (.moreItems more) hMore hStops
    exact .nextItem hComma hToken hOpen
      (ih (.value item) hItem hRest.stops_of_moreItems) hRest
  · cases h

theorem colon_ok (h : colon cs = .ok behind) : skipSpace cs = ':' :: behind := by
  unfold colon at h
  split at h
  · cases h
  · split at h
    · subst_vars
      cases h
      assumption
    · cases h

theorem entry_sound {ms : List (String × Json)}
    (hValues : ∀ {cs behind : List Char} {json : Json}, value fuel depth cs = .ok (json, behind) →
      Numeral.Stops behind → Reads depth cs (.value json) behind)
    (hMembers : ∀ {cs behind : List Char} {ms : List (String × Json)},
      moreMembers fuel depth cs = .ok (ms, behind) → Numeral.Stops behind →
        Reads depth cs (.moreMembers ms) behind)
    (h : entry fuel depth cs = .ok (ms, behind)) (hStops : Numeral.Stops behind) :
    Reads depth cs (.entry ms) behind := by
  obtain ⟨⟨key, afterKey⟩, hKey, h⟩ := bind_ok h
  obtain ⟨afterColon, hColon, h⟩ := bind_ok h
  obtain ⟨⟨json, next⟩, hValue, h⟩ := bind_ok h
  obtain ⟨⟨more, behindMore⟩, hMore, h⟩ := bind_ok h
  cases h
  obtain ⟨body, rfl, hBody⟩ := string_split hKey
  have hRest := hMembers hMore hStops
  exact .entry hBody (colon_ok hColon)
    (hValues hValue hRest.stops_of_moreMembers) hRest

theorem members_sound (ih : Sound fuel) {ms : List (String × Json)}
    (h : members (fuel + 1) depth cs = .ok (ms, behind)) (hStops : Numeral.Stops behind) :
    Reads depth cs (.members ms) behind := by
  rw [members] at h
  split at h
  · cases h
  rename_i c rest hToken
  split at h
  · subst c
    cases h
    exact .noMembers hToken
  split at h
  · subst c
    exact .members hToken (ih (.entry ms) h hStops)
  · cases h

theorem moreMembers_sound (ih : Sound fuel) {ms : List (String × Json)}
    (h : moreMembers (fuel + 1) depth cs = .ok (ms, behind)) (hStops : Numeral.Stops behind) :
    Reads depth cs (.moreMembers ms) behind := by
  rw [moreMembers] at h
  split at h
  · cases h
  rename_i c comma hComma
  split at h
  · subst c
    cases h
    exact .lastMember hComma
  split at h
  · subst c
    split at h
    · cases h
    rename_i d rest hToken
    split at h
    · subst d
      exact .nextMember hComma hToken (ih (.entry ms) h hStops)
    · split at h <;> cases h
  · cases h

end Sound

theorem sound (fuel : Nat) : Sound fuel := by
  induction fuel with
  | zero =>
      intro parsed depth cs behind h hStops
      cases parsed with
      | entry ms => exact entry_sound (fun h => by cases h) (fun h => by cases h) h hStops
      | _ => cases h
  | succ fuel ih =>
      intro parsed depth cs behind h hStops
      cases parsed with
      | value json => exact value_sound ih h hStops
      | items is => exact items_sound ih h hStops
      | moreItems is => exact moreItems_sound ih h hStops
      | members ms => exact members_sound ih h hStops
      | entry ms => exact entry_sound (value_sound ih) (moreMembers_sound ih) h hStops
      | moreMembers ms => exact moreMembers_sound ih h hStops

theorem finish_iff {rest : List Char} : finish rest = .ok () ↔ skipSpace rest = [] := by
  unfold finish
  split <;> simp [*]

/-- What is read to the end is derived to the end. -/
theorem start_iff {cs rest : List Char} {json : Json} (hEnd : skipSpace rest = []) :
    start cs = .ok (json, rest) ↔ Reads greatestDepth cs (.value json) rest := by
  constructor
  · intro h
    exact sound _ (.value json) h (stops_of_skipSpace (hEnd ▸ Numeral.stops_nil))
  · intro h
    exact answers_of_reads h (show 2 * cs.length < 2 * cs.length + 2 by omega)

end Reader

/-- The derivations of whole texts: one value between white space. -/
def Spells (cs : List Char) (json : Json) : Prop :=
  ∃ rest, Reader.Reads Reader.greatestDepth cs (.value json) rest ∧ Reader.skipSpace rest = []

theorem read_iff {s : String} {json : Json} : read s = .ok json ↔ Spells s.toList json := by
  unfold read
  constructor
  · intro h
    cases hStart : Reader.start s.toList with
    | error fault => rw [hStart] at h; cases h
    | ok out =>
        obtain ⟨found, rest⟩ := out
        rw [hStart] at h
        cases hFinish : Reader.finish rest with
        | error fault => simp only [bind, Except.bind, hFinish] at h; cases h
        | ok =>
            simp only [bind, Except.bind, hFinish] at h
            cases h
            have hEnd := Reader.finish_iff.mp hFinish
            exact ⟨rest, (Reader.start_iff hEnd).mp hStart, hEnd⟩
  · rintro ⟨rest, hReads, hEnd⟩
    rw [(Reader.start_iff hEnd).mpr hReads]
    simp only [bind, Except.bind, Reader.finish_iff.mpr hEnd]
    rfl

end RpcTransport.Json
