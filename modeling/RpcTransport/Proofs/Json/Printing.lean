import RpcTransport.Proofs.Json.Grammar
import RpcTransport.Text.Blank

namespace RpcTransport.Json

mutual

/-- The number of arrays and objects inside one another. -/
def depth : Json → Nat
  | .array items => depthOfItems items + 1
  | .object members => depthOfMembers members + 1
  | _ => 0

def depthOfItems : List Json → Nat
  | [] => 0
  | item :: rest => max item.depth (depthOfItems rest)

def depthOfMembers : List (String × Json) → Nat
  | [] => 0
  | (_, value) :: rest => max value.depth (depthOfMembers rest)

end

/-- A whole number that is read as one. -/
def Number.isWhole : Number → Bool
  | .integer n => leastInteger ≤ n && n ≤ greatestInteger
  | .double _ => false

mutual

/-- All the numbers in the value are whole numbers in range. -/
def isWhole : Json → Bool
  | .number n => n.isWhole
  | .array items => itemsAreWhole items
  | .object members => membersAreWhole members
  | _ => true

def itemsAreWhole : List Json → Bool
  | [] => true
  | item :: rest => item.isWhole && itemsAreWhole rest

def membersAreWhole : List (String × Json) → Bool
  | [] => true
  | (_, value) :: rest => value.isWhole && membersAreWhole rest

end

/-- The text of the items behind another item. -/
def moreItemsText : List Json → List Char
  | [] => [']']
  | item :: rest => ',' :: itemsText (item :: rest)

theorem itemsText_cons (item : Json) (rest : List Json) :
    itemsText (item :: rest) = item.text ++ moreItemsText rest := by
  cases rest <;> rfl

/-- The text of the members behind another member. -/
def moreMembersText : List (String × Json) → List Char
  | [] => ['\x7d']
  | member :: rest => ',' :: membersText (member :: rest)

theorem membersText_cons (key : String) (value : Json) (rest : List (String × Json)) :
    membersText ((key, value) :: rest) =
      stringText key ++ ':' :: (value.text ++ moreMembersText rest) := by
  cases rest <;> simp [membersText, moreMembersText]

namespace Reader

theorem skipSpace_cons {c : Char} (h : isSpace c = false) (cs : List Char) :
    skipSpace (c :: cs) = c :: cs :=
  List.dropWhile_cons_of_neg (by simp [h])

theorem natAbs_le_of_least {n : Int} (h : leastInteger ≤ n) (hNegative : n < 0) :
    n.natAbs ≤ Nat.pow 2 63 := by
  rw [leastInteger] at h
  generalize Nat.pow 2 63 = bound at *
  omega

theorem natAbs_lt_of_greatest {n : Int} (h : n ≤ greatestInteger) (hNonneg : ¬n < 0) :
    n.natAbs < UInt64.size := by
  rw [greatestInteger] at h
  generalize UInt64.size = bound at *
  omega

theorem isNumeral_integerText {n : Int} (h : (Number.integer n).isWhole) :
    IsNumeral (integerText n) (.integer n) := by
  simp only [Number.isWhole, Bool.and_eq_true, decide_eq_true_eq] at h
  unfold integerText
  split
  · rename_i hNegative
    have hRead := Numeral.read_neg (by omega) (natAbs_le_of_least h.1 hNegative)
    have hValue : -(n.natAbs : Int) = n := by omega
    rw [hValue] at hRead
    exact .negative hRead
  · rename_i hNonneg
    have hRead := Numeral.read_nonneg (natAbs_lt_of_greatest h.2 hNonneg)
    have hValue : (n.natAbs : Int) = n := by omega
    rw [hValue] at hRead
    cases hDigits : Nat.toDigits 10 n.natAbs with
    | nil => exact absurd hDigits Nat.toDigits_ne_nil
    | cons c digits =>
        have hDigit : c ∈ Nat.toDigits 10 n.natAbs := hDigits ▸ List.mem_cons_self
        rw [hDigits] at hRead
        exact .unsigned (Nat.isDigit_of_mem_toDigits (by decide) (by decide) hDigit) hRead

/-- The character with which a value can begin. -/
structure Begins (c : Char) : Prop where
  notSpace : isSpace c = false
  notClosing : c ≠ ']'

theorem begins_of_isDigit {c : Char} (h : c.isDigit) : Begins c := by
  have hNe {d : Char} (hd : d.isDigit = false) : c ≠ d := ne_of_isDigit h hd
  refine ⟨?_, hNe rfl⟩
  simp only [isSpace, Bool.or_eq_false_iff, beq_eq_false_iff_ne]
  exact ⟨⟨⟨hNe rfl, hNe rfl⟩, hNe rfl⟩, hNe rfl⟩

theorem IsNumeral.begins {numeral : List Char} {n : Number} (h : IsNumeral numeral n) :
    ∃ c rest, numeral = c :: rest ∧ Begins c := by
  cases h with
  | unsigned hDigit => exact ⟨_, _, rfl, begins_of_isDigit hDigit⟩
  | negative => exact ⟨_, _, rfl, rfl, by decide⟩

theorem text_begins {v : Json} (h : v.isWhole) : ∃ c rest, v.text = c :: rest ∧ Begins c := by
  cases v with
  | null => exact ⟨'n', _, rfl, rfl, by decide⟩
  | bool b =>
      cases b with
      | false => exact ⟨'f', _, rfl, rfl, by decide⟩
      | true => exact ⟨'t', _, rfl, rfl, by decide⟩
  | number n =>
      cases n with
      | integer n => exact (isNumeral_integerText h).begins
      | double f => cases h
  | string s => exact ⟨'"', _, rfl, rfl, by decide⟩
  | array items => exact ⟨'[', _, rfl, rfl, by decide⟩
  | object members => exact ⟨'\x7b', _, rfl, rfl, by decide⟩

theorem stringText_append (s : String) (tail : List Char) :
    stringText s ++ tail = '"' :: (s.toList.flatMap escaped ++ '"' :: tail) := by
  simp [stringText]

/-- An item and what follows it, behind a bracket or behind a comma. -/
theorem reads_item {d : Nat} {next behind : List Char} {item : Json} {more : List Json}
    (hWhole : item.isWhole) (hItem : Reads d (item.text ++ next) (.value item) next)
    (hMore : Reads d next (.moreItems more) behind) :
    Reads d (item.text ++ next) (.items (item :: more)) behind ∧
      Reads d (',' :: (item.text ++ next)) (.moreItems (item :: more)) behind := by
  obtain ⟨c, rest, hText, hBegins⟩ := text_begins hWhole
  rw [hText, List.cons_append] at hItem ⊢
  have hToken := skipSpace_cons hBegins.notSpace (rest ++ next)
  exact ⟨.items hToken hBegins.notClosing hItem hMore,
    .nextItem (skipSpace_cons rfl _) hToken hBegins.notClosing hItem hMore⟩

/-- A member and what follows it, behind a brace or behind a comma. -/
theorem reads_member {d : Nat} {next behind : List Char} {value : Json}
    {more : List (String × Json)} (key : String)
    (hValue : Reads d (value.text ++ next) (.value value) next)
    (hMore : Reads d next (.moreMembers more) behind) :
    Reads d (stringText key ++ ':' :: (value.text ++ next)) (.members ((key, value) :: more))
        behind ∧
      Reads d (',' :: (stringText key ++ ':' :: (value.text ++ next)))
        (.moreMembers ((key, value) :: more)) behind := by
  rw [stringText_append]
  have hEntry := Reads.entry (quoted_escaped key.toList) (skipSpace_cons rfl _) hValue hMore
  exact ⟨.members (skipSpace_cons rfl _) hEntry,
    .nextMember (skipSpace_cons rfl _) (skipSpace_cons rfl _) hEntry⟩

mutual

/-- A value is read from its text, before whatever cannot go on a number. -/
theorem reads_text : (v : Json) → {d : Nat} → {tail : List Char} → v.depth ≤ d → v.isWhole →
    Numeral.Stops tail → Reads d (v.text ++ tail) (.value v) tail
  | .null, d, tail, _, _, _ => .word (skipSpace_cons rfl _) .null
  | .bool true, d, tail, _, _, _ => .word (skipSpace_cons rfl _) .true
  | .bool false, d, tail, _, _, _ => .word (skipSpace_cons rfl _) .false
  | .number (.integer n), d, tail, _, hWhole, hTail => by
      have hNumeral := isNumeral_integerText hWhole
      obtain ⟨c, rest, hText, hBegins⟩ := hNumeral.begins
      refine .number ?_ hNumeral hTail
      show skipSpace (integerText n ++ tail) = integerText n ++ tail
      rw [hText]
      exact skipSpace_cons hBegins.notSpace _
  | .number (.double _), d, tail, _, hWhole, _ => by cases hWhole
  | .string s, d, tail, _, _, _ => by
      refine .string ?_ (quoted_escaped s.toList)
      rw [text, stringText_append]
      exact skipSpace_cons rfl _
  | .array [], d + 1, tail, _, _, _ =>
      .array (skipSpace_cons rfl _) (.noItems (skipSpace_cons rfl _))
  | .array (item :: rest), d + 1, tail, hDepth, hWhole, _ => by
      have hDepth := Nat.max_le.mp (Nat.le_of_succ_le_succ hDepth)
      have hWhole := (Bool.and_eq_true _ _).mp hWhole
      have hMore := @reads_moreItemsText rest d tail hDepth.2 hWhole.2
      have hItem := reads_text item hDepth.1 hWhole.1 hMore.stops_of_moreItems
      rw [text, itemsText_cons, List.cons_append, List.append_assoc]
      exact .array (skipSpace_cons rfl _) (reads_item hWhole.1 hItem hMore).1
  | .object [], d + 1, tail, _, _, _ =>
      .object (skipSpace_cons rfl _) (.noMembers (skipSpace_cons rfl _))
  | .object ((key, value) :: rest), d + 1, tail, hDepth, hWhole, _ => by
      have hDepth := Nat.max_le.mp (Nat.le_of_succ_le_succ hDepth)
      have hWhole := (Bool.and_eq_true _ _).mp hWhole
      have hMore := @reads_moreMembersText rest d tail hDepth.2 hWhole.2
      have hValue := reads_text value hDepth.1 hWhole.1 hMore.stops_of_moreMembers
      rw [text, membersText_cons, List.cons_append, List.append_assoc, List.cons_append,
        List.append_assoc]
      exact .object (skipSpace_cons rfl _) (reads_member key hValue hMore).1

theorem reads_moreItemsText : (items : List Json) → {d : Nat} → {tail : List Char} →
    depthOfItems items ≤ d → itemsAreWhole items →
    Reads d (moreItemsText items ++ tail) (.moreItems items) tail
  | [], d, tail, _, _ => .lastItem (skipSpace_cons rfl _)
  | item :: rest, d, tail, hDepth, hWhole => by
      have hDepth := Nat.max_le.mp hDepth
      have hWhole := (Bool.and_eq_true _ _).mp hWhole
      have hMore := @reads_moreItemsText rest d tail hDepth.2 hWhole.2
      have hItem := reads_text item hDepth.1 hWhole.1 hMore.stops_of_moreItems
      rw [moreItemsText, itemsText_cons, List.cons_append, List.append_assoc]
      exact (reads_item hWhole.1 hItem hMore).2

theorem reads_moreMembersText : (members : List (String × Json)) → {d : Nat} →
    {tail : List Char} → depthOfMembers members ≤ d → membersAreWhole members →
    Reads d (moreMembersText members ++ tail) (.moreMembers members) tail
  | [], d, tail, _, _ => .lastMember (skipSpace_cons rfl _)
  | (key, value) :: rest, d, tail, hDepth, hWhole => by
      have hDepth := Nat.max_le.mp hDepth
      have hWhole := (Bool.and_eq_true _ _).mp hWhole
      have hMore := @reads_moreMembersText rest d tail hDepth.2 hWhole.2
      have hValue := reads_text value hDepth.1 hWhole.1 hMore.stops_of_moreMembers
      rw [moreMembersText, membersText_cons, List.cons_append, List.append_assoc,
        List.cons_append, List.append_assoc]
      exact (reads_member key hValue hMore).2

end

end Reader

/-- A printed value is read back as it is. -/
theorem spells_text {v : Json} (hDepth : v.depth ≤ Reader.greatestDepth) (hWhole : v.isWhole) :
    Spells v.text v := by
  have hReads := Reader.reads_text v hDepth hWhole Numeral.stops_nil
  rw [List.append_nil] at hReads
  exact ⟨[], hReads, rfl⟩

theorem read_compact {v : Json} (hDepth : v.depth ≤ Reader.greatestDepth) (hWhole : v.isWhole) :
    read v.compact = .ok v := by
  rw [read_iff, compact, String.toList_ofList]
  exact spells_text hDepth hWhole

theorem visible_of_mem_integerText {n : Int} {c : Char} (h : c ∈ integerText n) :
    0x20 ≤ c.toNat := by
  have hDigits : c ∈ Nat.toDigits 10 n.natAbs → 0x20 ≤ c.toNat := by
    intro hc
    have hDigit := Nat.isDigit_of_mem_toDigits (by decide) (by decide) hc
    simp only [Char.isDigit, Bool.and_eq_true, decide_eq_true_eq] at hDigit
    exact Nat.le_trans (by decide) (show '0'.toNat ≤ c.toNat from hDigit.1)
  unfold integerText at h
  split at h
  · obtain rfl | h := List.mem_cons.mp h
    · decide
    · exact hDigits h
  · exact hDigits h

theorem mem_moreItemsText {items : List Json} {c : Char} (h : c ∈ moreItemsText items) :
    c = ',' ∨ c ∈ itemsText items := by
  cases items with
  | nil => exact .inr h
  | cons item rest => exact List.mem_cons.mp h

theorem mem_moreMembersText {members : List (String × Json)} {c : Char}
    (h : c ∈ moreMembersText members) : c = ',' ∨ c ∈ membersText members := by
  cases members with
  | nil => exact .inr h
  | cons member rest => exact List.mem_cons.mp h

mutual

/-- No control character stands in a text. -/
theorem visible_of_mem_text : (v : Json) → v.isWhole → ∀ c ∈ v.text, 0x20 ≤ c.toNat
  | .null, _ => by simp [text]
  | .bool true, _ => by simp [text]
  | .bool false, _ => by simp [text]
  | .number (.integer n), _ => fun c hc => visible_of_mem_integerText hc
  | .number (.double _), hWhole => by cases hWhole
  | .string s, _ => fun c hc => Reader.visible_of_mem_stringText hc
  | .array items, hWhole => List.forall_mem_cons.mpr
      ⟨by decide, visible_of_mem_itemsText items hWhole⟩
  | .object members, hWhole => List.forall_mem_cons.mpr
      ⟨by decide, visible_of_mem_membersText members hWhole⟩

theorem visible_of_mem_itemsText : (items : List Json) → itemsAreWhole items →
    ∀ c ∈ itemsText items, 0x20 ≤ c.toNat
  | [], _ => by simp [itemsText]
  | item :: rest, hWhole => by
      have hWhole := (Bool.and_eq_true _ _).mp hWhole
      rw [itemsText_cons]
      intro c hc
      obtain hItem | hMore := List.mem_append.mp hc
      · exact visible_of_mem_text item hWhole.1 c hItem
      · obtain rfl | hRest := mem_moreItemsText hMore
        · decide
        · exact visible_of_mem_itemsText rest hWhole.2 c hRest

theorem visible_of_mem_membersText : (members : List (String × Json)) → membersAreWhole members →
    ∀ c ∈ membersText members, 0x20 ≤ c.toNat
  | [], _ => by simp [membersText]
  | (key, value) :: rest, hWhole => by
      have hWhole := (Bool.and_eq_true _ _).mp hWhole
      rw [membersText_cons]
      intro c hc
      obtain hKey | hBehind := List.mem_append.mp hc
      · exact Reader.visible_of_mem_stringText hKey
      obtain rfl | hBehind := List.mem_cons.mp hBehind
      · decide
      obtain hValue | hMore := List.mem_append.mp hBehind
      · exact visible_of_mem_text value hWhole.1 c hValue
      · obtain rfl | hRest := mem_moreMembersText hMore
        · decide
        · exact visible_of_mem_membersText rest hWhole.2 c hRest

end

theorem itemsText_concat (items : List Json) : ∃ inside, itemsText items = inside ++ [']'] := by
  induction items with
  | nil => exact ⟨[], rfl⟩
  | cons item rest ih =>
      obtain ⟨inside, hInside⟩ := ih
      cases rest with
      | nil => exact ⟨item.text, rfl⟩
      | cons next rest =>
          exact ⟨item.text ++ ',' :: inside, by rw [itemsText, hInside]; simp⟩

theorem membersText_concat (members : List (String × Json)) :
    ∃ inside, membersText members = inside ++ ['\x7d'] := by
  induction members with
  | nil => exact ⟨[], rfl⟩
  | cons member rest ih =>
      obtain ⟨key, value⟩ := member
      obtain ⟨inside, hInside⟩ := ih
      cases rest with
      | nil => exact ⟨stringText key ++ ':' :: value.text, by simp [membersText]⟩
      | cons next rest =>
          exact ⟨stringText key ++ ':' :: (value.text ++ ',' :: inside),
            by rw [membersText, hInside]; simp⟩

/-- An array or an object. -/
inductive IsDocument : Json → Prop
  | array (items : List Json) : IsDocument (.array items)
  | object (members : List (String × Json)) : IsDocument (.object members)

/-- Documents stand between brackets or braces. -/
theorem IsDocument.text_eq {v : Json} (h : v.IsDocument) : ∃ first inside last,
    v.text = first :: (inside ++ [last]) ∧ Text.isBlank first = false ∧ first ≠ '\x1e' ∧
      Text.isBlank last = false := by
  cases h with
  | array items =>
      obtain ⟨inside, hInside⟩ := itemsText_concat items
      exact ⟨'[', inside, ']', by rw [text, hInside], by decide⟩
  | object members =>
      obtain ⟨inside, hInside⟩ := membersText_concat members
      exact ⟨'\x7b', inside, '\x7d', by rw [text, hInside], by decide⟩

end RpcTransport.Json
