import Mathlib.Data.List.DropRight
import RpcTransport.Text.Affix
import RpcTransport.Text.Blank

namespace RpcTransport.Text

/-- A text without the white space at its end. -/
def withoutEnd (s : String) : String :=
  .ofList (s.toList.rdropWhile isBlank)

theorem trimmed_cons {c : Char} (cs : List Char) (h : isBlank c = false) :
    trimmed (c :: cs) = (c :: cs).rdropWhile isBlank := by
  simp [trimmed, List.rdropWhile, h]

theorem rdropWhile_append (start rest : List Char) :
    (start ++ rest).rdropWhile isBlank =
      if rest.rdropWhile isBlank = [] then start.rdropWhile isBlank
      else start ++ rest.rdropWhile isBlank := by
  simp only [List.rdropWhile, List.reverse_append, List.dropWhile_append, List.isEmpty_iff,
    List.reverse_eq_nil_iff]
  split <;> simp

/-- A field keeps its value when its line is trimmed, unless the value is blank. -/
theorem trim_append {start : String} {c : Char} {cs : List Char} (hStart : start.toList = c :: cs)
    (hHead : isBlank c = false) (value : String) (hValue : withoutEnd value ≠ "") :
    trim (start ++ value) = start ++ withoutEnd value := by
  have hNe : value.toList.rdropWhile isBlank ≠ [] := by
    intro hNil
    exact hValue (by rw [withoutEnd, hNil])
  rw [trim, String.toList_append, hStart, List.cons_append, trimmed_cons _ hHead,
    ← List.cons_append, rdropWhile_append, if_neg hNe, ← hStart]
  simp [withoutEnd]

theorem trim_append_blank {start : String} {c : Char} {cs : List Char}
    (hStart : start.toList = c :: cs) (hHead : isBlank c = false) {value : String}
    (hValue : withoutEnd value = "") : trim (start ++ value) = withoutEnd start := by
  have hNil : value.toList.rdropWhile isBlank = [] := by
    simpa [withoutEnd, ← String.toList_inj] using hValue
  rw [trim, String.toList_append, hStart, List.cons_append, trimmed_cons _ hHead,
    ← List.cons_append, rdropWhile_append, if_pos hNil, ← hStart, withoutEnd]

/-- Trimming leaves no white space at the end. -/
theorem withoutEnd_of_trim {s : String} (h : trim s = s) : withoutEnd s = s := by
  have hTrimmed : (s.toList.dropWhile isBlank).rdropWhile isBlank = s.toList := by
    have hList := congrArg String.toList h
    rwa [trim, String.toList_ofList] at hList
  rw [withoutEnd, ← hTrimmed, List.rdropWhile_idempotent, hTrimmed, String.ofList_toList]

theorem trimmed_blank {c : Char} (cs : List Char) (h : isBlank c = true) :
    trimmed (c :: cs) = trimmed cs := by
  simp [trimmed, h]

theorem rdropWhile_cons (c : Char) (cs : List Char) :
    (c :: cs).rdropWhile isBlank =
      if cs.rdropWhile isBlank = [] ∧ isBlank c = true then [] else c :: cs.rdropWhile isBlank := by
  rw [← List.singleton_append, rdropWhile_append]
  by_cases hCs : cs.rdropWhile isBlank = [] <;> cases hC : isBlank c <;>
    simp [hCs, hC, List.rdropWhile_singleton]

theorem trimmed_rdropWhile (cs : List Char) : trimmed (cs.rdropWhile isBlank) = trimmed cs := by
  induction cs with
  | nil => rfl
  | cons c cs ih =>
      rw [rdropWhile_cons]
      cases hHead : isBlank c with
      | true =>
          split
          · rename_i hNil
            rw [trimmed_blank cs hHead, ← ih, hNil.1]
          · rw [trimmed_blank _ hHead, trimmed_blank _ hHead, ih]
      | false =>
          rw [if_neg (by simp), trimmed_cons cs hHead, trimmed_cons _ hHead, rdropWhile_cons,
            rdropWhile_cons, if_neg (by simp [hHead]), if_neg (by simp [hHead]),
            List.rdropWhile_idempotent]

theorem trim_withoutEnd (s : String) : trim (withoutEnd s) = trim s := by
  rw [trim, withoutEnd, String.toList_ofList, trimmed_rdropWhile, trim]

@[simp] theorem after?_append (start s : String) : after? start (start ++ s) = some s := by
  have hPrefix : start.toList.isPrefixOf? (start ++ s).toList = some s.toList := by
    simp
  rw [after?, hPrefix]
  simp

theorem after?_eq_none {start s : String} {c d : Char} {cs ds : List Char}
    (hStart : start.toList = c :: cs) (hText : s.toList = d :: ds) (h : c ≠ d) :
    after? start s = none := by
  simp [after?, hStart, hText, List.isPrefixOf?, h]

/-- Trimming once is enough. -/
theorem trim_trim (s : String) : trim (trim s) = trim s := by
  have hTrimmed (cs : List Char) : trimmed (trimmed cs) = trimmed cs := by
    induction cs with
    | nil => rfl
    | cons c cs ih =>
        cases hHead : isBlank c with
        | true => rw [trimmed_blank cs hHead, ih]
        | false => rw [trimmed_cons cs hHead, trimmed_rdropWhile, trimmed_cons cs hHead]
  rw [trim, trim, String.toList_ofList, hTrimmed]

/-- Only white space is lost completely, wherever it is taken away. -/
theorem trim_eq_empty {s : String} : trim s = "" ↔ withoutEnd s = "" := by
  constructor
  · intro h
    have hNil (cs : List Char) (hCs : trimmed cs = []) : cs.rdropWhile isBlank = [] := by
      induction cs with
      | nil => rfl
      | cons c cs ih =>
          cases hHead : isBlank c with
          | true =>
              rw [trimmed_blank cs hHead] at hCs
              rw [rdropWhile_cons, if_pos ⟨ih hCs, hHead⟩]
          | false => rwa [← trimmed_cons cs hHead]
    have hList : trimmed s.toList = [] := by
      simpa [trim] using congrArg String.toList h
    rw [withoutEnd, hNil s.toList hList]
  · intro h
    rw [← trim_withoutEnd, h]
    rfl

theorem mem_of_mem_trim {s : String} {c : Char} (h : c ∈ (trim s).toList) : c ∈ s.toList := by
  rw [trim, String.toList_ofList] at h
  exact (List.dropWhile_sublist _).mem ((List.rdropWhile_prefix _ _).mem h)

theorem eq_append_of_after? {start s value : String} (h : after? start s = some value) :
    s = start ++ value := by
  obtain ⟨rest, hRest, rfl⟩ := Option.map_eq_some_iff.mp h
  rw [← String.toList_inj, String.toList_append, String.toList_ofList]
  exact (List.append_eq_of_isPrefixOf?_eq_some hRest).symm

end RpcTransport.Text
