import Mathlib.Data.List.Basic
import RpcTransport.Text.Lines

/-! A sequence is cut at its line feeds in one way only. -/
namespace RpcTransport.Text

variable {α β : Type}

/-- The sequence is the closed pieces, a line feed behind each, and the rest. -/
structure Divides (feed : α) (xs : List α) (closed : List (List α)) (rest : List α) : Prop where
  joined : closed.flatMap (· ++ [feed]) ++ rest = xs
  closed : ∀ piece ∈ closed, feed ∉ piece
  rest : feed ∉ rest

namespace Divides

variable {feed : α} {xs rest : List α} {closed : List (List α)}

/-- What comes behind the rest of a part may be cut together with that rest. -/
theorem append {ys last : List α} {more : List (List α)} (h : Divides feed xs closed rest)
    (hMore : Divides feed (rest ++ ys) more last) :
    Divides feed (xs ++ ys) (closed ++ more) last := by
  refine ⟨?_, ?_, hMore.rest⟩
  · rw [List.flatMap_append, List.append_assoc, hMore.joined, ← List.append_assoc, h.joined]
  · intro piece hPiece
    exact (List.mem_append.mp hPiece).elim (h.closed piece) (hMore.closed piece)

/-- An encoding that keeps the line feed, and gives it to nothing else, keeps the cuts. -/
theorem flatMap {code : α → List β} {target : β} (h : Divides feed xs closed rest)
    (hFeed : code feed = [target]) (hOther : ∀ x, target ∈ code x → x = feed) :
    Divides target (xs.flatMap code) (closed.map (·.flatMap code)) (rest.flatMap code) := by
  have hNone {piece : List α} (hPiece : feed ∉ piece) : target ∉ piece.flatMap code := by
    intro hMem
    obtain ⟨x, hx, hCode⟩ := List.mem_flatMap.mp hMem
    exact hPiece (hOther x hCode ▸ hx)
  refine ⟨?_, ?_, hNone h.rest⟩
  · rw [← h.joined, List.flatMap_append, List.flatMap_assoc, List.flatMap_map]
    simp only [List.flatMap_append, List.flatMap_singleton, hFeed]
  · intro piece hPiece
    obtain ⟨source, hSource, rfl⟩ := List.mem_map.mp hPiece
    exact hNone (h.closed source hSource)

end Divides

variable [DecidableEq α]

theorem divides_pieces (feed : α) (xs : List α) :
    Divides feed xs (pieces feed xs).1 (pieces feed xs).2 := by
  induction xs with
  | nil => exact ⟨rfl, nofun, nofun⟩
  | cons x xs ih =>
      rw [pieces]
      rcases hPieces : pieces feed xs with ⟨closed, rest⟩
      rw [hPieces] at ih
      obtain ⟨hJoined, hClosed, hRest⟩ := ih
      dsimp only at hJoined hClosed hRest ⊢
      split
      · subst x
        exact ⟨by simpa using hJoined,
          List.forall_mem_cons.mpr ⟨List.not_mem_nil, hClosed⟩, hRest⟩
      · rename_i hx
        have hCons {piece : List α} (hPiece : feed ∉ piece) : feed ∉ x :: piece := by
          simp [hPiece, Ne.symm hx]
        cases closed with
        | nil => exact ⟨by simpa using hJoined, nofun, hCons hRest⟩
        | cons piece more =>
            rw [List.forall_mem_cons] at hClosed
            exact ⟨by simpa using hJoined,
              List.forall_mem_cons.mpr ⟨hCons hClosed.1, hClosed.2⟩, hRest⟩

theorem pieces_of_not_mem {feed : α} {xs : List α} (h : feed ∉ xs) :
    pieces feed xs = ([], xs) := by
  induction xs with
  | nil => rfl
  | cons x xs ih =>
      have hx : x ≠ feed := fun hx => h (hx ▸ List.mem_cons_self)
      rw [pieces, ih fun hMem => h (List.mem_cons_of_mem x hMem)]
      simp [hx]

theorem pieces_append_feed {feed : α} {piece : List α} (h : feed ∉ piece) (xs : List α) :
    pieces feed (piece ++ feed :: xs) = (piece :: (pieces feed xs).1, (pieces feed xs).2) := by
  induction piece with
  | nil => simp [pieces]
  | cons x piece ih =>
      have hx : x ≠ feed := fun hx => h (hx ▸ List.mem_cons_self)
      rw [List.cons_append, pieces, ih fun hMem => h (List.mem_cons_of_mem x hMem)]
      simp [hx]

/-- There is one way to cut. -/
theorem Divides.pieces_eq {feed : α} {xs rest : List α} {closed : List (List α)}
    (h : Divides feed xs closed rest) : pieces feed xs = (closed, rest) := by
  obtain ⟨rfl, hClosed, hRest⟩ := h
  induction closed with
  | nil => exact pieces_of_not_mem hRest
  | cons piece closed ih =>
      have hTail := ih fun other hOther => hClosed other (List.mem_cons_of_mem _ hOther)
      rw [List.flatMap_cons, List.append_assoc, List.append_assoc, List.singleton_append,
        pieces_append_feed (hClosed piece List.mem_cons_self), hTail]

theorem pieces_append (feed : α) (xs ys : List α) :
    pieces feed (xs ++ ys) =
      ((pieces feed xs).1 ++ (pieces feed ((pieces feed xs).2 ++ ys)).1,
        (pieces feed ((pieces feed xs).2 ++ ys)).2) :=
  ((divides_pieces feed xs).append (divides_pieces feed _)).pieces_eq

/-- An encoding that keeps the carriage return, and gives it to nothing else, keeps the
line ends. -/
theorem withoutReturn_flatMap [DecidableEq β] {code : α → List β} {ret : α} {target : β}
    (hReturn : code ret = [target]) (hOther : ∀ x, target ∈ code x → x = ret)
    (hSome : ∀ x, code x ≠ []) (piece : List α) :
    withoutReturn target (piece.flatMap code) = (withoutReturn ret piece).flatMap code := by
  rcases List.eq_nil_or_concat piece with rfl | ⟨init, x, rfl⟩
  · rfl
  · rw [List.concat_eq_append, withoutReturn, withoutReturn, List.flatMap_append,
      List.flatMap_singleton, List.getLast?_append_of_ne_nil _ (hSome x), List.getLast?_concat]
    by_cases hx : x = ret
    · subst x
      simp [hReturn]
    · have hLast : (code x).getLast? ≠ some target := fun hLast =>
        hx (hOther x (List.mem_of_getLast? hLast))
      simp [hx, hLast]

end RpcTransport.Text
