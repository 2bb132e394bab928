import Wiring.Text.Fields

/-!
# Pieces of a text

No piece holds the separator, and cutting what was put together from such pieces gives them back
(`pieces_join`). All that is lost by cutting are the separators (`flatten_pieces`).
-/

namespace Wiring.Text

/-- Pieces put together with one separator between neighbours. -/
def join (sep : Char) : List (List Char) → List Char
  | [] => []
  | [piece] => piece
  | piece :: next :: rest => piece ++ sep :: join sep (next :: rest)

/-- No piece holds the separator. -/
theorem not_mem_of_mem_pieces {sep : Char} {cs piece : List Char} (h : piece ∈ pieces sep cs) :
    sep ∉ piece := by
  induction cs generalizing piece with
  | nil =>
    rw [pieces, List.mem_singleton] at h
    subst h
    exact List.not_mem_nil
  | cons c cs ih =>
    rw [pieces] at h
    split at h
    · rcases List.mem_cons.1 h with rfl | h
      · exact List.not_mem_nil
      · exact ih h
    · next hc =>
      split at h
      · next hp => exact absurd hp (pieces_ne_nil sep cs)
      · next first rest hp =>
        rcases List.mem_cons.1 h with rfl | h
        · have hfirst : sep ∉ first := ih (hp ▸ List.mem_cons_self)
          simpa [eq_comm] using And.intro hc hfirst
        · exact ih (hp ▸ List.mem_cons_of_mem _ h)

/-- A text without the separator is one piece. -/
theorem pieces_of_not_mem {sep : Char} {piece : List Char} (h : sep ∉ piece) :
    pieces sep piece = [piece] := by
  induction piece with
  | nil => rfl
  | cons c piece ih =>
    obtain ⟨hc, hpiece⟩ := not_or.1 fun hor => h (List.mem_cons.2 hor)
    rw [pieces, if_neg fun heq => hc heq.symm, ih hpiece]

/-- The pieces of a text are those before a separator and those after it. -/
theorem pieces_append (sep : Char) (cs rest : List Char) :
    pieces sep (cs ++ sep :: rest) = pieces sep cs ++ pieces sep rest := by
  induction cs with
  | nil => simp [pieces]
  | cons c cs ih =>
    rw [List.cons_append, pieces, pieces]
    split
    · rw [ih, List.cons_append]
    · rw [ih]
      cases hp : pieces sep cs with
      | nil => exact absurd hp (pieces_ne_nil sep cs)
      | cons first more => rfl

/-- Cutting pieces that were put together gives them back. -/
theorem pieces_join {sep : Char} {l : List (List Char)} (hne : l ≠ []) (h : ∀ p ∈ l, sep ∉ p) :
    pieces sep (join sep l) = l := by
  induction l with
  | nil => exact absurd rfl hne
  | cons piece rest ih =>
    have hpiece := h piece (.head _)
    cases rest with
    | nil => exact pieces_of_not_mem hpiece
    | cons next rest =>
      rw [join, pieces_append, pieces_of_not_mem hpiece,
        ih (List.cons_ne_nil _ _) fun p hp => h p (.tail _ hp), List.singleton_append]

/-- Cutting takes away the separators and nothing else. -/
theorem flatten_pieces (sep : Char) (cs : List Char) :
    (pieces sep cs).flatten = cs.filter (· ≠ sep) := by
  induction cs with
  | nil => rfl
  | cons c cs ih =>
    by_cases hc : c = sep
    · rw [pieces, if_pos hc, List.flatten_cons, ih, List.filter_cons_of_neg (by simp [hc]),
        List.nil_append]
    · rw [pieces, if_neg hc, List.filter_cons_of_pos (by simp [hc]), ← ih]
      cases hp : pieces sep cs with
      | nil => exact absurd hp (pieces_ne_nil sep cs)
      | cons first more => rfl

/-- Pieces are joined with one separator between neighbours. -/
theorem intercalate_eq_join (sep : Char) (l : List (List Char)) :
    List.intercalate [sep] l = join sep l := by
  induction l with
  | nil => rfl
  | cons piece rest ih =>
    cases rest with
    | nil => simp [join]
    | cons next rest => simp [join, ← ih]

end Wiring.Text
