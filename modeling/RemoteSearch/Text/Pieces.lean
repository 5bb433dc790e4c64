set_option autoImplicit false

/-! # Pieces between separators

A text is cut at every separator. There is always one piece more than there are separators, and
no piece holds one.
-/

namespace RemoteSearch.Text

/-- The pieces of a list between the elements that satisfy `sep`. -/
def pieces {α : Type} (sep : α → Bool) : List α → List (List α)
  | [] => [[]]
  | c :: s =>
    if sep c then [] :: pieces sep s
    else
      match pieces sep s with
      | [] => [[c]]
      | p :: ps => (c :: p) :: ps

@[simp] theorem pieces_nil {α : Type} (sep : α → Bool) : pieces sep [] = [[]] := rfl

theorem pieces_ne_nil {α : Type} (sep : α → Bool) (s : List α) : pieces sep s ≠ [] := by
  cases s with
  | nil => simp
  | cons c s =>
    simp only [pieces]
    split
    · simp
    · split <;> simp

theorem pieces_cons_of_not_sep {α : Type} {sep : α → Bool} {c : α} (h : sep c = false)
    (s : List α) : ∃ p ps, pieces sep s = p :: ps ∧ pieces sep (c :: s) = (c :: p) :: ps := by
  cases hs : pieces sep s with
  | nil => exact absurd hs (pieces_ne_nil sep s)
  | cons p ps => exact ⟨p, ps, rfl, by simp [pieces, h, hs]⟩

/-- Cutting at a separator cuts the text into the pieces before it and those after it. -/
theorem pieces_append_sep {α : Type} {sep : α → Bool} {c : α} (h : sep c = true) (s t : List α) :
    pieces sep (s ++ c :: t) = pieces sep s ++ pieces sep t := by
  induction s with
  | nil => simp [pieces, h]
  | cons d s ih =>
    by_cases hd : sep d = true
    · simp [pieces, hd, ih]
    · have hd' : sep d = false := by simpa using hd
      obtain ⟨p, ps, hs, hc⟩ := pieces_cons_of_not_sep hd' s
      rw [List.cons_append, pieces, if_neg hd, ih, hs, hc]
      rfl

theorem pieces_of_no_sep {α : Type} {sep : α → Bool} {s : List α} (h : ∀ c ∈ s, sep c = false) :
    pieces sep s = [s] := by
  induction s with
  | nil => rfl
  | cons c s ih =>
    have hc : sep c = false := h c (by simp)
    simp [pieces, hc, ih (fun d hd => h d (by simp [hd]))]

theorem not_sep_of_mem_pieces {α : Type} {sep : α → Bool} {s p : List α} {c : α}
    (hp : p ∈ pieces sep s) (hc : c ∈ p) : sep c = false := by
  induction s generalizing p with
  | nil => simp_all [pieces]
  | cons d s ih =>
    by_cases hd : sep d = true
    · simp only [pieces, hd, if_true, List.mem_cons] at hp
      rcases hp with rfl | hp
      · cases hc
      · exact ih hp hc
    · have hd' : sep d = false := by simpa using hd
      obtain ⟨q, qs, hs, hq⟩ := pieces_cons_of_not_sep hd' s
      rw [hq, List.mem_cons] at hp
      rcases hp with rfl | hp
      · rcases List.mem_cons.1 hc with rfl | hc
        · exact hd'
        · exact ih (by rw [hs]; exact List.mem_cons_self) hc
      · exact ih (by rw [hs]; exact List.mem_cons_of_mem _ hp) hc

end RemoteSearch.Text
