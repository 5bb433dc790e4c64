import Mathlib.Data.List.Forall2
import Mathlib.Data.List.TakeWhile
import RemoteSearch.Text.Blank
import RemoteSearch.Text.Pieces

set_option autoImplicit false

/-! # Joined and padded texts

Texts can be joined by separators (`Joined`) and have white space put around them (`Padded`).
Cutting at the separators undoes joining: the pieces are the only texts without separators from
which the whole is joined (`pieces_eq_iff`). Trimming takes nothing away but padding, and as long as
no separator is white space, the padding of a whole text only pads its first and its last piece, so
that the trimmed pieces stay the same (`Padded.map_trim_pieces`). So they do when white space is put
around each piece (`Respaced`).
-/

namespace RemoteSearch.Text

/-! ## Padding -/

/-- The text with white space before and after it. -/
inductive Padded (t : List Char) : List Char → Prop
  | between {before after : List Char} (blankBefore : ∀ c ∈ before, isBlank c = true)
      (blankAfter : ∀ c ∈ after, isBlank c = true) : Padded t (before ++ t ++ after)

theorem trim_append_blanks {after : List Char} (h : ∀ c ∈ after, isBlank c = true)
    (s : List Char) : trim (s ++ after) = trim s := by
  have hreverse : ∀ c ∈ after.reverse, isBlank c = true := fun c hc => h c (List.mem_reverse.1 hc)
  have hafter : after.dropWhile isBlank = [] := List.dropWhile_eq_nil_iff.2 h
  rw [trim, trim, List.dropWhile_append]
  split
  · next hs =>
    -- All of the text is white space, so nothing is left on either side.
    rw [hafter, List.isEmpty_iff.1 hs]
  · rw [dropEndWhile, List.reverse_append, List.dropWhile_append_of_pos hreverse]
    rfl

/-- What trimming takes away is white space. -/
theorem padded_trim (s : List Char) : Padded (trim s) s := by
  have hblank (s : List Char) : ∀ c ∈ s.takeWhile isBlank, isBlank c = true :=
    List.all_eq_true.1 List.all_takeWhile
  have hsplit : s.takeWhile isBlank ++ trim s ++
      ((s.dropWhile isBlank).reverse.takeWhile isBlank).reverse = s := by
    rw [trim, List.append_assoc, dropEndWhile_append_takeWhile, List.takeWhile_append_dropWhile]
  have key : Padded (trim s) (s.takeWhile isBlank ++ trim s ++
      ((s.dropWhile isBlank).reverse.takeWhile isBlank).reverse) :=
    .between (hblank s) fun c hc => hblank _ c (List.mem_reverse.1 hc)
  rwa [hsplit] at key

/-- A text that neither begins nor ends with white space is left as it is. -/
theorem trim_eq_self {c d : Char} (hc : isBlank c = false) (hd : isBlank d = false)
    {s t : List Char} (h : c :: s = t ++ [d]) : trim (c :: s) = c :: s := by
  rw [trim, List.dropWhile_cons_of_neg (by simp [hc]), h, dropEndWhile_concat, hd]
  rfl

theorem trim_cons_of_not_blank {c : Char} (h : isBlank c = false) (s : List Char) :
    trim (c :: s) = c :: dropEndWhile isBlank s := by
  rw [trim, List.dropWhile_cons_of_neg (by simp [h]), dropEndWhile, List.reverse_cons,
    List.dropWhile_append, dropEndWhile]
  split
  · next hs =>
    rw [List.isEmpty_iff.1 hs, List.dropWhile_cons_of_neg (by simp [h])]
    rfl
  · rw [List.reverse_append]
    rfl

/-! ## Joining -/

/-- The texts one after the other, with a separator between each two of them. -/
inductive Joined {α : Type} (sep : α → Bool) : List (List α) → List α → Prop
  | one (t : List α) : Joined sep [t] t
  | cons {c : α} {ts : List (List α)} {s : List α} (t : List α) (separator : sep c = true)
      (others : Joined sep ts s) : Joined sep (t :: ts) (t ++ c :: s)

/-- The texts without separators from which a whole text is joined. -/
structure ArePieces {α : Type} (sep : α → Bool) (s : List α) (ps : List (List α)) : Prop where
  joined : Joined sep ps s
  uncut : ∀ p ∈ ps, ∀ c ∈ p, sep c = false

section

variable {α : Type} {sep : α → Bool}

/-- A whole text is cut where its parts are joined, and wherever they are cut themselves. -/
theorem Joined.pieces_eq {ts : List (List α)} {s : List α} (h : Joined sep ts s) :
    pieces sep s = ts.flatMap (pieces sep) := by
  induction h with
  | one t => exact (List.append_nil _).symm
  | cons t separator others ih => rw [pieces_append_sep separator, ih, List.flatMap_cons]

theorem joined_intercalate {c : α} (hc : sep c = true) {ts : List (List α)} (hts : ts ≠ []) :
    Joined sep ts ([c].intercalate ts) := by
  induction ts with
  | nil => exact absurd rfl hts
  | cons t ts ih =>
    by_cases h : ts = []
    · subst h
      rw [List.intercalate_singleton]
      exact .one t
    · have hothers := ih h
      rw [List.intercalate_cons_of_ne_nil h, List.append_assoc]
      exact .cons t hc hothers

theorem joined_pieces (s : List α) : Joined sep (pieces sep s) s := by
  induction s with
  | nil => exact .one []
  | cons c s ih =>
    by_cases hc : sep c = true
    · rw [pieces, if_pos hc]
      exact .cons [] hc ih
    · obtain ⟨p, ps, hs, hcons⟩ := pieces_cons_of_not_sep (Bool.eq_false_iff.2 hc) s
      rw [hcons]
      rw [hs] at ih
      cases ih with
      | one => exact .one (c :: s)
      | cons _ separator others => exact .cons (c :: p) separator others

/-- There is one way to take a text apart, and cutting finds it. -/
theorem pieces_eq_iff (s : List α) (ps : List (List α)) :
    pieces sep s = ps ↔ ArePieces sep s ps := by
  constructor
  · rintro rfl
    exact ⟨joined_pieces s, fun p hp c hc => not_sep_of_mem_pieces hp hc⟩
  · rintro ⟨hjoined, huncut⟩
    have hsingle : ps.flatMap (pieces sep) = ps.flatMap fun p => [p] :=
      List.flatMap_congr fun p hp => pieces_of_no_sep (huncut p hp)
    rw [hjoined.pieces_eq, hsingle, List.flatMap_singleton']

theorem eq_of_pieces_eq_singleton {s p : List α} (h : pieces sep s = [p]) : p = s := by
  have hjoined := (joined_pieces s : Joined sep _ s)
  rw [h] at hjoined
  cases hjoined with
  | one => rfl
  | cons _ _ others => cases others

/-- A text without separators that is added at the end goes to the last piece. -/
theorem pieces_append_of_no_sep {after : List α} (h : ∀ c ∈ after, sep c = false) (s : List α) :
    ∃ ps p, pieces sep s = ps ++ [p] ∧ pieces sep (s ++ after) = ps ++ [p ++ after] := by
  induction s with
  | nil => exact ⟨[], [], rfl, pieces_of_no_sep h⟩
  | cons c s ih =>
    obtain ⟨ps, p, hs, hafter⟩ := ih
    by_cases hc : sep c = true
    · refine ⟨[] :: ps, p, ?_, ?_⟩
      · rw [pieces, if_pos hc, hs]
        rfl
      · rw [List.cons_append, pieces, if_pos hc, hafter]
        rfl
    · cases ps with
      | nil =>
        refine ⟨[], c :: p, ?_, ?_⟩
        · rw [pieces, if_neg hc, hs]
          rfl
        · rw [List.cons_append, pieces, if_neg hc, hafter]
          rfl
      | cons q ps =>
        refine ⟨(c :: q) :: ps, p, ?_, ?_⟩
        · rw [pieces, if_neg hc, hs]
          rfl
        · rw [List.cons_append, pieces, if_neg hc, hafter]
          rfl

end

section

variable {sep : Char → Bool} (hsep : ∀ c, isBlank c = true → sep c = false)

include hsep

theorem map_trim_pieces_append {after : List Char} (h : ∀ c ∈ after, isBlank c = true)
    (s : List Char) : (pieces sep (s ++ after)).map trim = (pieces sep s).map trim := by
  obtain ⟨ps, p, hs, hafter⟩ := pieces_append_of_no_sep (fun c hc => hsep c (h c hc)) s
  rw [hs, hafter, List.map_append, List.map_append, List.map_singleton, List.map_singleton,
    trim_append_blanks h]

theorem map_trim_pieces_prepend {before : List Char} (h : ∀ c ∈ before, isBlank c = true)
    (s : List Char) : (pieces sep (before ++ s)).map trim = (pieces sep s).map trim := by
  induction before with
  | nil => rfl
  | cons c before ih =>
    have hc := h c (List.mem_cons_self ..)
    obtain ⟨p, ps, hp, hcons⟩ := pieces_cons_of_not_sep (hsep c hc) (before ++ s)
    rw [← ih fun d hd => h d (List.mem_cons_of_mem c hd), hp, List.cons_append, hcons,
      List.map_cons, List.map_cons, trim_cons_blank hc]

/-- Padding changes nothing of the trimmed pieces, unless it holds separators. -/
theorem Padded.map_trim_pieces {t s : List Char} (h : Padded t s) :
    (pieces sep s).map trim = (pieces sep t).map trim := by
  obtain ⟨hbefore, hafter⟩ := h
  rw [map_trim_pieces_append hsep hafter, map_trim_pieces_prepend hsep hbefore]

end

/-- What is joined has the trimmed pieces of its parts. -/
theorem Joined.map_trim_pieces {sep : Char → Bool} {ts us : List (List Char)} {s : List Char}
    (h : Joined sep us s)
    (same : List.Forall₂ (fun t u => (pieces sep u).map trim = (pieces sep t).map trim) ts us) :
    (pieces sep s).map trim = (ts.flatMap (pieces sep)).map trim := by
  rw [h.pieces_eq]
  clear h
  induction same with
  | nil => rfl
  | cons same _ ih =>
    rw [List.flatMap_cons, List.flatMap_cons, List.map_append, List.map_append, same, ih]

/-- A text with the pieces of another, white space around each of them and any separators between
them. -/
inductive Respaced (sep : Char → Bool) (t s : List Char) : Prop
  | intro {ps : List (List Char)} (padded : List.Forall₂ Padded (pieces sep t) ps)
      (joined : Joined sep ps s)

/-- Where the trimmed pieces are those of a text, it is this text with white space in it. -/
theorem respaced_of_map_trim_pieces {sep : Char → Bool} {t s : List Char}
    (h : (pieces sep s).map trim = pieces sep t) : Respaced sep t s := by
  refine ⟨?_, joined_pieces s⟩
  rw [← h, List.forall₂_map_left_iff, List.forall₂_same]
  exact fun p _ => padded_trim p

theorem Respaced.map_trim_pieces {sep : Char → Bool}
    (hsep : ∀ c, isBlank c = true → sep c = false) {t s : List Char} (h : Respaced sep t s) :
    (pieces sep s).map trim = (pieces sep t).map trim := by
  obtain ⟨hpadded, hjoined⟩ := h
  rw [hjoined.map_trim_pieces (hpadded.imp fun _ _ h => h.map_trim_pieces hsep),
    ← (joined_pieces t).pieces_eq]

end RemoteSearch.Text
