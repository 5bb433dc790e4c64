import RemoteSearch.Proofs.Reading.Advance

set_option autoImplicit false

/-! # Where arrivals end

What is read ahead comes from a single arrival, for a read never joins two of them, and the reader
has taken at least one byte of the same arrival before. So while bytes are read ahead, the reader
stands strictly inside an arrival.

The places where an arrival ends are told by what is still to come there, which is a suffix of all
arrivals. A read leaves each of them either in store or behind (`suffix_read`), and any number of
reads keeps a reader `Inside`: of a place that is not in store any more, it has read past the bytes,
unless nothing is read ahead. Therefore nothing is read ahead where an arrival ends
(`Inside.ahead_eq_nil`).
-/

namespace RemoteSearch

namespace Arrival

theorem bytes_append (as more : List Arrival) : bytes (as ++ more) = bytes as ++ bytes more := by
  induction as with
  | nil => rfl
  | cons a as ih =>
    cases a with
    | data bs =>
      show bs ++ bytes (as ++ more) = (bs ++ bytes as) ++ bytes more
      rw [ih, List.append_assoc]
    | failure | ended => exact ih

theorem length_bytes_of_suffix {as whole : List Arrival} (h : as <:+ whole) :
    (bytes as).length ≤ (bytes whole).length := by
  obtain ⟨front, rfl⟩ := h
  rw [bytes_append, List.length_append]
  exact Nat.le_add_left _ _

/-- A read begins at its first arrival, so what ended before is left behind, and all other places
where an arrival ends are still to come after it. -/
theorem suffix_deliver (most : Nat) {back as : List Arrival} (h : back <:+ as) :
    back <:+ (deliver most as).2 ∨ (bytes as).length ≤ (bytes back).length := by
  fun_induction deliver most as with
  | case1 => exact .inl h
  | case2 rest ih =>
    rcases List.suffix_cons_iff.1 h with rfl | hrest
    · exact .inr (Nat.le_refl _)
    · exact ih hrest
  | case3 b bs rest =>
    rcases List.suffix_cons_iff.1 h with rfl | hrest
    · exact .inr (Nat.le_refl _)
    · exact .inl (hrest.trans (List.suffix_cons _ rest))
  | case4 e rest | case5 rest =>
    rcases List.suffix_cons_iff.1 h with rfl | hrest
    · exact .inr (Nat.le_refl _)
    · exact .inl hrest

end Arrival

namespace Reader

/-- With nothing read ahead, all bytes to come are in store. -/
theorem rest_of_ahead_nil {r : Reader} (h : r.ahead = []) :
    r.rest = Arrival.bytes r.connection.arrivals := by
  rw [rest, h, List.nil_append]

theorem length_rest_read_le (asked : Nat) (r : Reader) :
    (r.read asked).2.rest.length ≤ r.rest.length :=
  (Advance.rest_read asked r).length_le

/-- A read that leaves bytes read ahead has taken some. -/
theorem length_rest_read_lt {asked : Nat} (hasked : asked ≠ 0) {r : Reader}
    (h : (r.read asked).2.ahead ≠ []) : (r.read asked).2.rest.length < r.rest.length := by
  by_cases ha : r.ahead = []
  · by_cases hc : r.capacity ≤ asked
    · rw [read_straight ha hc] at h
      exact absurd ha h
    · rw [read_refill ha (Nat.not_le.1 hc)] at h ⊢
      rcases hread : r.connection.read r.capacity with ⟨e | bytes, c⟩
      · rw [hread] at h
        exact absurd List.drop_nil h
      · rw [hread] at h
        have hleft : bytes.drop asked ≠ [] := h
        have hmore : asked < bytes.length :=
          Nat.not_le.1 fun hle => hleft (List.drop_eq_nil_iff.2 hle)
        rw [rest_of_ahead_nil ha, Connection.bytes_read_ok hread]
        show (bytes.drop asked ++ Arrival.bytes c.arrivals).length <
          (bytes ++ Arrival.bytes c.arrivals).length
        simp only [List.length_append, List.length_drop]
        omega
  · rw [read_served ha] at h ⊢
    have hleft : r.ahead.drop asked ≠ [] := h
    have hmore : asked < r.ahead.length :=
      Nat.not_le.1 fun hle => hleft (List.drop_eq_nil_iff.2 hle)
    show (r.ahead.drop asked ++ Arrival.bytes r.connection.arrivals).length <
      (r.ahead ++ Arrival.bytes r.connection.arrivals).length
    simp only [List.length_append, List.length_drop]
    omega

/-- After a read, a place where an arrival ends is in store as before, or the read began no sooner
than there. -/
theorem suffix_read (asked : Nat) {r : Reader} {back : List Arrival}
    (h : back <:+ r.connection.arrivals) :
    back <:+ (r.read asked).2.connection.arrivals ∨
      r.rest.length ≤ (Arrival.bytes back).length := by
  by_cases ha : r.ahead = []
  · rw [rest_of_ahead_nil ha]
    by_cases hc : r.capacity ≤ asked
    · rw [read_straight ha hc]
      exact Arrival.suffix_deliver _ h
    · rw [read_refill ha (Nat.not_le.1 hc)]
      exact Arrival.suffix_deliver _ h
  · rw [read_served ha]
    exact .inl h

/-! ## Any number of reads -/

/-- A reader of a stream with these arrivals, of which every end is still in store or has been
passed, and passed by some byte as long as others are read ahead. -/
def Inside (whole : List Arrival) (r : Reader) : Prop :=
  ∀ back, back <:+ whole → back <:+ r.connection.arrivals ∨
    r.rest.length ≤ (Arrival.bytes back).length ∧
      (r.ahead ≠ [] → r.rest.length < (Arrival.bytes back).length)

namespace Inside

variable {whole : List Arrival} {r : Reader}

/-- Before the first read, all is in store. -/
theorem start (h : r.connection.arrivals = whole) : Inside whole r := by
  intro back hback
  rw [h]
  exact .inl hback

theorem read (h : Inside whole r) {asked : Nat} (hasked : asked ≠ 0) :
    Inside whole (r.read asked).2 := by
  intro back hback
  have hle := length_rest_read_le asked r
  have key : back <:+ (r.read asked).2.connection.arrivals ∨
      r.rest.length ≤ (Arrival.bytes back).length := by
    rcases h back hback with hstore | ⟨hpassed, -⟩
    · exact suffix_read asked hstore
    · exact .inr hpassed
  rcases key with hstore | hpassed
  · exact .inl hstore
  · refine .inr ⟨Nat.le_trans hle hpassed, fun hahead => ?_⟩
    exact Nat.lt_of_lt_of_le (length_rest_read_lt hasked hahead) hpassed

theorem readField (h : Inside whole r) (field : Field) (size : Nat) :
    Inside whole (r.readField field size).2 :=
  complete_keeps_within (fun _ hasked _ _ h => h.read hasked) field (Nat.le_refl size) h

/-- Where an arrival ends, nothing is read ahead. -/
theorem ahead_eq_nil (h : Inside whole r) {back : List Arrival} (hback : back <:+ whole)
    (hend : r.rest.length = (Arrival.bytes back).length) : r.ahead = [] := by
  refine Classical.byContradiction fun hahead => ?_
  rcases h back hback with hstore | ⟨-, hpassed⟩
  · -- All of an arrival that is in store comes after what is read ahead.
    have hle := Arrival.length_bytes_of_suffix hstore
    have hpos := List.length_pos_iff.2 hahead
    rw [rest, List.length_append] at hend
    omega
  · have hlt := hpassed hahead
    omega

end Inside

end Reader

end RemoteSearch
