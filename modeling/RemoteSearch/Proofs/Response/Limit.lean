import RemoteSearch.Proofs.Response.Refusal

set_option autoImplicit false

/-! # Under a higher limit

A limit decides nothing but whether a field is read at all. So two readers of the same stream that
differ in their limits go side by side until they come to a field whose size lies between the two:
there the lower limit refuses, and the reader with the higher one goes on by itself
(`readOccurrences_under_limits`). Until then they differ in nothing, and a failure that both report
differs in nothing but the limit that it names (`Failure.underLimit`).

The two runs are `Raised` as long as this holds. Steps keep it (`Raised.andThen`), and the limit is
looked at in one place alone, `Dialect.allow`.
-/

namespace RemoteSearch

/-- The failure as a reader with the limit reports it: a size is too large for the reader's own
limit. -/
def Failure.underLimit (limit : Nat) : Failure → Failure
  | fieldTooLarge field size _ => fieldTooLarge field size limit
  | e => e

theorem Failure.underLimit_of_not_refusal (limit : Nat) {e : Failure} (h : e.isRefusal = false) :
    e.underLimit limit = e := by
  cases e with
  | fieldTooLarge => cases h
  | stream | connect | timeout | shortRead | protocol | config => rfl

/-! ## Bytes taken -/

/-- A read gives no bytes back. -/
theorem Connection.taken_le_read (asked : Nat) (c : Connection) :
    c.taken ≤ (c.read asked).2.taken := by
  have hcalls : (c.read asked).2.calls =
      .read asked ((c.read asked).1.map List.length) :: c.calls := rfl
  rw [taken_of_calls hcalls]
  exact Nat.le_add_left _ _

namespace Reader

theorem taken_le_read (asked : Nat) (r : Reader) :
    r.connection.taken ≤ (r.read asked).2.connection.taken := by
  by_cases h : r.ahead = []
  · by_cases hc : r.capacity ≤ asked
    · rw [read_straight h hc]
      exact Connection.taken_le_read asked r.connection
    · rw [read_refill h (Nat.not_le.1 hc)]
      exact Connection.taken_le_read r.capacity r.connection
  · exact Nat.le_of_eq (by rw [read_served h])

theorem taken_le_readField (field : Field) (size : Nat) (r : Reader) :
    r.connection.taken ≤ (r.readField field size).2.connection.taken :=
  complete_keeps (P := fun s => r.connection.taken ≤ s.connection.taken)
    (fun asked s h => Nat.le_trans h (taken_le_read asked s)) field 0 size [] (Nat.le_refl _)

end Reader

/-! ## Two limits -/

section

variable {α β : Type} {low high : Nat}

/-- What comes of a reader under a limit, and under a higher one: the same but for the limit that a
failure names, or a refusal where the other goes on. -/
structure Raised (low high : Nat) (before : Reader) (x y : Except Failure α × Reader) : Prop where
  outcome : y = (x.1.mapError (·.underLimit high), x.2) ∨
    ∃ field size, x.1 = .error (.fieldTooLarge field size low) ∧ low < size ∧ size ≤ high ∧
      x.2.connection.taken ≤ y.2.connection.taken
  onward : before.connection.taken ≤ y.2.connection.taken

namespace Raised

theorem ok (a : α) (r : Reader) : Raised low high r (.ok a, r) (.ok a, r) :=
  ⟨.inl rfl, Nat.le_refl _⟩

/-- Once the lower limit has refused, the other run goes on with no one beside it. -/
theorem andThen {before : Reader} {x y : Except Failure α × Reader}
    {f g : α → Reader → Except Failure β × Reader} (h : Raised low high before x y)
    (k : ∀ a r, y = (.ok a, r) → Raised low high r (f a r) (g a r)) :
    Raised low high before (RemoteSearch.andThen x f) (RemoteSearch.andThen y g) := by
  obtain ⟨houtcome, honward⟩ := h
  rcases houtcome with rfl | ⟨field, size, hx, habove, hwithin, hlater⟩
  · obtain ⟨o, r⟩ := x
    cases o with
    | error e => exact ⟨.inl rfl, honward⟩
    | ok a =>
      have key := k a r rfl
      exact ⟨key.outcome, Nat.le_trans honward key.onward⟩
  · obtain ⟨o, r⟩ := x
    obtain ⟨o', s⟩ := y
    have hx' : o = .error (.fieldTooLarge field size low) := hx
    rw [hx']
    cases o' with
    | error e => exact ⟨.inr ⟨field, size, rfl, habove, hwithin, hlater⟩, honward⟩
    | ok a =>
      have key := (k a s rfl).onward
      exact ⟨.inr ⟨field, size, rfl, habove, hwithin, Nat.le_trans hlater key⟩,
        Nat.le_trans honward key⟩

/-- A field itself is read in the same way under every limit. -/
theorem readField (field : Field) (size : Nat) (r : Reader) :
    Raised low high r (r.readField field size) (r.readField field size) := by
  refine ⟨.inl ?_, r.taken_le_readField field size⟩
  cases h : r.readField field size with
  | mk o s =>
    cases o with
    | ok bytes => rfl
    | error e =>
      have he : e.underLimit high = e :=
        Failure.underLimit_of_not_refusal high (Reader.isRefusal_of_complete h)
      show (Except.error e, s) = (Except.error (e.underLimit high), s)
      rw [he]

/-- A size is within both limits, or between them, or beyond both. -/
theorem allow (hle : low ≤ high) (order : Wire.Endian) (field : Field) (size : Nat) (r : Reader) :
    Raised low high r (Dialect.allow ⟨order, low⟩ field size, r)
      (Dialect.allow ⟨order, high⟩ field size, r) := by
  refine ⟨?_, Nat.le_refl _⟩
  unfold Dialect.allow
  by_cases hlow : low < size
  · by_cases hhigh : high < size
    · left
      rw [if_pos hlow, if_pos hhigh]
      rfl
    · right
      exact ⟨field, size, by simp [hlow], hlow, Nat.not_lt.1 hhigh, Nat.le_refl _⟩
  · left
    have hhigh : ¬ high < size := by omega
    rw [if_neg hlow, if_neg hhigh]
    rfl

end Raised

end

namespace Raised

variable {low high : Nat} (hle : low ≤ high) (order : Wire.Endian)

include hle

theorem headerOf (w : Int32) (r : Reader) :
    Raised low high r (Dialect.headerOf ⟨order, low⟩ w, r)
      (Dialect.headerOf ⟨order, high⟩ w, r) := by
  have hmap : ∀ o : Except Failure Nat, (o.map Header.record, r) =
      RemoteSearch.andThen (o, r) fun size r => (.ok (.record size), r) := by
    intro o
    cases o <;> rfl
  unfold Dialect.headerOf
  by_cases hw : w < 0
  · rw [if_pos hw, if_pos hw]
    exact .ok _ r
  · rw [if_neg hw, if_neg hw, hmap, hmap]
    exact (allow hle order .dataSize _ r).andThen fun size r _ => .ok _ r

theorem needleSize (w : Int32) (r : Reader) :
    Raised low high r (Dialect.needleSize ⟨order, low⟩ w, r)
      (Dialect.needleSize ⟨order, high⟩ w, r) := by
  unfold Dialect.needleSize
  by_cases hw : w < 0
  · rw [if_pos hw, if_pos hw]
    exact ⟨.inl rfl, Nat.le_refl _⟩
  · rw [if_neg hw, if_neg hw]
    exact allow hle order .needle _ r

omit hle in
theorem readWord (field : Field) (r : Reader) :
    Raised low high r (Dialect.readWord ⟨order, low⟩ field r)
      (Dialect.readWord ⟨order, high⟩ field r) := by
  rw [Dialect.readWord_eq, Dialect.readWord_eq]
  exact (readField field 4 r).andThen fun bytes r _ => .ok _ r

theorem readHeader (r : Reader) :
    Raised low high r (Dialect.readHeader ⟨order, low⟩ r) (Dialect.readHeader ⟨order, high⟩ r) := by
  rw [Dialect.readHeader_eq, Dialect.readHeader_eq]
  exact (readWord order .dataSize r).andThen fun w r _ => headerOf hle order w r

theorem readNeedle (r : Reader) :
    Raised low high r (Dialect.readNeedle ⟨order, low⟩ r) (Dialect.readNeedle ⟨order, high⟩ r) := by
  rw [Dialect.readNeedle_eq, Dialect.readNeedle_eq]
  refine (readWord order .needleLength r).andThen fun w r _ => ?_
  refine (needleSize hle order w r).andThen fun size r _ => ?_
  exact (readField .needle size r).andThen fun bytes r _ => .ok _ r

theorem readBody (mode : Mode) (size : Nat) (r : Reader) :
    Raised low high r (Dialect.readBody ⟨order, low⟩ mode size r)
      (Dialect.readBody ⟨order, high⟩ mode size r) := by
  rw [Dialect.readBody_eq, Dialect.readBody_eq]
  refine (readField .data size r).andThen fun data r _ => ?_
  by_cases hm : mode.hasNeedle
  · rw [if_pos hm, if_pos hm]
    exact (readNeedle hle order r).andThen fun needle r _ => .ok _ r
  · rw [if_neg hm, if_neg hm]
    exact .ok _ r

theorem readMore (mode : Mode) (newest : List Occurrence) (r : Reader) :
    Raised low high r (Dialect.readMore ⟨order, low⟩ mode newest r)
      (Dialect.readMore ⟨order, high⟩ mode newest r) := by
  -- Each record takes at least its first word from the bytes to come, under the higher limit too.
  induction hn : r.rest.length using Nat.strongRecOn generalizing newest r with
  | ind n ih =>
    rw [Dialect.readMore_eq, Dialect.readMore_eq]
    refine (readHeader hle order r).andThen fun header r₁ hheader => ?_
    cases header with
    | finished => exact .ok _ r₁
    | record size =>
      refine (readBody hle order mode size r₁).andThen fun o r₂ hbody => ?_
      by_cases hm : mode.stopsAtFirst
      · rw [if_pos hm, if_pos hm]
        exact .ok _ r₂
      · rw [if_neg hm, if_neg hm]
        have := Dialect.length_rest_readHeader hheader
        have := Dialect.length_rest_readBody hbody
        exact ih _ (by omega) (o :: newest) r₂ rfl

end Raised

namespace Dialect

/-- A higher limit does no harm, on any stream and for any reader.

Under it the outcome is the same and the reader stands in the same place, where only the limit that
a failure names is the reader's own; or else the lower limit refuses a size that is between the two,
and the higher one goes on from there. So what is read under the lower limit is read under the
higher one, and what is read under the higher limit is read under the lower one or refused there as
too large. -/
theorem readOccurrences_under_limits {low high : Nat} (hle : low ≤ high) (order : Wire.Endian)
    (mode : Mode) (r : Reader) :
    let x := Dialect.readOccurrences ⟨order, low⟩ mode r
    let y := Dialect.readOccurrences ⟨order, high⟩ mode r
    (y = (x.1.mapError (·.underLimit high), x.2) ∨
      ∃ field size, x.1 = .error (.fieldTooLarge field size low) ∧ low < size ∧ size ≤ high ∧
        x.2.connection.taken ≤ y.2.connection.taken) ∧
    (∀ os, x.1 = .ok os → y = x) ∧
    ∀ os, y.1 = .ok os → x = y ∨
      ∃ field size, x.1 = .error (.fieldTooLarge field size low) ∧ low < size ∧ size ≤ high := by
  intro x y
  have key : Raised low high r x y := Raised.readMore hle order mode [] r
  refine ⟨key.outcome, fun os hx => ?_, fun os hy => ?_⟩
  · rcases key.outcome with hsame | ⟨field, size, hrefused, -⟩
    · rw [hsame, hx]
      exact Prod.ext hx.symm rfl
    · rw [hx] at hrefused
      cases hrefused
  · rcases key.outcome with hsame | ⟨field, size, hrefused, habove, hwithin, -⟩
    · left
      rw [hsame] at hy ⊢
      cases hx : x.1 with
      | ok os' => exact Prod.ext hx rfl
      | error e =>
        rw [hx] at hy
        cases hy
    · exact .inr ⟨field, size, hrefused, habove, hwithin⟩

/-- Two records of which the second is too large for four bytes and not for eight, in pieces. -/
theorem readOccurrences_under_limits_between :
    let c : Connection :=
      { arrivals := [.data [0, 0, 0, 1, 65, 0, 0], .failure (.ofKind .interrupted),
          .data [0, 5, 1, 2, 3], .data [4, 5, 255, 255, 255, 255]] }
    let x := Dialect.readOccurrences ⟨.big, 4⟩ .empty (.direct c)
    let y := Dialect.readOccurrences ⟨.big, 8⟩ .empty (.direct c)
    y.1 = .ok [⟨[65], none⟩, ⟨[1, 2, 3, 4, 5], none⟩] ∧
      ∃ field size, x.1 = .error (.fieldTooLarge field size 4) ∧ 4 < size ∧ size ≤ 8 := by
  intro c x y
  have hy : y.1 = .ok [⟨[65], none⟩, ⟨[1, 2, 3, 4, 5], none⟩] := by decide +kernel
  obtain ⟨-, -, hread⟩ := @readOccurrences_under_limits 4 8 (by decide) .big .empty (.direct c)
  rcases hread _ hy with hsame | hrefused
  · have hx : x.1 = .error (.fieldTooLarge .dataSize 5 4) := by decide +kernel
    have hsame' : x.1 = y.1 := congrArg Prod.fst hsame
    rw [hx, hy] at hsame'
    cases hsame'
  · exact ⟨hy, hrefused⟩

end Dialect

end RemoteSearch
