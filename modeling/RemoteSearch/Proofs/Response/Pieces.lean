import RemoteSearch.Proofs.Response.Parallel

set_option autoImplicit false

/-! # Responses that are read piece by piece

A response can be read at once, or one occurrence after the other: in a mode that stops at the first
occurrence, or by the start of a record and then the rest of it. Whoever reads it in pieces may
choose anew for each of them, and may at any time read all that is left at once. All this comes to
the same (`readOccurrences_by_pieces`): the same occurrences or the same failure, with the reader in
the same place; and no choice of pieces can go on for ever.

Everything rests on one equation: to read a response is to read a piece and, if it gave an
occurrence, to read a response again (`readOccurrences_eq_readPiece`).
-/

namespace RemoteSearch

/-- Occurrences before those of an outcome. A failure gives them up. -/
def prepend (found : List Occurrence) (x : Except Failure (List Occurrence) × Reader) :
    Except Failure (List Occurrence) × Reader :=
  (x.1.map (found ++ ·), x.2)

@[simp] theorem prepend_nil (x : Except Failure (List Occurrence) × Reader) : prepend [] x = x := by
  obtain ⟨_ | _, _⟩ := x <;> rfl

@[simp] theorem prepend_prepend (a b : List Occurrence)
    (x : Except Failure (List Occurrence) × Reader) :
    prepend a (prepend b x) = prepend (a ++ b) x := by
  obtain ⟨_ | _, _⟩ := x
  · rfl
  · simp [prepend, Except.map]

/-- A piece of a response: what is read in a mode that stops at the first occurrence, or a record by
its start and then the rest of it in a mode. -/
inductive Piece
  | first (mode : Mode)
  | record (mode : Mode)
deriving DecidableEq

/-- True of a piece that may be read of a response in a mode. Only the flag for needles has to
agree. -/
def Piece.Serves (mode : Mode) : Piece → Prop
  | first m => m.stopsAtFirst = true ∧ m.hasNeedle = mode.hasNeedle
  | record m => m.hasNeedle = mode.hasNeedle

instance (mode : Mode) : DecidablePred (Piece.Serves mode)
  | .first m => inferInstanceAs (Decidable (m.stopsAtFirst = true ∧ m.hasNeedle = mode.hasNeedle))
  | .record m => inferInstanceAs (Decidable (m.hasNeedle = mode.hasNeedle))

/-- How far a response has been read in pieces: to its end, or so far that these occurrences are
found and there may be more. -/
inductive Progress
  | ended (outcome : Except Failure (List Occurrence))
  | pending (found : List Occurrence)
deriving DecidableEq

namespace Dialect

/-- Reads a piece. No occurrence means that the response has ended. -/
def readPiece (d : Dialect) : Piece → Reader → Except Failure (List Occurrence) × Reader
  | .first mode, r => d.readOccurrences mode r
  | .record mode, r =>
    match d.readHeader r with
    | (.error e, r) => (.error e, r)
    | (.ok .finished, r) => (.ok [], r)
    | (.ok (.record size), r) =>
      match d.readBody mode size r with
      | (.error e, r) => (.error e, r)
      | (.ok o, r) => (.ok [o], r)

/-- Reads pieces one after the other, as long as they give occurrences. -/
def readPieces (d : Dialect) : List Piece → Reader → Progress × Reader
  | [], r => (.pending [], r)
  | piece :: pieces, r =>
    match d.readPiece piece r with
    | (.error e, r) => (.ended (.error e), r)
    | (.ok [], r) => (.ended (.ok []), r)
    | (.ok (o :: os), r) =>
      match d.readPieces pieces r with
      | (.ended outcome, r) => (.ended (outcome.map (o :: os ++ ·)), r)
      | (.pending found, r) => (.pending (o :: os ++ found), r)

/-! ## One piece -/

variable (d : Dialect)

theorem readPiece_record (mode : Mode) (r : Reader) :
    d.readPiece (.record mode) r =
      andThen (d.readHeader r) fun
        | .finished, r => (.ok [], r)
        | .record size, r => andThen (d.readBody mode size r) fun o r => (.ok [o], r) := by
  rw [readPiece]
  rcases d.readHeader r with ⟨_ | _ | size, r⟩
  · rfl
  · rfl
  · simp only [andThen_ok]
    rcases d.readBody mode size r with ⟨_ | _, _⟩ <;> rfl

theorem readBody_congr {m m' : Mode} (h : m.hasNeedle = m'.hasNeedle) (size : Nat) (r : Reader) :
    d.readBody m size r = d.readBody m' size r := by
  rw [readBody_eq, readBody_eq, h]

/-- What is read in a mode that stops at the first occurrence is a record, or the end. -/
theorem readOccurrences_of_stops {m : Mode} (h : m.stopsAtFirst = true) (r : Reader) :
    d.readOccurrences m r = d.readPiece (.record m) r := by
  rw [readOccurrences, readMore_eq, readPiece_record]
  congr
  funext header r
  cases header with
  | finished => rfl
  | record size =>
    simp only [readAfter, h, if_true]
    rfl

theorem readPiece_of_serves {mode : Mode} {piece : Piece} (h : piece.Serves mode) (r : Reader) :
    d.readPiece piece r = d.readPiece (.record mode) r := by
  have key : ∀ {m : Mode}, m.hasNeedle = mode.hasNeedle →
      d.readPiece (.record m) r = d.readPiece (.record mode) r := by
    intro m hm
    rw [readPiece_record, readPiece_record, funext fun size => funext (d.readBody_congr hm size)]
  cases piece with
  | first m => exact (d.readOccurrences_of_stops h.1 r).trans (key h.2)
  | record m => exact key h

/-- A piece that gives an occurrence takes at least a word. -/
theorem length_rest_readPiece {mode : Mode} {o : Occurrence} {os : List Occurrence} {r r' : Reader}
    (h : d.readPiece (.record mode) r = (.ok (o :: os), r')) :
    r'.rest.length + 4 ≤ r.rest.length := by
  rw [readPiece] at h
  split at h
  · cases h
  · cases h
  · next hheader =>
    split at h
    · cases h
    · next hbody =>
      cases h
      have := length_rest_readHeader hheader
      have := length_rest_readBody hbody
      omega

/-! ## Piece after piece -/

/-- Occurrences that were read before do not bear on those that are still to be read. -/
theorem readMore_eq_prepend (mode : Mode) (newest : List Occurrence) (r : Reader) :
    d.readMore mode newest r = prepend newest.reverse (d.readMore mode [] r) := by
  -- A record less is to come behind each record, on both sides.
  induction hn : r.rest.length using Nat.strongRecOn generalizing newest r with
  | ind n ih =>
    rw [readMore_eq, readMore_eq d mode []]
    rcases hheader : d.readHeader r with ⟨e | header, r₁⟩
    · rfl
    · simp only [andThen_ok]
      cases header with
      | finished => simp [readAfter, prepend, Except.map]
      | record size =>
        simp only [readAfter]
        rcases hbody : d.readBody mode size r₁ with ⟨e | o, r₂⟩
        · rfl
        · simp only [andThen_ok]
          have := length_rest_readHeader hheader
          have := length_rest_readBody hbody
          by_cases hm : mode.stopsAtFirst
          · simp [hm, prepend, Except.map]
          · rw [if_neg hm, if_neg hm, ih _ (by omega) (o :: newest) r₂ rfl,
              ih _ (by omega) [o] r₂ rfl, prepend_prepend, List.reverse_cons,
              List.reverse_singleton]

/-- To read a response is to read a piece of it, and then a response again if there was one. -/
theorem readOccurrences_eq_readPiece {mode : Mode} (hmode : mode.stopsAtFirst = false)
    (r : Reader) :
    d.readOccurrences mode r =
      match d.readPiece (.record mode) r with
      | (.error e, r) => (.error e, r)
      | (.ok [], r) => (.ok [], r)
      | (.ok (o :: os), r) => prepend (o :: os) (d.readOccurrences mode r) := by
  rw [readOccurrences, readMore_eq, readPiece_record]
  rcases d.readHeader r with ⟨e | header, r₁⟩
  · rfl
  · simp only [andThen_ok]
    cases header with
    | finished => rfl
    | record size =>
      simp only [readAfter]
      rcases d.readBody mode size r₁ with ⟨e | o, r₂⟩
      · rfl
      · simp only [andThen_ok, hmode, Bool.false_eq_true, if_false]
        exact d.readMore_eq_prepend mode [o] r₂

/-- Only the flags for the first occurrence and for needles bear on what is read. -/
theorem readOccurrences_congr {m m' : Mode} (hstops : m.stopsAtFirst = m'.stopsAtFirst)
    (hneedle : m.hasNeedle = m'.hasNeedle) (r : Reader) :
    d.readOccurrences m r = d.readOccurrences m' r := by
  have hserves : (Piece.record m).Serves m' := hneedle
  have hpiece : ∀ r, d.readPiece (.record m) r = d.readPiece (.record m') r :=
    d.readPiece_of_serves hserves
  cases hm : m'.stopsAtFirst with
  | true => rw [d.readOccurrences_of_stops (hstops.trans hm), d.readOccurrences_of_stops hm, hpiece]
  | false =>
    induction hn : r.rest.length using Nat.strongRecOn generalizing r with
    | ind n ih =>
      rw [d.readOccurrences_eq_readPiece (hstops.trans hm), d.readOccurrences_eq_readPiece hm,
        hpiece]
      rcases hr : d.readPiece (.record m') r with ⟨e | _ | ⟨o, os⟩, r'⟩
      · rfl
      · rfl
      · have := d.length_rest_readPiece hr
        simp only []
        rw [ih _ (by omega) r' rfl]

/-- Pieces that end a response have read it; any others have left the rest of it. -/
theorem readPieces_eq {mode : Mode} (hmode : mode.stopsAtFirst = false) {pieces : List Piece}
    (hpieces : ∀ piece ∈ pieces, piece.Serves mode) (r : Reader) :
    d.readOccurrences mode r =
      match d.readPieces pieces r with
      | (.ended outcome, r') => (outcome, r')
      | (.pending found, r') => prepend found (d.readOccurrences mode r') := by
  induction pieces generalizing r with
  | nil => exact (prepend_nil _).symm
  | cons piece pieces ih =>
    rw [d.readOccurrences_eq_readPiece hmode, readPieces,
      d.readPiece_of_serves (hpieces piece (List.mem_cons_self ..))]
    rcases d.readPiece (.record mode) r with ⟨e | _ | ⟨o, os⟩, r'⟩
    · rfl
    · rfl
    · simp only []
      rw [ih (fun piece hp => hpieces piece (List.mem_cons_of_mem _ hp)) r']
      rcases d.readPieces pieces r' with ⟨outcome | found, r''⟩
      · rfl
      · exact prepend_prepend ..

/-- Each piece after which there may be more has taken at least a word. -/
theorem length_rest_readPieces {mode : Mode} {pieces : List Piece}
    (hpieces : ∀ piece ∈ pieces, piece.Serves mode) {found : List Occurrence} {r r' : Reader}
    (h : d.readPieces pieces r = (.pending found, r')) :
    r'.rest.length + 4 * pieces.length ≤ r.rest.length := by
  induction pieces generalizing r found with
  | nil => cases h; exact Nat.le_refl _
  | cons piece pieces ih =>
    rw [readPieces, d.readPiece_of_serves (hpieces piece (List.mem_cons_self ..))] at h
    split at h
    · cases h
    · cases h
    · next hpiece =>
      have hone := d.length_rest_readPiece hpiece
      split at h
      · cases h
      · next hrest =>
        cases h
        have hmore := ih (fun piece hp => hpieces piece (List.mem_cons_of_mem _ hp)) hrest
        rw [List.length_cons]
        omega

/-- All ways to read a response come to the same. Whoever reads it piece by piece, in whatever modes
that agree on needles, comes to its end after no more pieces than there are words to come and one,
and has then read what is read at once, occurrences or the failure, and is at the same place; and so
has whoever reads all at once that is left after any number of pieces. The other flags of a mode do
not bear on what is read. -/
theorem readOccurrences_by_pieces (d : Dialect) {mode : Mode} (hmode : mode.stopsAtFirst = false)
    (r : Reader) :
    (∀ pieces : List Piece, (∀ piece ∈ pieces, piece.Serves mode) →
      match d.readPieces pieces r with
      | (.ended outcome, r') => d.readOccurrences mode r = (outcome, r')
      | (.pending found, r') => ∀ last : Mode, last.stopsAtFirst = false →
          last.hasNeedle = mode.hasNeedle →
          d.readOccurrences mode r = prepend found (d.readOccurrences last r')) ∧
    (∀ pieces : List Piece, (∀ piece ∈ pieces, piece.Serves mode) →
      r.rest.length / 4 < pieces.length →
      ∃ outcome r', d.readPieces pieces r = (.ended outcome, r')) ∧
    ∀ m m' : Mode, m.stopsAtFirst = m'.stopsAtFirst → m.hasNeedle = m'.hasNeedle →
      d.readOccurrences m r = d.readOccurrences m' r := by
  refine ⟨fun pieces hpieces => ?_, fun pieces hpieces hmany => ?_,
    fun m m' hstops hneedle => d.readOccurrences_congr hstops hneedle r⟩
  · have key := d.readPieces_eq hmode hpieces r
    rcases h : d.readPieces pieces r with ⟨outcome | found, r'⟩
    · rw [h] at key
      exact key
    · rw [h] at key
      intro last hlast hneedle
      rw [d.readOccurrences_congr (hlast.trans hmode.symm) hneedle]
      exact key
  · rcases h : d.readPieces pieces r with ⟨outcome | found, r'⟩
    · exact ⟨outcome, r', rfl⟩
    · have := d.length_rest_readPieces hpieces h
      omega

/-- Two records and a stream that runs out of time in the next one, read by pieces in three modes:
after two pieces all at once that is left, and by pieces alone. -/
theorem readOccurrences_by_pieces_till_timeout :
    let d : Dialect := ⟨.big, 16⟩
    let r : Reader := .direct
      { arrivals := [.data [0, 0, 0, 1, 65, 0, 0, 0, 0, 0, 0], .failure (.ofKind .interrupted),
          .data [0, 0, 0, 0, 0, 1, 0, 0, 0, 104, 0], .failure ⟨.timedOut, "late"⟩, .data [66]] }
    let pieces : List Piece := [.first ⟨0x83⟩, .record ⟨6⟩]
    let more : List Piece := pieces ++ List.replicate 4 (.record .needle)
    (d.readPieces pieces r).1 = .pending [⟨[65], some ⟨[]⟩⟩, ⟨[], some ⟨[0, 0, 0, 104]⟩⟩] ∧
      d.readOccurrences .needle r =
        prepend [⟨[65], some ⟨[]⟩⟩, ⟨[], some ⟨[0, 0, 0, 104]⟩⟩]
          (d.readOccurrences ⟨0x0A⟩ (d.readPieces pieces r).2) ∧
      (∃ outcome r', d.readPieces more r = (.ended outcome, r')) ∧
      (d.readPieces more r).1 = .ended (.error (.timeout .reading)) := by
  intro d r pieces more
  obtain ⟨heq, hends, -⟩ := @readOccurrences_by_pieces d .needle (by decide) r
  have hpending : (d.readPieces pieces r).1 =
      .pending [⟨[65], some ⟨[]⟩⟩, ⟨[], some ⟨[0, 0, 0, 104]⟩⟩] := by decide +kernel
  have key := heq pieces (by decide)
  have hpair : d.readPieces pieces r = (.pending _, (d.readPieces pieces r).2) :=
    Prod.ext hpending rfl
  rw [hpair] at key
  exact ⟨hpending, key ⟨0x0A⟩ (by decide) (by decide), hends more (by decide) (by decide),
    by decide +kernel⟩

end Dialect

end RemoteSearch
