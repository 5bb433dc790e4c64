import RemoteSearch.Proofs.Reading.Advance
import RemoteSearch.Response

set_option autoImplicit false

/-! # Reading two responses side by side

A response is read by reading fields; between them there is nothing but the values they hold. So
whatever a field read keeps between two readers, reading a whole response keeps as well. `Parallel`
says what "keeps" has to mean, and `Parallel.readOccurrences` is the one induction over the records
of a response.
-/

namespace RemoteSearch

variable {α β : Type}

/-- Goes on with the value of an outcome. A failure is the end. -/
def andThen (x : Except Failure α × Reader) (f : α → Reader → Except Failure β × Reader) :
    Except Failure β × Reader :=
  match x with
  | (.error e, r) => (.error e, r)
  | (.ok a, r) => f a r

@[simp] theorem andThen_ok (a : α) (r : Reader) (f : α → Reader → Except Failure β × Reader) :
    andThen (.ok a, r) f = f a r := rfl

/-- True of a failure that lies in the words of a response and not in the stream. -/
def Failure.isRefusal : Failure → Bool
  | fieldTooLarge _ _ _ => true
  | protocol _ => true
  | _ => false

/-- An outcome that is a value or a refusal. -/
def Decided (o : Except Failure α) : Prop := ∀ e, o = .error e → e.isRefusal = true

theorem decided_ok (a : α) : Decided (.ok a) := fun _ h => nomatch h

namespace Dialect

/-! ## The reading of a response, step after step -/

theorem readWord_eq (d : Dialect) (field : Field) (r : Reader) :
    d.readWord field r =
      andThen (r.readField field 4) fun bytes r => (.ok (d.order.decodeSigned bytes), r) := by
  unfold readWord
  rcases r.readField field 4 with ⟨_ | _, _⟩ <;> rfl

theorem readHeader_eq (d : Dialect) (r : Reader) :
    d.readHeader r = andThen (d.readWord .dataSize r) fun size r => (d.headerOf size, r) := by
  unfold readHeader
  rcases d.readWord .dataSize r with ⟨_ | _, _⟩ <;> rfl

theorem readNeedle_eq (d : Dialect) (r : Reader) :
    d.readNeedle r =
      andThen (d.readWord .needleLength r) fun length r =>
        andThen (d.needleSize length, r) fun size r =>
          andThen (r.readField .needle size) fun bytes r => (.ok ⟨bytes⟩, r) := by
  unfold readNeedle
  rcases d.readWord .needleLength r with ⟨_ | length, r⟩
  · rfl
  · simp only [andThen_ok]
    rcases d.needleSize length with _ | size
    · rfl
    · simp only [andThen_ok]
      rcases r.readField .needle size with ⟨_ | _, _⟩ <;> rfl

theorem readBody_eq (d : Dialect) (mode : Mode) (size : Nat) (r : Reader) :
    d.readBody mode size r =
      andThen (r.readField .data size) fun data r =>
        if mode.hasNeedle then
          andThen (d.readNeedle r) fun needle r => (.ok { data, needle := some needle }, r)
        else (.ok { data }, r) := by
  unfold readBody
  rcases r.readField .data size with ⟨_ | data, r⟩
  · rfl
  · simp only [andThen_ok]
    split
    · rcases d.readNeedle r with ⟨_ | _, _⟩ <;> rfl
    · rfl

/-- What is read of a response after the start of a record. -/
def readAfter (d : Dialect) (mode : Mode) (newest : List Occurrence) :
    Header → Reader → Except Failure (List Occurrence) × Reader
  | .finished, r => (.ok newest.reverse, r)
  | .record size, r =>
    andThen (d.readBody mode size r) fun o r =>
      if mode.stopsAtFirst then (.ok (o :: newest).reverse, r) else d.readMore mode (o :: newest) r

theorem readMore_eq (d : Dialect) (mode : Mode) (newest : List Occurrence) (r : Reader) :
    d.readMore mode newest r = andThen (d.readHeader r) (d.readAfter mode newest) := by
  rw [readMore]
  split
  · next h => rw [h]; rfl
  · next h => rw [h]; rfl
  · next h =>
    rw [h, andThen_ok, readAfter]
    split
    · next h' => rw [h']; rfl
    · next h' => rw [h']; rfl

/-! ## Sizes -/

theorem decided_allow (d : Dialect) (field : Field) (size : Nat) :
    Decided (d.allow field size) := by
  intro e h
  unfold allow at h
  split at h <;> cases h
  rfl

theorem decided_headerOf (d : Dialect) (w : Int32) : Decided (d.headerOf w) := by
  intro e h
  unfold headerOf at h
  split at h
  · cases h
  · cases ha : d.allow .dataSize w.toNatClampNeg with
    | error e' =>
      rw [ha] at h
      cases h
      exact decided_allow d .dataSize _ e ha
    | ok n => rw [ha] at h; cases h

theorem decided_needleSize (d : Dialect) (w : Int32) : Decided (d.needleSize w) := by
  intro e h
  unfold needleSize at h
  split at h
  · cases h
    rfl
  · exact decided_allow d .needle _ e h

theorem le_of_allow {d : Dialect} {field : Field} {size n : Nat} (h : d.allow field size = .ok n) :
    n = size ∧ size ≤ d.fieldLimit := by
  unfold allow at h
  split at h
  · cases h
  · next hs =>
    cases h
    exact ⟨rfl, Nat.not_lt.1 hs⟩

theorem le_of_headerOf {d : Dialect} {w : Int32} {size : Nat}
    (h : d.headerOf w = .ok (.record size)) : size ≤ d.fieldLimit := by
  unfold headerOf at h
  split at h
  · cases h
  · cases ha : d.allow .dataSize w.toNatClampNeg with
    | error e => rw [ha] at h; cases h
    | ok n =>
      rw [ha] at h
      cases h
      obtain ⟨rfl, hn⟩ := le_of_allow ha
      exact hn

theorem le_of_needleSize {d : Dialect} {w : Int32} {size : Nat} (h : d.needleSize w = .ok size) :
    size ≤ d.fieldLimit := by
  unfold needleSize at h
  split at h
  · cases h
  · obtain ⟨rfl, hn⟩ := le_of_allow h
    exact hn

end Dialect

/-! ## Two readers side by side -/

/-- What is kept between two readers that read in the same dialect, and between what comes of
them. Fields within the limit are all that is ever read. -/
structure Parallel (d : Dialect) where
  readers : Reader → Reader → Prop
  outcomes : {α : Type} → Except Failure α × Reader → Except Failure α × Reader → Prop
  value : ∀ {α : Type} {o : Except Failure α} {r s : Reader}, Decided o → readers r s →
    outcomes (o, r) (o, s)
  andThen : ∀ {α β : Type} {x y : Except Failure α × Reader}
    {f g : α → Reader → Except Failure β × Reader}, outcomes x y →
    (∀ a r s, x = (.ok a, r) → readers r s → outcomes (f a r) (g a s)) →
    outcomes (RemoteSearch.andThen x f) (RemoteSearch.andThen y g)
  readField : ∀ (field : Field) {size : Nat} {r s : Reader}, size ≤ max 4 d.fieldLimit →
    readers r s → outcomes (r.readField field size) (s.readField field size)

namespace Parallel

variable {d : Dialect} (p : Parallel d) {r s : Reader}

theorem readWord (field : Field) (h : p.readers r s) :
    p.outcomes (d.readWord field r) (d.readWord field s) := by
  rw [Dialect.readWord_eq, Dialect.readWord_eq]
  refine p.andThen (p.readField field (Nat.le_max_left _ _) h) fun bytes r s _ h => ?_
  exact p.value (decided_ok _) h

theorem readHeader (h : p.readers r s) : p.outcomes (d.readHeader r) (d.readHeader s) := by
  rw [Dialect.readHeader_eq, Dialect.readHeader_eq]
  exact p.andThen (p.readWord .dataSize h) fun size r s _ h =>
    p.value (Dialect.decided_headerOf d size) h

theorem readNeedle (h : p.readers r s) : p.outcomes (d.readNeedle r) (d.readNeedle s) := by
  rw [Dialect.readNeedle_eq, Dialect.readNeedle_eq]
  refine p.andThen (p.readWord .needleLength h) fun length r s _ h => ?_
  refine p.andThen (p.value (Dialect.decided_needleSize d length) h) fun size r s hsize h => ?_
  have hle : size ≤ max 4 d.fieldLimit :=
    Nat.le_trans (Dialect.le_of_needleSize (Prod.mk.inj hsize).1) (Nat.le_max_right _ _)
  exact p.andThen (p.readField .needle hle h) fun bytes r s _ h =>
    p.value (decided_ok _) h

theorem readBody (mode : Mode) {size : Nat} (hsize : size ≤ d.fieldLimit) (h : p.readers r s) :
    p.outcomes (d.readBody mode size r) (d.readBody mode size s) := by
  rw [Dialect.readBody_eq, Dialect.readBody_eq]
  refine p.andThen (p.readField .data (Nat.le_trans hsize (Nat.le_max_right _ _)) h)
    fun data r s _ h => ?_
  by_cases hm : mode.hasNeedle
  · rw [if_pos hm, if_pos hm]
    exact p.andThen (p.readNeedle h) fun needle r s _ h =>
      p.value (decided_ok _) h
  · rw [if_neg hm, if_neg hm]
    exact p.value (decided_ok _) h

theorem readMore (mode : Mode) (newest : List Occurrence) (h : p.readers r s) :
    p.outcomes (d.readMore mode newest r) (d.readMore mode newest s) := by
  -- Each record takes at least its first word from the bytes to come on the left.
  induction hn : r.rest.length using Nat.strongRecOn generalizing newest r s with
  | ind n ih =>
    rw [Dialect.readMore_eq, Dialect.readMore_eq d mode newest s]
    refine p.andThen (p.readHeader h) fun header r₁ s₁ hheader h₁ => ?_
    cases header with
    | finished => exact p.value (decided_ok _) h₁
    | record size =>
      obtain ⟨w, hw, -⟩ := Dialect.rest_readHeader hheader
      refine p.andThen (p.readBody mode (Dialect.le_of_headerOf hw) h₁)
        fun o r₂ s₂ hbody h₂ => ?_
      by_cases hm : mode.stopsAtFirst
      · rw [if_pos hm, if_pos hm]
        exact p.value (decided_ok _) h₂
      · rw [if_neg hm, if_neg hm]
        have := Dialect.length_rest_readHeader hheader
        have := Dialect.length_rest_readBody hbody
        exact ih _ (by omega) (o :: newest) h₂ rfl

/-- What a field read keeps, reading a response keeps. -/
theorem readOccurrences (mode : Mode) (h : p.readers r s) :
    p.outcomes (d.readOccurrences mode r) (d.readOccurrences mode s) :=
  p.readMore mode [] h

/-- Readers that stand in a relation which every field read keeps, with the same outcome. -/
def lockstep (d : Dialect) (related : Reader → Reader → Prop)
    (step : ∀ (field : Field) (size : Nat) {r s : Reader}, related r s →
      (r.readField field size).1 = (s.readField field size).1 ∧
        related (r.readField field size).2 (s.readField field size).2) : Parallel d where
  readers := related
  outcomes x y := x.1 = y.1 ∧ related x.2 y.2
  value _ h := ⟨rfl, h⟩
  andThen {_ _ x y _ _} h k := by
    obtain ⟨o, r⟩ := x
    obtain ⟨_, s⟩ := y
    obtain ⟨rfl, hrs⟩ := h
    cases o with
    | error e => exact ⟨rfl, hrs⟩
    | ok a => exact k a r s rfl hrs
  readField field _ _ _ _ h := step field _ h

/-- A reader beside itself, with a property that is kept by the reading of fields within the
limit. -/
def keeping (d : Dialect) (P : Reader → Prop)
    (step : ∀ (field : Field) (size : Nat) (r : Reader), size ≤ max 4 d.fieldLimit → P r →
      P (r.readField field size).2) : Parallel d where
  readers r s := r = s ∧ P r
  outcomes x y := x = y ∧ P x.2
  value := by
    rintro _ o r _ _ ⟨rfl, h⟩
    exact ⟨rfl, h⟩
  andThen {_ _ x _ f g} h k := by
    obtain ⟨rfl, hx⟩ := h
    obtain ⟨o, r⟩ := x
    cases o with
    | error e => exact ⟨rfl, hx⟩
    | ok a => exact k a r r rfl ⟨rfl, hx⟩
  readField := by
    rintro field size r _ hsize ⟨rfl, h⟩
    exact ⟨rfl, step field size r hsize h⟩

end Parallel

namespace Dialect

/-- What is kept by the reading of fields within the limit, the reading of a response keeps. -/
theorem readOccurrences_keeps (d : Dialect) (mode : Mode) {P : Reader → Prop}
    (step : ∀ (field : Field) (size : Nat) (r : Reader), size ≤ max 4 d.fieldLimit → P r →
      P (r.readField field size).2) {r : Reader} (h : P r) : P (d.readOccurrences mode r).2 :=
  ((Parallel.keeping d P step).readOccurrences mode ⟨rfl, h⟩).2

theorem advance_readOccurrences (d : Dialect) (mode : Mode) (r : Reader) :
    Reader.Advance r (d.readOccurrences mode r).2 :=
  d.readOccurrences_keeps mode (fun field size _ _ h => h.trans (.readField field size _))
    (.refl r)

end Dialect

end RemoteSearch
