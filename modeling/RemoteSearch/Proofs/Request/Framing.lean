import RemoteSearch.Request

set_option autoImplicit false

/-! # Frames as a server reads them

A frame tells its own end, so a server that reads one frame after the other finds the requests that
were sent, however many of them are there already (`parseAll_layouts`).

It finds nothing else: what is parsed as a request is the frame of that request
(`parse_eq_some_iff`), and what is parsed request by request are their frames in turn
(`parseAll_eq_iff`). Hence bytes are the frames of one sequence of requests at most, and no frame
goes on to be another one (`frames_parsed_exactly`).
-/

namespace RemoteSearch.Request

/-- The frame of a request is its layout, where the length of the needle fits into a word. -/
theorem frame_eq_ok_iff (order : Wire.Endian) (q : Request) (frame : List UInt8) :
    q.frame order = .ok frame ↔ q.needle.length < UInt32.size ∧ frame = q.layout order := by
  unfold Request.frame
  split
  · next h => simp [h, eq_comm]
  · next h => simp [h]

/-- A frame is read as its request, whatever comes after it. -/
theorem parse_layout (order : Wire.Endian) {q : Request} (h : q.needle.length < UInt32.size)
    (after : List UInt8) : parse order (q.layout order ++ after) = some (q, after) := by
  have hword : (order.encode (UInt32.ofNat q.needle.length)).length = 4 :=
    Wire.Endian.length_encode order _
  have hsize : (UInt32.ofNat q.needle.length).toNat = q.needle.length := by
    rw [UInt32.toNat_ofNat', Nat.mod_eq_of_lt h]
  have hbytes : q.layout order ++ after =
      q.mode.bits ::
        (order.encode (UInt32.ofNat q.needle.length) ++ (q.needle ++ after)) := by
    rw [layout, List.cons_append, List.append_assoc]
  rw [hbytes, parse]
  simp only [List.take_left' hword, List.drop_left' hword, Wire.Endian.decode_encode, hsize,
    List.length_append, hword]
  rw [if_neg (by omega), if_neg (by omega), List.take_left, List.drop_left]

/-- What is read as a request is its frame, and the needle fits as its length was read off a
word. -/
theorem layout_of_parse {order : Wire.Endian} {q : Request} {bytes after : List UInt8}
    (h : parse order bytes = some (q, after)) :
    q.needle.length < UInt32.size ∧ bytes = q.layout order ++ after := by
  unfold parse at h
  split at h
  · cases h
  · next mode rest =>
    split at h
    · cases h
    · next hrest =>
      simp only [] at h
      split at h
      · cases h
      · next hbody =>
        cases h
        have hword : (rest.take 4).length = 4 := by rw [List.length_take]; omega
        have hneedle : ((rest.drop 4).take (order.decode (rest.take 4)).toNat).length =
            (order.decode (rest.take 4)).toNat := by rw [List.length_take]; omega
        constructor
        · show ((rest.drop 4).take _).length < UInt32.size
          rw [hneedle]
          exact (order.decode (rest.take 4)).toNat_lt
        · show mode :: rest = mode :: (order.encode (UInt32.ofNat _) ++ _) ++ _
          rw [hneedle, UInt32.ofNat_toNat, order.encode_decode hword, List.cons_append,
            List.append_assoc, List.take_append_drop, List.take_append_drop]

/-- Parsing finds a request exactly where its frame is. -/
theorem parse_eq_some_iff (order : Wire.Endian) (bytes : List UInt8) (q : Request)
    (after : List UInt8) :
    parse order bytes = some (q, after) ↔
      ∃ frame, q.frame order = .ok frame ∧ bytes = frame ++ after := by
  constructor
  · intro h
    obtain ⟨hlength, hbytes⟩ := layout_of_parse h
    exact ⟨q.layout order, (frame_eq_ok_iff order q _).2 ⟨hlength, rfl⟩, hbytes⟩
  · rintro ⟨frame, hframe, rfl⟩
    obtain ⟨hlength, rfl⟩ := (frame_eq_ok_iff order q frame).1 hframe
    exact parse_layout order hlength after

/-- A frame is not empty. -/
theorem length_of_parse {order : Wire.Endian} {q : Request} {bytes after : List UInt8}
    (h : parse order bytes = some (q, after)) : after.length < bytes.length := by
  rw [(layout_of_parse h).2, List.length_append, length_layout, headerSize]
  omega

/-- The requests at the front of the bytes, and the bytes after the last whole frame. -/
def parseAll (order : Wire.Endian) (bytes : List UInt8) : List Request × List UInt8 :=
  match _h : parse order bytes with
  | none => ([], bytes)
  | some (q, after) => (q :: (parseAll order after).1, (parseAll order after).2)
termination_by bytes.length
decreasing_by
  all_goals exact length_of_parse _h

theorem parseAll_of_parse {order : Wire.Endian} {q : Request} {bytes after : List UInt8}
    (h : parse order bytes = some (q, after)) :
    parseAll order bytes = (q :: (parseAll order after).1, (parseAll order after).2) := by
  rw [parseAll]
  split
  · next h' => rw [h] at h'; cases h'
  · next h' => rw [h] at h'; cases h'; rfl

/-! ## Frames of many requests -/

/-- The bytes are the frames of the requests, one after the other. -/
inductive Framed (order : Wire.Endian) : List Request → List UInt8 → Prop
  | nil : Framed order [] []
  | cons {q : Request} {qs : List Request} {frame more : List UInt8}
      (first : q.frame order = .ok frame) (others : Framed order qs more) :
      Framed order (q :: qs) (frame ++ more)

/-- Requests whose needles fit have frames. -/
theorem framed_layouts (order : Wire.Endian) {qs : List Request}
    (h : ∀ q ∈ qs, q.needle.length < UInt32.size) :
    Framed order qs (qs.flatMap (layout order)) := by
  induction qs with
  | nil => exact .nil
  | cons q qs ih =>
    have hq := h q (List.mem_cons_self ..)
    rw [List.flatMap_cons]
    exact .cons ((frame_eq_ok_iff order q _).2 ⟨hq, rfl⟩)
      (ih fun q' hq' => h q' (List.mem_cons_of_mem q hq'))

theorem parseAll_of_framed {order : Wire.Endian} {qs : List Request} {bytes : List UInt8}
    (h : Framed order qs bytes) {after : List UInt8} (hafter : parse order after = none) :
    parseAll order (bytes ++ after) = (qs, after) := by
  induction h with
  | nil =>
    rw [List.nil_append, parseAll]
    split
    · rfl
    · next h' => rw [hafter] at h'; cases h'
  | @cons q qs frame more first others ih =>
    have hparse : parse order (frame ++ (more ++ after)) = some (q, more ++ after) :=
      (parse_eq_some_iff order _ q _).2 ⟨frame, first, rfl⟩
    rw [List.append_assoc, parseAll_of_parse hparse, ih]

/-- Frames with nothing after them. -/
theorem parseAll_of_framed_only {order : Wire.Endian} {qs : List Request} {bytes : List UInt8}
    (h : Framed order qs bytes) : parseAll order bytes = (qs, []) := by
  have hnone : parse order [] = none := rfl
  have key := parseAll_of_framed h hnone
  rwa [List.append_nil] at key

/-- Frames one after the other are read as their requests, and nothing is left over. -/
theorem parseAll_layouts (order : Wire.Endian) {qs : List Request}
    (h : ∀ q ∈ qs, q.needle.length < UInt32.size) :
    parseAll order (qs.flatMap (layout order)) = (qs, []) :=
  parseAll_of_framed_only (framed_layouts order h)

theorem framed_of_parseAll (order : Wire.Endian) (bytes : List UInt8) :
    ∃ frames, Framed order (parseAll order bytes).1 frames ∧
      bytes = frames ++ (parseAll order bytes).2 ∧
      parse order (parseAll order bytes).2 = none := by
  fun_induction parseAll order bytes with
  | case1 bytes h => exact ⟨[], .nil, rfl, h⟩
  | case2 bytes q after h ih =>
    obtain ⟨frame, hframe, hbytes⟩ := (parse_eq_some_iff order bytes q after).1 h
    obtain ⟨frames, hframes, hafter, hrest⟩ := ih
    refine ⟨frame ++ frames, .cons hframe hframes, ?_, hrest⟩
    rw [List.append_assoc, ← hafter]
    exact hbytes

/-- Parsing request by request finds a sequence of requests exactly where their frames are, followed
by bytes that no request begins with. -/
theorem parseAll_eq_iff (order : Wire.Endian) (bytes : List UInt8) (qs : List Request)
    (after : List UInt8) :
    parseAll order bytes = (qs, after) ↔
      ∃ frames, Framed order qs frames ∧ bytes = frames ++ after ∧ parse order after = none := by
  constructor
  · intro h
    have key := framed_of_parseAll order bytes
    rwa [h] at key
  · rintro ⟨frames, hframes, rfl, hafter⟩
    exact parseAll_of_framed hframes hafter

/-- Frames can be told from one another and from what comes after them.

Bytes are parsed as a request and a rest if and only if they are the frame of that request and the
rest, and a request whose needle fits has a frame. Requests that are sent in turn are parsed one by
one, and nothing is left over; whatever bytes are parsed in this way, they are the frames of the
requests found and a rest that no request begins. So a frame that begins another frame is that one,
and different sequences of requests have different bytes. -/
theorem frames_parsed_exactly (order : Wire.Endian) :
    (∀ bytes q after, parse order bytes = some (q, after) ↔
      ∃ frame, q.frame order = .ok frame ∧ bytes = frame ++ after) ∧
    (∀ q : Request, q.needle.length < UInt32.size → q.frame order = .ok (q.layout order)) ∧
    (∀ qs : List Request, (∀ q ∈ qs, q.needle.length < UInt32.size) →
      Framed order qs (qs.flatMap (layout order)) ∧
        parseAll order (qs.flatMap (layout order)) = (qs, [])) ∧
    (∀ bytes qs after, parseAll order bytes = (qs, after) ↔
      ∃ frames, Framed order qs frames ∧ bytes = frames ++ after ∧ parse order after = none) ∧
    (∀ (q q' : Request) (frame frame' : List UInt8), q.frame order = .ok frame →
      q'.frame order = .ok frame' → frame <+: frame' → q = q' ∧ frame = frame') ∧
    ∀ qs qs' bytes, Framed order qs bytes → Framed order qs' bytes → qs = qs' := by
  refine ⟨parse_eq_some_iff order, ?_, ?_, parseAll_eq_iff order, ?_, ?_⟩
  · intro q hq
    exact (frame_eq_ok_iff order q _).2 ⟨hq, rfl⟩
  · intro qs hqs
    exact ⟨framed_layouts order hqs, parseAll_layouts order hqs⟩
  · rintro q q' frame _ hframe hframe' ⟨more, rfl⟩
    -- The longer frame is parsed in two ways, as its own request and as the shorter one.
    have hshort : parse order (frame ++ more) = some (q, more) :=
      (parse_eq_some_iff order _ q more).2 ⟨frame, hframe, rfl⟩
    have hlong : parse order (frame ++ more) = some (q', []) :=
      (parse_eq_some_iff order _ q' []).2 ⟨frame ++ more, hframe', (List.append_nil _).symm⟩
    rw [hshort] at hlong
    cases hlong
    exact ⟨rfl, (List.append_nil frame).symm⟩
  · intro qs qs' bytes h h'
    have key := parseAll_of_framed_only h
    rw [parseAll_of_framed_only h'] at key
    exact (congrArg Prod.fst key).symm

/-- A needle can hold what looks like a frame. -/
example :
    parseAll .big [1, 0, 0, 0, 6, 4, 0, 0, 0, 1, 97, 4, 0, 0, 0, 0] =
      ([⟨.first, [4, 0, 0, 0, 1, 97]⟩, ⟨.userData, []⟩], []) := by
  decide +kernel

end RemoteSearch.Request
