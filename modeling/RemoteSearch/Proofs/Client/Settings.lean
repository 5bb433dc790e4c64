import Mathlib.Data.List.Induction
import RemoteSearch.Proofs.Client.Deadlines
import RemoteSearch.Proofs.Request.Framing
import RemoteSearch.Proofs.Response.Refusal
import RemoteSearch.Settings

set_option autoImplicit false

/-! # Settings at work

Settings are changed one at a time, and what was given last for one of them is what holds
(`ofList_eq_lasts`). A client that was made from settings keeps them through all its queries, so
each query is governed by what was given last (`Governs`): the mode byte and the length in its
frame, the deadlines of both directions, and the dialect and mode in which the response is read,
down to the size from which on a field is refused. What else was given before makes no difference
anywhere (`settings_govern`).
-/

namespace RemoteSearch

/-! ## The last of several changes -/

namespace Setting

def endpoint? : Setting → Option Endpoint
  | endpoint e => some e
  | _ => none

def readTimeout? : Setting → Option Nat
  | readTimeout milliseconds => some milliseconds
  | _ => none

def writeTimeout? : Setting → Option Nat
  | writeTimeout milliseconds => some milliseconds
  | _ => none

def order? : Setting → Option Wire.Endian
  | order o => some o
  | _ => none

def mode? : Setting → Option Mode
  | mode m => some m
  | _ => none

def fieldLimit? : Setting → Option Nat
  | fieldLimit limit => some limit
  | _ => none

/-- What was given last by changes of one kind, if there are any. -/
def last? {α : Type} (given? : Setting → Option α) (changes : List Setting) : Option α :=
  (changes.filterMap given?).getLast?

theorem last?_concat {α : Type} (given? : Setting → Option α) (changes : List Setting)
    (c : Setting) : last? given? (changes ++ [c]) = (given? c).or (last? given? changes) := by
  rw [last?, List.filterMap_append, List.getLast?_append, last?]
  cases hc : given? c with
  | none =>
    rw [List.filterMap_cons_none hc]
    rfl
  | some a =>
    rw [List.filterMap_cons_some hc]
    rfl

end Setting

namespace Settings

/-- Where a change gives a setting or leaves it, the last one that gave it holds. -/
theorem ofList_eq_last {α : Type} {get : Settings → α} {given? : Setting → Option α}
    (hset : ∀ s c, get (set s c) = (given? c).getD (get s)) (changes : List Setting) :
    get (ofList changes) = (Setting.last? given? changes).getD (get {}) := by
  induction changes using List.reverseRecOn with
  | nil => rfl
  | append_singleton changes c ih =>
    rw [ofList_concat, hset, ih, Setting.last?_concat]
    cases given? c <;> rfl

/-- For each setting what was given last, or its default. -/
def lasts (changes : List Setting) : Settings where
  endpoint := (Setting.last? Setting.endpoint? changes).getD (.tcp "127.0.0.1:80")
  readTimeout := (Setting.last? Setting.readTimeout? changes).getD 0
  writeTimeout := (Setting.last? Setting.writeTimeout? changes).getD 0
  order := (Setting.last? Setting.order? changes).getD .little
  mode := (Setting.last? Setting.mode? changes).getD ⟨0x07⟩
  fieldLimit := (Setting.last? Setting.fieldLimit? changes).getD 16777216

theorem ofList_eq_lasts (changes : List Setting) : ofList changes = lasts changes := by
  have hendpoint : (ofList changes).endpoint = (lasts changes).endpoint :=
    ofList_eq_last (fun s c => by cases c <;> rfl) changes
  have hreadTimeout : (ofList changes).readTimeout = (lasts changes).readTimeout :=
    ofList_eq_last (fun s c => by cases c <;> rfl) changes
  have hwriteTimeout : (ofList changes).writeTimeout = (lasts changes).writeTimeout :=
    ofList_eq_last (fun s c => by cases c <;> rfl) changes
  have horder : (ofList changes).order = (lasts changes).order :=
    ofList_eq_last (fun s c => by cases c <;> rfl) changes
  have hmode : (ofList changes).mode = (lasts changes).mode :=
    ofList_eq_last (fun s c => by cases c <;> rfl) changes
  have hfieldLimit : (ofList changes).fieldLimit = (lasts changes).fieldLimit :=
    ofList_eq_last (fun s c => by cases c <;> rfl) changes
  calc ofList changes
      = ⟨(ofList changes).endpoint, (ofList changes).readTimeout, (ofList changes).writeTimeout,
          (ofList changes).order, (ofList changes).mode, (ofList changes).fieldLimit⟩ := rfl
    _ = lasts changes := by
      rw [hendpoint, hreadTimeout, hwriteTimeout, horder, hmode, hfieldLimit]

/-- Changes that end with the same for each setting. -/
structure SameLasts (changes other : List Setting) : Prop where
  endpoint : Setting.last? Setting.endpoint? changes = Setting.last? Setting.endpoint? other
  readTimeout :
    Setting.last? Setting.readTimeout? changes = Setting.last? Setting.readTimeout? other
  writeTimeout :
    Setting.last? Setting.writeTimeout? changes = Setting.last? Setting.writeTimeout? other
  order : Setting.last? Setting.order? changes = Setting.last? Setting.order? other
  mode : Setting.last? Setting.mode? changes = Setting.last? Setting.mode? other
  fieldLimit : Setting.last? Setting.fieldLimit? changes = Setting.last? Setting.fieldLimit? other

theorem SameLasts.ofList_eq {changes other : List Setting} (h : SameLasts changes other) :
    ofList changes = ofList other := by
  rw [ofList_eq_lasts, ofList_eq_lasts, lasts, h.endpoint, h.readTimeout, h.writeTimeout, h.order,
    h.mode, h.fieldLimit]
  rfl

end Settings

/-! ## Courses and what was sent in them -/

theorem Call.failure?_ne_tooLarge {call : Call} {field : Field} {size max : Nat} :
    call.failure? ≠ some (.fieldTooLarge field size max) := by
  unfold failure?
  split
  · exact nofun
  · split
    · exact nofun
    · split <;> exact nofun
  · split <;> exact nofun
  · exact nofun

/-- Reading puts nothing on the wire. -/
theorem Call.acceptedBytes_of_isRead {calls : List Call} (h : ∀ call ∈ calls, call.isRead = true) :
    acceptedBytes calls = [] := by
  have hnone : calls.filterMap accepted? = [] := by
    rw [List.filterMap_eq_nil_iff]
    intro call hmem
    have hread := h call hmem
    cases call with
    | read => rfl
    | write | flush | setDeadline => cases hread
  rw [acceptedBytes, hnone, List.flatten_nil]

@[simp] theorem Call.acceptedBytes_setDeadline (direction : Direction) (limit : Option Duration)
    (failed : Option StreamError) (calls : List Call) :
    acceptedBytes (.setDeadline direction limit failed :: calls) = acceptedBytes calls := rfl

namespace Request.Sent.Conforms

variable {order : Wire.Endian} {q : Request} {f : Failure} {calls : List Call}

/-- A request that fails gets the front of its frame accepted. -/
theorem accepted_of_error (h : Conforms order ⟨q, .error f, calls⟩) :
    Call.acceptedBytes calls <+: q.layout order := by
  cases hframe : q.frame order with
  | error e =>
    simp only [Conforms, hframe] at h
    rw [h.2]
    exact List.nil_prefix
  | ok bytes =>
    simp only [Conforms, hframe] at h
    rw [← ((frame_eq_ok_iff order q bytes).1 hframe).2]
    exact h.accepted

/-- No request fails by a field of the response. -/
theorem ne_tooLarge {field : Field} {size max : Nat} (h : Conforms order ⟨q, .error f, calls⟩) :
    f ≠ .fieldTooLarge field size max := by
  rintro rfl
  cases hframe : q.frame order with
  | error e =>
    simp only [Conforms, hframe, Except.error.injEq] at h
    obtain ⟨rfl, -⟩ := h
    unfold Request.frame at hframe
    split at hframe <;> cases hframe
  | ok bytes =>
    simp only [Conforms, hframe] at h
    obtain ⟨call, -, hcall⟩ := (h.error_iff _).1 rfl
    exact Call.failure?_ne_tooLarge hcall

end Request.Sent.Conforms

namespace Client

theorem Delivered.accepted {order : Wire.Endian} {q : Request} {calls : List Call}
    (h : Delivered order q calls) : Call.acceptedBytes calls = q.layout order :=
  ((Request.frame_eq_ok_iff order q _).1 h.whole).2

/-- True of the stages before which the request was sent. -/
def Stage.afterSending : Stage → Bool
  | preparing | sending => false
  | awaiting | decoding => true

namespace Course

variable {c : Client} {mode : Mode} {text : String} {stage : Stage} {calls : List Call}
  {outcome : Except Failure (List Occurrence)}

/-- Wherever a search ends, it has sent the front of its frame, and all of it before the response is
waited for. -/
theorem accepted (h : Course c mode text stage calls outcome) :
    let frame := (Request.ofText mode text).layout c.dialect.order
    Call.acceptedBytes calls <+: frame ∧
      (stage.afterSending = true → Call.acceptedBytes calls = frame) := by
  intro frame
  cases h with
  | preparing e => exact ⟨List.nil_prefix, nofun⟩
  | sending failed conforms only => exact ⟨conforms.accepted_of_error, nofun⟩
  | @awaiting sends e delivered =>
    have hall : Call.acceptedBytes (.setDeadline .writing (Duration.limit? c.writeTimeout) none ::
        sends ++ [.setDeadline .reading (Duration.limit? c.readTimeout) (some e)]) = frame := by
      rw [Call.acceptedBytes_append, Call.acceptedBytes_setDeadline, delivered.accepted]
      exact List.append_nil _
    exact ⟨hall ▸ List.prefix_rfl, fun _ => hall⟩
  | @decoding sends reads delivered only =>
    have hall : Call.acceptedBytes (.setDeadline .writing (Duration.limit? c.writeTimeout) none ::
        sends ++ .setDeadline .reading (Duration.limit? c.readTimeout) none :: reads) = frame := by
      rw [Call.acceptedBytes_append, Call.acceptedBytes_setDeadline, delivered.accepted,
        Call.acceptedBytes_setDeadline, Call.acceptedBytes_of_isRead only]
      exact List.append_nil _
    exact ⟨hall ▸ List.prefix_rfl, fun _ => hall⟩

/-- Once the request is sent, what comes of the search is what comes of the response, unless its
deadline cannot be set. -/
theorem received (h : Course c mode text stage calls outcome) (hstage : stage.afterSending = true) :
    (∃ e, .setDeadline .reading (Duration.limit? c.readTimeout) (some e) ∈ calls ∧
      outcome = .error (.stream e)) ∨
    outcome = (c.dialect.readOccurrences mode c.reader).1 := by
  cases h with
  | preparing => cases hstage
  | sending => cases hstage
  | awaiting e delivered =>
    exact .inl ⟨e, List.mem_append_right _ (List.mem_singleton_self _), rfl⟩
  | decoding => exact .inr rfl

/-- If the deadline is set as well, it is what comes of the response. -/
theorem read (h : Course c mode text stage calls outcome) (hstage : stage.afterSending = true)
    (hset : ∀ e, Call.setDeadline .reading (Duration.limit? c.readTimeout) (some e) ∉ calls) :
    outcome = (c.dialect.readOccurrences mode c.reader).1 := by
  refine (h.received hstage).resolve_left ?_
  rintro ⟨e, hmem, -⟩
  exact hset e hmem

/-- A size is too large only for the limit of the client. -/
theorem tooLarge (h : Course c mode text stage calls outcome) {field : Field} {size max : Nat}
    (houtcome : outcome = .error (.fieldTooLarge field size max)) :
    max = c.dialect.fieldLimit ∧ c.dialect.fieldLimit < size := by
  cases h with
  | preparing => cases houtcome
  | sending failed conforms only => exact absurd (Except.error.inj houtcome) conforms.ne_tooLarge
  | awaiting => cases houtcome
  | decoding =>
    obtain ⟨_, _, -, -, hrefusal, -⟩ :=
      c.dialect.refusal_of_readMore (Prod.ext houtcome rfl) rfl
    cases hrefusal with
    | data nonneg large => exact ⟨rfl, large⟩
    | needle asked within nonneg large => exact ⟨rfl, large⟩

/-- Occurrences are found where the response encodes them. -/
theorem found (h : Course c mode text stage calls outcome) {os : List Occurrence}
    (houtcome : outcome = .ok os) :
    ∃ bytes later, c.reader.rest = bytes ++ later ∧ Response.Encodes c.dialect mode os bytes := by
  cases h with
  | preparing => cases houtcome
  | sending => cases houtcome
  | awaiting => cases houtcome
  | decoding =>
    obtain ⟨bytes, hrest, hencodes⟩ := Dialect.encodes_of_readOccurrences (Prod.ext houtcome rfl)
    exact ⟨bytes, _, hrest, hencodes⟩

end Course

/-- Every search ends at a stage, and that of a request that was sent is one after the sending. -/
theorem exists_endsAt (c : Client) (mode : Mode) (text : String) :
    ∃ stage, EndsAt c mode text stage (c.search mode text).1 (c.search mode text).2 ∧
      ((c.send mode text c.writeTimeout).1 = .ok () → stage.afterSending = true) := by
  rcases h : c.connection.deadlines.head?.join with _ | e
  · rcases hrequested : (c.requested mode text).1 with f | _
    · refine ⟨_, .sending h hrequested, fun hsent => ?_⟩
      rw [send_eq_requested h, hrequested] at hsent
      cases hsent
    · rcases hset : (c.afterRequest mode text).connection.deadlines.head?.join with _ | e
      · exact ⟨_, .decoding h hrequested hset, fun _ => rfl⟩
      · exact ⟨_, .awaiting h hrequested hset, fun _ => rfl⟩
  · refine ⟨_, .preparing h, fun hsent => ?_⟩
    rw [send_of_unset h] at hsent
    cases hsent

end Client

/-! ## Clients made from settings -/

namespace Settings

/-- The deadline of so many milliseconds, which is none for zero. -/
def deadline (milliseconds : Nat) : Option Duration :=
  if milliseconds = 0 then none else some ⟨milliseconds * 1000000⟩

theorem limitOfMilliseconds_eq_deadline (n : Nat) :
    Duration.limitOfMilliseconds n = deadline n := by
  cases n with
  | zero => rfl
  | succ n => exact if_pos (Nat.succ_pos n)

theorem limit?_deadline (n : Nat) : Duration.limit? (deadline n) = deadline n := by
  rw [← limitOfMilliseconds_eq_deadline, Duration.limit?_limitOfMilliseconds]

theorem proper_deadline (n : Nat) : Duration.proper (deadline n) = deadline n := by
  rw [← Duration.limit?_eq_proper, limit?_deadline]

/-- The client of the settings, as far as its reader has come. -/
def clientAt (s : Settings) (reader : Reader) : Client where
  reader := reader
  dialect := ⟨s.order, s.fieldLimit⟩
  mode := s.mode
  readTimeout := deadline s.readTimeout
  writeTimeout := deadline s.writeTimeout

theorem client_eq_clientAt (s : Settings) (connection : Connection) :
    s.client connection = s.clientAt (.buffered Client.readAhead connection) := by
  rw [clientAt, ← limitOfMilliseconds_eq_deadline, ← limitOfMilliseconds_eq_deadline]
  rfl

theorem eq_clientAt {s : Settings} {reader : Reader} {c : Client}
    (h : Client.SameSettings c (s.clientAt reader)) : c = s.clientAt c.reader := by
  obtain ⟨reader', dialect, mode, readTimeout, writeTimeout⟩ := c
  obtain ⟨rfl, rfl, rfl, rfl⟩ := h
  rfl

/-- A query leaves the settings as they are. -/
theorem query_clientAt (s : Settings) (reader : Reader) (text : String) :
    ∃ reader', ((s.clientAt reader).query text).2 = s.clientAt reader' := by
  obtain ⟨_, hends, -⟩ := (s.clientAt reader).exists_endsAt s.mode text
  exact ⟨_, eq_clientAt hends.settings⟩

theorem run_queries_clientAt (s : Settings) (reader : Reader) (texts : List String) :
    ∃ reader', ((s.clientAt reader).run (texts.map .query)).2 = s.clientAt reader' := by
  induction texts generalizing reader with
  | nil => exact ⟨reader, rfl⟩
  | cons text texts ih =>
    obtain ⟨reader₁, hquery⟩ := s.query_clientAt reader text
    obtain ⟨reader', hrun⟩ := ih reader₁
    refine ⟨reader', ?_⟩
    show (((s.clientAt reader).query text).2.run (texts.map .query)).2 = _
    rw [hquery, hrun]

/-- The frame of a query for a text: the mode, the number of bytes of the text, and the text. -/
def frameOf (s : Settings) (text : String) : List UInt8 :=
  let needle := Text.Utf8.encode text.toList
  s.mode.bits :: (s.order.encode (UInt32.ofNat needle.length) ++ needle)

/-- The response to a query was read: its request was sent, and there was a deadline for reading. -/
def Reads (s : Settings) (sent : Except Failure Unit) (turn : Client.Turn) : Prop :=
  sent = .ok () ∧
    ∀ e, Call.setDeadline .reading (deadline s.readTimeout) (some e) ∉ turn.calls

/-- What these settings make of a query, from where the reader has come. -/
structure Governs (s : Settings) (reader : Reader) (text : String)
    (sent : Except Failure Unit) (turn : Client.Turn) : Prop where
  /-- The transport is given the timeouts, that for reading only if the request was sent. -/
  deadlines : turn.calls.filterMap Call.deadline? =
    (.writing, deadline s.writeTimeout) ::
      if sent = .ok () then [(.reading, deadline s.readTimeout)] else []
  /-- What is written is the front of the frame, and all of it if the request was sent. -/
  front : Call.acceptedBytes turn.calls <+: s.frameOf text
  whole : sent = .ok () → Call.acceptedBytes turn.calls = s.frameOf text
  unsent : ∀ f, sent = .error f → turn.outcome = .error f
  /-- After a request that was sent, the response is decoded, unless there is no deadline for it. -/
  decoded : sent = .ok () →
    (∃ e, .setDeadline .reading (deadline s.readTimeout) (some e) ∈ turn.calls ∧
      turn.outcome = .error (.stream e)) ∨
    turn.outcome =
      (Dialect.readOccurrences ⟨s.order, s.fieldLimit⟩ s.mode reader).1.map Client.Outcome.found
  tooLarge : ∀ field size max, turn.outcome = .error (.fieldTooLarge field size max) →
    max = s.fieldLimit ∧ s.fieldLimit < size
  found : ∀ os, turn.outcome = .ok (.found os) → ∃ bytes later, reader.rest = bytes ++ later ∧
    Response.Encodes ⟨s.order, s.fieldLimit⟩ s.mode os bytes
  /-- A response that comes to a size above the limit, or to a negative one, fails for it. -/
  refused : s.Reads sent turn → reader.Ready →
    ∀ (os : List Occurrence) (start : List UInt8) (e : Failure) (after : Flow),
      (∀ o ∈ os, Response.Fits ⟨s.order, s.fieldLimit⟩ s.mode o) →
      (s.mode.stopsAtFirst = true → os = []) →
      Response.Refusal ⟨s.order, s.fieldLimit⟩ s.mode start e →
      reader.flow =
        Flow.ofBytes (os.flatMap (Response.recordBytes s.order) ++ start) ++ after →
      turn.outcome = .error e
  /-- One whose sizes are all within the limit, or at it, is taken. -/
  taken : s.Reads sent turn → reader.Ready →
    ∀ (os : List Occurrence) (bytes : List UInt8) (after : Flow),
      Response.Encodes ⟨s.order, s.fieldLimit⟩ s.mode os bytes →
      reader.flow = Flow.ofBytes bytes ++ after →
      turn.outcome = .ok (.found os)

theorem limits_clientAt (s : Settings) (reader : Reader) (sent : Except Failure Unit) :
    (s.clientAt reader).timeouts.limits sent = (.writing, deadline s.writeTimeout) ::
      if sent = .ok () then [(.reading, deadline s.readTimeout)] else [] := by
  have hwriting : Duration.proper (s.clientAt reader).timeouts.writing = deadline s.writeTimeout :=
    proper_deadline s.writeTimeout
  have hreading : Duration.proper (s.clientAt reader).timeouts.reading = deadline s.readTimeout :=
    proper_deadline s.readTimeout
  cases sent with
  | error f => rw [Client.Timeouts.limits, hwriting, if_neg nofun]
  | ok => rw [Client.Timeouts.limits, hwriting, hreading, if_pos rfl]

theorem governs_turn (s : Settings) (reader : Reader) (text : String) :
    Governs s reader text
      ((s.clientAt reader).send s.mode text (deadline s.writeTimeout)).1
      ((s.clientAt reader).turn (.query text)) := by
  obtain ⟨stage, hends, hstage⟩ := (s.clientAt reader).exists_endsAt s.mode text
  obtain ⟨calls, hhistory, hcourse⟩ := hends.course
  have hturn : (s.clientAt reader).turn (.query text) =
      ⟨.query text, ((s.clientAt reader).search s.mode text).1.map .found, calls⟩ :=
    Client.turn_of_history hhistory
  have hlimits := ((s.clientAt reader).limited_turn (.query text)).2.deadlines
  rw [hturn] at hlimits ⊢
  generalize houtcome : ((s.clientAt reader).search s.mode text).1 = outcome at hcourse
  have hlimit : Duration.limit? (s.clientAt reader).readTimeout = deadline s.readTimeout :=
    limit?_deadline s.readTimeout
  have hread : s.Reads ((s.clientAt reader).send s.mode text (deadline s.writeTimeout)).1
      ⟨.query text, outcome.map .found, calls⟩ →
      outcome = (Dialect.readOccurrences ⟨s.order, s.fieldLimit⟩ s.mode reader).1 := by
    rintro ⟨hsent, hset⟩
    rw [← hlimit] at hset
    exact hcourse.read (hstage hsent) hset
  constructor
  · exact hlimits.trans (s.limits_clientAt reader _)
  · exact hcourse.accepted.1
  · exact fun hsent => hcourse.accepted.2 (hstage hsent)
  · intro f hsent
    have hsearch : (s.clientAt reader).search s.mode text = (.error f, _) :=
      Client.search_of_send_error (Prod.ext hsent rfl)
    rw [← houtcome, hsearch]
    rfl
  · intro hsent
    have hreceived := hcourse.received (hstage hsent)
    rw [hlimit] at hreceived
    rcases hreceived with ⟨e, hmem, rfl⟩ | rfl
    · exact .inl ⟨e, hmem, rfl⟩
    · exact .inr rfl
  · intro field size max h
    cases outcome with
    | ok => cases h
    | error f =>
      cases h
      exact hcourse.tooLarge rfl
  · intro os h
    cases outcome with
    | error => cases h
    | ok os' =>
      cases h
      exact hcourse.found rfl
  · intro hreads hready os start e after hos hreached hrefusal hflow
    have hrefused := Dialect.refusesAs_readOccurrences _ hos hreached hrefusal
    show outcome.map Client.Outcome.found = _
    rw [hread hreads, (hrefused reader after hready hflow).1]
    rfl
  · intro hreads hready os bytes after hencodes hflow
    have htaken := Dialect.readsAs_readOccurrences _ hencodes
    show outcome.map Client.Outcome.found = _
    rw [hread hreads, (htaken reader after hready hflow).1]
    rfl

/-- What a client does that was made from settings is governed by what was given last for each of
them, or by its default, over every connection and whatever the queries before have done: which
bytes its queries send, which deadlines they set, and how they read the response. Changes that end
with the same are not told apart by anything that is done with the client. -/
theorem settings_govern (changes : List Setting) (connection : Connection) :
    let s := lasts changes
    let c := (ofList changes).client connection
    (ofList changes).endpoint = s.endpoint ∧
    (∀ (before : List String) (text : String) (after : List String), ∃ reader,
      (c.run (before.map .query)).2 = s.clientAt reader ∧
      c.turns ((before ++ text :: after).map .query) = c.turns (before.map .query) ++
        (s.clientAt reader).turn (.query text) ::
          ((s.clientAt reader).query text).2.turns (after.map .query) ∧
      Governs s reader text
        ((s.clientAt reader).send s.mode text (deadline s.writeTimeout)).1
        ((s.clientAt reader).turn (.query text))) ∧
    ∀ other, SameLasts changes other →
      (ofList other).endpoint = (ofList changes).endpoint ∧
      ∀ steps, ((ofList other).client connection).turns steps = c.turns steps ∧
        ((ofList other).client connection).run steps = c.run steps := by
  intro s c
  have hc : c = s.clientAt (.buffered Client.readAhead connection) := by
    show (ofList changes).client connection = _
    rw [ofList_eq_lasts, client_eq_clientAt]
  refine ⟨congrArg Settings.endpoint (ofList_eq_lasts changes), fun before text after => ?_,
    fun other h => ?_⟩
  · obtain ⟨reader, hrun⟩ := s.run_queries_clientAt (.buffered Client.readAhead connection) before
    rw [← hc] at hrun
    refine ⟨reader, hrun, ?_, s.governs_turn reader text⟩
    rw [List.map_append, Client.turns_append, hrun]
    rfl
  · rw [← h.ofList_eq]
    exact ⟨rfl, fun steps => ⟨rfl, rfl⟩⟩

/-- The last setting holds, and zero is no deadline. -/
example :
    let s := Settings.ofList
      [.unix "s", .readTimeout 5, .mode .needle, .order .big, .mode .empty, .writeTimeout 7,
        .readTimeout 0]
    let c : Connection := { arrivals := [.data [255, 255, 255, 255]] }
    ((s.client c).turns [.query "a"]).map (fun t =>
        (t.outcome, Call.acceptedBytes t.calls, t.calls.filterMap Call.deadline?)) =
      [(.ok (.found []), [0, 0, 0, 0, 1, 97], [(.writing, some ⟨7000000⟩), (.reading, none)])] := by
  decide +kernel

end Settings

end RemoteSearch
