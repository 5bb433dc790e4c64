import RemoteSearch.Console
import RemoteSearch.Proofs.Client.Session
import RemoteSearch.Proofs.Text.Utf8

set_option autoImplicit false

/-! # What the console answers

A run of the console takes its input line by line and the server's bytes response by response. Which
lines are answered is told by these two alone: all up to the first that is not text, has no frame,
or for which no response is decoded (`Unanswered`). From there on nothing is printed, and nothing is
sent after the request of that line.

The law (`Answers`) is proved of any client that can send, by following it beside a reader of the
bytes to come (`Client.Awaits`): a line that can be asked about takes one response off either. So it
holds of a run over any connection on which nothing fails, however the bytes come and go, and with
it of any run that connects to a server, be it started with settings or from arguments
(`run_answers`).
-/

namespace RemoteSearch

namespace Console

/-! ## Lines -/

/-- Lines are the input cut after each newline: each ends with one, and has none before, except that
the last may lack it. -/
structure Cut (input : List UInt8) (asked : List (List UInt8)) : Prop where
  whole : asked.flatten = input
  ends : ∃ ended last, (∀ text ∈ last :: ended, 10 ∉ text) ∧
    asked = ended.map (· ++ [10]) ++ if last = [] then [] else [last]

theorem cut_lines (input : List UInt8) : Cut input (lines input) := by
  refine ⟨flatten_lines input, ?_⟩
  induction input with
  | nil => exact ⟨[], [], by simp, rfl⟩
  | cons b rest ih =>
    obtain ⟨ended, last, hfree, hlines⟩ := ih
    by_cases hb : b = 10
    · refine ⟨[] :: ended, last, ?_, ?_⟩
      · simpa using hfree
      · rw [lines, if_pos hb, hlines, hb]
        rfl
    · -- The byte comes before the first line of the rest, be it ended or not.
      rw [lines, if_neg hb]
      cases ended with
      | nil =>
        refine ⟨[], b :: last, ?_, ?_⟩
        · simpa [Ne.symm hb] using hfree
        · rw [hlines]
          cases last <;> rfl
      | cons text ended =>
        refine ⟨(b :: text) :: ended, last, ?_, ?_⟩
        · simpa [Ne.symm hb] using hfree
        · rw [hlines]
          rfl

/-! ## Needles -/

/-- Bytes that are those of some text. -/
def IsText (line : List UInt8) : Prop := ∃ s, Text.Utf8.encode s = line

instance (line : List UInt8) : Decidable (IsText line) :=
  decidable_of_iff ((Text.Utf8.strict? line).isSome = true) <| by
    rw [Option.isSome_iff_exists]
    exact exists_congr fun s => Text.Utf8.strict?_eq_some_iff

/-- The line without the newlines and carriage returns at its end. -/
def trimmed (line : List UInt8) : List UInt8 :=
  (line.reverse.dropWhile fun b => b = 10 || b = 13).reverse

/-- The request for the needle of a line. -/
def requestOf (mode : Mode) (line : List UInt8) : Request := ⟨mode, trimmed line⟩

/-- Line ends can be taken off a text or off its bytes. Both are given in reverse. -/
theorem encode_dropWhile (s : List Char) :
    (Text.Utf8.encode (s.dropWhile fun c => c = '\n' || c = '\r').reverse).reverse =
      (Text.Utf8.encode s.reverse).reverse.dropWhile fun b => b = 10 || b = 13 := by
  have hone (c : Char) : Text.Utf8.encode [c] = String.utf8EncodeChar c := List.append_nil _
  induction s with
  | nil => rfl
  | cons c s ih =>
    rw [List.reverse_cons, Text.Utf8.encode_append, hone, List.reverse_append]
    by_cases hc : c = '\n' ∨ c = '\r'
    · rw [List.dropWhile_cons_of_pos (by simpa using hc), ih]
      rcases hc with rfl | rfl <;> rfl
    · rw [List.dropWhile_cons_of_neg (by simpa using hc), List.reverse_cons,
        Text.Utf8.encode_append, hone, List.reverse_append]
      -- The last byte of the character is no line end, because the character is none.
      rw [not_or] at hc
      have hbyte : ∀ b ∈ (String.utf8EncodeChar c).reverse, b ≠ 10 ∧ b ≠ 13 := by
        intro b hb
        rw [List.mem_reverse] at hb
        constructor
        · rintro rfl
          exact Text.Utf8.not_mem_encodeChar (by decide) (fun h => hc.1 (Char.toNat_inj.1 h)) hb
        · rintro rfl
          exact Text.Utf8.not_mem_encodeChar (by decide) (fun h => hc.2 (Char.toNat_inj.1 h)) hb
      cases hbytes : (String.utf8EncodeChar c).reverse with
      | nil =>
        have hlength := congrArg List.length hbytes
        rw [List.length_reverse, String.length_utf8EncodeChar] at hlength
        exact absurd hlength (Nat.pos_iff_ne_zero.1 c.utf8Size_pos)
      | cons b bs =>
        have hb := hbyte b (hbytes ▸ List.mem_cons_self ..)
        rw [List.cons_append, List.dropWhile_cons_of_neg (by simpa using hb)]

/-- The needle of a line of text is the text of its bytes, less the line end. -/
theorem needleOf_of_isText {line : List UInt8} (h : IsText line) :
    ∃ s, needleOf line = .ok s ∧ ∀ mode, Request.ofText mode s = requestOf mode line := by
  obtain ⟨s, rfl⟩ := h
  refine ⟨String.ofList (s.reverse.dropWhile fun c => c = '\n' || c = '\r').reverse, ?_, ?_⟩
  · rw [needleOf, Text.Utf8.strict?_eq_some_iff.2 rfl]
  · intro mode
    have key := encode_dropWhile s.reverse
    rw [List.reverse_reverse] at key
    rw [Request.ofText, requestOf, trimmed, ← key, List.reverse_reverse, String.toList_ofList]

theorem needleOf_of_not_isText {line : List UInt8} (h : ¬IsText line) :
    needleOf line = .error (.stream invalidText) := by
  cases hs : Text.Utf8.strict? line with
  | none => rw [needleOf, hs]
  | some s => exact absurd ⟨s, Text.Utf8.strict?_eq_some_iff.1 hs⟩ h

/-! ## Exchanges -/

/-- A line that can be asked about: it is text, and its request has a frame. -/
structure Askable (line : List UInt8) : Prop where
  text : IsText line
  short : (trimmed line).length < UInt32.size

instance (line : List UInt8) : Decidable (Askable line) :=
  decidable_of_iff (IsText line ∧ (trimmed line).length < UInt32.size)
    ⟨fun h => ⟨h.1, h.2⟩, fun h => ⟨h.1, h.2⟩⟩

variable {c : Client} {s : Reader} (mode : Mode)

/-- An exchange sends the request and gives what is decoded next. -/
theorem exchange_reading (h : c.Awaits s.flow) (hs : s.Ready) {needle : String}
    (hshort : (Request.ofText mode needle).needle.length < UInt32.size) :
    ∃ entries c', exchange mode needle c = ((c.dialect.readOccurrences mode s).1, entries, c') ∧
      c'.Awaits (c.dialect.readOccurrences mode s).2.flow ∧ c'.dialect = c.dialect ∧
      c'.connection.sent =
        c.connection.sent ++ (Request.ofText mode needle).layout c.dialect.order := by
  obtain ⟨c₁, hsend, h₁, hdialect, htimeout, hsent⟩ := h.send hshort c.writeTimeout
  obtain ⟨c₂, hreceive, h₂, hdialect', hsent'⟩ := h₁.receive_reading hs mode c₁.readTimeout
  rw [hdialect] at hreceive h₂ hdialect'
  rw [hsent] at hsent'
  cases ho : (c.dialect.readOccurrences mode s).1 with
  | error e =>
    rw [ho] at hreceive
    refine ⟨[sentEntry mode needle], c₂, ?_, h₂, hdialect', hsent'⟩
    rw [exchange, hsend]
    simp only [hreceive]
  | ok os =>
    rw [ho] at hreceive
    refine ⟨[sentEntry mode needle, receivedEntry mode os], c₂, ?_, h₂, hdialect', hsent'⟩
    rw [exchange, hsend]
    simp only [hreceive]

/-- An exchange whose request has no frame sends nothing. -/
theorem exchange_of_long (h : c.Awaits s.flow) {needle : String}
    (hlong : ¬(Request.ofText mode needle).needle.length < UInt32.size) :
    ∃ e c', exchange mode needle c = (.error e, [], c') ∧
      c'.connection.sent = c.connection.sent := by
  obtain ⟨e, c', hsend, hsent⟩ := h.send_of_long hlong c.writeTimeout
  refine ⟨e, c', ?_, hsent⟩
  rw [exchange, hsend]

/-! ## Courses -/

/-- No answer: a line that cannot be asked about, or one for which no response is decoded. -/
def Unanswered (x : List UInt8 × Except Failure (List Occurrence)) : Prop :=
  ¬Askable x.1 ∨ x.2.isOk = false

instance (x : List UInt8 × Except Failure (List Occurrence)) : Decidable (Unanswered x) :=
  inferInstanceAs (Decidable (_ ∨ _))

/-- The number of lines before the first that is not answered, where each line comes with the
outcome of a decoding. -/
def answered (asked : List (List UInt8)) (responses : List (Except Failure (List Occurrence))) :
    Nat :=
  (asked.zip responses).findIdx fun x => Unanswered x

/-- The course of a conversation: what it prints, whether it comes to the end of the input, and what
it sends. -/
structure Course (mode : Mode) (order : Wire.Endian) (asked : List (List UInt8))
    (responses : List (Except Failure (List Occurrence))) (output : List String) (ended : Bool)
    (sent : List UInt8) : Prop where
  output : output =
    (((responses.take (answered asked responses)).filterMap Except.toOption).flatMap fun os =>
        prompt :: answerText mode order os) ++
      prompt :: if answered asked responses = asked.length then [farewell] else []
  ended : ended = decide (answered asked responses = asked.length)
  sent : sent =
    (asked.take (answered asked responses) ++
        asked[answered asked responses]?.toList.filter fun line => Askable line).flatMap
      fun line => (requestOf mode line).layout order

variable {mode} {order : Wire.Endian} {asked : List (List UInt8)}
  {responses : List (Except Failure (List Occurrence))} {line : List UInt8}

theorem answered_cons (line : List UInt8) (asked : List (List UInt8))
    (response : Except Failure (List Occurrence))
    (responses : List (Except Failure (List Occurrence))) :
    answered (line :: asked) (response :: responses) =
      if Unanswered (line, response) then 0 else answered asked responses + 1 := by
  rw [answered, List.zip_cons_cons, List.findIdx_cons]
  by_cases h : Unanswered (line, response)
  · rw [if_pos h, decide_eq_true h]
    rfl
  · rw [if_neg h, decide_eq_false h]
    rfl

/-- Where every needle has a frame, a line goes unanswered only if it is not text or no response is
decoded for it. -/
theorem answered_of_short (asked : List (List UInt8))
    (responses : List (Except Failure (List Occurrence)))
    (hshort : ∀ line ∈ asked, (trimmed line).length < UInt32.size) :
    answered asked responses =
      (asked.zip responses).findIdx fun x => ¬IsText x.1 ∨ x.2.isOk = false := by
  induction asked generalizing responses with
  | nil => rfl
  | cons line asked ih =>
    cases responses with
    | nil => rfl
    | cons response responses =>
      have hline := hshort line (List.mem_cons_self ..)
      have hasked := ih responses fun line' hmem => hshort line' (List.mem_cons_of_mem line hmem)
      have hiff : Unanswered (line, response) ↔ ¬IsText line ∨ response.isOk = false :=
        or_congr (not_congr ⟨Askable.text, fun htext => ⟨htext, hline⟩⟩) Iff.rfl
      rw [answered_cons, hasked, List.zip_cons_cons, List.findIdx_cons]
      by_cases h : Unanswered (line, response)
      · rw [if_pos h, decide_eq_true (hiff.1 h)]
        rfl
      · rw [if_neg h, decide_eq_false (mt hiff.2 h)]
        rfl

namespace Course

/-- Without input, the console takes its leave. -/
theorem nil : Course mode order [] responses [prompt, farewell] true [] :=
  ⟨by rw [answered]; simp, by rw [answered]; simp, by rw [answered]; simp⟩

/-- At a line that is not answered the course ends. -/
theorem stop {response : Except Failure (List Occurrence)} (h : Unanswered (line, response)) :
    Course mode order (line :: asked) (response :: responses) [prompt] false
      (if Askable line then (requestOf mode line).layout order else []) := by
  have hnone : answered (line :: asked) (response :: responses) = 0 := by
    rw [answered_cons, if_pos h]
  refine ⟨?_, ?_, ?_⟩
  · rw [hnone]
    simp
  · rw [hnone]
    simp
  · rw [hnone]
    by_cases hline : Askable line <;> simp [hline]

/-- A line that is answered comes before all that follows. -/
theorem cons {os : List Occurrence} {output : List String} {ended : Bool} {sent : List UInt8}
    (hline : Askable line) (h : Course mode order asked responses output ended sent) :
    Course mode order (line :: asked) (.ok os :: responses)
      (prompt :: answerText mode order os ++ output) ended
      ((requestOf mode line).layout order ++ sent) := by
  have hmore : answered (line :: asked) (.ok os :: responses) = answered asked responses + 1 := by
    rw [answered_cons, if_neg]
    rintro (hnot | herror)
    · exact hnot hline
    · cases herror
  obtain ⟨houtput, hended, hsent⟩ := h
  refine ⟨?_, ?_, ?_⟩
  · rw [hmore, houtput]
    simp [Except.toOption]
  · rw [hmore, hended]
    simp
  · rw [hmore, hsent]
    simp

end Course

/-! ## Turns -/

/-- A line that can be asked about is answered with what is decoded next. -/
theorem turn_of_answer (h : c.Awaits s.flow) (hs : s.Ready) (hline : Askable line)
    {os : List Occurrence} (hos : (c.dialect.readOccurrences mode s).1 = .ok os) :
    ∃ entries c', turn mode line c = ⟨answerText mode c.dialect.order os, entries, .ok (), c'⟩ ∧
      c'.Awaits (c.dialect.readOccurrences mode s).2.flow ∧ c'.dialect = c.dialect ∧
      c'.connection.sent =
        c.connection.sent ++ (requestOf mode line).layout c.dialect.order := by
  obtain ⟨needle, hneedle, hrequest⟩ := needleOf_of_isText hline.text
  obtain ⟨entries, c', hexchange, hawaits, hdialect, hsent⟩ :=
    exchange_reading mode h hs (by rw [hrequest]; exact hline.short)
  rw [hrequest] at hsent
  rw [hos] at hexchange
  refine ⟨entries, c', ?_, hawaits, hdialect, hsent⟩
  rw [turn, hneedle]
  simp only [hexchange, hdialect]

/-- A line that is not answered sends at most its request. -/
theorem turn_of_unanswered (h : c.Awaits s.flow) (hs : s.Ready)
    (hline : Unanswered (line, (c.dialect.readOccurrences mode s).1)) :
    ∃ entries e c', turn mode line c = ⟨[], entries, .error e, c'⟩ ∧
      c'.connection.sent = c.connection.sent ++
        if Askable line then (requestOf mode line).layout c.dialect.order else [] := by
  -- A line that is not text does not come to the client, and a needle that is too long only as far
  -- as its frame. Of all others the response is to blame.
  by_cases htext : IsText line
  · obtain ⟨needle, hneedle, hrequest⟩ := needleOf_of_isText htext
    by_cases hshort : (trimmed line).length < UInt32.size
    · obtain ⟨entries, c', hexchange, -, -, hsent⟩ :=
        exchange_reading mode h hs (by rw [hrequest]; exact hshort)
      have hask : Askable line := ⟨htext, hshort⟩
      cases ho : (c.dialect.readOccurrences mode s).1 with
      | ok os =>
        rw [ho] at hline
        rcases hline with hnot | herror
        · exact absurd hask hnot
        · cases herror
      | error e =>
        rw [ho] at hexchange
        rw [hrequest] at hsent
        refine ⟨entries, e, c', ?_, ?_⟩
        · rw [turn, hneedle]
          simp only [hexchange]
        · rw [if_pos hask, hsent]
    · obtain ⟨e, c', hexchange, hsent⟩ :=
        exchange_of_long mode h (by rw [hrequest]; exact hshort)
      refine ⟨[], e, c', ?_, ?_⟩
      · rw [turn, hneedle]
        simp only [hexchange]
      · rw [if_neg fun hask => hshort hask.short, List.append_nil, hsent]
  · refine ⟨[], .stream invalidText, c, ?_, ?_⟩
    · rw [turn, needleOf_of_not_isText htext]
    · rw [if_neg fun hask => htext hask.text, List.append_nil]

/-- What a conversation leaves behind is told by its lines and by the responses that are decoded of
the bytes to come. -/
theorem course_converse (mode : Mode) (asked : List (List UInt8)) (h : c.Awaits s.flow)
    (hs : s.Ready) :
    ∃ sent, (converse mode asked c).client.connection.sent = c.connection.sent ++ sent ∧
      Course mode c.dialect.order asked (c.dialect.readSeries (asked.map fun _ => mode) s).1
        (converse mode asked c).output (converse mode asked c).outcome.isOk sent := by
  -- The client and the reader go through the responses side by side.
  induction asked generalizing c s with
  | nil => exact ⟨[], (List.append_nil _).symm, .nil⟩
  | cons line asked ih =>
    have hseries : (c.dialect.readSeries ((line :: asked).map fun _ => mode) s).1 =
        (c.dialect.readOccurrences mode s).1 ::
          (c.dialect.readSeries (asked.map fun _ => mode)
            (c.dialect.readOccurrences mode s).2).1 := rfl
    rw [hseries]
    by_cases hline : Unanswered (line, (c.dialect.readOccurrences mode s).1)
    · obtain ⟨entries, e, c', hturn, hsent⟩ := turn_of_unanswered h hs hline
      have hconverse : converse mode (line :: asked) c = ⟨[prompt], entries, .error e, c'⟩ := by
        rw [converse, hturn]
      rw [hconverse]
      exact ⟨_, hsent, .stop hline⟩
    · rw [Unanswered, not_or, Classical.not_not] at hline
      obtain ⟨hask, hok⟩ := hline
      cases hos : (c.dialect.readOccurrences mode s).1 with
      | error e =>
        rw [hos] at hok
        exact absurd rfl hok
      | ok os =>
        obtain ⟨entries, c', hturn, h', hdialect, hsent⟩ := turn_of_answer h hs hask hos
        have hs' := Reader.ready_of_advance (c.dialect.advance_readOccurrences mode s) hs
        obtain ⟨more, hmore, hcourse⟩ := ih h' hs'
        have hconverse : converse mode (line :: asked) c =
            (converse mode asked c').after (prompt :: answerText mode c.dialect.order os)
              entries := by
          rw [converse, hturn]
        rw [hdialect] at hcourse
        rw [hconverse]
        refine ⟨(requestOf mode line).layout c.dialect.order ++ more, ?_, .cons hask hcourse⟩
        rw [← List.append_assoc, ← hsent]
        exact hmore

/-! ## The law -/

/-- What a run on input leaves behind, by the bytes that a server sends. The lines of the input are
answered one by one, each with the occurrences that are decoded next, up to the first line that is
not text, has no frame, or for which no response is decoded; every needle of less than four
gibibytes has a frame. The run succeeds if there is no such line. What it sends are the requests of
the lines that it answers and, where it is text and has a frame, of the one at which it ends. -/
def Answers (d : Dialect) (mode : Mode) (input sends : List UInt8) (report : Report) : Prop :=
  let asked := lines input
  let responses := (d.readSeries (asked.map fun _ => mode) (Dialect.readerOf sends)).1
  let k := (asked.zip responses).findIdx fun x => ¬Askable x.1 ∨ x.2.isOk = false
  Cut input asked ∧
    ((∀ line ∈ asked, (trimmed line).length < UInt32.size) →
      k = (asked.zip responses).findIdx fun x => ¬IsText x.1 ∨ x.2.isOk = false) ∧
    report.output =
      (((responses.take k).filterMap Except.toOption).flatMap fun os =>
        "Needle: " ::
          if os.isEmpty then ["not found\n"]
          else os.map fun x => occurrenceLine mode d.order x ++ "\n") ++
        "Needle: " :: (if k = asked.length then ["\n"] else []) ∧
    report.status = (if k = asked.length then 0 else 1) ∧
    report.sent =
      (asked.take k ++ asked[k]?.toList.filter fun line => Askable line).flatMap
        fun line => (requestOf mode line).layout d.order

/-- A report that tells the course of a conversation is as it is to be. -/
theorem answers_of_course {d : Dialect} {mode : Mode} {input sends sent : List UInt8}
    {output : List String} {ended : Bool} {report : Report}
    (h : Course mode d.order (lines input)
      (d.readSeries ((lines input).map fun _ => mode) (Dialect.readerOf sends)).1 output ended sent)
    (houtput : report.output = output) (hstatus : report.status = if ended then 0 else 1)
    (hsent : report.sent = sent) : Answers d mode input sends report := by
  refine ⟨cut_lines input, answered_of_short _ _, houtput.trans h.output, ?_, hsent.trans h.sent⟩
  rw [hstatus, h.ended]
  simp only [decide_eq_true_eq]
  rfl

/-! ## Runs -/

end Console

/-- A connection that has sent nothing yet and on which nothing fails: it takes what is written and
brings the given bytes, either of them in any pieces and with interruptions, and then ends. -/
structure Connection.Brings (sends : List UInt8) (c : Connection) : Prop where
  obliging : c.Obliging
  delivers : ∀ a ∈ c.arrivals, a.Delivers
  limit : c.readLimit ≠ some 0
  bytes : Arrival.bytes c.arrivals = sends
  fresh : c.sent = []

theorem Server.brings_connection {server : Server} (hends : server.staysSilent = false)
    (patience : Nat) : (server.connection patience).Brings server.sends := by
  have harrivals : (server.connection patience).arrivals = [.data server.sends] := by
    rw [Server.connection, hends]
    rfl
  refine ⟨⟨nofun, nofun, nofun⟩, ?_, nofun, ?_, rfl⟩
  · rw [harrivals]
    exact List.forall_mem_singleton.2 trivial
  · rw [harrivals]
    exact List.append_nil server.sends

theorem Connection.Brings.awaits {sends : List UInt8} {c : Connection} (h : c.Brings sends)
    (settings : Settings) : (settings.client c).Awaits (Dialect.readerOf sends).flow := by
  refine ⟨h.obliging, h.limit, ?_⟩
  show Arrival.flow c.arrivals = _
  rw [Arrival.flow_of_delivers h.delivers, h.bytes, Dialect.flow_readerOf]

namespace Console

variable {files : Path.FileSystem} {server : Server}

theorem answers_runOver {sends : List UInt8} {connection : Connection}
    (h : connection.Brings sends) (settings : Settings) (input : List UInt8) :
    Answers settings.dialect settings.mode input sends (runOver settings connection input) := by
  let t := converse settings.mode (lines input) (settings.client connection)
  obtain ⟨sent, hmore, hcourse⟩ :=
    course_converse settings.mode (lines input) (h.awaits settings) (Dialect.ready_readerOf sends)
  have hsent : t.client.connection.sent = sent :=
    hmore.trans (congrArg (· ++ sent) h.fresh)
  refine answers_of_course hcourse ?_ ?_ ?_
  · rw [runOver]
    cases t.outcome <;> rfl
  · rw [runOver]
    cases t.outcome <;> rfl
  · rw [← hsent, runOver]
    cases t.outcome <;> rfl

/-- A run that reaches a server goes on over the connection. -/
theorem answers_runWith (hends : server.staysSilent = false) (settings : Settings)
    (h : Endpoint.refusal? files server.endpoint settings.endpoint = none) (input : List UInt8) :
    Answers settings.dialect settings.mode input server.sends
      (runWith files server settings input) := by
  have hconnect : settings.endpoint.connect files server (lines input).length =
      .ok (server.connection (lines input).length) := by
    rw [Endpoint.connect, h]
  rw [runWith, hconnect]
  exact answers_runOver (Server.brings_connection hends _) settings input

/-- A run comes to its conversation: its arguments are options, and they lead to the server. -/
structure Connects (files : Path.FileSystem) (server : Server) (setting : Option String)
    (arguments : List String) (o : Options) : Prop where
  filter : (Log.Filter.ofSetting? defaultFilter setting).isSome = true
  arguments : Invocation.ofArguments arguments = .ok (.run o)
  endpoint : ∃ e, Endpoint.parse o.network o.address = .ok e ∧
    Endpoint.refusal? files server.endpoint e = none

/-- The run of options that lead to a server is one with settings, whatever of it is logged. -/
theorem Connects.run_eq {setting : Option String} {arguments : List String} {o : Options}
    (h : Connects files server setting arguments o) (input : List UInt8) :
    ∃ e filter, Endpoint.refusal? files server.endpoint e = none ∧
      run files server setting arguments input =
        (runWith files server (o.settings e) input).admitted filter := by
  obtain ⟨hfilter, harguments, e, hendpoint, hrefusal⟩ := h
  obtain ⟨filter, hfilter⟩ := Option.isSome_iff_exists.1 hfilter
  refine ⟨e, filter, hrefusal, ?_⟩
  rw [run, hfilter]
  simp only [runLogged, harguments, hendpoint]

/-- Once it is connected, the console answers its input line by line with what is decoded of the
bytes that the server sends (`Answers`): over any connection on which nothing fails, in however many
pieces the bytes come and go, with settings that lead to a server, and from arguments that do. -/
theorem run_answers (input : List UInt8) :
    (∀ (settings : Settings) (sends : List UInt8) (connection : Connection),
      connection.Brings sends →
      Answers settings.dialect settings.mode input sends (runOver settings connection input)) ∧
    (∀ (files : Path.FileSystem) (server : Server) (settings : Settings),
      Endpoint.refusal? files server.endpoint settings.endpoint = none →
      server.staysSilent = false →
      Answers settings.dialect settings.mode input server.sends
        (runWith files server settings input)) ∧
    ∀ (files : Path.FileSystem) (server : Server) (setting : Option String)
      (arguments : List String) (o : Options),
      Connects files server setting arguments o → server.staysSilent = false →
      Answers ⟨o.order, defaultFieldLimit⟩ o.mode input server.sends
        (run files server setting arguments input) := by
  refine ⟨fun settings sends connection h => answers_runOver h settings input,
    fun files server settings hrefusal hends => answers_runWith hends settings hrefusal input, ?_⟩
  intro files server setting arguments o h hends
  obtain ⟨e, filter, hrefusal, hrun⟩ := h.run_eq input
  have key : Answers ⟨o.order, defaultFieldLimit⟩ o.mode input server.sends
      (runWith files server (o.settings e) input) :=
    answers_runWith hends (o.settings e) hrefusal input
  -- The filter bears on nothing but the entries.
  rw [hrun]
  exact key

/-- Four lines, the third without a needle and the last not text. The answers are found one after
the other in what the server has sent, whether it comes all at once or in pieces. -/
theorem run_answers_to_invalid_line :
    let sends : List UInt8 := [0, 0, 0, 1, 65, 255, 255, 255, 255, 255, 255, 255, 255,
      0, 0, 0, 0, 0, 0, 0, 2, 195, 169, 128, 0, 0, 0, 255, 255, 255, 255]
    let input : List UInt8 := [104, 105, 13, 10, 120, 10, 13, 10, 195, 40, 10, 122]
    let interrupted : StreamError := .ofKind .interrupted
    let connection : Connection :=
      { arrivals := [.data (sends.take 6), .failure interrupted, .data (sends.drop 6)]
        readLimit := some 3
        replies := [.upTo 2, .failure interrupted] }
    let settings : Settings := { order := .big, mode := .userData }
    let server : Server := ⟨.unix "s", sends, false⟩
    ∀ report ∈ [runOver settings connection input,
        run {} server none ["-e", "big", "-nunix", "-a=s", "-m", "user-data"] input],
      report.output =
          ["Needle: ", "found data length: \"A\" 1\n", "Needle: ", "not found\n", "Needle: ",
            "found data length: \"\" 0\n", "found data length: \"é\" 2\n", "Needle: "] ∧
        report.status = 1 ∧
        report.sent = [4, 0, 0, 0, 2, 104, 105, 4, 0, 0, 0, 1, 120, 4, 0, 0, 0, 0] := by
  intro sends input interrupted connection settings server
  obtain ⟨hover, -, hrun⟩ := run_answers input
  have hpieces : connection.Brings sends :=
    ⟨⟨by decide, by decide, by decide⟩, by decide, by decide, by decide, rfl⟩
  have hconnects : Connects {} server none ["-e", "big", "-nunix", "-a=s", "-m", "user-data"]
      { order := .big, network := "unix", address := "s", mode := .userData } :=
    ⟨by decide +kernel, by decide +kernel, .unix "s", by decide +kernel, by decide +kernel⟩
  intro report hreport
  have key : Answers ⟨.big, defaultFieldLimit⟩ .userData input sends report := by
    rcases List.mem_cons.1 hreport with rfl | hlast
    · exact hover settings sends connection hpieces
    · rw [List.mem_singleton.1 hlast]
      exact hrun {} server none _ _ hconnects rfl
  obtain ⟨-, -, houtput, hstatus, hsent⟩ := key
  exact ⟨houtput.trans (by decide +kernel), hstatus.trans (by decide +kernel),
    hsent.trans (by decide +kernel)⟩

end Console

end RemoteSearch
