import Octoscript.Lib.Buffered
import Octoscript.Lib.Stream
import Octoscript.Protocol.Channel

namespace Octoscript
open Wire

inductive JsonLineWorkerChannelError (E : Type)
  | io (error : E)
  | protocol (error : ProtocolError)
  | unexpectedEndOfStream
  | invalidUtf8
  | poisoned

variable {E : Type}

def JsonLineWorkerChannelError.tooLarge (actual : ℕ) : JsonLineWorkerChannelError E :=
  .protocol (.wireFrameTooLarge actual maxWireFrameBytes)

/-- The loop of `read_json_line`, with what it has read of the line. -/
def readJsonLineFrom (line : Bytes) :
    BufReader E → Except (JsonLineWorkerChannelError E) String × BufReader E
  | [] => (.error .unexpectedEndOfStream, [])
  | .error error :: rest => (.error (.io error), rest)
  | .ok available :: rest =>
    if available = [] then (.error .unexpectedEndOfStream, rest)
    else match available.findIdx? (· = newline) with
    | some position =>
      if line.length + position > maxWireFrameBytes then
        (.error (.tooLarge (line.length + position)), .ok available :: rest)
      else ((fromUtf8 (line ++ available.take position)).okOr .invalidUtf8,
        BufReader.consume (position + 1) (.ok available :: rest))
    | none =>
      let remaining := maxWireFrameBytes + 1 - line.length
      if remaining = 0 then (.error (.tooLarge (line.length + 1)), .ok available :: rest)
      else
        let copied := min available.length remaining
        let line := line ++ available.take copied
        if line.length > maxWireFrameBytes then
          (.error (.tooLarge line.length), BufReader.consume copied (.ok available :: rest))
        -- A buffer of which something is left made the line too large.
        else readJsonLineFrom line rest

def readJsonLine (reader : BufReader E) :
    Except (JsonLineWorkerChannelError E) String × BufReader E :=
  readJsonLineFrom [] reader

section
variable {line buffer bytes rest : Bytes} {reader reader' : BufReader E} {text : String}

/-- A buffer with a line feed in it ends the line. -/
theorem readJsonLineFrom_newline {content tail : Bytes} (h : newline ∉ content) :
    readJsonLineFrom line (.ok (content ++ newline :: tail) :: reader) = (.ok text, reader') ↔
      line.length + content.length ≤ maxWireFrameBytes ∧ fromUtf8 (line ++ content) = some text ∧
        reader' = BufReader.consume (content ++ [newline]).length
          (.ok (content ++ [newline] ++ tail) :: reader) := by
  have hfind : (content ++ newline :: tail).findIdx? (· = newline) = some content.length := by
    simp [List.findIdx?_append, findIdx?_newline h, List.findIdx?_cons]
  rw [readJsonLineFrom, if_neg (by simp), hfind]
  by_cases hlen : line.length + content.length > maxWireFrameBytes
  · simp [hlen]
  · simp [hlen, not_lt.mp hlen, eq_comm (a := reader')]

/-- A buffer without one is read, and the line goes on. -/
theorem readJsonLineFrom_buffer (hbuffer : buffer ≠ []) (h : newline ∉ buffer) :
    readJsonLineFrom line (.ok buffer :: reader) = (.ok text, reader') ↔
      line.length + buffer.length ≤ maxWireFrameBytes ∧
        readJsonLineFrom (line ++ buffer) reader = (.ok text, reader') := by
  rw [readJsonLineFrom, if_neg hbuffer, findIdx?_newline h]
  have hpos := List.length_pos_iff.mpr hbuffer
  by_cases hlen : line.length + buffer.length ≤ maxWireFrameBytes
  · have hmin : min buffer.length (maxWireFrameBytes + 1 - line.length) = buffer.length := by omega
    have hroom : maxWireFrameBytes + 1 - line.length ≠ 0 := by omega
    simp [hmin, hroom, hlen, not_lt.mpr hlen]
  · simp only [hlen, false_and, iff_false]
    split_ifs with hfull hlong
    · simp
    · simp
    · rw [List.length_append, List.length_take] at hlong
      omega

theorem readJsonLineFrom_ok_iff (line : Bytes) (h : reader.Carries bytes) :
    (∃ reader', readJsonLineFrom line reader = (.ok text, reader') ∧ reader'.Carries rest) ↔
      ∃ content, bytes = content ++ newline :: rest ∧ newline ∉ content ∧
        line.length + content.length ≤ maxWireFrameBytes ∧
        fromUtf8 (line ++ content) = some text := by
  induction h generalizing line with
  | nil => simp [readJsonLineFrom]
  | @cons buffer reader bytes hbuffer hcarries ih =>
    by_cases hmem : newline ∈ buffer
    · obtain ⟨content, tail, rfl, hfirst⟩ := List.eq_append_cons_of_mem hmem
      have hrest := hcarries.consume (content ++ [newline]) tail
      simp only [readJsonLineFrom_newline hfirst, List.append_assoc, List.cons_append]
      constructor
      · rintro ⟨_, ⟨hlen, htext, rfl⟩, hleft⟩
        exact ⟨content, by rw [hleft.unique (by simpa using hrest)], hfirst, hlen, htext⟩
      · rintro ⟨content', heq, hfirst', hlen, htext⟩
        obtain ⟨rfl, rfl⟩ := (append_newline_inj hfirst hfirst').mp heq
        exact ⟨_, ⟨hlen, htext, rfl⟩, by simpa using hrest⟩
    · simp only [readJsonLineFrom_buffer hbuffer hmem, and_assoc, exists_and_left, ih]
      constructor
      · rintro ⟨_, content, rfl, hfirst, hlen, htext⟩
        exact ⟨buffer ++ content, by simp, by simp [hmem, hfirst],
          by simpa [add_assoc] using hlen, by simpa using htext⟩
      · rintro ⟨content', heq, hfirst, hlen, htext⟩
        obtain ⟨content, rfl⟩ : ∃ content, content' = buffer ++ content := by
          rcases List.append_eq_append_iff.mp heq with ⟨content, rfl, _⟩ | ⟨tail, rfl, htail⟩
          · exact ⟨content, rfl⟩
          · cases tail with
            | nil => exact ⟨[], by simp⟩
            | cons b tail =>
              obtain ⟨rfl, _⟩ := List.cons.inj htail
              simp at hmem
        rw [List.append_assoc, List.append_cancel_left_eq] at heq
        simp only [List.mem_append, not_or] at hfirst
        rw [List.length_append] at hlen
        exact ⟨by omega, content, heq, hfirst.2, by rw [List.length_append]; omega,
          by simpa using htext⟩

/-- Which line is read, and what is left, depends on the bytes of the stream alone and not on the
buffers they come in: it is the bytes before the first line feed, if they are not too many and are
a text. -/
theorem readJsonLine_iff (h : reader.Carries bytes) :
    (∃ reader', readJsonLine reader = (.ok text, reader') ∧ reader'.Carries rest) ↔
      ∃ content, bytes = content ++ newline :: rest ∧ newline ∉ content ∧
        content.length ≤ maxWireFrameBytes ∧ fromUtf8 content = some text := by
  simpa [readJsonLine] using readJsonLineFrom_ok_iff [] h

/-- A line in two buffers. -/
theorem readJsonLine_iff_hi : ∃ reader : BufReader Empty,
    readJsonLine [.ok [104], .ok [105, 10, 104]] = (.ok "hi", reader) ∧ reader.Carries [104] := by
  have h : BufReader.Carries (ε := Empty) [.ok [104], .ok [105, 10, 104]] [104, 105, 10, 104] :=
    .cons (by simp) (.cons (by simp) .nil)
  exact (readJsonLine_iff h).mpr ⟨[104, 105], rfl, by decide, by decide, by decide +kernel⟩

end

/-- `serde_json::from_str` for frames. -/
class FrameReader where
  fromStr : String → Except String AuthenticatedWorkerMessage

/-- The nesting at which `serde_json` stops reading. -/
def recursionLimit : ℕ := 128

/-- The frame is valid and is nested less deep than the reader's limit. Validation bounds the
payloads of operations only: that of an invocation or of its result has any depth. -/
structure AuthenticatedWorkerMessage.Readable (f : AuthenticatedWorkerMessage) : Prop where
  valid : f.validateSyntax = .ok ()
  shallow : f.toJson.depth < recursionLimit

/-- The reader takes back what the serialiser wrote, where it can read it. -/
class LawfulFrameReader extends FrameReader where
  fromStr_text : ∀ f : AuthenticatedWorkerMessage, f.Readable → fromStr (Json.text f.toJson) = .ok f

namespace AuthenticatedWorkerMessage
variable {f : AuthenticatedWorkerMessage} {line : String}

def fromJsonLine [FrameReader] (encoded : String) :
    Except ProtocolError AuthenticatedWorkerMessage := do
  rejectIf (encoded.utf8ByteSize > maxWireFrameBytes)
    (.wireFrameTooLarge encoded.utf8ByteSize maxWireFrameBytes)
  let frame ← (FrameReader.fromStr encoded).mapError .serialization
  frame.validateSyntax
  return frame

theorem toJsonLine_ok_iff : f.toJsonLine = .ok line ↔ f.validateSyntax = .ok () ∧
    line.utf8ByteSize ≤ maxWireFrameBytes ∧ line = Json.text f.toJson := by
  simp only [toJsonLine, Except.bind_ok_iff, Except.rejectIf_ok_iff, not_lt]
  constructor
  · rintro ⟨_, hshape, _, hsize, hline⟩
    cases hline
    exact ⟨hshape, hsize, rfl⟩
  · rintro ⟨hshape, hsize, rfl⟩
    exact ⟨(), hshape, (), hsize, rfl⟩

theorem fromJsonLine_of_toJsonLine [LawfulFrameReader] (h : f.toJsonLine = .ok line)
    (hdepth : f.toJson.depth < recursionLimit) : fromJsonLine line = .ok f := by
  obtain ⟨hshape, hsize, rfl⟩ := toJsonLine_ok_iff.mp h
  simp [fromJsonLine, hshape, hsize, LawfulFrameReader.fromStr_text f ⟨hshape, hdepth⟩, pure,
    Except.pure]

/-- The text of a frame determines it, so a lawful reader exists. -/
theorem nonempty_lawfulFrameReader : Nonempty LawfulFrameReader := by
  have hinj : Function.Injective fun f : AuthenticatedWorkerMessage => Json.text f.toJson := by
    rintro ⟨_, _, _⟩ ⟨_, _, _⟩ h
    simpa [toJson, UInt64.toNat_inj, WorkerMessage.toJson_inj] using Json.text_injective h
  exact ⟨{ fromStr := fun text => (Function.partialInv _ text).okOr ""
           fromStr_text := fun f _ => by
            rw [Option.okOr_ok_iff]
            exact Function.partialInv_left hinj f }⟩

end AuthenticatedWorkerMessage

/-- `Write`. -/
class WriteStream (W E : Type) where
  writeAll : Bytes → Mut W E Unit
  flush : Mut W E Unit

/-- A pipe that takes everything. -/
instance : WriteStream Bytes E where
  writeAll := writeAll
  flush := pure ()

structure JsonLineWorkerChannel (W E : Type) where
  reader : BufReader E
  writer : W
  poisoned : Bool

namespace JsonLineWorkerChannel
variable {W α : Type}

abbrev Call (W E α : Type) := Mut (JsonLineWorkerChannel W E) (JsonLineWorkerChannelError E) α

/-- A call that a poisoned channel refuses, and that poisons the channel if it fails. -/
def guarded (x : Call W E α) : Call W E α := fun self =>
  if self.poisoned then (.error .poisoned, self)
  else match x self with
    | (.ok a, self) => (.ok a, self)
    | (.error error, self) => (.error error, { self with poisoned := true })

def onWriter (x : Mut W E Unit) : Call W E Unit :=
  Mut.mapErr .io (x.onField (·.writer) fun self writer => { self with writer })

def sendFrameInner [WriteStream W E] (frame : AuthenticatedWorkerMessage) : Call W E Unit := do
  let line ← Mut.check (frame.toJsonLine.mapError .protocol)
  onWriter (WriteStream.writeAll (utf8 line))
  onWriter (WriteStream.writeAll [newline])
  onWriter WriteStream.flush

def sendFrame [WriteStream W E] (frame : AuthenticatedWorkerMessage) : Call W E Unit :=
  guarded (sendFrameInner frame)

def receiveFrameInner [FrameReader] : Call W E AuthenticatedWorkerMessage := fun self =>
  match readJsonLine self.reader with
  | (.error error, reader) => (.error error, { self with reader })
  | (.ok line, reader) =>
    ((AuthenticatedWorkerMessage.fromJsonLine line).mapError .protocol, { self with reader })

def receiveFrame [FrameReader] : Call W E AuthenticatedWorkerMessage := guarded receiveFrameInner

def sendFrames [WriteStream W E] : List AuthenticatedWorkerMessage → Call W E Unit
  | [] => pure ()
  | frame :: frames => do
    sendFrame frame
    sendFrames frames

def receiveFrames [FrameReader] : ℕ → Call W E (List AuthenticatedWorkerMessage)
  | 0 => pure []
  | n + 1 => do
    let frame ← receiveFrame
    let frames ← receiveFrames n
    return frame :: frames

theorem returns_guarded {x : Call W E α} {c c' : JsonLineWorkerChannel W E} {a : α} :
    (guarded x).Returns c a c' ↔ c.poisoned = false ∧ x.Returns c a c' := by
  unfold Mut.Returns guarded
  cases hpois : c.poisoned
  · rcases x c with ⟨_ | _, _⟩ <;> simp
  · simp

variable {f : AuthenticatedWorkerMessage} {frames : List AuthenticatedWorkerMessage}
  {c c' : JsonLineWorkerChannel Bytes E} {u : Unit}

theorem returns_sendFrame : (sendFrame f).Returns c u c' ↔ c.poisoned = false ∧
    (∃ line, f.toJsonLine = .ok line) ∧
    c' = { c with writer := c.writer ++ (Json.encode f.toJson ++ [newline]) } := by
  simp only [sendFrame, returns_guarded, sendFrameInner, onWriter, WriteStream.writeAll,
    WriteStream.flush, Mut.returns_bind, Mut.returns_check, Mut.returns_mapErr,
    Mut.returns_onField, returns_writeAll, Mut.returns_pure, Except.mapError_ok_iff]
  constructor
  · rintro ⟨hpois, line, _, ⟨hline, rfl⟩, _, _, ⟨_, rfl, rfl⟩, _, _, ⟨_, rfl, rfl⟩, _, ⟨_, rfl⟩,
      rfl⟩
    obtain ⟨_, _, rfl⟩ := AuthenticatedWorkerMessage.toJsonLine_ok_iff.mp hline
    exact ⟨hpois, ⟨_, hline⟩, by simp [Json.encode]⟩
  · rintro ⟨hpois, ⟨line, hline⟩, rfl⟩
    obtain ⟨_, _, rfl⟩ := AuthenticatedWorkerMessage.toJsonLine_ok_iff.mp hline
    exact ⟨hpois, _, _, ⟨hline, rfl⟩, (), _, ⟨_, rfl, rfl⟩, (), _, ⟨_, rfl, rfl⟩, _,
      ⟨trivial, rfl⟩, by simp [Json.encode]⟩

theorem receiveFrame_returns [LawfulFrameReader] (rest : Bytes) {d : JsonLineWorkerChannel W E}
    {line : String} (hline : f.toJsonLine = .ok line) (hdepth : f.toJson.depth < recursionLimit)
    (hd : d.poisoned = false) (h : d.reader.Carries (Json.encode f.toJson ++ newline :: rest)) :
    ∃ d', receiveFrame.Returns d f d' ∧ d'.poisoned = false ∧ d'.reader.Carries rest := by
  obtain ⟨_, hsize, rfl⟩ := AuthenticatedWorkerMessage.toJsonLine_ok_iff.mp hline
  obtain ⟨reader, hread, hrest⟩ := (readJsonLineFrom_ok_iff [] h).mpr
    ⟨_, rfl, Json.newline_not_mem_encode _, by simpa [Json.encode, utf8_length] using hsize,
      fromUtf8_utf8 _⟩
  refine ⟨{ d with reader }, returns_guarded.mpr ⟨hd, ?_⟩, hd, hrest⟩
  simp [Mut.Returns, receiveFrameInner, readJsonLine, hread,
    AuthenticatedWorkerMessage.fromJsonLine_of_toJsonLine hline hdepth, Except.mapError]

inductive Exchange
  | send (frame : AuthenticatedWorkerMessage)
  | receive

abbrev Outcome (E : Type) :=
  Except (JsonLineWorkerChannelError E) (Option AuthenticatedWorkerMessage)

section
variable [WriteStream W E] [FrameReader] {d : JsonLineWorkerChannel W E}

def exchange : Exchange → JsonLineWorkerChannel W E → Outcome E × JsonLineWorkerChannel W E
  | .send frame, self => (sendFrame frame self).map (·.map fun _ => none) id
  | .receive, self => (receiveFrame self).map (·.map some) id

/-- A caller that goes on whatever the outcomes are. -/
def exchanges : List Exchange → JsonLineWorkerChannel W E →
    List (Outcome E) × JsonLineWorkerChannel W E
  | [], self => ([], self)
  | x :: xs, self =>
    let (outcome, self) := exchange x self
    (exchanges xs self).map (outcome :: ·) id

theorem exchange_poisoned (h : d.poisoned = true) (x : Exchange) :
    exchange x d = (.error .poisoned, d) := by
  cases x <;> simp [exchange, sendFrame, receiveFrame, guarded, h, Except.map]

theorem exchange_cases (x : Exchange) (d : JsonLineWorkerChannel W E) :
    (∃ a d', exchange x d = (.ok a, d')) ∨
      ∃ e d', exchange x d = (.error e, d') ∧ d'.poisoned = true := by
  cases hd : d.poisoned
  · cases x with
    | send frame =>
      rcases h : sendFrameInner frame d with ⟨_ | _, _⟩ <;>
        simp [exchange, sendFrame, guarded, hd, h, Except.map]
    | receive =>
      rcases h : receiveFrameInner d with ⟨_ | _, _⟩ <;>
        simp [exchange, receiveFrame, guarded, hd, h, Except.map]
  · exact .inr ⟨_, d, exchange_poisoned hd x, hd⟩

theorem exchanges_poisoned (h : d.poisoned = true) (xs : List Exchange) :
    exchanges xs d = (List.replicate xs.length (.error .poisoned), d) := by
  induction xs with
  | nil => rfl
  | cons x xs ih => simp [exchanges, exchange_poisoned h, ih, List.replicate_succ]

/-- One failure ends a channel: the exchanges before it succeeded, those after it are refused, and
they leave both streams as it left them. -/
theorem exchanges_until_failure (xs : List Exchange) (d : JsonLineWorkerChannel W E) :
    ∃ n, (∀ i outcome, (exchanges xs d).1[i]? = some outcome →
        (outcome.isOk = true ↔ i < n) ∧ (n < i → outcome = .error .poisoned)) ∧
      (exchanges xs d).2 = (exchanges (xs.take (n + 1)) d).2 := by
  induction xs generalizing d with
  | nil => simp [exchanges]
  | cons x xs ih =>
    obtain ⟨a, d', hx⟩ | ⟨e, d', hx, hpois⟩ := exchange_cases x d
    · obtain ⟨n, houtcomes, hlast⟩ := ih d'
      refine ⟨n + 1, ?_, by simp [exchanges, hx, hlast]⟩
      rintro (_ | i) outcome hi <;> simp only [exchanges, hx] at hi
      · cases hi
        simp [Except.isOk, Except.toBool]
      · simpa using houtcomes i outcome hi
    · refine ⟨0, ?_, by simp [exchanges, hx, exchanges_poisoned hpois]⟩
      rintro (_ | i) outcome hi <;> simp only [exchanges, hx, exchanges_poisoned hpois] at hi
      · cases hi
        simp [Except.isOk, Except.toBool]
      · obtain rfl := List.eq_of_mem_replicate (List.mem_of_getElem? hi)
        simp [Except.isOk, Except.toBool]

end

end JsonLineWorkerChannel

end Octoscript
