import CameraStreamer.ControlDispatch
import CameraStreamer.RecordStream
import CameraStreamer.Lib.Lines
import CameraStreamer.Lib.Runs
/-!
# Control requests over USB

`LocalTunnel::deliver` on the control channel: it reassembles request lines from
the records of a session, dispatches them and hands each reply to the record
writer, while the other producers seal records of their own and the device
changes under it. What the writer answers to a reply is not looked at.
-/

namespace CameraStreamer.Secure.ControlTunnel

open Control Json JsonGenerator Runs

/-- `'\n'` -/
def newline (b : UInt8) : Bool := b == 10

structure Tunnel (W : Type) where
  world : W
  control_buffer_ : Bytes
  /-- What `dispatch_` returned, until `enqueue_` has been called with it. -/
  reply : Option Bytes
  encrypt_ : SecureRecord
  /-- What was put into the outbound stream, in the order of sealing. -/
  queue_ : List Bytes
  sealed : List WireMessage
  /-- All payload bytes of Control records so far. -/
  received : Bytes
  /-- Each line taken off the buffer, and what the device was like then. -/
  lines : List (W × Bytes)

def Tunnel.start {W : Type} (world : W) (key : Key) (iv : Iv) : Tunnel W :=
  ⟨world, [], none, .new key iv, [], [], [], []⟩

inductive Action (W : Type) where
  /-- The next Control record arrives, once the call for the one before has returned. -/
  | deliver (payload : Bytes)
  /-- One line off the buffer, and through `dispatch_`. -/
  | line
  /-- `enqueue_` with the reply. -/
  | enqueue
  /-- Another producer seals a record; none of them uses the control channel. -/
  | produce (m : WireMessage)
  /-- Anything else changes the device. -/
  | change (world : W)

section Machine
variable {D W : Type} [JsonGenerator D] (parse : JsonParser D) (registry : ControlRegistry D W) (A : Aead)

/-- `RecordWriter::enqueue`: what cannot be sealed is not queued. -/
def Tunnel.seal (s : Tunnel W) (m : WireMessage) : Tunnel W :=
  match make_wire_record A .ok m.channel m.stream m.payload s.encrypt_ with
  | (.error _, encrypt_) => { s with encrypt_ := encrypt_ }
  | (.ok wire, encrypt_) =>
    { s with encrypt_ := encrypt_, queue_ := s.queue_ ++ [wire], sealed := s.sealed ++ [m] }

/-- `deliver` has returned. -/
def Tunnel.Idle (s : Tunnel W) : Prop := s.reply = none ∧ 10 ∉ s.control_buffer_

instance (s : Tunnel W) : Decidable s.Idle := inferInstanceAs (Decidable (_ ∧ _))

def step (s : Tunnel W) : Action W → Option (Tunnel W)
  | .deliver payload =>
    if s.Idle then
      some { s with control_buffer_ := s.control_buffer_ ++ payload, received := s.received ++ payload }
    else none
  | .line =>
    match s.reply, Lines.cut newline s.control_buffer_ with
    | none, some (line, _, rest) =>
      let reply := dispatch_request parse registry line s.world
      some { s with
        world := reply.2
        control_buffer_ := rest
        reply := if reply.1 = [] then none else some reply.1
        lines := s.lines ++ [(s.world, line)] }
    | _, _ => none
  | .enqueue =>
    match s.reply with
    | some reply => some { s.seal A ⟨.Control, 0, reply⟩ with reply := none }
    | none => none
  | .produce m => if m.channel = .Control then none else some (s.seal A m)
  | .change world => some { s with world }

/-- The request lines so far: those that were not blank. -/
def Tunnel.requests (s : Tunnel W) : List (W × Bytes) := s.lines.filter (·.2 ≠ [])

/-- The replies in the outbound stream. -/
def Tunnel.replies (s : Tunnel W) : List Bytes := (s.sealed.filter (·.channel = .Control)).map (·.payload)

/-- What `dispatch_request` makes of a line. -/
def reply_to (q : W × Bytes) : Bytes := (dispatch_request parse registry q.2 q.1).1

/-- One reply line for each request, in order and as `dispatch_request` made it. -/
def Tunnel.Answered (s : Tunnel W) : Prop :=
  s.replies = s.requests.map (reply_to parse registry) ∧ ∀ r ∈ s.replies, OneLine r

/-- The id and the result, or the error, of a request leave room for the envelope in one record. -/
def Room (q : W × Bytes) : Prop :=
  let out := outcome parse registry (c_str q.2) q.1
  reply_size out.1 out.2.1 + 2 ≤ kMaxPayload

/-- Does not start with a NUL, and its reply has room. -/
def Answerable (q : W × Bytes) : Prop := q.2.head? ≠ some 0 ∧ Room parse registry q

/-! ## Sealing -/

theorem seal_eq (s : Tunnel W) (m : WireMessage) :
    s.seal A m =
      if m.Fits then
        { s with encrypt_ := s.encrypt_.next_nonce.2, queue_ := s.queue_ ++ [framed A s.encrypt_ m],
                 sealed := s.sealed ++ [m] }
      else s := by
  unfold Tunnel.seal
  rw [make_wire_record_eq]
  by_cases hm : m.Fits
  · simp only [hm, if_true]
  · simp only [hm, if_false]

/-- A reply that is handed to the writer and fits a record. -/
def sendable (reply : Bytes) : Bool := reply ≠ [] ∧ reply.length + 2 ≤ kMaxPayload

section Facts
variable {parse registry A}

theorem sendable_reply (q : W × Bytes) (h : c_str q.2 ≠ []) :
    sendable (reply_to parse registry q) = true ↔ Room parse registry q := by
  simp only [sendable, reply_to, dispatch_line parse registry h, reply_length, Room, decide_eq_true_eq]
  simp

/-- A reply goes out exactly for an answerable request. -/
theorem sendable_iff (q : W × Bytes) (h : q.2 ≠ []) :
    sendable (reply_to parse registry q) = true ↔ Answerable parse registry q := by
  by_cases hq : c_str q.2 = []
  · have hhead : q.2.head? = some 0 := (c_str_eq_nil.1 hq).resolve_left h
    simp [sendable, reply_to, dispatch_blank parse registry hq, Answerable, hhead]
  · have hhead : q.2.head? ≠ some 0 := fun hh => hq (c_str_eq_nil.2 (.inr hh))
    simp [sendable_reply q hq, Answerable, hhead]

end Facts

/-! ## Every run -/

/-- What the ghosts have to do with the state. The lines are the received bytes up
to the buffer, each with its newline; the stream is the sealed messages; the
replies in it are those of the lines that could go out, but for one still in hand. -/
structure Inv (key : Key) (iv : Iv) (s : Tunnel W) : Prop where
  received : s.received = (s.lines.map fun q => q.2 ++ [10]).flatten ++ s.control_buffer_
  lines : ∀ q ∈ s.lines, 10 ∉ q.2
  encrypt : s.encrypt_ = (SecureRecord.new key iv).skip s.sealed.length
  stream : s.queue_ = framed_all A (.new key iv) s.sealed
  replies : s.replies ++ s.reply.toList.filter sendable =
    (s.lines.map (reply_to parse registry)).filter sendable
  reply : ∀ r ∈ s.reply, r ≠ []

variable {parse registry A}

theorem seal_stream (s : Tunnel W) (m : WireMessage) (r : SecureRecord)
    (he : s.encrypt_ = r.skip s.sealed.length) (hq : s.queue_ = framed_all A r s.sealed) :
    (s.seal A m).encrypt_ = r.skip (s.seal A m).sealed.length ∧
      (s.seal A m).queue_ = framed_all A r (s.seal A m).sealed := by
  rw [seal_eq]
  by_cases hm : m.Fits
  · simp only [hm, if_true, List.length_append, List.length_singleton]
    exact ⟨by rw [he, SecureRecord.skip_next], by rw [framed_all_append, hq, he]⟩
  · simp only [hm, if_false]
    exact ⟨he, hq⟩

theorem seal_replies (s : Tunnel W) (m : WireMessage) (h : m.channel ≠ .Control) :
    (s.seal A m).replies = s.replies := by
  rw [seal_eq]
  by_cases hm : m.Fits <;> simp [hm, Tunnel.replies, h]

theorem seal_reply (s : Tunnel W) (reply : Bytes) (h : reply ≠ []) :
    (s.seal A ⟨.Control, 0, reply⟩).replies = s.replies ++ [reply].filter sendable := by
  have hfits : (⟨.Control, 0, reply⟩ : WireMessage).Fits ↔ reply.length + 2 ≤ kMaxPayload := Iff.rfl
  rw [seal_eq]
  by_cases hm : reply.length + 2 ≤ kMaxPayload <;> simp [hfits, hm, Tunnel.replies, sendable, h]

@[simp] theorem seal_received (s : Tunnel W) (m : WireMessage) : (s.seal A m).received = s.received := by
  rw [seal_eq]
  split <;> rfl

@[simp] theorem seal_lines (s : Tunnel W) (m : WireMessage) : (s.seal A m).lines = s.lines := by
  rw [seal_eq]
  split <;> rfl

@[simp] theorem seal_control_buffer (s : Tunnel W) (m : WireMessage) :
    (s.seal A m).control_buffer_ = s.control_buffer_ := by
  rw [seal_eq]
  split <;> rfl

@[simp] theorem seal_pending (s : Tunnel W) (m : WireMessage) : (s.seal A m).reply = s.reply := by
  rw [seal_eq]
  split <;> rfl

theorem line_step {s s' : Tunnel W} (h : step parse registry A s .line = some s') :
    s.reply = none ∧ ∃ line, s.control_buffer_ = line ++ 10 :: s'.control_buffer_ ∧ 10 ∉ line ∧
      s' = { s with
        world := (dispatch_request parse registry line s.world).2
        control_buffer_ := s'.control_buffer_
        reply := if reply_to parse registry (s.world, line) = [] then none
          else some (reply_to parse registry (s.world, line))
        lines := s.lines ++ [(s.world, line)] } := by
  simp only [step] at h
  split at h
  · rename_i line t rest hr hc
    cases h
    obtain ⟨hb, ht, hl⟩ := Lines.cut_some hc
    rw [show t = 10 by simpa [newline] using ht] at hb
    refine ⟨hr, line, hb, fun hm => ?_, rfl⟩
    have hnl := hl 10 hm
    simp [newline] at hnl
  · cases h

theorem Inv.step {key : Key} {iv : Iv} {s s' : Tunnel W} {a : Action W} (hi : Inv parse registry A key iv s)
    (h : step parse registry A s a = some s') : Inv parse registry A key iv s' := by
  cases a with
  | deliver payload =>
    simp only [ControlTunnel.step] at h
    split at h
    · cases h
      exact ⟨by simp [hi.received], hi.lines, hi.encrypt, hi.stream, hi.replies, hi.reply⟩
    · cases h
  | line =>
    obtain ⟨hr, line, hb, hl, hs⟩ := line_step h
    have hreplies := hi.replies
    rw [hr, Option.toList_none, List.filter_nil, List.append_nil] at hreplies
    rw [hs]
    refine ⟨?_, ?_, hi.encrypt, hi.stream, ?_, ?_⟩
    · simp [hi.received, hb]
    · exact List.forall_mem_append.2 ⟨hi.lines, List.forall_mem_singleton.2 hl⟩
    · -- A blank line, or one that starts with a NUL, leaves no reply; neither does it count.
      simp only [List.map_append, List.map_cons, List.map_nil, List.filter_append, ← hreplies]
      by_cases hempty : reply_to parse registry (s.world, line) = []
      · simp [hempty, sendable, Tunnel.replies]
      · simp [hempty, Tunnel.replies]
    · intro r hr'
      by_cases hempty : reply_to parse registry (s.world, line) = []
      · simp [hempty] at hr'
      · simp only [hempty, if_false, Option.mem_def, Option.some.injEq] at hr'
        rw [← hr']
        exact hempty
  | enqueue =>
    simp only [ControlTunnel.step] at h
    split at h
    · rename_i reply hr
      cases h
      have hne := hi.reply reply hr
      obtain ⟨he, hq⟩ := seal_stream (A := A) s ⟨.Control, 0, reply⟩ _ hi.encrypt hi.stream
      have hreplies := hi.replies
      rw [hr, Option.toList_some] at hreplies
      refine ⟨by simpa using hi.received, by simpa using hi.lines, he, hq, ?_, by simp⟩
      show (s.seal A ⟨.Control, 0, reply⟩).replies ++ _ = _
      rw [seal_reply s reply hne]
      simpa using hreplies
    · cases h
  | produce m =>
    simp only [ControlTunnel.step] at h
    split at h
    · cases h
    · rename_i hm
      cases h
      obtain ⟨he, hq⟩ := seal_stream (A := A) s m _ hi.encrypt hi.stream
      exact ⟨by simpa using hi.received, by simpa using hi.lines, he, hq,
        by rw [seal_replies s m hm]; simpa using hi.replies, by simpa using hi.reply⟩
  | change world =>
    cases h
    exact { hi with }

theorem inv {key : Key} {iv : Iv} {world : W} {as : List (Action W)} {s : Tunnel W}
    (hr : Run (step parse registry A) (.start world key iv) as s) : Inv parse registry A key iv s :=
  hr.inv (Inv parse registry A key iv)
    ⟨rfl, by simp [Tunnel.start], by simp [Tunnel.start], rfl, by simp [Tunnel.start, Tunnel.replies],
      by simp [Tunnel.start]⟩ fun _ _ _ hi h => hi.step h

/-- From any state `deliver` gets through its buffer, a line at a time, and returns. -/
theorem returns (s : Tunnel W) : ∃ bs t, Run (step parse registry A) s bs t ∧
    (∀ b ∈ bs, b = .line ∨ b = .enqueue) ∧ t.Idle ∧ t.received = s.received := by
  -- A reply in hand goes first; it does not touch the buffer.
  have henqueue : ∀ s : Tunnel W, ∃ bs t, Run (step parse registry A) s bs t ∧ (∀ b ∈ bs, b = .line ∨ b = .enqueue) ∧
      t.reply = none ∧ t.control_buffer_ = s.control_buffer_ ∧ t.received = s.received := by
    intro s
    cases hr : s.reply with
    | none => exact ⟨[], s, .nil, by simp, hr, rfl, rfl⟩
    | some reply =>
      refine ⟨[] ++ [.enqueue], { s.seal A ⟨.Control, 0, reply⟩ with reply := none }, .snoc .nil ?_, by simp, rfl,
        by simp, by simp⟩
      simp only [step, hr]
  induction hn : s.control_buffer_.length using Nat.strongRecOn generalizing s with
  | ind n ih =>
    obtain ⟨bs, t, hrun, hbs, htr, htb, htrec⟩ := henqueue s
    cases hc : Lines.cut newline t.control_buffer_ with
    | none =>
      refine ⟨bs, t, hrun, hbs, ⟨htr, fun hm => ?_⟩, htrec⟩
      have hnl := Lines.cut_none hc 10 hm
      simp [newline] at hnl
    | some r =>
      obtain ⟨line, u, rest⟩ := r
      obtain ⟨t', ht'⟩ : ∃ t', step parse registry A t .line = some t' := by simp [step, htr, hc]
      obtain ⟨-, line', hb, -, heq⟩ := line_step ht'
      have hlt : t'.control_buffer_.length < n := by
        rw [← hn, ← htb, hb, List.length_append, List.length_cons]
        omega
      obtain ⟨bs', t'', hrun', hbs', hidle, hrec⟩ := ih _ hlt t' rfl
      refine ⟨bs ++ [.line] ++ bs', t'', (hrun.snoc ht').trans hrun', ?_, hidle, ?_⟩
      · intro b hb
        rcases List.mem_append.1 hb with hb | hb
        · rcases List.mem_append.1 hb with hb | hb
          · exact hbs b hb
          · exact .inl (List.mem_singleton.1 hb)
        · exact hbs' b hb
      · rw [hrec, heq, ← htrec]

/-- In every run: whatever came in, `deliver` gets to its end; and when it has, the
requests are the complete lines of what was received, and each of them has its
one reply in the stream, in order, exactly when each of them is answerable. -/
theorem answered_iff {key : Key} {iv : Iv} {world : W} {as : List (Action W)} {s : Tunnel W}
    (hr : Run (step parse registry A) (.start world key iv) as s) :
    (∃ bs t, Run (step parse registry A) s bs t ∧ (∀ b ∈ bs, b = .line ∨ b = .enqueue) ∧ t.Idle ∧
      t.received = s.received) ∧
    (s.Idle →
      (s.received = (s.lines.map fun q => q.2 ++ [10]).flatten ++ s.control_buffer_ ∧ (∀ q ∈ s.lines, 10 ∉ q.2)) ∧
      s.queue_ = framed_all A (.new key iv) s.sealed ∧
      (s.Answered parse registry ↔ ∀ q ∈ s.requests, Answerable parse registry q)) := by
  have hi := inv hr
  refine ⟨returns s, fun hidle => ⟨⟨hi.received, hi.lines⟩, hi.stream, ?_⟩⟩
  -- Blank lines have no reply, so the replies that could go out are those of requests.
  have hreplies : s.replies = (s.requests.map (reply_to parse registry)).filter sendable := by
    have h := hi.replies
    rw [hidle.1, Option.toList_none, List.filter_nil, List.append_nil] at h
    rw [h, Tunnel.requests, List.filter_map, List.filter_map, List.filter_filter]
    congr 1
    refine List.filter_congr fun q _ => ?_
    by_cases hq : q.2 = []
    · have hb : reply_to parse registry q = [] := by
        rw [reply_to, dispatch_blank parse registry (by rw [hq]; rfl)]
      simp [hq, hb, sendable]
    · simp [hq]
  have hne : ∀ q ∈ s.requests, q.2 ≠ [] := fun q hq => by simpa using (List.mem_filter.1 hq).2
  constructor
  · intro ⟨hall, _⟩ q hq
    rw [hall] at hreplies
    have hs := List.filter_eq_self.1 hreplies.symm _ (List.mem_map_of_mem hq)
    exact (sendable_iff q (hne q hq)).1 hs
  · intro hall
    have hs : ∀ r ∈ s.requests.map (reply_to parse registry), sendable r = true := by
      intro r hr
      obtain ⟨q, hq, rfl⟩ := List.mem_map.1 hr
      exact (sendable_iff q (hne q hq)).2 (hall q hq)
    rw [List.filter_eq_self.2 hs] at hreplies
    refine ⟨hreplies, fun r hr => ?_⟩
    rw [hreplies] at hr
    obtain ⟨q, hq, rfl⟩ := List.mem_map.1 hr
    have hc : c_str q.2 ≠ [] := fun hc =>
      (c_str_eq_nil.1 hc).elim (hne q hq) (hall q hq).1
    rw [reply_to, dispatch_line parse registry hc]
    exact reply_line _ _

end Machine

/-! ## One request -/

section Request
variable {D W : Type} [JsonGenerator D] (parse : JsonParser D) (registry : ControlRegistry D W) (A : Aead)

/-- One line, in two records. -/
theorem run_request (world : W) (key : Key) (iv : Iv) {p q line : Bytes} (hpq : p ++ q = line ++ [10])
    (hp : 10 ∉ p) (hl : 10 ∉ line) (hc : c_str line ≠ []) :
    ∃ as s, Run (step parse registry A) (.start world key iv) as s ∧ s.Idle ∧ s.requests = [(world, line)] := by
  have hcut : Lines.cut newline (p ++ q) = some (line, 10, []) := by
    rw [hpq, Lines.cut_line line [10] (fun x hx => by
      by_cases h : x = 10
      · exact absurd (h ▸ hx) hl
      · simpa [newline] using h)]
    simp [Lines.cut, newline]
  have hne : (dispatch_request parse registry line world).1 ≠ [] := by
    rw [dispatch_line parse registry hc]
    simp
  have h1 : step parse registry A (.start world key iv) (.deliver p) =
      some { Tunnel.start world key iv with control_buffer_ := p, received := p } := by
    simp [step, Tunnel.Idle, Tunnel.start]
  have h2 : step parse registry A { Tunnel.start world key iv with control_buffer_ := p, received := p } (.deliver q) =
      some { Tunnel.start world key iv with control_buffer_ := p ++ q, received := p ++ q } := by
    simp [step, Tunnel.Idle, Tunnel.start, hp]
  obtain ⟨s, h3, hreply, hlines, hbuffer⟩ : ∃ s, step parse registry A
      { Tunnel.start world key iv with control_buffer_ := p ++ q, received := p ++ q } .line = some s ∧
      s.reply = some (dispatch_request parse registry line world).1 ∧ s.lines = [(world, line)] ∧
      s.control_buffer_ = [] := by
    simp [step, Tunnel.start, hcut, hne]
  have h4 : step parse registry A s .enqueue =
      some { s.seal A ⟨.Control, 0, (dispatch_request parse registry line world).1⟩ with reply := none } := by
    simp only [step, hreply]
  refine ⟨_, _, (((Run.nil.snoc h1).snoc h2).snoc h3).snoc h4, ⟨rfl, by simp [hbuffer]⟩, ?_⟩
  have hline : line ≠ [] := by
    rintro rfl
    exact hc rfl
  simp [Tunnel.requests, hlines, hline]

end Request

/-- `{"id":"aaa…","method":"ping"}` with an id of `n` characters. -/
def ping_line (n : Nat) : Bytes := utf8 "\x7b\"id\":\"" ++ List.replicate n 97 ++ utf8 "\",\"method\":\"ping\"\x7d"

def ping_id (n : Nat) : Json Rat := .string (String.ofList (List.replicate n 'a'))

/-- What json-glib makes of that line. -/
def ping_parse (n : Nat) : JsonParser Rat := fun text =>
  if text = ping_line n then .ok (some (.object [("id", ping_id n), ("method", .string "ping")]))
  else .error "<data>:1:1: Parse error"

def ping_registry : ControlRegistry Rat Unit := [("ping", PingHandler)]

theorem ping_line_bytes (n : Nat) (b : UInt8) (hb : b ∈ ping_line n) : b ≠ 0 ∧ b ≠ 10 := by
  have hhead : ∀ c ∈ utf8 "\x7b\"id\":\"", c ≠ 0 ∧ c ≠ 10 := by decide +kernel
  have htail : ∀ c ∈ utf8 "\",\"method\":\"ping\"\x7d", c ≠ 0 ∧ c ≠ 10 := by decide +kernel
  rcases List.mem_append.1 hb with hb | hb
  · rcases List.mem_append.1 hb with hb | hb
    · exact hhead b hb
    · rw [(List.mem_replicate.1 hb).2]; decide
  · exact htail b hb

theorem ping_c_str (n : Nat) : c_str (ping_line n) = ping_line n :=
  c_str_self fun h => (ping_line_bytes n 0 h).1 rfl

theorem ping_outcome (n : Nat) : outcome (ping_parse n) ping_registry (c_str (ping_line n)) () =
    (ping_id n, PingHandler none ()) := by
  rw [ping_c_str]
  simp [outcome, ping_parse, ping_registry, ControlRegistry.find, List.lookup_cons]

theorem ping_run (n : Nat) (key : Key) (iv : Iv) :
    ∃ as s, Run (step (ping_parse n) ping_registry (markedAead fun _ _ _ => true)) (.start () key iv) as s ∧ s.Idle ∧
      s.requests = [((), ping_line n)] := by
  have hline : 10 ∉ ping_line n := fun h => (ping_line_bytes n 10 h).2 rfl
  refine run_request _ _ _ () key iv (p := (ping_line n).take 60000) (q := (ping_line n).drop 60000 ++ [10])
    ?_ ?_ hline ?_
  · rw [← List.append_assoc, List.take_append_drop]
  · exact fun h => hline (List.mem_of_mem_take h)
  · rw [ping_c_str, ping_line, utf8]
    simp

/-- A ping with a short id is answered. -/
theorem answered_iff_ping : ∃ as s, Run (step (ping_parse 1) ping_registry (markedAead fun _ _ _ => true))
    (.start () (.replicate 32 0) (.replicate 12 0)) as s ∧ s.Answered (ping_parse 1) ping_registry := by
  obtain ⟨as, s, hr, hidle, hreq⟩ := ping_run 1 (.replicate 32 0) (.replicate 12 0)
  refine ⟨as, s, hr, ((answered_iff hr).2 hidle).2.2.2 ?_⟩
  rw [hreq]
  intro q hq
  rw [List.mem_singleton.1 hq]
  refine ⟨by decide, ?_⟩
  rw [Room, ping_outcome]
  decide

theorem ping_unanswerable {n : Nat} (hn : kMaxPayload ≤ n) :
    ¬ Answerable (ping_parse n) ping_registry ((), ping_line n) := by
  intro ⟨_, hroom⟩
  have hid : n ≤ (to_data (ping_id n)).length := by
    have hplain : (String.ofList (List.replicate n 'a')).toList.all Char.isAlphanum = true := by
      rw [String.toList_ofList, List.all_eq_true]
      intro c hc
      rw [(List.mem_replicate.1 hc).2]
      decide
    have hone : String.utf8EncodeChar 'a' = [97] := rfl
    rw [ping_id, to_data_name _ hplain, utf8, String.toList_ofList, List.flatMap_replicate, hone,
      List.flatten_replicate_singleton]
    simp only [List.cons_append, List.length_cons, List.length_append, List.length_replicate]
    omega
  rw [Room, ping_outcome] at hroom
  simp only [reply_size, PingHandler] at hroom
  omega

/-- An id of 70,000 characters arrives in two records and makes a reply that no record holds. -/
theorem reply_lost : ¬ ∀ (D W : Type) (_ : JsonGenerator D) (parse : JsonParser D) (registry : ControlRegistry D W)
    (A : Aead) (world : W) (key : Key) (iv : Iv) (as : List (Action W)) (s : Tunnel W),
    Run (step parse registry A) (.start world key iv) as s → s.Idle → s.Answered parse registry := by
  intro h
  obtain ⟨as, s, hr, hidle, hreq⟩ := ping_run 70000 (.replicate 32 0) (.replicate 12 0)
  have ha := ((answered_iff hr).2 hidle).2.2.1 (h _ _ _ _ _ _ _ _ _ _ _ hr hidle)
  rw [hreq] at ha
  exact ping_unanswerable (by decide) (ha _ (List.mem_singleton.2 rfl))

end CameraStreamer.Secure.ControlTunnel
