import CameraStreamer.Lib.Bytes
import CameraStreamer.Lib.Runs
/-!
# The update server

`handle_connection` as a machine: a step is what the call it waits in returns.
`arrived` and `forwarded` are what the reads after the header line have produced
and what the swupdate descriptor has taken.
-/

namespace CameraStreamer.Update.UpdateServer

open Runs

def kMaxUpdateSize : UInt64 := 2 * 1024 * 1024 * 1024

/-- `char buf[65536]`, with whatever the stack has left in it. -/
structure Buffer where
  bytes : Bytes
  full : bytes.length = 65536

/-- A read puts its bytes at the front; the rest of the buffer stays. -/
def Buffer.fill (b : Buffer) (data : Bytes) : Buffer where
  bytes := data.take 65536 ++ b.bytes.drop data.length
  full := by have := b.full; simp; omega

/-- What `g_input_stream_read` returns. -/
inductive Read where
  | data (bytes : Bytes)
  | end_of_stream
  | error
  deriving DecidableEq

def Read.bytes : Read → Bytes
  | .data bytes => bytes
  | _ => []

def Read.gssize : Read → Int64
  | .data bytes => .ofNat bytes.length
  | .end_of_stream => 0
  | .error => -1

/-- A read of at most `count` bytes may return this. -/
def Read.Fits (count : UInt64) (r : Read) : Prop :=
  r.bytes.length ≤ count.toNat ∧ ∀ bytes, r = .data bytes → bytes ≠ []

instance (count : UInt64) (r : Read) : Decidable (r.Fits count) :=
  match r with
  | .data bytes => decidable_of_iff (bytes.length ≤ count.toNat ∧ bytes ≠ [])
    ⟨fun h => ⟨h.1, fun _ he => by cases he; exact h.2⟩, fun h => ⟨h.1, h.2 bytes rfl⟩⟩
  | .end_of_stream => isTrue ⟨by simp [Read.bytes], fun _ he => by cases he⟩
  | .error => isTrue ⟨by simp [Read.bytes], fun _ he => by cases he⟩

/-- What `send` returns. -/
inductive Send where
  /-- `EINTR` -/
  | interrupted
  | failed
  | sent (k : UInt64)
  deriving DecidableEq

/-- A `send` of `count` bytes may return this. -/
def Send.Fits (count : UInt64) : Send → Prop
  | .sent k => k ≤ count
  | _ => True

instance (count : UInt64) (r : Send) : Decidable (r.Fits count) :=
  match r with
  | .sent k => inferInstanceAs (Decidable (k ≤ count))
  | .interrupted | .failed => isTrue trivial

/-- The call the thread is in. -/
inductive Phase where
  /-- `read_line` -/
  | header (line : Bytes)
  /-- `begin_stream_install` -/
  | connecting
  /-- `g_input_stream_read`, in the loop. -/
  | reading
  /-- `write_full_nosigpipe` of `n` bytes, in `send`. -/
  | sending (n : Int64) (sent : UInt64)
  | finished
  deriving DecidableEq

inductive Outcome where
  | read (r : Read)
  | begin_stream_install (ok : Bool)
  | send (r : Send)
  deriving DecidableEq

structure Handler where
  phase : Phase
  size : UInt64
  buf : Buffer
  received : UInt64
  /-- The lines sent to the client. -/
  replies : List String
  /-- The swupdate descriptor has been closed. -/
  closed : Bool
  /-- `end_stream_install` has been called. -/
  ended : Bool
  arrived : Bytes
  forwarded : Bytes

namespace Handler

def accepted (buf : Buffer) : Handler := ⟨.header [], 0, buf, 0, [], false, false, [], []⟩

def ack : String := "\x7b\"ok\":true\x7d\n"
def invalid_size : String := "\x7b\"ok\":false,\"error\":\"invalid or missing size\"\x7d\n"
def busy : String := "\x7b\"ok\":false,\"error\":\"swupdate busy or unavailable\"\x7d\n"
def incomplete : String := "\x7b\"ok\":false,\"error\":\"upload incomplete\"\x7d\n"
def installing : String := "\x7b\"ok\":true,\"state\":\"installing\"\x7d\n"

def goto (s : Handler) (phase : Phase) : Handler := { s with phase := phase }

/-- `send_json`, and the thread returns. -/
def reply (s : Handler) (json : String) : Handler := { s with replies := s.replies ++ [json], phase := .finished }

/-- What follows the streaming loop. -/
def conclude (s : Handler) (upload_ok : Bool) : Handler :=
  let s := { s with closed := true, ended := true }
  if ¬ upload_ok ∨ s.received ≠ s.size then s.reply incomplete else s.reply installing

/-- The test at the top of the streaming loop. -/
def loop_top (s : Handler) : Handler := if s.received < s.size then s.goto .reading else s.conclude true

def to_read (s : Handler) : UInt64 := min 65536 (s.size - s.received)

/-- `write_full_nosigpipe` of `n` bytes has returned. -/
def wrote (s : Handler) (n ret : Int64) : Handler :=
  if ret < 0 then s.conclude false else loop_top { s with received := s.received + n.toUInt64 }

/-- The test at the top of the loop of `write_full_nosigpipe`. -/
def write_top (s : Handler) (n : Int64) (sent : UInt64) : Handler :=
  if sent < n.toUInt64 then s.goto (.sending n sent) else s.wrote n n.toUInt64.toInt64

/-- The bytes a read has produced. -/
def take_in (s : Handler) (bytes : Bytes) : Handler :=
  { s with buf := s.buf.fill bytes, arrived := s.arrived ++ bytes }

/-- The `k` bytes that `send` has taken, from `buf + sent`. -/
def hand_on (s : Handler) (sent k : UInt64) : Handler :=
  { s with forwarded := s.forwarded ++ (s.buf.bytes.drop sent.toNat).take k.toNat }

def on_read (s : Handler) (r : Read) : Handler :=
  if r.gssize ≤ 0 then s.conclude false else (s.take_in r.bytes).write_top r.gssize 0

def on_send (s : Handler) (n : Int64) (sent : UInt64) : Send → Handler
  | .interrupted => s
  | .failed => s.wrote n (-1)
  | .sent k => (s.hand_on sent k).write_top n (sent + k)

def on_begin (s : Handler) (ok : Bool) : Handler :=
  if ok then loop_top { s with replies := s.replies ++ [ack] } else s.reply busy

variable (size_member : Bytes → Option Int64)

/-- The size in a header line and whether it is accepted. `size_member` is the
member `size` of the JSON object that a text is, if it is one that has it. -/
def parse_size (header : Bytes) : UInt64 × Bool :=
  -- `header.c_str()` ends at the first NUL
  match size_member (header.takeWhile (· ≠ 0)) with
  | some m => (m.toUInt64, 0 < m.toUInt64 ∧ m.toUInt64 ≤ kMaxUpdateSize)
  | none => (0, false)

def got_header (s : Handler) (header : Bytes) : Handler :=
  if header = [] then s.goto .finished
  else
    let s' := { s with size := (parse_size size_member header).1 }
    if (parse_size size_member header).2 then s'.goto .connecting else s'.reply invalid_size

/-- A byte of `read_line`, or the end of the line. -/
def on_header (s : Handler) (line : Bytes) (r : Read) : Handler :=
  match r.bytes with
  | [] => s.got_header size_member line
  | ch :: _ =>
    if ch = 10 then s.got_header size_member line
    else if 4096 < (line ++ [ch]).length then s.got_header size_member (line ++ [ch])
    else s.goto (.header (line ++ [ch]))

def step (s : Handler) (o : Outcome) : Option Handler :=
  match s.phase, o with
  | .header line, .read r => if r.Fits 1 then some (s.on_header size_member line r) else none
  | .connecting, .begin_stream_install ok => some (s.on_begin ok)
  | .reading, .read r => if r.Fits s.to_read then some (s.on_read r) else none
  | .sending n sent, .send r => if r.Fits (n.toUInt64 - sent) then some (s.on_send n sent r) else none
  | _, _ => none

/-! ## What holds in each phase -/

/-- Before the acknowledgement. -/
structure Fresh (s : Handler) : Prop where
  received : s.received = 0
  arrived : s.arrived = []
  forwarded : s.forwarded = []

/-- In the streaming loop, `sent` bytes into `chunk`: the bytes of the earlier
chunks are counted in `received` and forwarded. -/
structure Streaming (s : Handler) (chunk : Bytes) (sent : Nat) : Prop where
  acked : s.replies = [ack]
  accepted : 0 < s.size ∧ s.size ≤ kMaxUpdateSize
  bytes : ∃ done : Bytes, done.length = s.received.toNat ∧ s.arrived = done ++ chunk ∧
    s.forwarded = done ++ chunk.take sent
  room : s.received.toNat + chunk.length ≤ s.size.toNat

/-- The last reply of an acknowledged upload. -/
def verdict (s : Handler) : String := if s.forwarded.length = s.size.toNat then installing else incomplete

/-- After an acknowledged upload. -/
structure Concluded (s : Handler) : Prop where
  accepted : 0 < s.size ∧ s.size ≤ kMaxUpdateSize
  ordered : s.forwarded <+: s.arrived
  bounded : s.forwarded.length ≤ s.size.toNat
  replied : s.replies = [ack, s.verdict]
  closed : s.closed = true
  ended : s.ended = true

/-- What holds of a handler in a phase. -/
def Fits (s : Handler) : Phase → Prop
  | .header line => s.Fresh ∧ s.replies = [] ∧ s.size = 0 ∧ line.length ≤ 4096
  | .connecting => s.Fresh ∧ s.replies = [] ∧ 0 < s.size ∧ s.size ≤ kMaxUpdateSize
  | .reading => s.Streaming [] 0 ∧ s.received < s.size
  | .sending n sent => ∃ chunk, n = .ofNat chunk.length ∧ chunk.length ≤ 65536 ∧
      s.buf.bytes.take chunk.length = chunk ∧ sent.toNat < chunk.length ∧ s.Streaming chunk sent.toNat
  | .finished => (s.Fresh ∧ s.replies ∈ [[], [invalid_size], [busy]]) ∨ s.Concluded

def Inv (s : Handler) : Prop := s.Fits s.phase

theorem Inv.at {s : Handler} {phase : Phase} (h : s.Inv) (hp : s.phase = phase) : s.Fits phase := hp ▸ h

theorem Streaming.goto {s : Handler} {chunk : Bytes} {sent : Nat} (h : s.Streaming chunk sent) (phase : Phase) :
    (s.goto phase).Streaming chunk sent := { h with }

theorem Streaming.forwarded_length {s : Handler} {chunk : Bytes} {sent : Nat} (h : s.Streaming chunk sent) :
    s.forwarded.length = s.received.toNat + min sent chunk.length := by
  obtain ⟨before, hlen, -, hfwd⟩ := h.bytes
  rw [hfwd, List.length_append, List.length_take, hlen]

theorem Streaming.ordered {s : Handler} {chunk : Bytes} {sent : Nat} (h : s.Streaming chunk sent) :
    s.forwarded <+: s.arrived := by
  obtain ⟨before, -, harr, hfwd⟩ := h.bytes
  rw [hfwd, harr]
  exact (List.prefix_append_right_inj _).2 (List.take_prefix _ _)

/-- The streaming loop is left with all bytes forwarded, or with `upload_ok`
false and some missing. -/
theorem conclude_inv {s : Handler} {chunk : Bytes} {sent : Nat} {upload_ok : Bool} (h : s.Streaming chunk sent)
    (hok : if upload_ok then chunk = [] ∧ s.received = s.size
      else s.received.toNat + min sent chunk.length < s.size.toNat) :
    (s.conclude upload_ok).Inv := by
  have hcount := h.forwarded_length
  unfold conclude
  cases upload_ok with
  | true =>
    obtain ⟨rfl, hall⟩ := hok
    have hfull : s.forwarded.length = s.size.toNat := by rw [hcount, hall]; simp
    rw [if_neg (by simp [hall])]
    exact .inr ⟨h.accepted, h.ordered, Nat.le_of_eq hfull, by simp [reply, verdict, hfull, h.acked], rfl, rfl⟩
  | false =>
    have hless : s.forwarded.length < s.size.toNat := hcount ▸ hok
    have hne := Nat.ne_of_lt hless
    rw [if_pos (by simp)]
    exact .inr ⟨h.accepted, h.ordered, Nat.le_of_lt hless, by simp [reply, verdict, hne, h.acked], rfl, rfl⟩

theorem loop_top_inv {s : Handler} (h : s.Streaming [] 0) : s.loop_top.Inv := by
  unfold loop_top
  split
  · rename_i hlt
    exact ⟨h.goto _, hlt⟩
  · rename_i hge
    refine conclude_inv h ⟨rfl, ?_⟩
    have hroom := h.room
    rw [UInt64.lt_iff_toNat_lt] at hge
    exact UInt64.toNat_inj.1 (by simp at hroom; omega)

/-! ## Counts of at most a buffer -/

theorem count_toNat {k : Nat} (hk : k ≤ 65536) : (Int64.ofNat k).toUInt64.toNat = k := by
  simp
  omega

theorem count_nonneg {k : Nat} (hk : k ≤ 65536) : ¬ Int64.ofNat k < 0 := by
  rw [Int64.lt_iff_toInt_lt, Int64.toInt_ofNat_of_lt (by omega)]
  simp

theorem count_pos {k : Nat} (h0 : k ≠ 0) (hk : k ≤ 65536) : ¬ Int64.ofNat k ≤ 0 := by
  rw [Int64.le_iff_toInt_le, Int64.toInt_ofNat_of_lt (by omega)]
  simp
  omega

theorem accepted_toNat {size : UInt64} (h : 0 < size ∧ size ≤ kMaxUpdateSize) :
    0 < size.toNat ∧ size.toNat ≤ 2147483648 := by
  rw [UInt64.lt_iff_toNat_lt, UInt64.le_iff_toNat_le] at h
  exact h

/-- Counting a chunk does not overflow. -/
theorem received_add {s : Handler} {chunk : Bytes} {sent : Nat} (h : s.Streaming chunk sent)
    (hle : chunk.length ≤ 65536) :
    (s.received + (Int64.ofNat chunk.length).toUInt64).toNat = s.received.toNat + chunk.length := by
  have hroom := h.room
  have hmax := accepted_toNat h.accepted
  rw [UInt64.toNat_add, count_toNat hle]
  exact Nat.mod_eq_of_lt (by omega)

/-- The size asked for fits into the buffer and into what is left of the upload. -/
theorem to_read_toNat {s : Handler} (h : s.received < s.size) :
    s.to_read.toNat = min 65536 (s.size.toNat - s.received.toNat) := by
  have hle : s.received ≤ s.size := UInt64.le_of_lt h
  have hsub := UInt64.toNat_sub_of_le _ _ hle
  rw [to_read, ← hsub]
  by_cases hab : (65536 : UInt64) ≤ s.size - s.received
  · have hnat := UInt64.le_iff_toNat_le.1 hab
    rw [show min 65536 (s.size - s.received) = 65536 from if_pos hab]
    exact (Nat.min_eq_left hnat).symm
  · have hnat := mt UInt64.le_iff_toNat_le.2 hab
    rw [show min 65536 (s.size - s.received) = s.size - s.received from if_neg hab]
    exact (Nat.min_eq_right (Nat.le_of_lt (Nat.lt_of_not_le hnat))).symm

/-! ## Each outcome keeps the invariant -/

/-- Once the last byte of the chunk is forwarded, the loop goes on with nothing in hand. -/
theorem write_top_inv {s : Handler} {chunk : Bytes} {sent : UInt64} (hle : chunk.length ≤ 65536)
    (hbuf : s.buf.bytes.take chunk.length = chunk) (hsent : sent.toNat ≤ chunk.length)
    (h : s.Streaming chunk sent.toNat) : (s.write_top (.ofNat chunk.length) sent).Inv := by
  have hn := count_toNat hle
  unfold write_top
  split
  · rename_i hlt
    rw [UInt64.lt_iff_toNat_lt, hn] at hlt
    exact ⟨chunk, rfl, hle, hbuf, hlt, h.goto _⟩
  · rename_i hge
    rw [UInt64.lt_iff_toNat_lt, hn] at hge
    obtain ⟨before, hlen, harr, hfwd⟩ := h.bytes
    have hadd := received_add h hle
    have hroom := h.room
    unfold wrote
    rw [Int64.toInt64_toUInt64, if_neg (count_nonneg hle)]
    refine loop_top_inv ⟨h.acked, h.accepted, ⟨before ++ chunk, ?_, ?_, ?_⟩, ?_⟩
    · rw [hadd, List.length_append, hlen]
    · simpa using harr
    · rw [List.take_of_length_le (by omega)] at hfwd
      simpa using hfwd
    · rw [hadd]
      simpa using hroom

theorem fill_take {b : Buffer} {data : Bytes} (h : data.length ≤ 65536) :
    (b.fill data).bytes.take data.length = data := by
  have ht : data.take 65536 = data := List.take_of_length_le h
  simp [Buffer.fill, ht]

theorem Streaming.take_in {s : Handler} {chunk : Bytes} (h : s.Streaming [] 0)
    (hroom : s.received.toNat + chunk.length ≤ s.size.toNat) : (s.take_in chunk).Streaming chunk 0 := by
  obtain ⟨before, hlen, harr, hfwd⟩ := h.bytes
  refine ⟨h.acked, h.accepted, ⟨before, hlen, ?_, ?_⟩, hroom⟩
  · rw [List.append_nil] at harr
    simp [Handler.take_in, harr]
  · simpa [Handler.take_in] using hfwd

theorem sent_add {chunk : Bytes} {sent k : UInt64} (hle : chunk.length ≤ 65536) (hsent : sent.toNat ≤ chunk.length)
    (hk : k.toNat ≤ chunk.length - sent.toNat) : (sent + k).toNat = sent.toNat + k.toNat := by
  rw [UInt64.toNat_add]
  exact Nat.mod_eq_of_lt (by omega)

/-- What `send` takes are bytes of the chunk, not of the rest of the buffer. -/
theorem Streaming.hand_on {s : Handler} {chunk : Bytes} {sent k : UInt64} (h : s.Streaming chunk sent.toNat)
    (hbuf : s.buf.bytes.take chunk.length = chunk) (hadd : (sent + k).toNat = sent.toNat + k.toNat)
    (hk : k.toNat ≤ chunk.length - sent.toNat) : (s.hand_on sent k).Streaming chunk (sent + k).toNat := by
  obtain ⟨before, hlen, harr, hfwd⟩ := h.bytes
  have htake : (s.buf.bytes.drop sent.toNat).take k.toNat = (chunk.drop sent.toNat).take k.toNat := by
    rw [← hbuf, List.drop_take, List.take_take, Nat.min_eq_left (by simpa [hbuf] using hk)]
  refine ⟨h.acked, h.accepted, ⟨before, hlen, harr, ?_⟩, h.room⟩
  rw [hadd, List.take_add, ← List.append_assoc, ← hfwd, ← htake]
  rfl

/-- In `g_input_stream_read`: what it may bring fits into the buffer and the upload. -/
theorem reading_room {s : Handler} {r : Read} (hlt : s.received < s.size) (hr : r.Fits s.to_read) :
    r.bytes.length ≤ 65536 ∧ s.received.toNat + r.bytes.length ≤ s.size.toNat := by
  have hroom := UInt64.lt_iff_toNat_lt.1 hlt
  have hfits := hr.1
  rw [to_read_toNat hlt] at hfits
  omega

/-- In `send`: what it may take is what is left of the chunk. -/
theorem sending_room {chunk : Bytes} {sent k : UInt64} (hle : chunk.length ≤ 65536) (hlt : sent.toNat < chunk.length)
    (hr : (Send.sent k).Fits ((Int64.ofNat chunk.length).toUInt64 - sent)) : k.toNat ≤ chunk.length - sent.toNat := by
  have hn := count_toNat hle
  have hsub := UInt64.toNat_sub_of_le (Int64.ofNat chunk.length).toUInt64 sent (UInt64.le_iff_toNat_le.2 (by omega))
  rw [hn] at hsub
  exact hsub ▸ UInt64.le_iff_toNat_le.1 hr

theorem on_read_inv {s : Handler} {r : Read} (h : s.Streaming [] 0) (hlt : s.received < s.size)
    (hr : r.Fits s.to_read) : (s.on_read r).Inv := by
  have hroom := reading_room hlt hr
  have hmissing : s.received.toNat < s.size.toNat := UInt64.lt_iff_toNat_lt.1 hlt
  unfold on_read
  cases r with
  | data chunk =>
    have hne : chunk.length ≠ 0 := fun hz => hr.2 chunk rfl (List.length_eq_zero_iff.1 hz)
    rw [Read.gssize, if_neg (count_pos hne hroom.1)]
    exact write_top_inv hroom.1 (fill_take hroom.1) (Nat.zero_le _) (h.take_in hroom.2)
  | end_of_stream =>
    rw [Read.gssize, if_pos (by decide)]
    exact conclude_inv h (by simpa using hmissing)
  | error =>
    rw [Read.gssize, if_pos (by decide)]
    exact conclude_inv h (by simpa using hmissing)

theorem on_send_inv {s : Handler} {n : Int64} {sent : UInt64} {r : Send} (hI : s.Inv) (hp : s.phase = .sending n sent)
    (hr : r.Fits (n.toUInt64 - sent)) : (s.on_send n sent r).Inv := by
  obtain ⟨chunk, rfl, hle, hbuf, hlt, hs⟩ := hI.at hp
  have hroom := hs.room
  unfold on_send
  cases r with
  | interrupted => exact hI
  | failed =>
    dsimp only [wrote]
    rw [if_pos (by decide)]
    refine conclude_inv hs ?_
    simp
    omega
  | sent k =>
    have hk := sending_room hle hlt hr
    have hadd := sent_add hle (Nat.le_of_lt hlt) hk
    exact write_top_inv hle hbuf (by omega) (hs.hand_on hbuf hadd hk)

theorem on_begin_inv {s : Handler} (ok : Bool) (h : s.Fits .connecting) : (s.on_begin ok).Inv := by
  obtain ⟨hf, hr, hsize⟩ := h
  unfold on_begin
  split
  · refine loop_top_inv ⟨by simp [hr], hsize, ⟨[], ?_, ?_, ?_⟩, ?_⟩
    · simp [hf.received]
    · exact hf.arrived
    · exact hf.forwarded
    · simp [hf.received]
  · exact .inl ⟨⟨hf.received, hf.arrived, hf.forwarded⟩, by simp [reply, hr]⟩

section

variable {size_member : Bytes → Option Int64}

theorem parse_size_accepted {header : Bytes} (h : (parse_size size_member header).2) :
    0 < (parse_size size_member header).1 ∧ (parse_size size_member header).1 ≤ kMaxUpdateSize := by
  unfold parse_size at h ⊢
  split at h
  · simpa using h
  · cases h

theorem got_header_inv {s : Handler} {header : Bytes} (hf : s.Fresh) (hr : s.replies = []) :
    (s.got_header size_member header).Inv := by
  have hfresh : ∀ t : Handler, t.received = s.received → t.arrived = s.arrived → t.forwarded = s.forwarded → t.Fresh :=
    fun t h1 h2 h3 => ⟨h1.trans hf.received, h2.trans hf.arrived, h3.trans hf.forwarded⟩
  unfold got_header
  split
  · exact .inl ⟨hfresh _ rfl rfl rfl, by simp [goto, hr]⟩
  dsimp only
  split
  · rename_i hok
    exact ⟨hfresh _ rfl rfl rfl, hr, parse_size_accepted hok⟩
  · exact .inl ⟨hfresh _ rfl rfl rfl, by simp [reply, hr]⟩

theorem on_header_inv {s : Handler} {line : Bytes} (r : Read) (h : s.Fits (.header line)) :
    (s.on_header size_member line r).Inv := by
  obtain ⟨hf, hr, hsize, -⟩ := h
  unfold on_header
  split
  · exact got_header_inv hf hr
  split
  · exact got_header_inv hf hr
  split
  · exact got_header_inv hf hr
  · rename_i hlen
    exact ⟨⟨hf.received, hf.arrived, hf.forwarded⟩, hr, hsize, Nat.le_of_not_lt hlen⟩

/-- What a step does, by the phase it is taken in. -/
theorem step_cases {s s' : Handler} {o : Outcome} (h : s.step size_member o = some s') :
    (∃ line r, s.phase = .header line ∧ o = .read r ∧ r.Fits 1 ∧ s' = s.on_header size_member line r) ∨
    (∃ ok, s.phase = .connecting ∧ o = .begin_stream_install ok ∧ s' = s.on_begin ok) ∨
    (∃ r, s.phase = .reading ∧ o = .read r ∧ r.Fits s.to_read ∧ s' = s.on_read r) ∨
    ∃ n sent r, s.phase = .sending n sent ∧ o = .send r ∧ r.Fits (n.toUInt64 - sent) ∧ s' = s.on_send n sent r := by
  unfold step at h
  split at h
  · rename_i line r hp
    obtain ⟨hr, he⟩ := Option.ite_none_right_eq_some.1 h
    exact .inl ⟨line, r, hp, rfl, hr, (Option.some.inj he).symm⟩
  · rename_i ok hp
    exact .inr (.inl ⟨ok, hp, rfl, (Option.some.inj h).symm⟩)
  · rename_i r hp
    obtain ⟨hr, he⟩ := Option.ite_none_right_eq_some.1 h
    exact .inr (.inr (.inl ⟨r, hp, rfl, hr, (Option.some.inj he).symm⟩))
  · rename_i n sent r hp
    obtain ⟨hr, he⟩ := Option.ite_none_right_eq_some.1 h
    exact .inr (.inr (.inr ⟨n, sent, r, hp, rfl, hr, (Option.some.inj he).symm⟩))
  · cases h

theorem step_inv {s s' : Handler} {o : Outcome} (hI : s.Inv) (h : s.step size_member o = some s') : s'.Inv := by
  obtain ⟨line, r, hp, -, -, rfl⟩ | ⟨ok, hp, -, rfl⟩ | ⟨r, hp, -, hr, rfl⟩ | ⟨n, sent, r, hp, -, hr, rfl⟩ :=
    step_cases h
  · exact on_header_inv r (hI.at hp)
  · exact on_begin_inv ok (hI.at hp)
  · exact on_read_inv (hI.at hp).1 (hI.at hp).2 hr
  · exact on_send_inv hI hp hr

theorem accepted_inv (buf : Buffer) : (accepted buf).Inv := ⟨⟨rfl, rfl, rfl⟩, rfl, rfl, Nat.zero_le _⟩

theorem run_inv {buf : Buffer} {os : List Outcome} {s : Handler} (h : Run (step size_member) (accepted buf) os s) :
    s.Inv := h.inv Inv (accepted_inv buf) fun _ _ _ => step_inv

end

/-! ## Every upload is answered

`rest` bounds the outcomes that are left until the thread returns, but for those
of `send` that take nothing.
-/

def idle : Outcome → Bool
  | .send .interrupted => true
  | .send (.sent k) => k == 0
  | _ => false

def left (s : Handler) : Nat := s.size.toNat - s.received.toNat

def rest (s : Handler) : Phase → Nat
  | .header line => 4098 - line.length
  | .connecting => 1 + 2 * s.size.toNat
  | .reading => 2 * s.left
  | .sending n sent => (n.toUInt64.toNat - sent.toNat) + 2 * (s.left - n.toUInt64.toNat)
  | .finished => 0

/-- What is left after `s`, at the phase it is in. -/
def remaining (s : Handler) : Nat := s.rest s.phase

@[simp] theorem conclude_size (s : Handler) (upload_ok : Bool) : (s.conclude upload_ok).size = s.size := by
  unfold conclude
  dsimp only
  split <;> rfl

@[simp] theorem loop_top_size (s : Handler) : s.loop_top.size = s.size := by
  unfold loop_top
  split
  · rfl
  · exact conclude_size s true

@[simp] theorem write_top_size (s : Handler) (n : Int64) (sent : UInt64) : (s.write_top n sent).size = s.size := by
  unfold write_top wrote
  split
  · rfl
  split
  · exact conclude_size s false
  · exact loop_top_size _

@[simp] theorem conclude_remaining (s : Handler) (upload_ok : Bool) : (s.conclude upload_ok).remaining = 0 := by
  unfold conclude
  dsimp only
  split <;> rfl

theorem loop_top_remaining (s : Handler) : s.loop_top.remaining ≤ 2 * s.left := by
  unfold loop_top
  split
  · exact Nat.le_refl _
  · rw [conclude_remaining]
    exact Nat.zero_le _

theorem write_top_remaining {s : Handler} {chunk : Bytes} {sent : UInt64} (hle : chunk.length ≤ 65536)
    (h : s.Streaming chunk sent.toNat) :
    (s.write_top (.ofNat chunk.length) sent).remaining ≤ (chunk.length - sent.toNat) + 2 * (s.left - chunk.length) := by
  have hn := count_toNat hle
  unfold write_top
  split
  · exact Nat.le_of_eq (by simp only [remaining, rest, goto, left, hn])
  · unfold wrote
    rw [Int64.toInt64_toUInt64, if_neg (count_nonneg hle)]
    refine Nat.le_trans (loop_top_remaining _) ?_
    have hadd := received_add h hle
    simp only [left, hadd]
    omega

/-- A read that brings bytes leaves their sends and the reads after them. -/
theorem on_read_remaining {s : Handler} {r : Read} (hI : s.Inv) (hp : s.phase = .reading) (hr : r.Fits s.to_read) :
    (s.on_read r).remaining < s.remaining ∧ (s.on_read r).size = s.size := by
  obtain ⟨h, hlt⟩ := hI.at hp
  have hroom := reading_room hlt hr
  have hmissing : s.received.toNat < s.size.toNat := UInt64.lt_iff_toNat_lt.1 hlt
  have hrem : s.remaining = 2 * s.left := by rw [remaining, hp, rest]
  have hleft : s.left = s.size.toNat - s.received.toNat := rfl
  unfold on_read
  cases r with
  | data chunk =>
    have hne : chunk.length ≠ 0 := fun hz => hr.2 chunk rfl (List.length_eq_zero_iff.1 hz)
    rw [Read.gssize, if_neg (count_pos hne hroom.1)]
    have hw : ((s.take_in chunk).write_top (.ofNat chunk.length) 0).remaining ≤
        (chunk.length - 0) + 2 * (s.left - chunk.length) := write_top_remaining hroom.1 (h.take_in hroom.2)
    have hlen : s.received.toNat + chunk.length ≤ s.size.toNat := hroom.2
    exact ⟨Nat.lt_of_le_of_lt hw (by omega), write_top_size _ _ _⟩
  | end_of_stream =>
    rw [Read.gssize, if_pos (by decide), conclude_remaining]
    exact ⟨by omega, conclude_size _ _⟩
  | error =>
    rw [Read.gssize, if_pos (by decide), conclude_remaining]
    exact ⟨by omega, conclude_size _ _⟩

theorem on_send_remaining {s : Handler} {n : Int64} {sent : UInt64} {r : Send} (hI : s.Inv)
    (hp : s.phase = .sending n sent) (hr : r.Fits (n.toUInt64 - sent)) :
    (s.on_send n sent r).remaining + (if idle (.send r) then 0 else 1) ≤ s.remaining ∧
      (s.on_send n sent r).size = s.size := by
  obtain ⟨chunk, rfl, hle, hbuf, hlt, hs⟩ := hI.at hp
  have hn := count_toNat hle
  have hrem : s.remaining = (chunk.length - sent.toNat) + 2 * (s.left - chunk.length) := by
    rw [remaining, hp, rest, hn]
  unfold on_send
  cases r with
  | interrupted => exact ⟨Nat.le_refl _, rfl⟩
  | failed =>
    dsimp only [wrote]
    rw [if_pos (by decide), conclude_remaining, hrem]
    exact ⟨by simp only [idle, Bool.false_eq_true, if_false]; omega, conclude_size _ _⟩
  | sent k =>
    have hk := sending_room hle hlt hr
    have hadd := sent_add hle (Nat.le_of_lt hlt) hk
    have hw : ((s.hand_on sent k).write_top (.ofNat chunk.length) (sent + k)).remaining ≤
        (chunk.length - (sent + k).toNat) + 2 * (s.left - chunk.length) :=
      write_top_remaining hle (hs.hand_on hbuf hadd hk)
    refine ⟨?_, write_top_size _ _ _⟩
    simp only [idle, beq_iff_eq, hrem]
    split
    · omega
    · rename_i hk0
      have hpos : k.toNat ≠ 0 := fun h => hk0 (UInt64.toNat_inj.1 h)
      omega

theorem on_begin_remaining {s : Handler} (ok : Bool) (hI : s.Inv) (hp : s.phase = .connecting) :
    (s.on_begin ok).remaining < s.remaining ∧ (s.on_begin ok).size = s.size := by
  obtain ⟨hf, hr, hsize⟩ := hI.at hp
  have hrem : s.remaining = 1 + 2 * s.size.toNat := by rw [remaining, hp, rest]
  unfold on_begin
  split
  · refine ⟨?_, loop_top_size _⟩
    refine Nat.lt_of_le_of_lt (loop_top_remaining _) ?_
    simp only [left, hrem]
    omega
  · exact ⟨by rw [hrem]; exact Nat.lt_of_lt_of_le Nat.zero_lt_one (Nat.le_add_right _ _), rfl⟩

section

variable {size_member : Bytes → Option Int64}

theorem got_header_remaining (size_member : Bytes → Option Int64) (s : Handler) (header : Bytes) :
    (s.got_header size_member header).remaining ≤ 1 + 2 * (s.got_header size_member header).size.toNat := by
  unfold got_header
  split
  · exact Nat.zero_le _
  dsimp only
  split
  · exact Nat.le_refl _
  · exact Nat.zero_le _

/-- The size that a header names pays for its upload. -/
theorem on_header_remaining (size_member : Bytes → Option Int64) {s : Handler} {line : Bytes} (r : Read) (hI : s.Inv)
    (hp : s.phase = .header line) :
    (s.on_header size_member line r).remaining < s.remaining + 2 * (s.on_header size_member line r).size.toNat := by
  obtain ⟨-, -, -, hlen⟩ := hI.at hp
  have hrem : s.remaining = 4098 - line.length := by rw [remaining, hp, rest]
  have hgot : ∀ header, (s.got_header size_member header).remaining <
      s.remaining + 2 * (s.got_header size_member header).size.toNat := fun header => by
    have := got_header_remaining size_member s header
    omega
  unfold on_header
  split
  · exact hgot _
  split
  · exact hgot _
  split
  · exact hgot _
  · rename_i ch _ _ _ _
    have hnext : (s.goto (.header (line ++ [ch]))).remaining = 4098 - (line.length + 1) := by
      simp [remaining, goto, rest]
    omega

theorem step_remaining {s s' : Handler} {o : Outcome} (hI : s.Inv) (h : s.step size_member o = some s') :
    s'.remaining + (if idle o then 0 else 1) + 2 * s.size.toNat ≤ s.remaining + 2 * s'.size.toNat := by
  obtain ⟨line, r, hp, rfl, -, rfl⟩ | ⟨ok, hp, rfl, rfl⟩ | ⟨r, hp, rfl, hr, rfl⟩ | ⟨n, sent, r, hp, rfl, hr, rfl⟩ :=
    step_cases h
  · have hrest := on_header_remaining size_member r hI hp
    have hzero : s.size = 0 := (hI.at hp).2.2.1
    simp only [idle, hzero, UInt64.toNat_zero]
    simp
    omega
  · have hrest := on_begin_remaining ok hI hp
    simp only [idle, hrest.2]
    simp
    omega
  · have hrest := on_read_remaining hI hp hr
    simp only [idle, hrest.2]
    simp
    omega
  · have hrest := on_send_remaining hI hp hr
    rw [hrest.2]
    omega

theorem run_remaining {buf : Buffer} {os : List Outcome} {s : Handler}
    (h : Run (step size_member) (accepted buf) os s) :
    os.length + s.remaining ≤ 4098 + 2 * s.size.toNat + os.countP idle := by
  refine h.inv_trace (fun os s => os.length + s.remaining ≤ 4098 + 2 * s.size.toNat + os.countP idle)
    (Nat.le_refl 4098) ?_
  intro as s o s' hr ih hs
  have hstep := step_remaining (run_inv hr) hs
  simp only [List.length_append, List.countP_append, List.length_singleton, List.countP_singleton]
  split at hstep <;> simp_all <;> omega

/-- Whatever the call the thread is in returns, it goes on. -/
theorem unfinished_next {s : Handler} (h : s.phase ≠ .finished) : ∃ o s', s.step size_member o = some s' := by
  have herror : ∀ count, Read.error.Fits count := fun _ => ⟨Nat.zero_le _, fun _ he => by cases he⟩
  unfold step
  cases hp : s.phase with
  | header line => exact ⟨.read .error, _, if_pos (herror _)⟩
  | connecting => exact ⟨.begin_stream_install false, _, rfl⟩
  | reading => exact ⟨.read .error, _, if_pos (herror _)⟩
  | sending n sent => exact ⟨.send .failed, _, if_pos trivial⟩
  | finished => exact absurd hp h

variable (size_member)

/-- What the upload protocol promises of a handler after the outcomes `os`. -/
structure Faithful (os : List Outcome) (s : Handler) : Prop where
  ordered : s.forwarded <+: s.arrived
  bounded : s.forwarded.length ≤ s.size.toNat
  refused : ack ∉ s.replies → s.forwarded = [] ∧ installing ∉ s.replies ∧ incomplete ∉ s.replies
  accepted : ack ∈ s.replies → 0 < s.size ∧ s.size ≤ kMaxUpdateSize
  uploading : ack ∈ s.replies → s.phase ≠ .finished → s.replies = [ack]
  answered : ack ∈ s.replies → s.phase = .finished →
    s.replies = [ack, if s.forwarded.length = s.size.toNat then installing else incomplete]
  /-- The thread never gets stuck, and it returns after boundedly many outcomes
  that are not idle. -/
  goes_on : s.phase ≠ .finished → ∃ o s', s.step size_member o = some s'
  ends : os.length ≤ 4098 + 2 * s.size.toNat + os.countP idle

variable {size_member} in
theorem Fresh.faithful {os : List Outcome} {s : Handler} (h : s.Fresh) (hr : s.replies ∈ [[], [invalid_size], [busy]])
    (hends : os.length ≤ 4098 + 2 * s.size.toNat + os.countP idle) : Faithful size_member os s := by
  have hno : ack ∉ s.replies ∧ installing ∉ s.replies ∧ incomplete ∉ s.replies := by
    simp only [List.mem_cons, List.not_mem_nil, or_false] at hr
    rcases hr with hr | hr | hr <;> rw [hr] <;> decide
  refine ⟨?_, ?_, fun _ => ⟨h.forwarded, hno.2⟩, ?_, ?_, ?_, unfinished_next, hends⟩
  · simp [h.forwarded]
  · simp [h.forwarded]
  · exact fun hack => absurd hack hno.1
  · exact fun hack => absurd hack hno.1
  · exact fun hack => absurd hack hno.1

variable {size_member} in
theorem Streaming.faithful {os : List Outcome} {s : Handler} {chunk : Bytes} {sent : Nat} (h : s.Streaming chunk sent)
    (hp : s.phase ≠ .finished) (hends : os.length ≤ 4098 + 2 * s.size.toNat + os.countP idle) :
    Faithful size_member os s := by
  have hroom := h.room
  refine ⟨h.ordered, ?_, ?_, fun _ => h.accepted, fun _ _ => h.acked, fun _ hf => absurd hf hp, unfinished_next, hends⟩
  · rw [h.forwarded_length]
    omega
  · rw [h.acked]
    simp

variable {size_member} in
theorem Concluded.faithful {os : List Outcome} {s : Handler} (h : s.Concluded) (hp : s.phase = .finished)
    (hends : os.length ≤ 4098 + 2 * s.size.toNat + os.countP idle) : Faithful size_member os s := by
  refine ⟨h.ordered, h.bounded, ?_, fun _ => h.accepted, fun _ hn => absurd hp hn, fun _ _ => h.replied,
    unfinished_next, hends⟩
  rw [h.replied]
  simp

/-- Whatever its reads and sends return, a handler forwards the bytes it receives
in order and no others, and says so truthfully at the end. -/
theorem upload_fidelity (buf : Buffer) (os : List Outcome) (s : Handler)
    (h : Run (step size_member) (accepted buf) os s) : Faithful size_member os s := by
  have hI := run_inv h
  have hends : os.length ≤ 4098 + 2 * s.size.toNat + os.countP idle :=
    Nat.le_trans (Nat.le_add_right _ _) (run_remaining h)
  cases hp : s.phase with
  | header line => exact (hI.at hp).1.faithful (by simp [(hI.at hp).2.1]) hends
  | connecting => exact (hI.at hp).1.faithful (by simp [(hI.at hp).2.1]) hends
  | reading => exact (hI.at hp).1.faithful (by simp [hp]) hends
  | sending n sent =>
    obtain ⟨chunk, -, -, -, -, hs⟩ := hI.at hp
    exact hs.faithful (by simp [hp]) hends
  | finished =>
    rcases hI.at hp with ⟨hf, hr⟩ | hc
    · exact hf.faithful hr hends
    · exact hc.faithful hp hends

/-- The text `{"size":3}`. -/
def three_bytes : Bytes := [123, 34, 115, 105, 122, 101, 34, 58, 51, 125]

/-- An upload of three bytes in two reads, the first sent in two parts. -/
def small_upload : List Outcome :=
  (three_bytes ++ [10]).map (fun ch => .read (.data [ch])) ++
    [.begin_stream_install true, .read (.data [7, 8]), .send (.sent 1), .send .interrupted, .send (.sent 1),
      .read (.data [9]), .send (.sent 1)]

theorem upload_fidelity_small :
    ∃ s, Run (step fun text => if text = three_bytes then some 3 else none)
        (accepted ⟨List.replicate 65536 0xAA, List.length_replicate⟩) small_upload s ∧
      s.replies = [ack, installing] ∧ s.forwarded = [7, 8, 9] ∧
      Faithful (fun text => if text = three_bytes then some 3 else none) small_upload s := by
  obtain ⟨s, hs, hr, hf⟩ : ∃ s, exec (step fun text => if text = three_bytes then some 3 else none)
      (accepted ⟨List.replicate 65536 0xAA, List.length_replicate⟩) small_upload = some s ∧
      s.replies = [ack, installing] ∧ s.forwarded = [7, 8, 9] := ⟨_, rfl, rfl, rfl⟩
  exact ⟨s, run_of_exec hs, hr, hf, upload_fidelity _ _ _ _ (run_of_exec hs)⟩

end

end Handler

end CameraStreamer.Update.UpdateServer
