import CameraStreamer.Lib.Runs
import CameraStreamer.Json
/-!
# The host's upload

`UpdateClient` sends a header, waits for an acknowledgement and then keeps the
socket's write buffer filled. What it reads from the file is counted by the file's
position, what has left the socket by `m_sent`. The slots of `uploadProgress` may
start and cancel uploads, and let socket events in, before the rest of
`onBytesWritten` runs.
-/

namespace CameraStreamer.UpdateClient
open Runs

/-- A line of the device, as parsed. -/
inductive Line where
  | blank
  | malformed
  | object (response : Json.Members Rat)

/-- `toBool(false)` of the member `ok`. -/
def is_ok (response : Json.Members Rat) : Bool :=
  match response.lookup "ok" with
  | some (.bool b) => b
  | _ => false

/-- `toString` of the member `error`. -/
def error_text (response : Json.Members Rat) (defaultValue : String) : String :=
  match response.lookup "error" with
  | some (.string s) => s
  | _ => defaultValue

inductive Socket where
  | unconnected
  | connecting
  | connected
  deriving DecidableEq

inductive Verdict where
  | uploadError (message : String)
  | uploadFinished (response : Json.Members Rat)

/-- `m_file` while it is open. -/
structure OpenFile where
  content : Bytes
  pos : Nat

structure Client where
  socket : Socket := .unconnected
  /-- `bytesToWrite` -/
  toWrite : Nat := 0
  /-- What was written to the socket since it was last connected. -/
  written : Bytes := []
  buffer : List Line := []
  m_filePath : String := ""
  /-- What the file at `m_filePath` holds. -/
  file : Bytes := []
  m_fileSize : Nat := 0
  m_sent : Nat := 0
  m_acked : Bool := false
  m_busy : Bool := false
  m_file : Option OpenFile := none
  /-- Slots of `uploadProgress` that have not returned. -/
  slots : Nat := 0
  /-- The uploads that set `m_busy`; they go by their number. -/
  begun : Nat := 0
  /-- What each of them ended with, and what was refused, under 0. -/
  verdicts : List (Nat × Verdict) := []
  /-- Whether this upload was acknowledged, and what the socket has drained since. -/
  positive : Bool := false
  drained : Nat := 0

inductive Act where
  /-- What opening the file gives. -/
  | uploadFile (filePath : String) (content : Except String Bytes)
  | cancel
  | connected
  | receive (line : Line)
  /-- Why the file cannot be opened again, if it cannot. -/
  | readyRead (fails : Option String)
  | bytesWritten (bytes : Nat)
  /-- A slot of `uploadProgress` returns. -/
  | return_slot
  | errorOccurred (message : String)
  | disconnected

def kTargetBuffer : Nat := 4 * 1024 * 1024

def kChunkSize : Nat := 65536

/-- The header's JSON text, `{"size":…}`. -/
def size_text (size : Nat) : Bytes := utf8 "\x7b\"size\":" ++ Json.int_text size ++ utf8 "\x7d"

def header (size : Nat) : Bytes := size_text size ++ [10]

namespace Client

def write (s : Client) (bytes : Bytes) : Client :=
  { s with written := s.written ++ bytes, toWrite := s.toWrite + bytes.length }

/-- `QAbstractSocket::abort` -/
def abort (s : Client) : Client := { s with socket := .unconnected, toWrite := 0, buffer := [] }

def finish (s : Client) (response : Json.Members Rat) (error : String) : Client :=
  let s := { s with m_busy := false, m_acked := false, m_file := none }.abort
  { s with verdicts :=
      s.verdicts ++ [(s.begun, if error ≠ "" then .uploadError error else .uploadFinished response)] }

/-- At most `turns` turns of the loop of `writeNextChunk`. -/
def fill : Nat → Client → Client
  | 0, s => s
  | turns + 1, s => match s.m_file with
    | none => s
    | some f =>
      if s.toWrite < kTargetBuffer ∧ s.m_sent < s.m_fileSize then
        let toRead := min kChunkSize (s.m_fileSize - s.m_sent)
        let chunk := (f.content.drop f.pos).take toRead
        if chunk.isEmpty then s
        else fill turns ({ s with m_file := some { f with pos := f.pos + chunk.length } }.write chunk)
      else s

/-- No turn reads nothing, so there are no more than the file has bytes. -/
def writeNextChunk (s : Client) : Client :=
  let s := s.fill s.file.length
  if s.m_fileSize ≤ s.m_sent then { s with m_file := none } else s

def startFileStreaming (s : Client) (fails : Option String) : Client :=
  match fails with
  | none => { s with m_file := some ⟨s.file, 0⟩ }.writeNextChunk
  | some errorString => s.finish [] ("Cannot re-open " ++ s.m_filePath ++ ": " ++ errorString)

def onReadyRead (fails : Option String) : List Line → Client → Client
  | [], s => { s with buffer := [] }
  | .blank :: lines, s => onReadyRead fails lines s
  | .malformed :: lines, s => { s with buffer := lines }.finish [] "malformed device response"
  | .object response :: lines, s =>
    let s := { s with buffer := lines }
    if !s.m_acked then
      if !is_ok response then s.finish response (error_text response "device rejected upload")
      else { s with m_acked := true, positive := true, drained := 0 }.startFileStreaming fails
    else if is_ok response then s.finish response ""
    else s.finish response (error_text response "unknown error")

/-- Up to `emit uploadProgress`. -/
def onBytesWritten (s : Client) (bytes : Nat) : Client :=
  if !s.m_busy || !s.m_acked then s
  else { s with m_sent := s.m_sent + bytes, drained := s.drained + bytes, slots := s.slots + 1 }

/-- After it. -/
def progressed (s : Client) : Client := if s.m_sent < s.m_fileSize then s.writeNextChunk else s

/-- `uploadError` for an upload that does not begin. -/
def refuse (s : Client) (message : String) : Client := { s with verdicts := s.verdicts ++ [(0, .uploadError message)] }

def uploadFile (s : Client) (filePath : String) (content : Except String Bytes) : Client :=
  if s.m_busy then s
  else match content with
    | .error errorString => s.refuse ("Cannot open " ++ filePath ++ ": " ++ errorString)
    | .ok content =>
      if content.length ≤ 0 then { s with m_fileSize := content.length }.refuse "File is empty or unreadable"
      else { s with
        m_fileSize := content.length
        m_filePath := filePath
        file := content
        m_sent := 0
        m_acked := false
        m_busy := true
        socket := .connecting
        toWrite := 0
        written := []
        buffer := []
        begun := s.begun + 1
        positive := false
        drained := 0 }

def step (s : Client) : Act → Option Client
  | .uploadFile filePath content => some (s.uploadFile filePath content)
  | .cancel => some (if s.m_busy then s.finish [] "cancelled" else s)
  | .connected =>
    if s.socket = .connecting then some ({ s with socket := .connected }.write (header s.m_fileSize)) else none
  | .receive line => if s.socket = .connected then some { s with buffer := s.buffer ++ [line] } else none
  | .readyRead fails => if s.socket = .connected then some (onReadyRead fails s.buffer s) else none
  | .bytesWritten bytes =>
    if s.socket = .connected ∧ 0 < bytes ∧ bytes ≤ s.toWrite then
      some ({ s with toWrite := s.toWrite - bytes }.onBytesWritten bytes)
    else none
  | .return_slot => match s.slots with
    | 0 => none
    | slots + 1 => some { s with slots := slots }.progressed
  | .errorOccurred message =>
    if s.socket = .unconnected then none else some (if s.m_busy then s.finish [] message else s)
  | .disconnected =>
    if s.socket = .unconnected then none
    else
      let s := { s with socket := .unconnected, toWrite := 0 }
      some (if s.m_busy then s.finish [] "connection closed by device" else s)

/-- The header is reported before the acknowledgement arrives. -/
def reported (s : Client) : Act → Bool
  | .receive (.object response) => !is_ok response || s.m_acked || s.toWrite == 0
  | _ => true

/-- The uploads sent and ended as they should. Between a report and the rest of
`onBytesWritten` the slots of `uploadProgress` run. -/
structure Sound (s : Client) : Prop where
  written : s.written = [] ∨ ∃ n, s.written = header s.file.length ++ s.file.take n ∧ (0 < n → s.positive = true)
  whole : s.m_acked = true → s.drained = s.m_fileSize → s.written = header s.file.length ++ s.file
  pending : s.m_acked = true → s.slots = 0 → ∃ f, s.m_file = some f ∧ f.content = s.file ∧
    s.written = header s.file.length ++ s.file.take f.pos ∧ (f.pos < s.file.length → 0 < s.toWrite)
  sent_le : s.m_busy = true → s.m_sent ≤ s.m_fileSize ∧ s.m_fileSize = s.file.length
  verdicts : ∀ u, 0 < u → u ≤ s.begun →
    s.verdicts.countP (·.1 == u) = if s.m_busy && u == s.begun then 0 else 1
  ended : s.socket = .unconnected → s.m_busy = false

/-! ## Reading the file -/

variable {s s' : Client}

/-- `k` more bytes of the file, read and written. -/
def reads (s : Client) (f : OpenFile) (k : Nat) : Client :=
  { s with
    m_file := some { f with pos := f.pos + k }
    written := s.written ++ (f.content.drop f.pos).take k
    toWrite := s.toWrite + k }

theorem reads_reads {f : OpenFile} {j k : Nat} :
    (s.reads f j).reads { f with pos := f.pos + j } k = s.reads f (j + k) := by
  unfold reads
  simp only [Client.mk.injEq, true_and, and_true, Nat.add_assoc]
  rw [List.append_assoc, List.take_add, List.drop_drop]

/-- The loop reads on from where the file stands, up to its end or until the buffer is full. -/
theorem fill_reads {n : Nat} {f : OpenFile} (hf : s.m_file = some f) (hpos : f.pos ≤ f.content.length) :
    ∃ k, fill n s = s.reads f k ∧ f.pos + k ≤ f.content.length ∧
      (f.content.length ≤ f.pos + n → s.m_sent < s.m_fileSize →
        f.pos + k = f.content.length ∨ kTargetBuffer ≤ s.toWrite + k) := by
  induction n generalizing s f with
  | zero =>
    refine ⟨0, ?_, hpos, fun hn _ => .inl (Nat.le_antisymm hpos hn)⟩
    unfold fill reads
    simp [← hf]
  | succ n ih =>
    have hstay : s = s.reads f 0 := by
      unfold reads
      simp [← hf]
    unfold fill
    rw [hf]
    dsimp only
    split
    · rename_i hroom
      have hread : 0 < min kChunkSize (s.m_fileSize - s.m_sent) := by
        unfold kChunkSize
        omega
      split
      · rename_i hempty
        refine ⟨0, hstay, hpos, fun _ _ => .inl ?_⟩
        have hzero := congrArg List.length (List.isEmpty_iff.1 hempty)
        simp only [List.length_take, List.length_drop, List.length_nil] at hzero
        omega
      · rename_i hchunk
        obtain ⟨j, hj⟩ : ∃ j, j = ((f.content.drop f.pos).take (min kChunkSize (s.m_fileSize - s.m_sent))).length :=
          ⟨_, rfl⟩
        rw [← hj]
        have hchunk_eq : ((f.content.drop f.pos).take (min kChunkSize (s.m_fileSize - s.m_sent))) =
            (f.content.drop f.pos).take j := by
          rw [hj, List.length_take, ← List.take_eq_take_min]
        have hjpos : 0 < j := by
          rw [hj]
          exact List.length_pos_iff.2 fun h0 => hchunk (by rw [h0]; rfl)
        have hjle : f.pos + j ≤ f.content.length := by
          rw [hj, List.length_take, List.length_drop]
          omega
        have hturn : ({ s with m_file := some { f with pos := f.pos + j } }.write ((f.content.drop f.pos).take j)) =
            s.reads f j := by
          unfold write reads
          rw [← hchunk_eq, ← hj]
        obtain ⟨k, hfill, hkle, hk⟩ := ih (s := s.reads f j) (f := { f with pos := f.pos + j }) rfl hjle
        refine ⟨j + k, ?_, (Nat.add_assoc _ _ _).symm.trans_le hkle, fun hn hsent => ?_⟩
        · rw [hchunk_eq, hturn, hfill, reads_reads]
        · rcases hk (show f.content.length ≤ f.pos + j + n by omega) hsent with hend | hroom'
          · exact .inl ((Nat.add_assoc _ _ _).symm.trans hend)
          · exact .inr (hroom'.trans_eq (Nat.add_assoc _ _ _))
    · rename_i hfull
      refine ⟨0, hstay, hpos, fun _ hsent => .inr ?_⟩
      omega

/-! ## The phases of an upload -/

/-- What was written: nothing, or the header and then, once acknowledged, the file's beginning. -/
def Written (s : Client) : Prop :=
  s.written = [] ∨ ∃ n, s.written = header s.file.length ++ s.file.take n ∧ (0 < n → s.positive = true)

/-- The file is read up to `f.pos`; what has not left the socket is in its buffer. -/
structure Streaming (s : Client) (f : OpenFile) : Prop where
  opened : s.m_file = some f
  content : f.content = s.file
  pos_le : f.pos ≤ s.file.length
  written : s.written = header s.file.length ++ s.file.take f.pos
  counts : s.m_sent + s.toWrite = f.pos
  drained : s.drained = s.m_sent

/-- The upload going on. -/
structure Uploading (s : Client) : Prop where
  busy : s.m_busy = true
  size : s.m_fileSize = s.file.length
  nonempty : 0 < s.file.length

inductive Phase (s : Client) : Prop
  | idle (socket : s.socket = .unconnected) (busy : s.m_busy = false) (acked : s.m_acked = false)
      (closed : s.m_file = none) (written : s.Written) (sent : s.m_sent ≤ s.file.length)
  | connecting (socket : s.socket = .connecting) (uploading : s.Uploading) (acked : s.m_acked = false)
      (closed : s.m_file = none) (written : s.written = []) (buffer : s.buffer = []) (sent : s.m_sent = 0)
  | waiting (socket : s.socket = .connected) (uploading : s.Uploading) (acked : s.m_acked = false)
      (closed : s.m_file = none) (written : s.written = header s.file.length) (sent : s.m_sent = 0)
      (reported : ∀ response, .object response ∈ s.buffer → is_ok response = true → s.toWrite = 0)
  | streaming (f : OpenFile) (socket : s.socket = .connected) (uploading : s.Uploading) (acked : s.m_acked = true)
      (positive : s.positive = true) (streaming : s.Streaming f)
      (pending : s.slots = 0 → f.pos < s.file.length → 0 < s.toWrite)

/-- One verdict for each upload but the one going on. -/
structure Counted (s : Client) : Prop where
  ended : ∀ u, 0 < u → u ≤ s.begun → s.verdicts.countP (·.1 == u) = if s.m_busy && u == s.begun then 0 else 1
  later : ∀ u, s.begun < u → s.verdicts.countP (·.1 == u) = 0

structure Inv (s : Client) : Prop where
  phase : s.Phase
  counted : s.Counted

theorem Streaming.sent_le {f : OpenFile} (h : s.Streaming f) : s.m_sent ≤ s.file.length := by
  have := h.counts
  have := h.pos_le
  omega

theorem Phase.written (h : s.Phase) : s.Written := by
  cases h with
  | idle _ _ _ _ written => exact written
  | connecting _ _ _ _ written => exact .inl written
  | waiting _ _ _ _ written =>
    exact .inr ⟨0, by rw [written, List.take_zero, List.append_nil], fun h => absurd h (Nat.lt_irrefl 0)⟩
  | streaming f _ _ _ positive streaming => exact .inr ⟨f.pos, streaming.written, fun _ => positive⟩

theorem Phase.sent_le (h : s.Phase) : s.m_sent ≤ s.file.length := by
  cases h with
  | idle _ _ _ _ _ sent => exact sent
  | connecting _ _ _ _ _ _ sent => exact sent.trans_le (Nat.zero_le _)
  | waiting _ _ _ _ _ sent => exact sent.trans_le (Nat.zero_le _)
  | streaming f _ _ _ _ streaming => exact streaming.sent_le

theorem Phase.busy (h : s.Phase) (hsocket : s.socket ≠ .unconnected) : s.m_busy = true := by
  cases h with
  | idle socket => exact absurd socket hsocket
  | connecting _ uploading => exact uploading.busy
  | waiting _ uploading => exact uploading.busy
  | streaming _ _ uploading => exact uploading.busy

theorem Counted.congr (h : s.Counted) (hverdicts : s'.verdicts = s.verdicts) (hbegun : s'.begun = s.begun)
    (hbusy : s'.m_busy = s.m_busy) : s'.Counted := by
  constructor
  · rw [hverdicts, hbegun, hbusy]
    exact h.ended
  · rw [hverdicts, hbegun]
    exact h.later

theorem finish_countP (response : Json.Members Rat) (error : String) (u : Nat) :
    (s.finish response error).verdicts.countP (·.1 == u) =
      s.verdicts.countP (·.1 == u) + if s.begun == u then 1 else 0 := by
  show (s.verdicts ++ [(s.begun, _)]).countP _ = _
  rw [List.countP_append, List.countP_singleton]

/-- An upload that ends leaves what it wrote, and its verdict. -/
theorem finish_inv (hwritten : s.Written) (hsent : s.m_sent ≤ s.file.length) (hcounted : s.Counted)
    (hbusy : s.m_busy = true) (response : Json.Members Rat) (error : String) : (s.finish response error).Inv := by
  refine ⟨.idle rfl rfl rfl rfl hwritten hsent, ⟨fun u hu hle => ?_, fun u hlt => ?_⟩⟩
  · rw [finish_countP, hcounted.ended u hu hle, hbusy]
    change _ = if false && _ then _ else _
    by_cases he : u = s.begun
    · subst he
      simp
    · have hne : s.begun ≠ u := fun h => he h.symm
      simp [he, hne]
  · rw [finish_countP, hcounted.later u hlt]
    have hne : s.begun ≠ u := Nat.ne_of_lt hlt
    simp [hne]

theorem Inv.finish (h : s.Inv) (hbusy : s.m_busy = true) (response : Json.Members Rat) (error : String) :
    (s.finish response error).Inv := finish_inv h.phase.written h.phase.sent_le h.counted hbusy response error

/-! ## Each event -/

theorem uploadFile_inv (h : s.Inv) (filePath : String) (content : Except String Bytes) :
    (s.uploadFile filePath content).Inv := by
  have hrefuse : ∀ {t : Client} (message : String), t.Counted → (t.refuse message).Counted := by
    intro t message ht
    constructor
    · intro u hu hle
      have hne : 0 ≠ u := hu.ne
      unfold refuse
      simpa [List.countP_append, hne] using ht.ended u hu hle
    · intro u hlt
      have hne : 0 ≠ u := (Nat.zero_le _).trans_lt hlt |>.ne
      unfold refuse
      simpa [List.countP_append, hne] using ht.later u hlt
  unfold uploadFile
  split
  · exact h
  · rename_i hbusy
    cases h.phase with
    | idle socket busy acked closed written sent =>
      split
      · exact ⟨.idle socket busy acked closed written sent, hrefuse _ h.counted⟩
      · split
        · exact ⟨.idle socket busy acked closed written sent, hrefuse _ (h.counted.congr rfl rfl rfl)⟩
        · rename_i content hempty
          refine ⟨.connecting rfl ⟨rfl, rfl, Nat.lt_of_not_le hempty⟩ rfl closed rfl rfl rfl, ?_, ?_⟩
          · intro u hu hle
            dsimp only at hle ⊢
            by_cases he : u = s.begun + 1
            · rw [he, h.counted.later _ (Nat.lt_succ_self _)]
              simp
            · have hbefore := h.counted.ended u hu (by omega)
              rw [busy] at hbefore
              simpa [he] using hbefore
          · exact fun u hlt => h.counted.later u (Nat.lt_of_succ_lt hlt)
    | connecting _ uploading => exact absurd uploading.busy hbusy
    | waiting _ uploading => exact absurd uploading.busy hbusy
    | streaming _ _ uploading => exact absurd uploading.busy hbusy

/-- Topping up the buffer leaves something in it unless the file is at its end. -/
theorem writeNextChunk_streaming {f : OpenFile} (h : s.Streaming f) (hsent : s.m_sent < s.m_fileSize) :
    ∃ k, s.writeNextChunk = s.reads f k ∧ (s.reads f k).Streaming { f with pos := f.pos + k } ∧
      (f.pos + k < s.file.length → 0 < s.toWrite + k) := by
  obtain ⟨k, hfill, hle, hfull⟩ := fill_reads (n := s.file.length) h.opened (by rw [h.content]; exact h.pos_le)
  rw [h.content] at hle hfull
  refine ⟨k, ?_, ⟨rfl, h.content, hle, ?_, ?_, h.drained⟩, fun hlt => ?_⟩
  · unfold writeNextChunk
    rw [hfill]
    exact if_neg (Nat.not_le_of_lt hsent)
  · unfold reads
    dsimp only
    rw [h.written, h.content, List.append_assoc, ← List.take_add]
  · unfold reads
    dsimp only
    have := h.counts
    omega
  · rcases hfull (Nat.le_add_left _ _) hsent with hend | hroom
    · omega
    · exact Nat.lt_of_lt_of_le (by decide) hroom

/-- Without a file there is nothing to read. -/
theorem writeNextChunk_closed (h : s.m_file = none) (hsent : s.m_sent < s.m_fileSize) : s.writeNextChunk = s := by
  have hfill : ∀ n, fill n s = s := by
    intro n
    cases n with
    | zero => rfl
    | succ n =>
      unfold fill
      rw [h]
  unfold writeNextChunk
  rw [hfill]
  exact if_neg (Nat.not_le_of_lt hsent)

/-- A connected upload, and lines of which an acknowledgement finds the header gone. -/
theorem onReadyRead_inv (fails : Option String) (lines : List Line) (h : s.Inv) (hsocket : s.socket = .connected)
    (hlines : s.m_acked = false → ∀ response, .object response ∈ lines → is_ok response = true → s.toWrite = 0) :
    (onReadyRead fails lines s).Inv := by
  have hbuffer : ∀ rest,
      (s.m_acked = false → ∀ response, .object response ∈ rest → is_ok response = true → s.toWrite = 0) →
      ({ s with buffer := rest } : Client).Inv := by
    intro rest hrest
    refine ⟨?_, h.counted.congr rfl rfl rfl⟩
    cases h.phase with
    | idle socket busy => exact absurd (socket.symm.trans hsocket) (by decide)
    | connecting socket => exact absurd (socket.symm.trans hsocket) (by decide)
    | waiting socket uploading acked closed written sent _ =>
      exact .waiting socket { uploading with } acked closed written sent (hrest acked)
    | streaming f socket uploading acked positive streaming pending =>
      exact .streaming f socket { uploading with } acked positive
        { streaming with } pending
  have hbusy : s.m_busy = true := h.phase.busy (by rw [hsocket]; decide)
  induction lines with
  | nil => exact hbuffer [] fun _ _ hmem => by cases hmem
  | cons line lines ih =>
    have hrest := fun hacked response hmem => hlines hacked response (List.mem_cons_of_mem _ hmem)
    cases line with
    | blank => exact ih hrest
    | malformed => exact (hbuffer lines hrest).finish hbusy _ _
    | object response =>
      unfold onReadyRead
      dsimp only
      split
      · rename_i hacked
        split
        · exact (hbuffer lines hrest).finish hbusy _ _
        · rename_i hok
          -- the acknowledgement: the header has left the socket
          rw [Bool.not_eq_true'] at hacked
          have hempty := hlines hacked response List.mem_cons_self (by simpa using hok)
          cases h.phase with
          | idle socket => exact absurd (socket.symm.trans hsocket) (by decide)
          | connecting socket => exact absurd (socket.symm.trans hsocket) (by decide)
          | streaming _ _ _ acked => exact absurd (acked.symm.trans hacked) (by decide)
          | waiting socket uploading acked closed written sent reported =>
            cases fails with
            | some errorString =>
              exact finish_inv (s := { s with buffer := lines, m_acked := true, positive := true, drained := 0 })
                (.inr ⟨0, by simpa using written, fun _ => rfl⟩) h.phase.sent_le (h.counted.congr rfl rfl rfl) hbusy _ _
            | none =>
              have hopen : Streaming { s with
                  buffer := lines
                  m_acked := true
                  positive := true
                  drained := 0
                  m_file := some ⟨s.file, 0⟩ } ⟨s.file, 0⟩ := by
                refine ⟨rfl, rfl, Nat.zero_le _, by simpa using written, ?_, sent.symm⟩
                show s.m_sent + s.toWrite = 0
                rw [sent, hempty]
              obtain ⟨k, hwrite, hstreaming, hpending⟩ := writeNextChunk_streaming hopen (by
                show s.m_sent < s.m_fileSize
                rw [sent, uploading.size]
                exact uploading.nonempty)
              unfold startFileStreaming
              dsimp only
              rw [hwrite]
              refine ⟨.streaming _ socket { uploading with } rfl rfl hstreaming fun _ hlt => ?_,
                h.counted.congr rfl rfl rfl⟩
              exact hpending hlt
      · split
        · exact (hbuffer lines hrest).finish hbusy _ _
        · exact (hbuffer lines hrest).finish hbusy _ _

theorem bytesWritten_inv (h : s.Inv) {bytes : Nat} (hsocket : s.socket = .connected) (hle : bytes ≤ s.toWrite) :
    ({ s with toWrite := s.toWrite - bytes }.onBytesWritten bytes).Inv := by
  unfold onBytesWritten
  cases h.phase with
  | idle socket => exact absurd (socket.symm.trans hsocket) (by decide)
  | connecting socket => exact absurd (socket.symm.trans hsocket) (by decide)
  | waiting socket uploading acked closed written sent reported =>
    rw [if_pos (by simp [acked])]
    refine ⟨.waiting socket { uploading with } acked closed written sent fun response hmem hok => ?_,
      h.counted.congr rfl rfl rfl⟩
    show s.toWrite - bytes = 0
    rw [reported response hmem hok, Nat.zero_sub]
  | streaming f socket uploading acked positive streaming pending =>
    rw [if_neg (by simp [acked, uploading.busy])]
    refine ⟨.streaming f socket { uploading with } acked positive
      { streaming with counts := ?_, drained := ?_ } fun h0 => absurd h0 (Nat.succ_ne_zero _),
      h.counted.congr rfl rfl rfl⟩
    · show s.m_sent + bytes + (s.toWrite - bytes) = f.pos
      have := streaming.counts
      omega
    · exact congrArg (· + bytes) streaming.drained

theorem progressed_closed (h : s.m_file = none) : s.progressed = s := by
  unfold progressed
  split
  · rename_i hlt
    exact writeNextChunk_closed h hlt
  · rfl

theorem progressed_inv (h : s.Inv) {slots : Nat} : ({ s with slots := slots } : Client).progressed.Inv := by
  cases h.phase with
  | idle socket busy acked closed written sent =>
    rw [progressed_closed (s := { s with slots := slots }) closed]
    exact ⟨.idle socket busy acked closed written sent, h.counted.congr rfl rfl rfl⟩
  | connecting socket uploading acked closed written buffer sent =>
    rw [progressed_closed (s := { s with slots := slots }) closed]
    exact ⟨.connecting socket { uploading with } acked closed written buffer sent,
      h.counted.congr rfl rfl rfl⟩
  | waiting socket uploading acked closed written sent reported =>
    rw [progressed_closed (s := { s with slots := slots }) closed]
    exact ⟨.waiting socket { uploading with } acked closed written sent reported,
      h.counted.congr rfl rfl rfl⟩
  | streaming f socket uploading acked positive streaming pending =>
    have hsame : ({ s with slots := slots } : Client).Streaming f :=
      { streaming with }
    unfold progressed
    split
    · rename_i hlt
      obtain ⟨k, hwrite, hstreaming, hpending⟩ := writeNextChunk_streaming hsame hlt
      rw [hwrite]
      exact ⟨.streaming _ socket { uploading with } acked positive hstreaming fun _ => hpending,
        h.counted.congr rfl rfl rfl⟩
    · rename_i hend
      refine ⟨.streaming f socket { uploading with } acked positive hsame fun _ hlt => ?_,
        h.counted.congr rfl rfl rfl⟩
      have hcounts := streaming.counts
      have hsize := uploading.size
      change ¬ s.m_sent < s.m_fileSize at hend
      change f.pos < s.file.length at hlt
      omega

theorem connected_inv (h : s.Inv) (hsocket : s.socket = .connecting) :
    ({ s with socket := .connected }.write (header s.m_fileSize)).Inv := by
  cases h.phase with
  | idle socket => exact absurd (socket.symm.trans hsocket) (by decide)
  | waiting socket => exact absurd (socket.symm.trans hsocket) (by decide)
  | streaming _ socket => exact absurd (socket.symm.trans hsocket) (by decide)
  | connecting socket uploading acked closed written buffer sent =>
    refine ⟨.waiting rfl { uploading with } acked closed ?_ sent fun response hmem => ?_, h.counted.congr rfl rfl rfl⟩
    · show s.written ++ header s.m_fileSize = header s.file.length
      rw [written, uploading.size, List.nil_append]
    · change _ ∈ s.buffer at hmem
      rw [buffer] at hmem
      cases hmem

/-- An acknowledgement that arrives finds the header gone. -/
theorem receive_inv (h : s.Inv) (hsocket : s.socket = .connected) (line : Line)
    (hreported : s.reported (.receive line) = true) : ({ s with buffer := s.buffer ++ [line] } : Client).Inv := by
  refine ⟨?_, h.counted.congr rfl rfl rfl⟩
  cases h.phase with
  | idle socket => exact absurd (socket.symm.trans hsocket) (by decide)
  | connecting socket => exact absurd (socket.symm.trans hsocket) (by decide)
  | waiting socket uploading acked closed written sent reported =>
    refine .waiting socket { uploading with } acked closed written sent fun response hmem hok => ?_
    rcases List.mem_append.1 hmem with hmem | hmem
    · exact reported response hmem hok
    · obtain rfl := List.mem_singleton.1 hmem
      simpa [Client.reported, hok, acked] using hreported
  | streaming f socket uploading acked positive streaming pending =>
    exact .streaming f socket { uploading with } acked positive { streaming with } pending

theorem disconnected_inv (h : s.Inv) (hsocket : s.socket ≠ .unconnected) :
    (if s.m_busy then ({ s with socket := .unconnected, toWrite := 0 } : Client).finish [] "connection closed by device"
      else { s with socket := .unconnected, toWrite := 0 }).Inv := by
  have hbusy : s.m_busy = true := h.phase.busy hsocket
  rw [if_pos hbusy]
  exact finish_inv (s := { s with socket := .unconnected, toWrite := 0 }) h.phase.written h.phase.sent_le
    (h.counted.congr rfl rfl rfl) hbusy _ _

theorem step_inv {a : Act} (h : s.Inv) (hreported : s.reported a = true) (hs : s.step a = some s') : s'.Inv := by
  cases a with
  | uploadFile filePath content =>
    cases hs
    exact uploadFile_inv h filePath content
  | cancel =>
    cases hs
    split
    · rename_i hbusy
      exact h.finish hbusy _ _
    · exact h
  | connected =>
    obtain ⟨hsocket, hs⟩ := Option.ite_none_right_eq_some.1 hs
    cases hs
    exact connected_inv h hsocket
  | receive line =>
    obtain ⟨hsocket, hs⟩ := Option.ite_none_right_eq_some.1 hs
    cases hs
    exact receive_inv h hsocket line hreported
  | readyRead fails =>
    simp only [step] at hs
    split at hs
    · rename_i hsocket
      cases hs
      refine onReadyRead_inv fails s.buffer h hsocket fun hacked response hmem hok => ?_
      cases h.phase with
      | idle socket => exact absurd (socket.symm.trans hsocket) (by decide)
      | connecting socket => exact absurd (socket.symm.trans hsocket) (by decide)
      | waiting _ _ _ _ _ _ reported => exact reported response hmem hok
      | streaming _ _ _ acked => exact absurd (acked.symm.trans hacked) (by decide)
    · cases hs
  | bytesWritten bytes =>
    simp only [step] at hs
    split at hs
    · rename_i hguard
      cases hs
      exact bytesWritten_inv h hguard.1 hguard.2.2
    · cases hs
  | return_slot =>
    simp only [step] at hs
    split at hs
    · cases hs
    · cases hs
      exact progressed_inv h
  | errorOccurred message =>
    simp only [step] at hs
    split at hs
    · cases hs
    · cases hs
      split
      · rename_i hbusy
        exact h.finish hbusy _ _
      · exact h
  | disconnected =>
    obtain ⟨hsocket, hs⟩ := Option.ite_none_left_eq_some.1 hs
    cases hs
    exact disconnected_inv (s := s) h hsocket

theorem new_inv : ({} : Client).Inv :=
  ⟨.idle rfl rfl rfl rfl (.inl rfl) (Nat.le_refl 0),
    ⟨fun _ hu hle => absurd (Nat.lt_of_lt_of_le hu hle) (Nat.lt_irrefl 0), fun _ _ => rfl⟩⟩

theorem Inv.sound (h : s.Inv) : s.Sound := by
  refine ⟨h.phase.written, ?_, ?_, ?_, h.counted.ended, ?_⟩
  · intro hacked hdrained
    cases h.phase with
    | idle _ _ acked => exact absurd (acked.symm.trans hacked) (by decide)
    | connecting _ _ acked => exact absurd (acked.symm.trans hacked) (by decide)
    | waiting _ _ acked => exact absurd (acked.symm.trans hacked) (by decide)
    | streaming f _ uploading _ _ streaming =>
      have hpos : s.file.length ≤ f.pos := by
        have := streaming.counts
        have := streaming.drained
        have := uploading.size
        omega
      rw [streaming.written, List.take_of_length_le hpos]
  · intro hacked hslots
    cases h.phase with
    | idle _ _ acked => exact absurd (acked.symm.trans hacked) (by decide)
    | connecting _ _ acked => exact absurd (acked.symm.trans hacked) (by decide)
    | waiting _ _ acked => exact absurd (acked.symm.trans hacked) (by decide)
    | streaming f _ _ _ _ streaming pending =>
      exact ⟨f, streaming.opened, streaming.content, streaming.written, pending hslots⟩
  · intro hbusy
    have hsize : s.m_fileSize = s.file.length := by
      cases h.phase with
      | idle _ busy => exact absurd (busy.symm.trans hbusy) (by decide)
      | connecting _ uploading => exact uploading.size
      | waiting _ uploading => exact uploading.size
      | streaming _ _ uploading => exact uploading.size
    exact ⟨hsize ▸ h.phase.sent_le, hsize⟩
  · intro hsocket
    cases h.phase with
    | idle _ busy => exact busy
    | connecting socket => exact absurd (socket.symm.trans hsocket) (by decide)
    | waiting socket => exact absurd (socket.symm.trans hsocket) (by decide)
    | streaming _ socket => exact absurd (socket.symm.trans hsocket) (by decide)

/-! ## The size -/

/-- The file and its size are those that `uploadFile` has set. -/
def SameFile (s s' : Client) : Prop := s'.m_fileSize = s.m_fileSize ∧ s'.file = s.file

theorem fill_same (n : Nat) : s.SameFile (fill n s) := by
  induction n generalizing s with
  | zero => exact ⟨rfl, rfl⟩
  | succ n ih =>
    unfold fill
    split
    · exact ⟨rfl, rfl⟩
    · split
      · dsimp only
        split
        · exact ⟨rfl, rfl⟩
        · exact ih
      · exact ⟨rfl, rfl⟩

theorem writeNextChunk_same : s.SameFile s.writeNextChunk := by
  unfold writeNextChunk
  dsimp only
  split
  · exact fill_same _
  · exact fill_same _

theorem onReadyRead_same (fails : Option String) (lines : List Line) : s.SameFile (onReadyRead fails lines s) := by
  induction lines with
  | nil => exact ⟨rfl, rfl⟩
  | cons line lines ih =>
    cases line with
    | blank => exact ih
    | malformed => exact ⟨rfl, rfl⟩
    | object response =>
      unfold onReadyRead
      dsimp only
      split
      · split
        · exact ⟨rfl, rfl⟩
        · unfold startFileStreaming
          split
          · exact writeNextChunk_same
          · exact ⟨rfl, rfl⟩
      · split
        · exact ⟨rfl, rfl⟩
        · exact ⟨rfl, rfl⟩

/-- No file that is chosen is empty. -/
def Nonempty : Act → Prop
  | .uploadFile _ (.ok content) => content ≠ []
  | _ => True

theorem step_size {a : Act} (ha : Nonempty a) (h : s.m_fileSize = s.file.length) (hs : s.step a = some s') :
    s'.m_fileSize = s'.file.length := by
  have hsame : s.SameFile s' → s'.m_fileSize = s'.file.length := fun hsame => by rw [hsame.1, hsame.2, h]
  cases a with
  | uploadFile filePath content =>
    cases hs
    unfold uploadFile
    split
    · exact h
    · split
      · exact h
      · split
        · rename_i hempty
          exact absurd (List.length_eq_zero_iff.1 (Nat.le_zero.1 hempty)) ha
        · rfl
  | cancel =>
    cases hs
    apply hsame
    split
    · exact ⟨rfl, rfl⟩
    · exact ⟨rfl, rfl⟩
  | connected =>
    simp only [step] at hs
    split at hs <;> cases hs
    exact h
  | receive line =>
    simp only [step] at hs
    split at hs <;> cases hs
    exact h
  | readyRead fails =>
    simp only [step] at hs
    split at hs <;> cases hs
    exact hsame (onReadyRead_same fails s.buffer)
  | bytesWritten bytes =>
    simp only [step] at hs
    split at hs <;> cases hs
    apply hsame
    unfold onBytesWritten
    split
    · exact ⟨rfl, rfl⟩
    · exact ⟨rfl, rfl⟩
  | return_slot =>
    simp only [step] at hs
    split at hs <;> cases hs
    apply hsame
    unfold progressed
    split
    · exact writeNextChunk_same
    · exact ⟨rfl, rfl⟩
  | errorOccurred message =>
    simp only [step] at hs
    split at hs <;> cases hs
    apply hsame
    split
    · exact ⟨rfl, rfl⟩
    · exact ⟨rfl, rfl⟩
  | disconnected =>
    simp only [step] at hs
    split at hs <;> cases hs
    apply hsame
    split
    · exact ⟨rfl, rfl⟩
    · exact ⟨rfl, rfl⟩

/-- In every run, where headers are reported before they are acknowledged, each upload
sends its file once and in order, does not stall, and ends with one verdict. -/
theorem upload_once (as : List Act) (s : Client) (h : Run step {} as s)
    (hreported : Meets step (fun s a => s.reported a = true) {} as) :
    s.Sound ∧ ((∀ a ∈ as, Nonempty a) → s.m_sent ≤ s.m_fileSize) := by
  have hinv : s.Inv := h.inv_meets Inv new_inv (fun _ _ _ hI hg hs => step_inv hI hg hs) hreported
  refine ⟨hinv.sound, fun hnonempty => ?_⟩
  have hsize : s.m_fileSize = s.file.length :=
    h.inv_trace_of (fun _ s => s.m_fileSize = s.file.length) rfl (fun _ _ _ _ _ _ hI ha hs => step_size ha hI hs)
      hnonempty
  exact hsize ▸ hinv.phase.sent_le

/-- Three bytes, acknowledged, sent in two pieces and confirmed. -/
def three_bytes : List Act :=
  [.uploadFile "a.swu" (.ok [1, 2, 3]), .connected, .bytesWritten (header 3).length,
    .receive (.object [("ok", .bool true)]), .readyRead none, .bytesWritten 2, .return_slot, .bytesWritten 1,
    .return_slot, .receive (.object [("ok", .bool true)]), .readyRead none]

theorem upload_once_three : ∃ s, Run step {} three_bytes s ∧ s.written = header 3 ++ [1, 2, 3] ∧ s.m_busy = false ∧
    s.Sound := by
  have hrun : ((exec step {} three_bytes).map fun s => (s.written, s.m_busy)) =
      some (header 3 ++ [1, 2, 3], false) := by decide +kernel
  obtain ⟨s, hs, hfields⟩ := Option.map_eq_some_iff.1 hrun
  obtain ⟨hwritten, hbusy⟩ := Prod.mk.inj hfields
  have hreported : Meets step (fun s a => s.reported a = true) {} three_bytes := meets_of_checks (by decide +kernel)
  exact ⟨s, run_of_exec hs, hwritten, hbusy, (upload_once three_bytes s (run_of_exec hs) hreported).1⟩

end Client

end CameraStreamer.UpdateClient
