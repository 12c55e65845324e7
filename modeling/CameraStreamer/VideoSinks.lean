import CameraStreamer.SessionSecurity
import CameraStreamer.SessionThreads
/-!
# The video sinks of a session

`VideoSink::on_frame` of both cameras over one `RecordWriter`: each frame goes
out in pieces of a record's size, one call of `enqueue` a piece, while the other
camera, the metadata and the local tunnel use the same queue and the writer
drains it. The writer's machine is stepped inside this one.
-/

namespace CameraStreamer.Secure.VideoSinks

open Incremental Runs SessionThreads

/-- Room for channel and stream bytes is left in a record. -/
def kChunk : Nat := kMaxPayload - 2

/-- A call of `on_frame`. -/
structure OnFrame where
  frame : Bytes
  offset : Nat
  /-- The first piece was dropped. -/
  dropping : Bool
  deriving DecidableEq, Repr

namespace OnFrame

def piece (call : OnFrame) : Bytes := (call.frame.drop call.offset).take kChunk

def message (camera : Nat) (call : OnFrame) : WireMessage := ⟨.Video, UInt8.ofNat camera, call.piece⟩

def next (call : OnFrame) : OnFrame := { call with offset := call.offset + kChunk }

/-- What of the first `n` bytes is in the record stream, where all pieces fare as the first. -/
def upto (call : OnFrame) (n : Nat) : Bytes := if call.dropping then [] else call.frame.take n

end OnFrame

/-- Where a camera's thread is in `on_frame`. -/
inductive Place where
  | outside
  /-- At the head of the loop. -/
  | looping (call : OnFrame)
  /-- In `session_.enqueue`. -/
  | enqueuing (call : OnFrame)
  /-- `enqueue` has returned false. -/
  | failed (call : OnFrame)
  deriving DecidableEq, Repr

def Place.call? : Place → Option OnFrame
  | .outside => none
  | .looping call => some call
  | .enqueuing call => some call
  | .failed call => some call

structure VideoSink where
  place : Place
  returned : List OnFrame

/-- The session, as far as outbound records are concerned. Camera `c` is producer `c` of the writer. -/
structure Outbound where
  writer : RecordWriter
  sinks : Nat → VideoSink

def Outbound.new (key : Key) (iv : Iv) : Outbound := ⟨.new key iv, fun _ => ⟨.outside, []⟩⟩

inductive Action where
  /-- The pipeline of a camera hands a frame over. -/
  | on_frame (camera : Nat) (frame : Bytes)
  /-- The head of the loop in `on_frame`, or what follows it. -/
  | loop (camera : Nat)
  /-- `enqueue` from a `SessionMetaSink` or the `LocalTunnel`. -/
  | other (p : Nat) (message : WireMessage) (droppable : Bool)
  | writer (a : WriterAction)

section Machine

/-- The producer `p` moves on within `enqueue`, if it is a camera. -/
def within (sinks : Nat → VideoSink) (p : Nat) (f : OnFrame → Place) : Nat → VideoSink :=
  match (sinks p).place with
  | .enqueuing call => Function.update sinks p { sinks p with place := f call }
  | _ => sinks

/-- `p` is not in `enqueue` any more. -/
def back (writer : RecordWriter) (p : Nat) : Bool := (writer.callers p).call?.isNone

/-- The sinks after a step that led to `writer`. -/
def after (sinks : Nat → VideoSink) (writer : RecordWriter) : WriterAction → Nat → VideoSink
  | .test p => within sinks p fun call =>
      let call := if call.offset = 0 then { call with dropping := back writer p } else call
      if back writer p then .looping call.next else .enqueuing call
  | .make_record p _ => within sinks p fun call => if back writer p then .failed call else .enqueuing call
  | .push p => within sinks p fun call => .looping call.next
  | _ => sinks

def VideoSink.enter (sink : VideoSink) (place : Place) : VideoSink := { sink with place }

def VideoSink.return (sink : VideoSink) (call : OnFrame) : VideoSink := ⟨.outside, sink.returned ++ [call]⟩

def step (A : Aead) (s : Outbound) : Action → Option Outbound
  | .on_frame camera frame =>
    match (s.sinks camera).place with
    | .outside =>
      if camera < kCameras then
        some { s with sinks := Function.update s.sinks camera ((s.sinks camera).enter (.looping ⟨frame, 0, false⟩)) }
      else none
    | _ => none
  | .loop camera =>
    match (s.sinks camera).place with
    | .looping call =>
      if call.offset < call.frame.length then
        (s.writer.step A (.call camera (call.message camera) true)).map fun writer =>
          ⟨writer, Function.update s.sinks camera ((s.sinks camera).enter (.enqueuing call))⟩
      else some { s with sinks := Function.update s.sinks camera ((s.sinks camera).return call) }
    | .failed call =>
      some ⟨{ s.writer with dead_ := true }, Function.update s.sinks camera ((s.sinks camera).return call)⟩
    | _ => none
  | .other p message droppable =>
    if kCameras ≤ p ∧ message.channel ≠ .Video then
      (s.writer.step A (.call p message droppable)).map fun writer => { s with writer }
    else none
  | .writer (.call _ _ _) => none
  | .writer a => (s.writer.step A a).map fun writer => ⟨writer, after s.sinks writer a⟩

/-- What a step can be. -/
inductive Step (A : Aead) (s : Outbound) : Action → Outbound → Prop where
  | begins (camera : Nat) (frame : Bytes) (hc : camera < kCameras) (hp : (s.sinks camera).place = .outside) :
    Step A s (.on_frame camera frame) { s with
      sinks := Function.update s.sinks camera ((s.sinks camera).enter (.looping ⟨frame, 0, false⟩)) }
  | asks (camera : Nat) (call : OnFrame) (writer : RecordWriter) (hp : (s.sinks camera).place = .looping call)
      (hm : call.offset < call.frame.length)
      (hw : RecordWriter.step A s.writer (.call camera (call.message camera) true) = some writer) :
    Step A s (.loop camera)
      ⟨writer, Function.update s.sinks camera ((s.sinks camera).enter (.enqueuing call))⟩
  | returns (camera : Nat) (call : OnFrame) (hp : (s.sinks camera).place = .looping call)
      (hm : call.frame.length ≤ call.offset) :
    Step A s (.loop camera) { s with sinks := Function.update s.sinks camera ((s.sinks camera).return call) }
  | ends_session (camera : Nat) (call : OnFrame) (hp : (s.sinks camera).place = .failed call) :
    Step A s (.loop camera)
      ⟨{ s.writer with dead_ := true }, Function.update s.sinks camera ((s.sinks camera).return call)⟩
  | other (p : Nat) (message : WireMessage) (droppable : Bool) (writer : RecordWriter) (hp : kCameras ≤ p)
      (hm : message.channel ≠ .Video) (hw : RecordWriter.step A s.writer (.call p message droppable) = some writer) :
    Step A s (.other p message droppable) { s with writer }
  | writer (a : WriterAction) (writer : RecordWriter) (hc : ∀ p m d, a ≠ .call p m d)
      (hw : RecordWriter.step A s.writer a = some writer) :
    Step A s (.writer a) ⟨writer, after s.sinks writer a⟩

theorem step_cases {A : Aead} {s s' : Outbound} {a : Action} (h : step A s a = some s') : Step A s a s' := by
  cases a with
  | on_frame camera frame =>
    simp only [step] at h
    split at h
    · rename_i hp
      split at h
      · rename_i hc
        cases h
        exact .begins camera frame hc hp
      · cases h
    · cases h
  | loop camera =>
    simp only [step] at h
    split at h
    · rename_i call hp
      split at h
      · rename_i hm
        obtain ⟨writer, hw, rfl⟩ := Option.map_eq_some_iff.1 h
        exact .asks camera call writer hp hm hw
      · rename_i hm
        cases h
        exact .returns camera call hp (Nat.le_of_not_lt hm)
    · rename_i call hp
      cases h
      exact .ends_session camera call hp
    · cases h
  | other p message droppable =>
    simp only [step] at h
    split at h
    · rename_i hp
      obtain ⟨writer, hw, rfl⟩ := Option.map_eq_some_iff.1 h
      exact .other p message droppable writer hp.1 hp.2 hw
    · cases h
  | writer a =>
    cases a with
    | call p m d => cases h
    | _ =>
      simp only [step] at h
      obtain ⟨writer, hw, rfl⟩ := Option.map_eq_some_iff.1 h
      exact .writer _ writer (by rintro _ _ _ ⟨⟩) hw

end Machine

/-! ## What is asked of the session -/

/-- The payloads of a camera's Video messages, one after the other. -/
def video (camera : Nat) (ms : List WireMessage) : Bytes :=
  ((ms.filter fun m => m.channel = .Video ∧ m.stream.toNat = camera).map (·.payload)).flatten

/-- The messages of the record stream. -/
def sealed_messages (writer : RecordWriter) : List WireMessage := writer.sealed.map (·.call.message)

/-- The frames passed to a camera's `on_frame`. -/
def passed (camera : Nat) (as : List Action) : List Bytes :=
  as.filterMap fun
    | .on_frame c frame => if c = camera then some frame else none
    | _ => none

/-- The frame in progress. -/
def Place.frame? (place : Place) : Option Bytes := place.call?.map (·.frame)

/-- Camera `c`'s part of the record stream is frames passed to it, whole and in
their order, and a part of the frame in progress. -/
def Whole (c : Nat) (as : List Action) (s : Outbound) : Prop :=
  ∃ (kept : List Bytes) (part : Bytes), (kept ++ (s.sinks c).place.frame?.toList).Sublist (passed c as) ∧
    part <+: (s.sinks c).place.frame?.getD [] ∧ video c (sealed_messages s.writer) = kept.flatten ++ part

/-- No OpenSSL call fails. -/
def Works : Action → Prop
  | .writer (.make_record _ evp) => evp = .ok
  | _ => True

/-- The queue is at its limit for a later piece of a frame just where it was for the first. -/
def Steady (s : Outbound) : Action → Prop
  | .writer (.test p) => ∀ call, (s.sinks p).place = .enqueuing call → call.offset ≠ 0 →
      (kQueueLimit ≤ s.writer.queued_bytes_ ↔ call.dropping = true)
  | _ => True

/-- The queue is not at its limit where that is tested. -/
def BelowLimit (s : Outbound) : Action → Prop
  | .writer (.test _) => s.writer.queued_bytes_ < kQueueLimit
  | _ => True

/-! ## One camera -/

/-- The frames whose pieces were not dropped. -/
def VideoSink.kept (sink : VideoSink) : List Bytes := (sink.returned.filter (!·.dropping)).map (·.frame)

/-- The `enqueue` call `k` is for the next piece of `call`. -/
structure Asking (c : Nat) (call : OnFrame) (k : Call) : Prop where
  more : call.offset < call.frame.length
  message : k.message = call.message c
  droppable : k.droppable = true

/-- Where the thread of camera `c` is, and what of its frames is in the record stream. -/
def At (c : Nat) (sink : VideoSink) (caller : Caller) (seen : Bytes) : Prop :=
  match sink.place, caller with
  | .outside, .outside => seen = sink.kept.flatten
  | .looping call, .outside => seen = sink.kept.flatten ++ call.upto call.offset
  | .enqueuing call, .waiting k => Asking c call k ∧ seen = sink.kept.flatten ++ call.upto call.offset
  | .enqueuing call, .testing k => Asking c call k ∧ seen = sink.kept.flatten ++ call.upto call.offset
  | .enqueuing call, .sealing k =>
    Asking c call k ∧ call.dropping = false ∧ seen = sink.kept.flatten ++ call.upto call.offset
  | .enqueuing call, .pushing _ _ => call.dropping = false ∧ seen = sink.kept.flatten ++ call.upto call.next.offset
  | _, _ => False

section Camera
variable {c : Nat} {sink : VideoSink} {caller : Caller} {seen : Bytes} {k : Call}

@[simp] theorem enter_kept (place : Place) : (sink.enter place).kept = sink.kept := rfl

theorem At.outside (h : At c sink caller seen) (hp : sink.place = .outside) :
    caller = .outside ∧ seen = sink.kept.flatten := by
  unfold At at h
  rw [hp] at h
  cases caller with
  | outside => exact ⟨rfl, h⟩
  | _ => exact h.elim

theorem At.looping {call : OnFrame} (h : At c sink caller seen) (hp : sink.place = .looping call) :
    caller = .outside ∧ seen = sink.kept.flatten ++ call.upto call.offset := by
  unfold At at h
  rw [hp] at h
  cases caller with
  | outside => exact ⟨rfl, h⟩
  | _ => exact h.elim

theorem At.not_failed {call : OnFrame} (h : At c sink caller seen) : sink.place ≠ .failed call := by
  intro hp
  unfold At at h
  rw [hp] at h
  cases caller <;> exact h

/-- A thread in `enqueue` is in the loop of its sink. -/
theorem At.inside (h : At c sink caller seen) (hc : caller ≠ .outside) : ∃ call, sink.place = .enqueuing call := by
  unfold At at h
  cases hp : sink.place with
  | enqueuing call => exact ⟨call, rfl⟩
  | outside => rw [hp] at h; cases caller with
    | outside => exact absurd rfl hc
    | _ => exact h.elim
  | looping call => rw [hp] at h; cases caller with
    | outside => exact absurd rfl hc
    | _ => exact h.elim
  | failed call => rw [hp] at h; cases caller <;> exact h.elim

/-- A frame begins. -/
theorem At.begin (h : At c sink caller seen) (hp : sink.place = .outside) (frame : Bytes) :
    At c (sink.enter (.looping ⟨frame, 0, false⟩)) caller seen := by
  obtain ⟨rfl, hs⟩ := h.outside hp
  simp [At, VideoSink.enter, VideoSink.kept, OnFrame.upto, hs]

/-- A piece of it is asked to be queued. -/
theorem At.ask {call : OnFrame} (h : At c sink caller seen) (hp : sink.place = .looping call)
    (hm : call.offset < call.frame.length) (hk : k.message = call.message c) (hd : k.droppable = true) :
    At c (sink.enter (.enqueuing call)) (.waiting k) seen :=
  ⟨⟨hm, hk, hd⟩, (h.looping hp).2⟩

/-- The frame ends: all of it is in the record stream, or nothing. -/
theorem At.end_frame {call : OnFrame} (h : At c sink caller seen) (hp : sink.place = .looping call)
    (hm : call.frame.length ≤ call.offset) : At c (sink.return call) caller seen := by
  obtain ⟨rfl, hs⟩ := h.looping hp
  have hkept : (sink.return call).kept.flatten = sink.kept.flatten ++ call.upto call.offset := by
    cases hd : call.dropping <;>
      simp [VideoSink.kept, VideoSink.return, OnFrame.upto, hd, List.take_of_length_le hm]
  exact hs.trans hkept.symm

theorem At.lock (h : At c sink (.waiting k) seen) : At c sink (.testing k) seen := by
  obtain ⟨call, hp⟩ := h.inside (by simp)
  unfold At at h ⊢
  rw [hp] at h ⊢
  exact h

/-- The drop test, where a later piece fares as the first did. -/
theorem At.test {call : OnFrame} (h : At c sink (.testing k) seen) (hp : sink.place = .enqueuing call) (dropped : Bool)
    (hsteady : call.offset ≠ 0 → (dropped = true ↔ call.dropping = true)) :
    At c (sink.enter (if dropped then
        .looping (if call.offset = 0 then { call with dropping := dropped } else call).next
      else .enqueuing (if call.offset = 0 then { call with dropping := dropped } else call)))
      (if dropped then .outside else .sealing k) seen := by
  unfold At at h
  rw [hp] at h
  obtain ⟨hk, hs⟩ := h
  by_cases h0 : call.offset = 0
  · have hempty : call.upto call.offset = [] := by simp [OnFrame.upto, h0]
    rw [hempty] at hs
    cases dropped with
    | true => simpa [At, VideoSink.enter, VideoSink.kept, OnFrame.upto, OnFrame.next, h0] using hs
    | false => exact ⟨⟨by simpa [h0] using hk.more, by simpa [h0, OnFrame.message, OnFrame.piece] using hk.message,
        hk.droppable⟩, by simp [h0], by simpa [h0, OnFrame.upto] using hs⟩
  · have hsame := hsteady h0
    cases dropped with
    | true =>
      have hd : call.dropping = true := hsame.1 rfl
      simpa [At, VideoSink.enter, VideoSink.kept, OnFrame.upto, OnFrame.next, h0, hd] using hs
    | false =>
      have hd : call.dropping = false := by simpa using hsame
      exact ⟨by simpa [h0] using hk, by simpa [h0] using hd, by simpa [h0] using hs⟩

theorem At.asking {call : OnFrame} (h : At c sink (.testing k) seen) (hp : sink.place = .enqueuing call) :
    Asking c call k := by
  unfold At at h
  rw [hp] at h
  exact h.1

theorem At.sealing_message {call : OnFrame} (h : At c sink (.sealing k) seen) (hp : sink.place = .enqueuing call) :
    k.message = call.message c := by
  unfold At at h
  rw [hp] at h
  exact h.1.message

/-- The piece goes into the record stream. -/
theorem At.seal {call : OnFrame} (h : At c sink (.sealing k) seen) (hp : sink.place = .enqueuing call) (wire : Bytes) :
    At c (sink.enter (.enqueuing call)) (.pushing k wire) (seen ++ call.piece) := by
  unfold At at h
  rw [hp] at h
  obtain ⟨-, hd, hs⟩ := h
  refine ⟨hd, ?_⟩
  rw [hs, List.append_assoc]
  simp only [OnFrame.upto, hd, OnFrame.piece, OnFrame.next, List.take_add]
  rfl

theorem At.push {call : OnFrame} {wire : Bytes} (h : At c sink (.pushing k wire) seen)
    (hp : sink.place = .enqueuing call) : At c (sink.enter (.looping call.next)) .outside seen := by
  unfold At at h
  rw [hp] at h
  exact h.2

end Camera

/-! ## The cameras together -/

theorem video_snoc (c : Nat) (ms : List WireMessage) (m : WireMessage) :
    video c (ms ++ [m]) = video c ms ++ if m.channel = .Video ∧ m.stream.toNat = c then m.payload else [] := by
  by_cases h : m.channel = .Video ∧ m.stream.toNat = c <;> simp [video, h]

theorem message_stream {p : Nat} (call : OnFrame) (hp : p < kCameras) (c : Nat) :
    ((call.message p).channel = .Video ∧ (call.message p).stream.toNat = c) ↔ c = p := by
  have hmod : p % 256 = p := Nat.mod_eq_of_lt (Nat.lt_trans hp (by decide))
  simp [OnFrame.message, hmod, eq_comm]

theorem piece_fits (p : Nat) (call : OnFrame) : (call.message p).Fits := by
  simp only [WireMessage.Fits, OnFrame.message, OnFrame.piece, List.length_take, kChunk, kMaxPayload]
  omega

/-- What holds of every state while the frames are steady. -/
structure Inv (s : Outbound) : Prop where
  cameras : ∀ c < kCameras, At c (s.sinks c) (s.writer.callers c) (video c (sealed_messages s.writer))
  others : ∀ p, kCameras ≤ p → (s.sinks p).place = .outside ∧
    ∀ k, (s.writer.callers p).call? = some k → k.message.channel ≠ .Video

/-- A producer that moves to `x` leaves the others as they are. -/
theorem Inv.move {s : Outbound} (hI : Inv s) {writer : RecordWriter} {sinks : Nat → VideoSink} (p : Nat) (x : Caller)
    (hx : writer.callers p = x) (hcallers : ∀ q, q ≠ p → writer.callers q = s.writer.callers q)
    (hsinks : ∀ q, q ≠ p → sinks q = s.sinks q)
    (hvideo : ∀ q, q ≠ p → video q (sealed_messages writer) = video q (sealed_messages s.writer))
    (hcamera : p < kCameras → At p (sinks p) x (video p (sealed_messages writer)))
    (hother : kCameras ≤ p → (sinks p).place = .outside ∧ ∀ k, x.call? = some k → k.message.channel ≠ .Video) :
    Inv ⟨writer, sinks⟩ := by
  subst hx
  constructor
  · intro c hc
    by_cases hcp : c = p
    · subst hcp
      exact hcamera hc
    · dsimp only
      rw [hcallers c hcp, hsinks c hcp, hvideo c hcp]
      exact hI.cameras c hc
  · intro q hq
    by_cases hqp : q = p
    · subst hqp
      exact hother hq
    · dsimp only
      rw [hcallers q hqp, hsinks q hqp]
      exact hI.others q hq

/-- A step of the writer that no producer takes part in. -/
theorem Inv.alone {s : Outbound} (hI : Inv s) {writer : RecordWriter} (hc : writer.callers = s.writer.callers)
    (hs : writer.sealed = s.writer.sealed) : Inv { s with writer } := by
  constructor
  · intro c hlt
    simp only [sealed_messages, hc, hs]
    exact hI.cameras c hlt
  · intro p hp
    dsimp only
    rw [hc]
    exact hI.others p hp

theorem within_enqueuing {sinks : Nat → VideoSink} {p : Nat} {call : OnFrame} (h : (sinks p).place = .enqueuing call)
    (f : OnFrame → Place) : within sinks p f = Function.update sinks p ((sinks p).enter (f call)) := by
  rw [within, h]
  rfl

theorem within_outside {sinks : Nat → VideoSink} {p : Nat} (h : (sinks p).place = .outside) (f : OnFrame → Place) :
    within sinks p f = sinks := by
  rw [within, h]

theorem within_other {sinks : Nat → VideoSink} {p q : Nat} (h : q ≠ p) (f : OnFrame → Place) :
    within sinks p f q = sinks q := by
  cases hp : (sinks p).place with
  | enqueuing call => rw [within_enqueuing hp, Function.update_of_ne h]
  | _ => simp only [within, hp]

theorem Inv.test {A : Aead} {s : Outbound} {writer : RecordWriter} {p : Nat} (hI : Inv s)
    (hg : Steady s (.writer (.test p))) (hw : RecordWriter.step A s.writer (.test p) = some writer) :
    Inv ⟨writer, after s.sinks writer (.test p)⟩ := by
  obtain ⟨k, hk, hcase⟩ := RecordWriter.step_test hw
  -- what the step does to the callers, and that it seals nothing
  obtain ⟨dropped, hdrop, hcallers, hsealed⟩ : ∃ dropped : Bool,
      (dropped = true ↔ k.droppable = true ∧ kQueueLimit ≤ s.writer.queued_bytes_) ∧
      writer.callers = moved s.writer.callers p (if dropped then .outside else .sealing k) ∧
      writer.sealed = s.writer.sealed := by
    rcases hcase with ⟨hd, hlimit, rfl⟩ | ⟨hn, rfl⟩
    · exact ⟨true, by simp [hd, hlimit], rfl, rfl⟩
    · exact ⟨false, by simpa using hn, rfl, rfl⟩
  have hx : writer.callers p = if dropped then .outside else .sealing k := by
    rw [hcallers, RecordWriter.moved_self]
  have hback : back writer p = dropped := by
    rw [back, hx]
    cases dropped <;> rfl
  have hmessages : sealed_messages writer = sealed_messages s.writer := by rw [sealed_messages, hsealed]; rfl
  refine hI.move p _ hx (fun q hq => by rw [hcallers, RecordWriter.moved_other _ _ hq])
    (fun q hq => within_other hq _) (fun q _ => by rw [hmessages]) (fun hp => ?_) fun hp => ?_
  · have hat := hI.cameras p hp
    obtain ⟨call, hplace⟩ := hat.inside (by rw [hk]; simp)
    rw [hk] at hat
    have htest := hat.test hplace dropped fun h0 => by
      rw [hdrop, (hat.asking hplace).droppable]
      simpa using hg call hplace h0
    rw [after, within_enqueuing hplace, Function.update_self, hback, hmessages]
    exact htest
  · obtain ⟨hout, hvideo⟩ := hI.others p hp
    rw [after, within_outside hout]
    refine ⟨hout, fun k' hk' => hvideo k' ?_⟩
    rw [hk]
    cases dropped with
    | true => cases hk'
    | false => exact hk'

theorem Inv.make_record {A : Aead} {s : Outbound} {writer : RecordWriter} {p : Nat} (hI : Inv s)
    (hw : RecordWriter.step A s.writer (.make_record p .ok) = some writer) :
    Inv ⟨writer, after s.sinks writer (.make_record p .ok)⟩ := by
  obtain ⟨k, hk, hcase⟩ := RecordWriter.step_make_record hw
  rw [make_wire_record_eq A k.message] at hcase
  by_cases hp : p < kCameras
  · have hat := hI.cameras p hp
    obtain ⟨call, hplace⟩ := hat.inside (by rw [hk]; simp)
    rw [hk] at hat
    have hmessage := hat.sealing_message hplace
    -- a piece always fits
    rw [hmessage, if_pos (piece_fits p call)] at hcase
    obtain ⟨e, encrypt, he, -⟩ | ⟨wire, encrypt, -, rfl⟩ := hcase
    · cases he
    have hvideo : ∀ c, video c (s.writer.sealed.map (·.call.message) ++ [k.message]) =
        video c (sealed_messages s.writer) ++ if c = p then call.piece else [] := by
      intro c
      have hstream := message_stream call hp c
      simp only [video_snoc, hmessage, hstream]
      rfl
    refine hI.move p _ (RecordWriter.moved_self _ _ _) (fun q hq => RecordWriter.moved_other _ _ hq)
      (fun q hq => within_other hq _) (fun q hq => ?_) (fun _ => ?_) fun hge => absurd hp (by omega)
    · simp only [sealed_messages, List.map_append, List.map_cons, List.map_nil, hvideo, hq, if_false, List.append_nil]
    · simp only [sealed_messages, List.map_append, List.map_cons, List.map_nil, hvideo, if_true]
      rw [after, within_enqueuing hplace, Function.update_self]
      simp only [back, RecordWriter.moved_self]
      exact hat.seal hplace wire
  · have hge : kCameras ≤ p := by omega
    obtain ⟨hout, hvideo⟩ := hI.others p hge
    have hk' : k.message.channel ≠ .Video := hvideo k (by rw [hk]; rfl)
    obtain ⟨e, encrypt, -, rfl⟩ | ⟨wire, encrypt, -, rfl⟩ := hcase
    · refine hI.move p _ (RecordWriter.moved_self _ _ _) (fun q hq => RecordWriter.moved_other _ _ hq)
        (fun q hq => within_other hq _) (fun q _ => rfl) (fun hlt => absurd hlt hp) fun _ => ?_
      rw [after, within_outside hout]
      exact ⟨hout, fun _ hc => by cases hc⟩
    · refine hI.move p _ (RecordWriter.moved_self _ _ _) (fun q hq => RecordWriter.moved_other _ _ hq)
        (fun q hq => within_other hq _) (fun q _ => ?_) (fun hlt => absurd hlt hp) fun _ => ?_
      · simp [sealed_messages, video_snoc, hk']
      · rw [after, within_outside hout]
        refine ⟨hout, fun _ hc => ?_⟩
        cases hc
        exact hk'

theorem Inv.lock {A : Aead} {s : Outbound} {writer : RecordWriter} {p : Nat} (hI : Inv s)
    (hw : RecordWriter.step A s.writer (.lock p) = some writer) : Inv { s with writer } := by
  obtain ⟨k, hk, -, rfl⟩ := RecordWriter.step_lock hw
  refine hI.move p _ (RecordWriter.moved_self _ _ _) (fun q hq => RecordWriter.moved_other _ _ hq) (fun _ _ => rfl)
    (fun _ _ => rfl) (fun hp => ?_) fun hp => ?_
  · have hat := hI.cameras p hp
    rw [hk] at hat
    exact hat.lock
  · obtain ⟨hout, hvideo⟩ := hI.others p hp
    exact ⟨hout, fun k' hk' => hvideo k' (by rw [hk]; exact hk')⟩

theorem Inv.push {A : Aead} {s : Outbound} {writer : RecordWriter} {p : Nat} (hI : Inv s)
    (hw : RecordWriter.step A s.writer (.push p) = some writer) :
    Inv ⟨writer, after s.sinks writer (.push p)⟩ := by
  obtain ⟨k, wire, hk, -, rfl⟩ := RecordWriter.step_push hw
  refine hI.move p _ (RecordWriter.moved_self _ _ _) (fun q hq => RecordWriter.moved_other _ _ hq)
    (fun q hq => within_other hq _) (fun _ _ => rfl) (fun hp => ?_) fun hp => ?_
  · have hat := hI.cameras p hp
    obtain ⟨call, hplace⟩ := hat.inside (by rw [hk]; simp)
    rw [hk] at hat
    rw [after, within_enqueuing hplace, Function.update_self]
    exact hat.push hplace
  · obtain ⟨hout, -⟩ := hI.others p hp
    rw [after, within_outside hout]
    exact ⟨hout, fun _ hc => by cases hc⟩

theorem Inv.writer {A : Aead} {s : Outbound} {writer : RecordWriter} {a : WriterAction} (hI : Inv s)
    (hworks : Works (.writer a)) (hg : Steady s (.writer a)) (hc : ∀ p m d, a ≠ .call p m d)
    (hw : RecordWriter.step A s.writer a = some writer) : Inv ⟨writer, after s.sinks writer a⟩ := by
  cases a with
  | call p m d => exact absurd rfl (hc p m d)
  | lock p => exact hI.lock hw
  | test p => exact hI.test hg hw
  | make_record p evp =>
    obtain rfl : evp = .ok := hworks
    exact hI.make_record hw
  | push p => exact hI.push hw
  | check e =>
    obtain ⟨-, dead, drainer, rfl, -⟩ := RecordWriter.step_check hw
    exact hI.alone rfl rfl
  | wake =>
    obtain ⟨-, ⟨-, rfl⟩ | ⟨r, q, -, rfl⟩⟩ := RecordWriter.step_wake hw <;> exact hI.alone rfl rfl
  | write n =>
    obtain ⟨r, o, -, ⟨-, -, rfl⟩ | ⟨-, rfl⟩⟩ := RecordWriter.step_write hw <;> exact hI.alone rfl rfl
  | write_fails =>
    obtain ⟨r, o, -, rfl⟩ := RecordWriter.step_write_fails hw
    exact hI.alone rfl rfl
  | die =>
    cases hw
    exact hI.alone rfl rfl

/-- Only a camera is in `on_frame`. -/
theorem Inv.camera {s : Outbound} (hI : Inv s) {camera : Nat} (h : (s.sinks camera).place ≠ .outside) :
    camera < kCameras :=
  Nat.lt_of_not_le fun hge => h (hI.others camera hge).1

theorem Inv.step {A : Aead} {s s' : Outbound} {a : Action} (hI : Inv s) (hworks : Works a) (hg : Steady s a)
    (h : step A s a = some s') : Inv s' := by
  cases step_cases h with
  | begins camera frame hc hp =>
    refine hI.move camera _ rfl (fun _ _ => rfl) (fun q hq => Function.update_of_ne hq _ _) (fun _ _ => rfl)
      (fun _ => ?_) fun hge => absurd hc (by omega)
    rw [Function.update_self]
    exact (hI.cameras camera hc).begin hp frame
  | asks camera call writer hp hm hw =>
    have hc : camera < kCameras := hI.camera (by rw [hp]; simp)
    obtain ⟨-, rfl⟩ := RecordWriter.step_call hw
    refine hI.move camera _ (RecordWriter.moved_self _ _ _) (fun q hq => RecordWriter.moved_other _ _ hq)
      (fun q hq => Function.update_of_ne hq _ _) (fun _ _ => rfl) (fun _ => ?_) fun hge => absurd hc (by omega)
    rw [Function.update_self]
    exact (hI.cameras camera hc).ask hp hm rfl rfl
  | returns camera call hp hm =>
    have hc : camera < kCameras := hI.camera (by rw [hp]; simp)
    refine hI.move camera _ rfl (fun _ _ => rfl) (fun q hq => Function.update_of_ne hq _ _) (fun _ _ => rfl)
      (fun _ => ?_) fun hge => absurd hc (by omega)
    rw [Function.update_self]
    exact (hI.cameras camera hc).end_frame hp hm
  | ends_session camera call hp =>
    have hc : camera < kCameras := hI.camera (by rw [hp]; simp)
    exact absurd hp (hI.cameras camera hc).not_failed
  | other p message droppable writer hp hm hw =>
    obtain ⟨-, rfl⟩ := RecordWriter.step_call hw
    refine hI.move p _ (RecordWriter.moved_self _ _ _) (fun q hq => RecordWriter.moved_other _ _ hq) (fun _ _ => rfl)
      (fun _ _ => rfl) (fun hlt => absurd hlt (by omega)) fun _ => ⟨(hI.others p hp).1, fun _ hk => ?_⟩
    cases hk
    exact hm
  | writer a writer hc hw => exact hI.writer hworks hg hc hw

theorem inv_new (key : Key) (iv : Iv) : Inv (.new key iv) where
  cameras _ _ := rfl
  others _ _ := ⟨rfl, fun _ hk => by cases hk⟩

/-! ## The frames passed -/

theorem passed_snoc (c : Nat) (as : List Action) (a : Action) :
    passed c (as ++ [a]) = passed c as ++ passed c [a] :=
  List.filterMap_append

/-- The frames passed to a camera are those of the calls that returned and of the one in progress. -/
def Passed (c : Nat) (as : List Action) (s : Outbound) : Prop :=
  passed c as = (s.sinks c).returned.map (·.frame) ++ (s.sinks c).place.frame?.toList

theorem within_frames (sinks : Nat → VideoSink) (p : Nat) (f : OnFrame → Place)
    (hf : ∀ call, (f call).frame? = some call.frame) (c : Nat) :
    (within sinks p f c).returned = (sinks c).returned ∧
      (within sinks p f c).place.frame? = (sinks c).place.frame? := by
  by_cases hcp : c = p
  · subst hcp
    cases hp : (sinks c).place with
    | enqueuing call =>
      rw [within_enqueuing hp, Function.update_self]
      exact ⟨rfl, hf call⟩
    | _ => simp [within, hp]
  · rw [within_other hcp]
    exact ⟨rfl, rfl⟩

/-- Within `enqueue` no frame begins or ends. -/
theorem after_frames (sinks : Nat → VideoSink) (writer : RecordWriter) (a : WriterAction) (c : Nat) :
    (after sinks writer a c).returned = (sinks c).returned ∧
      (after sinks writer a c).place.frame? = (sinks c).place.frame? := by
  cases a with
  | test p =>
    refine within_frames sinks p _ (fun call => ?_) c
    dsimp only
    split <;> split <;> rfl
  | make_record p evp =>
    refine within_frames sinks p _ (fun call => ?_) c
    split <;> rfl
  | push p => exact within_frames sinks p _ (fun _ => rfl) c
  | _ => exact ⟨rfl, rfl⟩

/-- A camera's thread moves, and the others do not. -/
theorem Passed.update {s : Outbound} {as : List Action} {a : Action} {c : Nat} (hp : Passed c as s)
    (writer : RecordWriter) (camera : Nat) (sink : VideoSink) (hother : camera ≠ c → passed c [a] = [])
    (hself : camera = c → sink.returned.map (·.frame) ++ sink.place.frame?.toList =
      (s.sinks c).returned.map (·.frame) ++ (s.sinks c).place.frame?.toList ++ passed c [a]) :
    Passed c (as ++ [a]) ⟨writer, Function.update s.sinks camera sink⟩ := by
  unfold Passed at hp ⊢
  rw [passed_snoc, hp]
  by_cases hc : camera = c
  · subst hc
    dsimp only
    rw [Function.update_self, hself rfl]
  · dsimp only
    rw [Function.update_of_ne (Ne.symm hc), hother hc, List.append_nil]

theorem Passed.step {A : Aead} {s s' : Outbound} {as : List Action} {a : Action} {c : Nat} (hp : Passed c as s)
    (h : step A s a = some s') : Passed c (as ++ [a]) s' := by
  cases step_cases h with
  | begins camera frame _ hplace =>
    refine hp.update _ camera _ (fun hne => by simp [passed, hne]) ?_
    rintro rfl
    simp [passed, hplace, Place.frame?, Place.call?, VideoSink.enter]
  | asks camera call writer hplace _ _ =>
    refine hp.update _ camera _ (fun _ => rfl) ?_
    rintro rfl
    simp [passed, hplace, Place.frame?, Place.call?, VideoSink.enter]
  | returns camera call hplace _ =>
    refine hp.update _ camera _ (fun _ => rfl) ?_
    rintro rfl
    simp [passed, hplace, Place.frame?, Place.call?, VideoSink.return]
  | ends_session camera call hplace =>
    refine hp.update _ camera _ (fun _ => rfl) ?_
    rintro rfl
    simp [passed, hplace, Place.frame?, Place.call?, VideoSink.return]
  | other p message droppable writer _ _ _ =>
    rw [Passed, passed_snoc, hp, show passed c [.other p message droppable] = [] from rfl, List.append_nil]
  | writer a writer _ _ =>
    obtain ⟨hreturned, hframe⟩ := after_frames s.sinks writer a c
    rw [Passed, passed_snoc, hp, show passed c [.writer a] = [] from rfl, List.append_nil]
    dsimp only
    rw [hreturned, hframe]

theorem run_passed {A : Aead} {key : Key} {iv : Iv} {as : List Action} {s : Outbound} (c : Nat)
    (hr : Run (step A) (.new key iv) as s) : Passed c as s := by
  refine hr.inv_trace (Passed c) ?_ fun _ _ _ _ _ hp h => hp.step h
  rfl

/-! ## Whole frames -/

/-- What `At` says of the record stream. -/
theorem At.whole {c : Nat} {sink : VideoSink} {caller : Caller} {seen : Bytes} (h : At c sink caller seen) :
    ∃ part, part <+: sink.place.frame?.getD [] ∧ seen = sink.kept.flatten ++ part := by
  have hupto : ∀ (call : OnFrame) n, call.upto n <+: call.frame := by
    intro call n
    cases hd : call.dropping
    · simpa [OnFrame.upto, hd] using List.take_prefix n call.frame
    · simp [OnFrame.upto, hd]
  unfold At at h
  cases hp : sink.place with
  | outside =>
    rw [hp] at h
    cases caller with
    | outside => exact ⟨[], List.nil_prefix, by simpa using h⟩
    | _ => exact h.elim
  | looping call =>
    rw [hp] at h
    cases caller with
    | outside => exact ⟨_, hupto call _, h⟩
    | _ => exact h.elim
  | enqueuing call =>
    rw [hp] at h
    cases caller with
    | outside => exact h.elim
    | waiting k => exact ⟨_, hupto call _, h.2⟩
    | testing k => exact ⟨_, hupto call _, h.2⟩
    | sealing k => exact ⟨_, hupto call _, h.2.2⟩
    | pushing k wire => exact ⟨_, hupto call _, h.2⟩
  | failed call => rw [hp] at h; cases caller <;> exact h.elim

theorem run_inv {A : Aead} {key : Key} {iv : Iv} {as : List Action} {s : Outbound}
    (hr : Run (step A) (.new key iv) as s) (hw : ∀ a ∈ as, Works a)
    (hm : Meets (step A) Steady (.new key iv) as) : Inv s := by
  refine hr.inv_meets Inv (inv_new key iv) ?_ ((meets_of_forall hw).and hm)
  intro s a s' hI hg h
  exact hI.step hg.1 hg.2 h

/-- In every run in which the queue does not cross its limit between two pieces
of one frame, every frame is in the record stream as a whole or not at all. -/
theorem whole_frames {A : Aead} {key : Key} {iv : Iv} {as : List Action} {s : Outbound}
    (hr : Run (step A) (.new key iv) as s) (hw : ∀ a ∈ as, Works a) (hm : Meets (step A) Steady (.new key iv) as)
    {c : Nat} (hc : c < kCameras) : Whole c as s := by
  obtain ⟨part, hpart, hseen⟩ := ((run_inv hr hw hm).cameras c hc).whole
  refine ⟨(s.sinks c).kept, part, ?_, hpart, hseen⟩
  rw [run_passed c hr]
  exact (List.filter_sublist.map _).append (List.Sublist.refl _)

/-! ## Below the limit -/

/-- No frame has lost its first piece. -/
def Undropped (s : Outbound) : Prop :=
  ∀ c, (∀ call ∈ (s.sinks c).returned, call.dropping = false) ∧
    ∀ call ∈ (s.sinks c).place.call?, call.dropping = false

theorem Undropped.steady {s : Outbound} {a : Action} (hU : Undropped s) (hb : BelowLimit s a) : Steady s a := by
  cases a with
  | writer a =>
    cases a with
    | test p =>
      intro call hplace _
      have hd : call.dropping = false := (hU p).2 call (by rw [hplace]; rfl)
      have hlimit : ¬ kQueueLimit ≤ s.writer.queued_bytes_ := UInt64.not_le.2 hb
      simp [hd, hlimit]
    | _ => trivial
  | _ => trivial

/-- A camera's sink changes, and has still lost nothing. -/
theorem Undropped.update {s : Outbound} (hU : Undropped s) {writer : RecordWriter} (p : Nat) (sink : VideoSink)
    (hr : ∀ call ∈ sink.returned, call.dropping = false) (hp : ∀ call ∈ sink.place.call?, call.dropping = false) :
    Undropped ⟨writer, Function.update s.sinks p sink⟩ := by
  intro c
  by_cases hc : c = p
  · subst hc
    dsimp only
    rw [Function.update_self]
    exact ⟨hr, hp⟩
  · dsimp only
    rw [Function.update_of_ne hc]
    exact hU c

theorem Undropped.within {s : Outbound} (hU : Undropped s) {writer : RecordWriter} (p : Nat) (f : OnFrame → Place)
    (hf : ∀ call, call.dropping = false → ∀ call' ∈ (f call).call?, call'.dropping = false) :
    Undropped ⟨writer, within s.sinks p f⟩ := by
  cases hp : (s.sinks p).place with
  | enqueuing call =>
    rw [within_enqueuing hp]
    exact hU.update p _ (hU p).1 (hf call ((hU p).2 call (by rw [hp]; rfl)))
  | _ =>
    simp only [VideoSinks.within, hp]
    exact hU

/-- Within `enqueue` nothing is lost while the queue is below its limit. -/
theorem Undropped.writer {A : Aead} {s : Outbound} {writer : RecordWriter} {a : WriterAction} (hU : Undropped s)
    (hb : BelowLimit s (.writer a)) (hw : RecordWriter.step A s.writer a = some writer) :
    Undropped ⟨writer, after s.sinks writer a⟩ := by
  cases a with
  | test p =>
    obtain ⟨k, -, ⟨-, hlimit, -⟩ | ⟨-, rfl⟩⟩ := RecordWriter.step_test hw
    · exact absurd hlimit (UInt64.not_le.2 hb)
    · refine hU.within p _ fun call hd call' hcall' => ?_
      simp only [back, RecordWriter.moved_self, Caller.call?, Option.isNone_some, Bool.false_eq_true, if_false,
        Place.call?, Option.mem_def, Option.some.injEq] at hcall'
      subst hcall'
      split
      · rfl
      · exact hd
  | make_record p evp =>
    refine hU.within p _ fun call hd call' hcall' => ?_
    split at hcall' <;> (cases hcall'; exact hd)
  | push p =>
    refine hU.within p _ fun call hd call' hcall' => ?_
    cases hcall'
    exact hd
  | _ => exact hU

/-- The frame in progress joins those that returned. -/
theorem Undropped.returned {s : Outbound} (hU : Undropped s) {camera : Nat} {call : OnFrame}
    (hcall : call ∈ (s.sinks camera).place.call?) :
    ∀ call' ∈ ((s.sinks camera).return call).returned, call'.dropping = false := by
  have hundropped := (hU camera).2 call hcall
  exact List.forall_mem_append.2 ⟨(hU camera).1, List.forall_mem_singleton.2 hundropped⟩

theorem Undropped.step {A : Aead} {s s' : Outbound} {a : Action} (hU : Undropped s) (hb : BelowLimit s a)
    (h : step A s a = some s') : Undropped s' := by
  cases step_cases h with
  | begins camera frame _ _ => exact hU.update camera _ (hU camera).1 (by rintro _ ⟨⟩; rfl)
  | asks camera call writer hp _ _ =>
    refine hU.update camera _ (hU camera).1 ?_
    rintro _ ⟨⟩
    exact (hU camera).2 call (by rw [hp]; rfl)
  | returns camera call hp _ =>
    exact hU.update camera _ (hU.returned (by rw [hp]; rfl)) (by rintro _ ⟨⟩)
  | ends_session camera call hp =>
    exact hU.update camera _ (hU.returned (by rw [hp]; rfl)) (by rintro _ ⟨⟩)
  | other p message droppable writer _ _ _ => exact hU
  | writer a writer _ hw => exact hU.writer hb hw

theorem run_undropped {A : Aead} {key : Key} {iv : Iv} {as : List Action} {s : Outbound}
    (hr : Run (step A) (.new key iv) as s) (hm : Meets (step A) BelowLimit (.new key iv) as) : Undropped s :=
  hr.inv_meets Undropped (fun _ => ⟨by rintro _ ⟨⟩, by rintro _ ⟨⟩⟩) (fun _ _ _ hU hb h => hU.step hb h) hm

theorem Undropped.kept {s : Outbound} (hU : Undropped s) (c : Nat) :
    (s.sinks c).kept = (s.sinks c).returned.map (·.frame) := by
  rw [VideoSink.kept, List.filter_eq_self.2]
  intro call hcall
  simp [(hU c).1 call hcall]

theorem meets_steady {A : Aead} {key : Key} {iv : Iv} {as : List Action}
    (hm : Meets (step A) BelowLimit (.new key iv) as) : Meets (step A) Steady (.new key iv) as := by
  intro pre a post s he hr
  subst he
  exact (run_undropped hr hm.left).steady (hm pre a post s rfl hr)

/-! ## The writer within -/

/-- A step of the writer that is taken for `a`. -/
structure TakenFor (a : Action) (w : WriterAction) : Prop where
  works : Works a → ∀ p evp, w = .make_record p evp → evp = .ok
  fits : ∀ p m d, w = .call p m d → m.channel = .Video → m.Fits

/-- A step is one of the writer or leaves it alone. -/
theorem step_writer {A : Aead} {s s' : Outbound} {a : Action} (h : step A s a = some s') :
    s'.writer = s.writer ∨ ∃ w, RecordWriter.step A s.writer w = some s'.writer ∧ TakenFor a w := by
  cases step_cases h with
  | begins camera frame _ _ => exact .inl rfl
  | returns camera call _ _ => exact .inl rfl
  | ends_session camera call _ => exact .inr ⟨.die, rfl, by rintro _ _ _ ⟨⟩, by rintro _ _ _ ⟨⟩⟩
  | asks camera call writer _ _ hw =>
    refine .inr ⟨_, hw, by rintro _ _ _ ⟨⟩, ?_⟩
    rintro p m d ⟨⟩ -
    exact piece_fits camera call
  | other p message droppable writer _ hm hw =>
    refine .inr ⟨_, hw, by rintro _ _ _ ⟨⟩, ?_⟩
    rintro p m d ⟨⟩ hvideo
    exact absurd hvideo hm
  | writer a writer hc hw =>
    refine .inr ⟨a, hw, ?_, fun p m d he => absurd he (hc p m d)⟩
    rintro hworks p evp rfl
    exact hworks

/-- The writer's part of a run. -/
theorem writer_run {A : Aead} {key : Key} {iv : Iv} {as : List Action} {s : Outbound}
    (hr : Run (step A) (.new key iv) as s) (hw : ∀ a ∈ as, Works a) :
    ∃ ws, Run (RecordWriter.step A) (.new key iv) ws s.writer ∧ seals_work ws ∧
      ∀ p m d, .call p m d ∈ ws → m.channel = .Video → m.Fits := by
  refine hr.inv_trace_of (P := Works) (fun _ s => ∃ ws, Run (RecordWriter.step A) (.new key iv) ws s.writer ∧
    seals_work ws ∧ ∀ p m d, .call p m d ∈ ws → m.channel = .Video → m.Fits)
    ⟨[], .nil, by simp [seals_work], by simp⟩ ?_ hw
  rintro _ s a s' - - ⟨ws, hrun, hseals, hfits⟩ hworks h
  rcases step_writer h with heq | ⟨w, hstep, htaken⟩
  · exact ⟨ws, heq ▸ hrun, hseals, hfits⟩
  · refine ⟨ws ++ [w], hrun.snoc hstep, fun p evp hmem => ?_, fun p m d hmem => ?_⟩
    · rcases List.mem_append.1 hmem with hmem | hmem
      · exact hseals p evp hmem
      · exact htaken.works hworks p evp (List.mem_singleton.1 hmem).symm
    · rcases List.mem_append.1 hmem with hmem | hmem
      · exact hfits p m d hmem
      · exact htaken.fits p m d (List.mem_singleton.1 hmem).symm

/-! ## The host -/

/-- What `drainInbound` pushes for a message, and into whose decoder. -/
def decoder_push (m : WireMessage) : Option (Nat × Bytes) :=
  if m.channel = .Video ∧ m.stream.toNat < kCameras then some (m.stream.toNat, m.payload) else none

/-- What went into a camera's decoder. -/
def decoder_input (camera : Nat) (got : List Received) : Bytes :=
  ((((messages got).filterMap decoder_push).filter (·.1 = camera)).map (·.2)).flatten

theorem decoder_input_video {c : Nat} (hc : c < kCameras) (got : List Received) :
    decoder_input c got = video c (messages got) := by
  unfold decoder_input video
  induction messages got with
  | nil => rfl
  | cons m ms ih =>
    rw [List.filterMap_cons]
    by_cases hv : m.channel = .Video
    · by_cases hs : m.stream.toNat = c
      · have hpush : decoder_push m = some (c, m.payload) := by simp [decoder_push, hv, hs, hc]
        simp only [hpush, List.filter_cons, decide_true, if_true, List.map_cons, List.flatten_cons, ih, hv, hs,
          and_self]
      · have hpush : ∀ q ∈ decoder_push m, q.1 ≠ c := by
          intro q hq
          simp only [decoder_push, hv, true_and] at hq
          split at hq
          · cases hq
            exact hs
          · cases hq
        cases hd : decoder_push m with
        | none => simpa [hv, hs] using ih
        | some q => simpa [hv, hs, hpush q hd] using ih
    · have hpush : decoder_push m = none := by simp [decoder_push, hv]
      simpa [hpush, hv] using ih

/-- Camera `c` is between frames and every record is written. -/
structure Drained (c : Nat) (s : Outbound) : Prop where
  outside : (s.sinks c).place = .outside
  queue : s.writer.queue_ = []
  in_hand : s.writer.drainer.in_hand = []
  pushing : s.writer.pushing = []

theorem video_append (c : Nat) (ms ms' : List WireMessage) : video c (ms ++ ms') = video c ms ++ video c ms' := by
  simp [video]

/-- Below the limit the record stream has the frames passed, but for the rest of the one in progress. -/
theorem sealed_frames {A : Aead} {key : Key} {iv : Iv} {as : List Action} {s : Outbound}
    (hr : Run (step A) (.new key iv) as s) (hw : ∀ a ∈ as, Works a)
    (hm : Meets (step A) BelowLimit (.new key iv) as) {c : Nat} (hc : c < kCameras) :
    video c (sealed_messages s.writer) <+: (passed c as).flatten ∧
      ((s.sinks c).place = .outside → video c (sealed_messages s.writer) = (passed c as).flatten) := by
  obtain ⟨part, ⟨rest, hpart⟩, hseen⟩ := ((run_inv hr hw (meets_steady hm)).cameras c hc).whole
  have hpassed : passed c as = _ := run_passed c hr
  rw [hseen, (run_undropped hr hm).kept, hpassed, List.flatten_append]
  constructor
  · refine ⟨rest, ?_⟩
    rw [List.append_assoc, hpart]
    cases (s.sinks c).place.frame? <;> simp
  · intro hout
    rw [hout] at hpart ⊢
    obtain ⟨rfl, -⟩ := List.append_eq_nil_iff.1 hpart
    rfl

/-- Where the queue limit is never met, no piece of a frame fails to seal, so no
frame ends the session, and whatever the transfers are, each decoder of the host
gets the frames of its camera, as far as they are written, and all of them once
the queue is drained. -/
theorem video_transparent {A : Aead} (hA : A.Opens) {key : Key} {iv : Iv} {as : List Action} {s : Outbound}
    (hr : Run (step A) (.new key iv) as s) (hw : ∀ a ∈ as, Works a)
    (hm : Meets (step A) BelowLimit (.new key iv) as) :
    (∀ k ∈ s.writer.refused, k.message.channel ≠ .Video) ∧ (∀ c call, (s.sinks c).place ≠ .failed call) ∧
    ∀ chunks : List Bytes, chunks.flatten = s.writer.endpoint →
      let got := (drainInbound A Ssl.works).feed (some (.new key iv, [])) chunks
      got.2.isSome ∧ ∀ c < kCameras, decoder_input c got.1 <+: (passed c as).flatten ∧
        (Drained c s → decoder_input c got.1 = (passed c as).flatten) := by
  have hI := run_inv hr hw (meets_steady hm)
  obtain ⟨ws, hrun, hseals, hfits⟩ := writer_run hr hw
  refine ⟨fun k hk hvideo => ?_, fun c call hplace => ?_, fun chunks hchunks => ?_⟩
  · -- what is refused does not fit, and a piece does
    have hasked : RecordWriter.Asked (fun m => m.channel = .Video → m.Fits) s.writer :=
      RecordWriter.run_asked hrun hfits
    exact (run_synced hrun hseals).refused k hk (hasked.2 k hk hvideo)
  · by_cases hc : c < kCameras
    · exact (hI.cameras c hc).not_failed hplace
    · rw [(hI.others c (by omega)).1] at hplace
      cases hplace
  · obtain ⟨hgot, hgo⟩ := peer_in_step hA hrun hseals chunks hchunks
    refine ⟨hgo, fun c hc => ?_⟩
    obtain ⟨hpre, hall⟩ := sealed_frames hr hw hm hc
    have hmessages : messages ((drainInbound A Ssl.works).feed (some (.new key iv, [])) chunks).1 =
        (s.writer.sealed.take s.writer.sent.length).map (·.call.message) := by
      rw [hgot, ← messages_map ((s.writer.sealed.take s.writer.sent.length).map (·.call.message)), List.map_map]
      rfl
    rw [decoder_input_video hc, hmessages]
    constructor
    · -- what is written comes before what is not
      refine List.IsPrefix.trans ?_ hpre
      rw [sealed_messages, ← List.take_append_drop s.writer.sent.length s.writer.sealed, List.map_append, video_append,
        List.take_append_drop]
      exact List.prefix_append _ _
    · intro hd
      have hacc := (RecordWriter.run_inv hrun).accounted
      rw [RecordWriter.Accounted, hd.in_hand, hd.queue, hd.pushing, List.append_nil, List.append_nil,
        List.append_nil] at hacc
      have hlen : s.writer.sealed.length = s.writer.sent.length := by
        rw [← hacc, List.length_map]
      rw [← hlen, List.take_length]
      exact hall hd.outside

/-- A frame of camera 0 and an empty one of camera 1, a box between them, all of it written. -/
def two_cameras : List Action :=
  [.on_frame 0 [1, 2], .on_frame 1 [], .loop 1, .loop 0, .writer (.lock 0), .other 2 ⟨.Meta, 0, [7]⟩ true,
    .writer (.test 0), .writer (.make_record 0 .ok), .writer (.push 0), .writer (.lock 2), .writer (.test 2),
    .writer (.make_record 2 .ok), .writer (.push 2), .loop 0, .writer (.check false), .writer .wake,
    .writer (.write 24), .writer (.check false), .writer .wake, .writer (.write 23)]

theorem two_cameras_works : ∀ a ∈ two_cameras, Works a := by simp [two_cameras, Works]

theorem BelowLimit.of_lt {s : Outbound} (a : Action) (h : s.writer.queued_bytes_ < kQueueLimit) : BelowLimit s a := by
  cases a with
  | writer a =>
    cases a with
    | test p => exact h
    | _ => trivial
  | _ => trivial

theorem two_cameras_below : Meets (step (markedAead fun _ _ _ => true)) BelowLimit
    (.new (.replicate 32 0) (.replicate 12 0)) two_cameras := by
  have hchecks : checks (step (markedAead fun _ _ _ => true))
      (fun s _ => decide (s.writer.queued_bytes_ < kQueueLimit)) (.new (.replicate 32 0) (.replicate 12 0))
      two_cameras = true := by decide +kernel
  intro pre a post s he hr
  exact .of_lt a (of_decide_eq_true (meets_of_checks hchecks pre a post s he hr))

theorem two_cameras_drained {s : Outbound} (h : exec (step (markedAead fun _ _ _ => true))
    (.new (.replicate 32 0) (.replicate 12 0)) two_cameras = some s) : Drained 0 s := by
  have hall : ((exec (step (markedAead fun _ _ _ => true)) (.new (.replicate 32 0) (.replicate 12 0)) two_cameras).all
      fun s => decide ((s.sinks 0).place = .outside ∧ s.writer.queue_ = [] ∧ s.writer.drainer.in_hand = [] ∧
        s.writer.pushing = [])) = true := by decide +kernel
  rw [h, Option.all_some, decide_eq_true_eq] at hall
  obtain ⟨hplace, hqueue, hhand, hpushing⟩ := hall
  exact ⟨hplace, hqueue, hhand, hpushing⟩

theorem video_transparent_two : ∃ s, Run (step (markedAead fun _ _ _ => true))
      (.new (.replicate 32 0) (.replicate 12 0)) two_cameras s ∧ Drained 0 s ∧
    (∀ k ∈ s.writer.refused, k.message.channel ≠ .Video) ∧ (∀ c call, (s.sinks c).place ≠ .failed call) ∧
    ∀ chunks : List Bytes, chunks.flatten = s.writer.endpoint →
      let got := (drainInbound (markedAead fun _ _ _ => true) Ssl.works).feed
        (some (.new (.replicate 32 0) (.replicate 12 0), [])) chunks
      got.2.isSome ∧ ∀ c < kCameras, decoder_input c got.1 <+: (passed c two_cameras).flatten ∧
        (Drained c s → decoder_input c got.1 = (passed c two_cameras).flatten) := by
  obtain ⟨s, hs⟩ : ∃ s, exec (step (markedAead fun _ _ _ => true)) (.new (.replicate 32 0) (.replicate 12 0))
      two_cameras = some s := ⟨_, rfl⟩
  exact ⟨s, run_of_exec hs, two_cameras_drained hs,
    video_transparent markedAead_opens (run_of_exec hs) two_cameras_works two_cameras_below⟩

theorem whole_frames_two : ∃ s, Run (step (markedAead fun _ _ _ => true))
    (.new (.replicate 32 0) (.replicate 12 0)) two_cameras s ∧ Whole 0 two_cameras s := by
  obtain ⟨s, hs⟩ : ∃ s, exec (step (markedAead fun _ _ _ => true)) (.new (.replicate 32 0) (.replicate 12 0))
      two_cameras = some s := ⟨_, rfl⟩
  exact ⟨s, run_of_exec hs,
    whole_frames (run_of_exec hs) two_cameras_works (meets_steady two_cameras_below) (by decide)⟩

/-! ## A frame that crosses the limit -/

section Forward
variable {A : Aead} {s : Outbound} {c : Nat} (call : OnFrame) {k : Call}

theorem loop_asks (hp : (s.sinks c).place = .looping call) (hm : call.offset < call.frame.length)
    (hc : s.writer.callers c = .outside) : step A s (.loop c) = some
      ⟨{ s.writer with
          calls := s.writer.calls + 1
          callers := moved s.writer.callers c (.waiting ⟨s.writer.calls, c, call.message c, true⟩) },
        Function.update s.sinks c ((s.sinks c).enter (.enqueuing call))⟩ := by
  simp only [step, hp, hm, if_true, RecordWriter.step, hc, Option.map_some]

theorem loop_returns (hp : (s.sinks c).place = .looping call) (hm : call.frame.length ≤ call.offset) :
    step A s (.loop c) = some { s with sinks := Function.update s.sinks c ((s.sinks c).return call) } := by
  simp only [step, hp, if_neg (Nat.not_lt.2 hm)]

theorem lock_enters (hc : s.writer.callers c = .waiting k) (ho : s.writer.ordering_ = none) :
    step A s (.writer (.lock c)) = some { s with writer := { s.writer with
      ordering_ := some c
      callers := moved s.writer.callers c (.testing k) } } := by
  simp only [step, RecordWriter.step, hc, ho, Option.map_some, after]

theorem test_passes (hc : s.writer.callers c = .testing k) (hq : s.writer.queued_bytes_ < kQueueLimit)
    (hp : (s.sinks c).place = .enqueuing call) (hd : call.dropping = false) :
    step A s (.writer (.test c)) = some { s with
      writer := { s.writer with callers := moved s.writer.callers c (.sealing k) }
      sinks := Function.update s.sinks c ((s.sinks c).enter (.enqueuing call)) } := by
  have hn : ¬ (k.droppable = true ∧ kQueueLimit ≤ s.writer.queued_bytes_) := fun h => UInt64.not_le.2 hq h.2
  have hcall : (if call.offset = 0 then { call with dropping := false } else call) = call := by
    split
    · rw [← hd]
    · rfl
  simp only [step, RecordWriter.step, hc, if_neg hn, Option.map_some, after, within_enqueuing hp, back,
    RecordWriter.moved_self, Caller.call?, Option.isNone_some, Bool.false_eq_true, if_false, hcall]

theorem test_drops (hc : s.writer.callers c = .testing k) (hk : k.droppable = true)
    (hq : kQueueLimit ≤ s.writer.queued_bytes_) (hp : (s.sinks c).place = .enqueuing call) (h0 : call.offset ≠ 0) :
    step A s (.writer (.test c)) = some { s with
      writer := { s.writer with
        dropped_bytes_ := s.writer.dropped_bytes_ + UInt64.ofNat k.message.payload.length
        dropped := s.writer.dropped ++ [k]
        ordering_ := none
        callers := moved s.writer.callers c .outside }
      sinks := Function.update s.sinks c ((s.sinks c).enter (.looping call.next)) } := by
  simp only [step, RecordWriter.step, hc, hk, hq, and_self, if_true, Option.map_some, after, within_enqueuing hp, back,
    RecordWriter.moved_self, Caller.call?, Option.isNone_none, if_neg h0]

theorem make_seals (hc : s.writer.callers c = .sealing k) (hf : k.message.Fits)
    (hp : (s.sinks c).place = .enqueuing call) :
    step A s (.writer (.make_record c .ok)) = some { s with
      writer := { s.writer with
        encrypt_ := s.writer.encrypt_.next_nonce.2
        sealed := s.writer.sealed ++ [⟨k, framed A s.writer.encrypt_ k.message⟩]
        callers := moved s.writer.callers c (.pushing k (framed A s.writer.encrypt_ k.message)) }
      sinks := Function.update s.sinks c ((s.sinks c).enter (.enqueuing call)) } := by
  simp only [step, RecordWriter.step, hc, make_wire_record_fits A k.message _ hf, Option.map_some, after,
    within_enqueuing hp, back, RecordWriter.moved_self, Caller.call?, Option.isNone_some, Bool.false_eq_true, if_false]

theorem push_queues {wire : Bytes} (hc : s.writer.callers c = .pushing k wire)
    (hfit : total s.writer.queue_ + wire.length < 2 ^ 64) (hp : (s.sinks c).place = .enqueuing call) :
    step A s (.writer (.push c)) = some { s with
      writer := { s.writer with
        queued_bytes_ := s.writer.queued_bytes_ + UInt64.ofNat wire.length
        queue_ := s.writer.queue_ ++ [wire]
        ordering_ := none
        callers := moved s.writer.callers c .outside }
      sinks := Function.update s.sinks c ((s.sinks c).enter (.looping call.next)) } := by
  simp only [step, RecordWriter.step, hc, if_pos hfit, Option.map_some, after, within_enqueuing hp]

end Forward

/-- What `n` queued pieces of `frame` come to, with nobody else about. -/
structure Filled (c : Nat) (frame : Bytes) (n : Nat) (s : Outbound) : Prop where
  place : (s.sinks c).place = .looping ⟨frame, n * kChunk, false⟩
  returned : (s.sinks c).returned = []
  caller : s.writer.callers c = .outside
  ordering : s.writer.ordering_ = none
  counted : s.writer.queued_bytes_.toNat = n * (kChunk + 22)
  size : total s.writer.queue_ = n * (kChunk + 22)
  stream : (video c (sealed_messages s.writer)).length = n * kChunk

/-- One more piece is queued. -/
theorem Filled.next {A : Aead} {c : Nat} (hc : c < kCameras) {frame : Bytes} {n : Nat} {s : Outbound}
    (hF : Filled c frame n s) (hn : n < 64) (hlen : (n + 1) * kChunk ≤ frame.length) :
    ∃ s', Run (step A) s [.loop c, .writer (.lock c), .writer (.test c), .writer (.make_record c .ok),
      .writer (.push c)] s' ∧ Filled c frame (n + 1) s' := by
  obtain ⟨call, hcall⟩ : ∃ call, call = OnFrame.mk frame (n * kChunk) false := ⟨_, rfl⟩
  have hsucc : (n + 1) * kChunk = n * kChunk + kChunk := Nat.succ_mul _ _
  have hpos : 0 < kChunk := by decide
  have hmore : call.offset < call.frame.length := by rw [hcall]; dsimp only; omega
  have hpiece : call.piece.length = kChunk := by
    rw [hcall]
    simp only [OnFrame.piece, List.length_take, List.length_drop]
    omega
  have hplace : (s.sinks c).place = .looping call := by rw [hcall]; exact hF.place
  have hle : n * (kChunk + 22) ≤ 63 * (kChunk + 22) := Nat.mul_le_mul_right _ (by omega)
  have hbelow : s.writer.queued_bytes_ < kQueueLimit := by
    rw [UInt64.lt_iff_toNat_lt, hF.counted]
    have hlimit : 63 * (kChunk + 22) < kQueueLimit.toNat := by decide
    omega
  have hwire : (framed A s.writer.encrypt_ (call.message c)).length = kChunk + 22 := by
    rw [framed_length]
    simp only [OnFrame.message, hpiece]
    omega
  have hfit : total s.writer.queue_ + (framed A s.writer.encrypt_ (call.message c)).length < 2 ^ 64 := by
    rw [hF.size, hwire]
    have hlimit : 64 * (kChunk + 22) < 2 ^ 64 := by decide
    omega
  have r1 := Run.nil.snoc (loop_asks (A := A) call hplace hmore hF.caller)
  have r2 := r1.snoc (lock_enters (RecordWriter.moved_self _ _ _) hF.ordering)
  have r3 := r2.snoc (test_passes call (RecordWriter.moved_self _ _ _) hbelow
    (by simp [VideoSink.enter]) (by rw [hcall]))
  have r4 := r3.snoc (make_seals call (RecordWriter.moved_self _ _ _) (piece_fits c call)
    (by simp [VideoSink.enter]))
  have r5 := r4.snoc (push_queues call (RecordWriter.moved_self _ _ _) hfit (by simp [VideoSink.enter]))
  have hnext : (n + 1) * (kChunk + 22) = n * (kChunk + 22) + (kChunk + 22) := Nat.succ_mul _ _
  refine ⟨_, r5, ⟨?_, ?_, RecordWriter.moved_self _ _ _, rfl, ?_, ?_, ?_⟩⟩
  · simp [VideoSink.enter, OnFrame.next, hcall, hsucc]
  · simp [VideoSink.enter, hF.returned]
  · have hw : (UInt64.ofNat (kChunk + 22)).toNat = kChunk + 22 := by decide
    have hbound : 64 * (kChunk + 22) < 2 ^ 64 := by decide
    dsimp only
    rw [UInt64.toNat_add, hF.counted, hwire, hw, hnext]
    exact Nat.mod_eq_of_lt (by omega)
  · dsimp only
    rw [RecordWriter.total_append, RecordWriter.total_cons, hF.size, hwire, hnext]
    rfl
  · have hown := (message_stream call hc c).2 rfl
    simp only [sealed_messages, List.map_append, List.map_cons, List.map_nil, video_snoc, hown, and_self, if_true,
      List.length_append]
    rw [← sealed_messages, hF.stream, hsucc]
    exact congrArg (n * kChunk + ·) hpiece

/-- Up to the limit a frame's pieces are queued. -/
theorem filled (A : Aead) (key : Key) (iv : Iv) {c : Nat} (hc : c < kCameras) (frame : Bytes) (n : Nat) (hn : n ≤ 64)
    (hlen : n * kChunk ≤ frame.length) :
    ∃ as s, Run (step A) (.new key iv) as s ∧ (∀ a ∈ as, Works a) ∧ Filled c frame n s := by
  induction n with
  | zero =>
    have h1 : step A (.new key iv) (.on_frame c frame) = some { Outbound.new key iv with
        sinks := Function.update (Outbound.new key iv).sinks c
          (((Outbound.new key iv).sinks c).enter (.looping ⟨frame, 0, false⟩)) } := by
      simp only [step, Outbound.new, if_pos hc]
    refine ⟨_, _, Run.nil.snoc h1, by simp [Works], ?_⟩
    constructor <;> simp [Outbound.new, VideoSink.enter, RecordWriter.new, total, video, sealed_messages]
  | succ n ih =>
    have hsucc : (n + 1) * kChunk = n * kChunk + kChunk := Nat.succ_mul _ _
    obtain ⟨as, s, hr, hw, hF⟩ := ih (by omega) (by omega)
    obtain ⟨s', hr', hF'⟩ := hF.next (A := A) hc (by omega) hlen
    exact ⟨_, s', hr.trans hr', List.forall_mem_append.2 ⟨hw, by simp [Works]⟩, hF'⟩

/-- At the limit the last piece of a frame is dropped, and `on_frame` returns. -/
theorem Filled.cut {A : Aead} {c : Nat} {frame : Bytes} {s : Outbound} (hF : Filled c frame 64 s)
    (hlen : frame.length = 65 * kChunk) :
    ∃ s', Run (step A) s [.loop c, .writer (.lock c), .writer (.test c), .loop c] s' ∧
      (s'.sinks c).place = .outside ∧ (s'.sinks c).returned.map (·.frame) = [frame] ∧
      sealed_messages s'.writer = sealed_messages s.writer := by
  obtain ⟨call, hcall⟩ : ∃ call, call = OnFrame.mk frame (64 * kChunk) false := ⟨_, rfl⟩
  have hpos : 0 < kChunk := by decide
  have hplace : (s.sinks c).place = .looping call := by rw [hcall]; exact hF.place
  have hmore : call.offset < call.frame.length := by rw [hcall]; dsimp only; omega
  have hlimit : kQueueLimit ≤ s.writer.queued_bytes_ := by
    rw [UInt64.le_iff_toNat_le, hF.counted]
    decide
  have r1 := Run.nil.snoc (loop_asks (A := A) call hplace hmore hF.caller)
  have r2 := r1.snoc (lock_enters (RecordWriter.moved_self _ _ _) hF.ordering)
  have r3 := r2.snoc (test_drops call (RecordWriter.moved_self _ _ _) rfl hlimit (by simp [VideoSink.enter])
    (by rw [hcall]; dsimp only; omega))
  have r4 := r3.snoc (loop_returns (c := c) call.next (by simp [VideoSink.enter])
    (by rw [hcall]; dsimp only [OnFrame.next]; omega))
  refine ⟨_, r4, ?_, ?_, rfl⟩
  · simp [VideoSink.enter, VideoSink.return]
  · simp [VideoSink.enter, VideoSink.return, hF.returned, OnFrame.next, hcall]

/-- Sixty-four pieces fill the queue. Of a frame with sixty-five the last one is
dropped, and the record stream has the others. -/
theorem frame_cut : ¬ ∀ (A : Aead) (key : Key) (iv : Iv) (as : List Action) (s : Outbound),
    Run (step A) (.new key iv) as s → (∀ a ∈ as, Works a) → ∀ c < kCameras, Whole c as s := by
  intro h
  obtain ⟨frame, hframe⟩ : ∃ frame : Bytes, frame.length = 65 * kChunk := ⟨.replicate _ 0, List.length_replicate⟩
  have hc : 0 < kCameras := by decide
  obtain ⟨as, s, hr, hw, hF⟩ := filled (markedAead fun _ _ _ => true) (.replicate 32 0) (.replicate 12 0) hc frame 64
    (Nat.le_refl _) (by omega)
  obtain ⟨s', hr', hplace, hreturned, hsealed⟩ := hF.cut (A := markedAead fun _ _ _ => true) hframe
  have hrun := hr.trans hr'
  have hpassed : passed 0 _ = _ := run_passed 0 hrun
  have hworks := List.forall_mem_append.2 ⟨hw, show ∀ a ∈ [.loop 0, .writer (.lock 0), .writer (.test 0), .loop 0],
    Works a by simp [Works]⟩
  obtain ⟨kept, part, hkept, hpart, hseen⟩ := h _ _ _ _ _ hrun hworks 0 hc
  -- `frame` is the only frame passed, and nothing is in progress
  rw [hpassed, hreturned, hplace] at hkept
  rw [hplace] at hpart
  obtain rfl : part = [] := List.prefix_nil.1 hpart
  have hone : kept.Sublist [frame] := by simpa [Place.frame?, Place.call?] using hkept
  have hlen : (video 0 (sealed_messages s'.writer)).length = 64 * kChunk := by rw [hsealed, hF.stream]
  have hpos : 0 < kChunk := by decide
  rw [hseen, List.append_nil] at hlen
  obtain rfl | rfl := List.sublist_singleton.1 hone
  · rw [List.flatten_nil, List.length_nil] at hlen
    omega
  · rw [List.flatten_singleton, hframe] at hlen
    omega

end CameraStreamer.Secure.VideoSinks
