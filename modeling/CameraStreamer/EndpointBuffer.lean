import CameraStreamer.Lib.Runs
import CameraStreamer.ServeSession
/-!
# The endpoint's buffer

The loops of `SecureUsbServer::serve_session`, one step for each read of the
endpoint and each iteration of the inner loop. Nothing the host sends is
authenticated before it is buffered, so we bound the buffer, and the iterations,
over every sequence of reads.
-/

namespace CameraStreamer.Secure

open BigEndian Incremental Runs

/-! ## What `next` takes -/

/-- An answer without a record leaves the buffer as it is. -/
theorem next_kept {b b' : WireBuffer} {res : Except String (Option Bytes)} (h : WireBuffer.next b = (res, b'))
    (hn : ∀ wire, res ≠ .ok (some wire)) : b' = b := by
  unfold WireBuffer.next at h
  split at h
  · dsimp only at h
    split at h
    · exact (congrArg Prod.snd h).symm
    · split at h
      · exact (congrArg Prod.snd h).symm
      · exact absurd (congrArg Prod.fst h).symm (hn _)
  · exact (congrArg Prod.snd h).symm

/-- While more bytes are needed, the record they belong to is not too long. -/
theorem next_none {b b' : WireBuffer} (h : WireBuffer.next b = (.ok none, b')) : b.length < 4 + kMaxWireRecord := by
  unfold WireBuffer.next at h
  split at h
  · dsimp only at h
    split at h
    · cases h
    · split at h
      · rename_i hl hs
        omega
      · cases h
  · rename_i hb
    rcases b with _ | ⟨b0, _ | ⟨b1, _ | ⟨b2, _ | ⟨b3, rest⟩⟩⟩⟩
    · simp
    · simp [kMaxWireRecord, kMaxPayload]
    · simp [kMaxWireRecord, kMaxPayload]
    · simp [kMaxWireRecord, kMaxPayload]
    · exact absurd rfl (hb b0 b1 b2 b3 rest)

/-- The bytes that were waiting all belong to the record that completes them. -/
theorem next_waited {b x rest : WireBuffer} {wire : Bytes} (h4 : 4 ≤ b.length) (hb : WireBuffer.next b = (.ok none, b))
    (h : WireBuffer.next (b ++ x) = (.ok (some wire), rest)) : rest.length < x.length := by
  rcases b with _ | ⟨b0, _ | ⟨b1, _ | ⟨b2, _ | ⟨b3, tl⟩⟩⟩⟩ <;> try (simp at h4; done)
  simp only [WireBuffer.next, List.cons_append] at hb h
  split at hb
  · cases hb
  · rename_i hl
    rw [if_neg hl] at h
    split at hb
    · rename_i hs
      split at h
      · cases h
      · cases h
        simp only [List.length_drop, List.length_cons, List.length_append] at hs ⊢
        rename_i hfull
        simp only [List.length_cons, List.length_append] at hfull
        omega
    · cases hb

/-- The buffer's history: what was appended, what `next` returned, and what is left. -/
inductive Buffered : Bytes → List Bytes → WireBuffer → Prop
  | nil : Buffered [] [] []
  | append {appended records b} (data : Bytes) : Buffered appended records b →
      Buffered (appended ++ data) records (b.append data)
  | next {appended records b b' res} : Buffered appended records b → WireBuffer.next b = (res, b') →
      Buffered appended (records ++ (res.toOption.bind id).toList) b'

/-- The records that were returned and the rest of the buffer are what was appended. -/
theorem Buffered.conserved {appended b : Bytes} {records : List Bytes} (h : Buffered appended records b) :
    records.flatten ++ b = appended := by
  induction h with
  | nil => rfl
  | append data _ ih => rw [WireBuffer.append, ← List.append_assoc, ih]
  | @next appended records b b' res _ hn ih =>
    rcases res with e | _ | wire
    · rw [next_kept hn (by simp)]
      simpa [Except.toOption] using ih
    · rw [next_kept hn (by simp)]
      simpa [Except.toOption] using ih
    · obtain ⟨hb, -, -⟩ := next_some hn
      rw [← ih, hb]
      simp [Except.toOption]

/-! ## The loops -/

/-- `chunk` of `serve_session` -/
def kEndpointChunk : Nat := 16 * 1024

inductive Place where
  /-- At the read of the endpoint. -/
  | reading
  /-- At the test of the inner loop. -/
  | parsing
  /-- Behind the outer loop. -/
  | ended
  deriving DecidableEq

structure Serving where
  state : Demux
  stream : WireBuffer
  place : Place

def Serving.start : Serving := ⟨.new, [], .reading⟩

inductive Serving.Action where
  /-- The endpoint gave some bytes. -/
  | read (chunk : Bytes)
  /-- One iteration of the inner loop. -/
  | iterate
  /-- `stopping_`, a read that failed, or a session that is dead. -/
  | leave

namespace Serving
variable (D : Device)

def step (s : Serving) : Action → Option Serving
  | .read chunk =>
    if s.place = .reading ∧ chunk ≠ [] ∧ chunk.length ≤ kEndpointChunk then
      some ⟨s.state, s.stream.append chunk, .parsing⟩
    else none
  | .iterate =>
    if s.place = .parsing then
      match demux_turn D s.state s.stream with
      | .more _ state stream => some ⟨state, stream, .parsing⟩
      | .wait _ state stream => some ⟨state, stream, .reading⟩
      -- the ServerHello was not written: the hello is consumed, `endpoint_failed` is set
      | .stop _ => some ⟨{ (end_session s.state).2 with responds := s.state.responds + 1 },
          s.stream.consume kClientHelloSize, .ended⟩
    else none
  | .leave => if s.place = .reading then some ⟨(end_session s.state).2, s.stream, .ended⟩ else none

/-! ## One iteration -/

variable {D}

/-- What an iteration can come to. -/
theorem iterate_cases {s s' : Serving} (h : step D s .iterate = some s') :
    s.place = .parsing ∧
    ((∃ evs, demux_turn D s.state s.stream = .more evs s'.state s'.stream ∧ s'.place = .parsing) ∨
      (∃ evs, demux_turn D s.state s.stream = .wait evs s'.state s'.stream ∧ s'.place = .reading) ∨
      (∃ evs, demux_turn D s.state s.stream = .stop evs) ∧ s'.stream = s.stream.consume kClientHelloSize ∧
        s'.place = .ended) := by
  simp only [step] at h
  split at h
  · rename_i hp
    refine ⟨hp, ?_⟩
    split at h
    · rename_i evs state stream ht
      cases h
      exact .inl ⟨evs, ht, rfl⟩
    · rename_i evs state stream ht
      cases h
      exact .inr (.inl ⟨evs, ht, rfl⟩)
    · rename_i evs ht
      cases h
      exact .inr (.inr ⟨⟨evs, ht⟩, rfl, rfl⟩)
  · cases h

/-- An iteration that does not leave the inner loop has taken bytes off the buffer. -/
theorem iterate_shrinks {s s' : Serving} (h : step D s .iterate = some s') (hp : s'.place = .parsing) :
    s'.stream.length < s.stream.length := by
  obtain ⟨-, ⟨evs, ht, -⟩ | ⟨evs, -, hr⟩ | ⟨-, -, ho⟩⟩ := iterate_cases h
  · exact demux_shrinks ht
  · rw [hp] at hr; cases hr
  · rw [hp] at ho; cases ho

/-- The inner loop is left after at most one iteration for each byte and one more. It is
the loop `demux` drains with. -/
theorem iterates_leave (s : Serving) (hp : s.place = .parsing) :
    ∃ n ≤ s.stream.length + 1, ∃ s', exec (step D) s (List.replicate n .iterate) = some s' ∧ s'.place ≠ .parsing ∧
      ((demux D).drain s.state s.stream).2 = if s'.place = .reading then some (s'.state, s'.stream) else none := by
  induction hn : s.stream.length using Nat.strongRecOn generalizing s with
  | ind n ih =>
    cases ht : demux_turn D s.state s.stream with
    | more evs state stream =>
      have hs : step D s .iterate = some ⟨state, stream, .parsing⟩ := by simp only [step, if_pos hp, ht]
      have hlt : stream.length < n := hn ▸ demux_shrinks ht
      obtain ⟨m, hm, s', hrun, hleft, hdrain⟩ := ih stream.length hlt ⟨state, stream, .parsing⟩ rfl rfl
      refine ⟨m + 1, by omega, s', ?_, hleft, ?_⟩
      · rw [List.replicate_succ, exec, hs]
        exact hrun
      · rw [Parser.drain_more (demux D) ht]
        exact hdrain
    | wait evs state stream =>
      have hs : step D s .iterate = some ⟨state, stream, .reading⟩ := by simp only [step, if_pos hp, ht]
      refine ⟨1, by omega, ⟨state, stream, .reading⟩, ?_, by simp, ?_⟩
      · rw [List.replicate_one, exec, hs]
        rfl
      · rw [Parser.drain_wait (demux D) ht]
        rfl
    | stop evs =>
      refine ⟨1, by omega, ⟨{ (end_session s.state).2 with responds := s.state.responds + 1 },
        s.stream.consume kClientHelloSize, .ended⟩, ?_, by simp, ?_⟩
      · rw [List.replicate_one, exec, step, if_pos hp, ht]
        rfl
      · rw [Parser.drain_stop (demux D) ht]
        rfl

/-! ## The buffer's bound -/

/-- What waits for more bytes: a part of a hello, or of a record. -/
def Waiting (b : WireBuffer) : Prop :=
  b.length < kClientHelloSize ∨
    4 ≤ b.length ∧ b.starts_with kClientHelloMagic = false ∧ WireBuffer.next b = (.ok none, b)

theorem Waiting.bound {b : WireBuffer} (h : Waiting b) : b.length < 4 + kMaxWireRecord := by
  rcases h with h | ⟨-, -, h⟩
  · simp only [kClientHelloSize, kClientHelloMagic, List.length_cons, List.length_nil] at h
    simp only [kMaxWireRecord, kMaxPayload]
    omega
  · exact next_none h

theorem demux_waiting {s s' : Demux} {b rest : WireBuffer} {evs : List Served}
    (h : demux_turn D s b = .wait evs s' rest) : Waiting rest := by
  have hempty : Waiting [] := .inl (by decide)
  unfold demux_turn at h
  split at h
  · unfold hello_turn at h
    split at h
    · rename_i hl
      cases h
      exact .inl hl
    · dsimp only at h
      split at h
      · cases h
      · split at h <;> cases h
  · rename_i hm
    split at h
    · split at h
      · cases h; exact hempty
      · rename_i hl
        cases h
        exact .inl (by simp at hl; simp [hl, kClientHelloSize])
    · unfold record_turn at h
      split at h
      · cases h; exact hempty
      · rename_i stream hn
        cases h
        by_cases h4 : 4 ≤ rest.length
        · have hb := next_kept hn (by simp)
          subst hb
          exact .inr ⟨h4, by simpa using hm, hn⟩
        · exact .inl (by simp only [kClientHelloSize]; omega)
      · split at h
        · cases h; exact hempty
        · cases h

theorem demux_stops {s : Demux} {b : WireBuffer} {evs : List Served} (h : demux_turn D s b = .stop evs) :
    b.starts_with kClientHelloMagic = true := by
  unfold demux_turn at h
  split at h
  · assumption
  · split at h
    · split at h <;> cases h
    · unfold record_turn at h
      split at h
      · cases h
      · cases h
      · split at h <;> cases h

theorem starts_with_append {b : WireBuffer} (h4 : 4 ≤ b.length) (x : Bytes) :
    WireBuffer.starts_with (b ++ x) kClientHelloMagic = WireBuffer.starts_with b kClientHelloMagic := by
  have hm : kClientHelloMagic.length = 4 := rfl
  have hx : ¬ (b ++ x).length < 4 := by rw [List.length_append]; omega
  rw [WireBuffer.starts_with, WireBuffer.starts_with, hm, if_neg hx, if_neg (by omega),
    List.take_append_of_le_length h4]

/-- Within the inner loop: what waited for a record still stands in front, or there
is no more than one read and a part of a hello. -/
def Parsing (b : WireBuffer) : Prop :=
  b.length < kClientHelloSize + kEndpointChunk ∨
    ∃ old x, b = old ++ x ∧ x.length ≤ kEndpointChunk ∧ 4 ≤ old.length ∧
      WireBuffer.starts_with old kClientHelloMagic = false ∧ WireBuffer.next old = (.ok none, old)

theorem Waiting.read {b : WireBuffer} (h : Waiting b) {chunk : Bytes} (hc : chunk.length ≤ kEndpointChunk) :
    Parsing (b.append chunk) := by
  rcases h with h | ⟨h4, hm, hn⟩
  · left
    rw [WireBuffer.append, List.length_append]
    omega
  · exact .inr ⟨b, chunk, rfl, hc, h4, hm, hn⟩

theorem Parsing.more {s s' : Demux} {b rest : WireBuffer} {evs : List Served} (h : Parsing b)
    (ht : demux_turn D s b = .more evs s' rest) : Parsing rest := by
  left
  rcases h with h | ⟨old, x, rfl, hx, h4, hm, hn⟩
  · have := demux_shrinks ht
    omega
  · -- what waited was no hello, so this turn takes the record it belongs to
    unfold demux_turn at ht
    rw [starts_with_append h4, hm] at ht
    simp only [Bool.false_eq_true, if_false] at ht
    split at ht
    · split at ht <;> cases ht
    · obtain ⟨wire, m, r', hnext, -, -, -⟩ := record_more ht
      have := next_waited h4 hn hnext
      omega

theorem Parsing.stop {s : Demux} {b : WireBuffer} {evs : List Served} (h : Parsing b)
    (ht : demux_turn D s b = .stop evs) : b.length < kClientHelloSize + kEndpointChunk := by
  rcases h with h | ⟨old, x, rfl, -, h4, hm, -⟩
  · exact h
  · have hs := demux_stops ht
    rw [starts_with_append h4, hm] at hs
    cases hs

structure Bounded (s : Serving) : Prop where
  reading : s.place = .reading → Waiting s.stream
  parsing : s.place = .parsing → Parsing s.stream
  ended : s.place = .ended → s.stream.length < 4 + kMaxWireRecord

theorem Bounded.step {s s' : Serving} {a : Action} (hi : Bounded s) (h : Serving.step D s a = some s') :
    Bounded s' := by
  cases a with
  | read chunk =>
    simp only [Serving.step] at h
    split at h
    · rename_i hc
      cases h
      exact ⟨by simp, fun _ => (hi.reading hc.1).read hc.2.2, by simp⟩
    · cases h
  | leave =>
    simp only [Serving.step] at h
    split at h
    · rename_i hp
      cases h
      exact ⟨by simp, by simp, fun _ => (hi.reading hp).bound⟩
    · cases h
  | iterate =>
    obtain ⟨hp, ⟨evs, ht, hp'⟩ | ⟨evs, ht, hp'⟩ | ⟨⟨evs, ht⟩, hb, hp'⟩⟩ := iterate_cases h
    · exact ⟨by simp [hp'], fun _ => (hi.parsing hp).more ht, by simp [hp']⟩
    · exact ⟨fun _ => demux_waiting ht, by simp [hp'], by simp [hp']⟩
    · refine ⟨by simp [hp'], by simp [hp'], fun _ => ?_⟩
      have hlt := (hi.parsing hp).stop ht
      rw [hb, WireBuffer.consume, List.length_drop]
      simp only [kClientHelloSize, kClientHelloMagic, kEndpointChunk, List.length_cons, List.length_nil] at hlt
      simp only [kMaxWireRecord, kMaxPayload]
      omega

theorem bounded {as : List Action} {s : Serving} (hr : Run (step D) start as s) : Bounded s :=
  hr.inv Bounded ⟨fun _ => .inl (by decide), by simp [start], by simp [start]⟩ fun _ _ _ hi h => hi.step h

/-- Whatever the host sends, in whatever reads: outside the inner loop less than one
record of the greatest size is buffered, the inner loop is always left, and each of
its iterations before that consumes a byte. What `next` returns has the size of a
record, and nothing is lost or made up. -/
theorem hostile_input_bounded (D : Device) :
    (∀ as s, Run (step D) start as s →
      (s.place ≠ .parsing → s.stream.length < 4 + kMaxWireRecord) ∧
      (s.place = .parsing → ∃ n ≤ s.stream.length + 1, ∃ s',
        exec (step D) s (List.replicate n .iterate) = some s' ∧ s'.place ≠ .parsing) ∧
      ∀ s', step D s .iterate = some s' → s'.place = .parsing → s'.stream.length < s.stream.length) ∧
    (∀ b wire rest, WireBuffer.next b = (.ok (some wire), rest) →
      b = wire ++ rest ∧ 4 + 17 ≤ wire.length ∧ wire.length ≤ 4 + kMaxWireRecord) ∧
    (∀ b rest, WireBuffer.next b = (.ok none, rest) → rest = b) ∧
    (∀ b e rest, WireBuffer.next b = (.error e, rest) → rest = b) ∧
    ∀ appended records b, Buffered appended records b → records.flatten ++ b = appended := by
  refine ⟨?_, fun _ _ _ => next_some, ?_, ?_, fun _ _ _ => Buffered.conserved⟩
  · intro as s hr
    have hb := bounded hr
    refine ⟨?_, ?_, fun s' => iterate_shrinks⟩
    · intro hp
      cases hplace : s.place with
      | reading => exact (hb.reading hplace).bound
      | parsing => exact absurd hplace hp
      | ended => exact hb.ended hplace
    · intro hp
      obtain ⟨n, hn, s', hrun, hleft, -⟩ := iterates_leave (D := D) s hp
      exact ⟨n, hn, s', hrun, hleft⟩
  · intro b rest h
    exact next_kept h (by simp)
  · intro b e rest h
    exact next_kept h (by simp)

theorem first_read {chunk : Bytes} (hne : chunk ≠ []) (hc : chunk.length ≤ kEndpointChunk) :
    Run (step D) start [.read chunk] ⟨.new, chunk, .parsing⟩ :=
  .snoc .nil (if_pos ⟨rfl, hne, hc⟩)

/-- A hello and a record come in one read: the loop takes both and is left. -/
theorem hostile_input_bounded_one :
    (∃ n ≤ one_wire.length + 1, ∃ s', exec (step one_device) ⟨.new, one_wire, .parsing⟩ (List.replicate n .iterate) =
      some s' ∧ s'.place ≠ .parsing) ∧
    ∃ s', Run (step one_device) start [.read one_wire, .iterate, .iterate, .iterate] s' ∧ s'.place = .reading ∧
      s'.stream = [] ∧ s'.stream.length < 4 + kMaxWireRecord := by
  have hread : Run (step one_device) start [.read one_wire] ⟨.new, one_wire, .parsing⟩ :=
    first_read (by decide +kernel) (by decide +kernel)
  refine ⟨((hostile_input_bounded one_device).1 _ _ hread).2.1 rfl, ?_⟩
  have hparsed : (exec (step one_device) start [.read one_wire, .iterate, .iterate, .iterate]).map
      (fun s => (s.place, s.stream)) = some (.reading, []) := by decide +kernel
  obtain ⟨s', hexec, hs'⟩ := Option.map_eq_some_iff.1 hparsed
  have hr : Run (step one_device) start _ s' := run_of_exec hexec
  obtain ⟨hplace, hstream⟩ := Prod.mk.inj hs'
  exact ⟨s', hr, hplace, hstream, ((hostile_input_bounded one_device).1 _ _ hr).1 (by simp [hplace])⟩

end Serving

end CameraStreamer.Secure
