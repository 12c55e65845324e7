import CameraStreamer.HostInbound
import CameraStreamer.Lib.Runs
/-!
# The outbound queue

`RecordWriter`: any number of producers seal and queue records, one thread
drains the queue to the endpoint. The machine below has one step for each
section that a mutex protects and for each thing the drain thread does, so its
runs are the interleavings of the producers and the drain.
-/

namespace CameraStreamer.Secure

open Incremental Runs

def kQueueLimit : UInt64 := 4 * 1024 * 1024

/-- One call of `enqueue`; `id` numbers the calls in the order they are made. -/
structure Call where
  id : Nat
  producer : Nat
  message : WireMessage
  droppable : Bool
  deriving DecidableEq, Repr

/-- Where a producer's thread is in `enqueue`. -/
inductive Caller where
  | outside
  /-- Blocked on `ordering_`. -/
  | waiting (c : Call)
  /-- Holds `ordering_`, before the drop test. -/
  | testing (c : Call)
  /-- Holds `ordering_`, before `make_wire_record`. -/
  | sealing (c : Call)
  /-- Holds `ordering_`, before the record is queued. -/
  | pushing (c : Call) (wire : Bytes)

/-- The call a producer is in. -/
def Caller.call? : Caller → Option Call
  | .outside => none
  | .waiting c => some c
  | .testing c => some c
  | .sealing c => some c
  | .pushing c _ => some c

/-- The call a producer is in, while its outcome is open. -/
def Caller.open? : Caller → Option Call
  | .pushing _ _ => none
  | c => c.call?

/-- Between taking `ordering_` and letting go of it. -/
def Caller.locked : Caller → Bool
  | .outside => false
  | .waiting _ => false
  | _ => true

/-- The record that is sealed and not yet queued. -/
def Caller.pending : Caller → List Bytes
  | .pushing _ wire => [wire]
  | _ => []

/-- Where the drain thread is in `run`. -/
inductive Drainer where
  /-- At the top of the loop. -/
  | checking
  /-- In `wait_for`. -/
  | waiting
  /-- In `endpoint_write_all`, `offset` bytes of the record written. -/
  | writing (record : Bytes) (offset : Nat)
  /-- Out of the loop; `cut` is the record a failed write left off at, if one did. -/
  | exited (cut : Option (Bytes × Nat))

/-- The record taken off the queue and not yet written whole. -/
def Drainer.in_hand : Drainer → List Bytes
  | .writing record _ => [record]
  | .exited (some (record, _)) => [record]
  | _ => []

/-- What of that record was written. -/
def Drainer.part : Drainer → Bytes
  | .writing record offset => record.take offset
  | .exited (some (record, offset)) => record.take offset
  | _ => []

/-- A record `make_wire_record` produced, and the call it was for. -/
structure Sealed where
  call : Call
  wire : Bytes

/-- The fields of the class, the places of its threads, and what has happened:
`sealed`, `dropped` and `refused` are the calls by outcome, `sent` the records
written whole and `endpoint` the bytes written. -/
structure RecordWriter where
  encrypt_ : SecureRecord
  queue_ : List Bytes
  queued_bytes_ : UInt64
  dropped_bytes_ : UInt64
  dead_ : Bool
  ordering_ : Option Nat
  callers : Nat → Caller
  drainer : Drainer
  calls : Nat
  sealed : List Sealed
  dropped : List Call
  refused : List Call
  sent : List Bytes
  endpoint : Bytes

def RecordWriter.new (key : Key) (iv : Iv) : RecordWriter where
  encrypt_ := .new key iv
  queue_ := []
  queued_bytes_ := 0
  dropped_bytes_ := 0
  dead_ := false
  ordering_ := none
  callers _ := .outside
  drainer := .checking
  calls := 0
  sealed := []
  dropped := []
  refused := []
  sent := []
  endpoint := []

/-- The producers' places after `p` moved. -/
def moved (callers : Nat → Caller) (p : Nat) (c : Caller) : Nat → Caller := fun q => if q = p then c else callers q

/-- The size of the records together. -/
def total (records : List Bytes) : Nat := (records.map List.length).sum

/-- What the threads do. -/
inductive WriterAction where
  | call (p : Nat) (message : WireMessage) (droppable : Bool)
  /-- `p` gets `ordering_`. -/
  | lock (p : Nat)
  /-- The first `queue_mutex_` section of `enqueue`. -/
  | test (p : Nat)
  | make_record (p : Nat) (evp : Evp)
  /-- The second `queue_mutex_` section, and the return. -/
  | push (p : Nat)
  /-- The top of the drain loop. -/
  | check (should_end : Bool)
  /-- `wait_for` returns, on a signal or after its 100 ms, and the section goes on. -/
  | wake
  /-- `write` takes `n` bytes. -/
  | write (n : Nat)
  | write_fails
  /-- Some other thread ends the session. -/
  | die
  deriving DecidableEq, Repr

/-- One step. `push` needs the queue to fit the address space: the vectors it
holds are in memory. -/
def RecordWriter.step (A : Aead) (s : RecordWriter) : WriterAction → Option RecordWriter
  | .call p message droppable =>
    match s.callers p with
    | .outside =>
      some { s with calls := s.calls + 1, callers := moved s.callers p (.waiting ⟨s.calls, p, message, droppable⟩) }
    | _ => none
  | .lock p =>
    match s.callers p, s.ordering_ with
    | .waiting c, none => some { s with ordering_ := some p, callers := moved s.callers p (.testing c) }
    | _, _ => none
  | .test p =>
    match s.callers p with
    | .testing c =>
      if c.droppable = true ∧ kQueueLimit ≤ s.queued_bytes_ then
        -- `enqueue` returns true
        some { s with
          dropped_bytes_ := s.dropped_bytes_ + UInt64.ofNat c.message.payload.length
          dropped := s.dropped ++ [c]
          ordering_ := none
          callers := moved s.callers p .outside }
      else some { s with callers := moved s.callers p (.sealing c) }
    | _ => none
  | .make_record p evp =>
    match s.callers p with
    | .sealing c =>
      match make_wire_record A evp c.message.channel c.message.stream c.message.payload s.encrypt_ with
      | (.error _, encrypt) =>
        -- `enqueue` returns false
        some { s with
          encrypt_ := encrypt
          refused := s.refused ++ [c]
          ordering_ := none
          callers := moved s.callers p .outside }
      | (.ok wire, encrypt) =>
        some { s with
          encrypt_ := encrypt
          sealed := s.sealed ++ [⟨c, wire⟩]
          callers := moved s.callers p (.pushing c wire) }
    | _ => none
  | .push p =>
    match s.callers p with
    | .pushing _ wire =>
      if total s.queue_ + wire.length < 2 ^ 64 then
        some { s with
          queued_bytes_ := s.queued_bytes_ + UInt64.ofNat wire.length
          queue_ := s.queue_ ++ [wire]
          ordering_ := none
          callers := moved s.callers p .outside }
      else none
    | _ => none
  | .check should_end =>
    match s.drainer with
    | .checking =>
      if s.dead_ then some { s with drainer := .exited none }
      else if should_end then some { s with dead_ := true, drainer := .exited none }
      else some { s with drainer := .waiting }
    | _ => none
  | .wake =>
    match s.drainer, s.queue_ with
    | .waiting, [] => some { s with drainer := .checking }
    | .waiting, record :: queue =>
      some { s with
        queue_ := queue
        queued_bytes_ := s.queued_bytes_ - UInt64.ofNat record.length
        drainer := .writing record 0 }
    | _, _ => none
  | .write n =>
    match s.drainer with
    | .writing record offset =>
      if 0 < n ∧ offset + n < record.length then
        some { s with
          endpoint := s.endpoint ++ (record.drop offset).take n
          drainer := .writing record (offset + n) }
      else if offset + n = record.length then
        some { s with
          endpoint := s.endpoint ++ (record.drop offset).take n
          sent := s.sent ++ [record]
          drainer := .checking }
      else none
    | _ => none
  | .write_fails =>
    match s.drainer with
    | .writing record offset => some { s with dead_ := true, drainer := .exited (some (record, offset)) }
    | _ => none
  | .die => some { s with dead_ := true }

/-! ## What a step did -/

namespace RecordWriter
variable {A : Aead} {s s' : RecordWriter}

theorem step_call {p : Nat} {m : WireMessage} {d : Bool} (h : step A s (.call p m d) = some s') :
    s.callers p = .outside ∧
      s' = { s with calls := s.calls + 1, callers := moved s.callers p (.waiting ⟨s.calls, p, m, d⟩) } := by
  simp only [step] at h
  split at h
  · rename_i hp
    exact ⟨hp, (Option.some.inj h).symm⟩
  · cases h

theorem step_lock {p : Nat} (h : step A s (.lock p) = some s') :
    ∃ c, s.callers p = .waiting c ∧ s.ordering_ = none ∧
      s' = { s with ordering_ := some p, callers := moved s.callers p (.testing c) } := by
  simp only [step] at h
  split at h
  · rename_i c hp ho
    exact ⟨c, hp, ho, (Option.some.inj h).symm⟩
  · cases h

theorem step_test {p : Nat} (h : step A s (.test p) = some s') :
    ∃ c, s.callers p = .testing c ∧
      ((c.droppable = true ∧ kQueueLimit ≤ s.queued_bytes_ ∧
          s' = { s with
            dropped_bytes_ := s.dropped_bytes_ + UInt64.ofNat c.message.payload.length
            dropped := s.dropped ++ [c]
            ordering_ := none
            callers := moved s.callers p .outside }) ∨
        (¬ (c.droppable = true ∧ kQueueLimit ≤ s.queued_bytes_) ∧
          s' = { s with callers := moved s.callers p (.sealing c) })) := by
  simp only [step] at h
  split at h
  · rename_i c hp
    refine ⟨c, hp, ?_⟩
    split at h
    · rename_i hd
      exact .inl ⟨hd.1, hd.2, (Option.some.inj h).symm⟩
    · rename_i hd
      exact .inr ⟨hd, (Option.some.inj h).symm⟩
  · cases h

theorem step_make_record {p : Nat} {evp : Evp} (h : step A s (.make_record p evp) = some s') :
    ∃ c, s.callers p = .sealing c ∧
      ((∃ e encrypt,
          make_wire_record A evp c.message.channel c.message.stream c.message.payload s.encrypt_ = (.error e, encrypt) ∧
          s' = { s with
            encrypt_ := encrypt
            refused := s.refused ++ [c]
            ordering_ := none
            callers := moved s.callers p .outside }) ∨
        (∃ wire encrypt,
          make_wire_record A evp c.message.channel c.message.stream c.message.payload s.encrypt_ = (.ok wire, encrypt) ∧
          s' = { s with
            encrypt_ := encrypt
            sealed := s.sealed ++ [⟨c, wire⟩]
            callers := moved s.callers p (.pushing c wire) })) := by
  simp only [step] at h
  split at h
  · rename_i c hp
    refine ⟨c, hp, ?_⟩
    split at h
    · rename_i e encrypt hm
      exact .inl ⟨e, encrypt, hm, (Option.some.inj h).symm⟩
    · rename_i wire encrypt hm
      exact .inr ⟨wire, encrypt, hm, (Option.some.inj h).symm⟩
  · cases h

theorem step_push {p : Nat} (h : step A s (.push p) = some s') :
    ∃ c wire, s.callers p = .pushing c wire ∧ total s.queue_ + wire.length < 2 ^ 64 ∧
      s' = { s with
        queued_bytes_ := s.queued_bytes_ + UInt64.ofNat wire.length
        queue_ := s.queue_ ++ [wire]
        ordering_ := none
        callers := moved s.callers p .outside } := by
  simp only [step] at h
  split at h
  · rename_i c wire hp
    split at h
    · rename_i hfit
      exact ⟨c, wire, hp, hfit, (Option.some.inj h).symm⟩
    · cases h
  · cases h

theorem step_check {e : Bool} (h : step A s (.check e) = some s') :
    s.drainer = .checking ∧ ∃ dead drainer, s' = { s with dead_ := dead, drainer := drainer } ∧
      (drainer = .waiting ∨ drainer = .exited none) := by
  simp only [step] at h
  split at h
  · rename_i hd
    refine ⟨hd, ?_⟩
    split at h
    · exact ⟨s.dead_, _, (Option.some.inj h).symm, .inr rfl⟩
    split at h
    · exact ⟨true, _, (Option.some.inj h).symm, .inr rfl⟩
    · exact ⟨s.dead_, _, (Option.some.inj h).symm, .inl rfl⟩
  · cases h

theorem step_wake (h : step A s .wake = some s') :
    s.drainer = .waiting ∧
      ((s.queue_ = [] ∧ s' = { s with drainer := .checking }) ∨
        ∃ record queue, s.queue_ = record :: queue ∧
          s' = { s with
            queue_ := queue
            queued_bytes_ := s.queued_bytes_ - UInt64.ofNat record.length
            drainer := .writing record 0 }) := by
  simp only [step] at h
  split at h
  · rename_i hd hq
    exact ⟨hd, .inl ⟨hq, (Option.some.inj h).symm⟩⟩
  · rename_i record queue hd hq
    exact ⟨hd, .inr ⟨record, queue, hq, (Option.some.inj h).symm⟩⟩
  · cases h

theorem step_write {n : Nat} (h : step A s (.write n) = some s') :
    ∃ record offset, s.drainer = .writing record offset ∧
      ((0 < n ∧ offset + n < record.length ∧
          s' = { s with
            endpoint := s.endpoint ++ (record.drop offset).take n
            drainer := .writing record (offset + n) }) ∨
        (offset + n = record.length ∧
          s' = { s with
            endpoint := s.endpoint ++ (record.drop offset).take n
            sent := s.sent ++ [record]
            drainer := .checking })) := by
  simp only [step] at h
  split at h
  · rename_i record offset hd
    refine ⟨record, offset, hd, ?_⟩
    split at h
    · rename_i hn
      exact .inl ⟨hn.1, hn.2, (Option.some.inj h).symm⟩
    split at h
    · rename_i hn
      exact .inr ⟨hn, (Option.some.inj h).symm⟩
    · cases h
  · cases h

theorem step_write_fails (h : step A s .write_fails = some s') :
    ∃ record offset, s.drainer = .writing record offset ∧
      s' = { s with dead_ := true, drainer := .exited (some (record, offset)) } := by
  simp only [step] at h
  split at h
  · rename_i record offset hd
    exact ⟨record, offset, hd, (Option.some.inj h).symm⟩
  · cases h

theorem step_die (h : step A s .die = some s') : s' = { s with dead_ := true } := (Option.some.inj h).symm

/-! ## Who holds the lock -/

@[simp] theorem moved_self (callers : Nat → Caller) (p : Nat) (c : Caller) : moved callers p c p = c := if_pos rfl

theorem moved_other (callers : Nat → Caller) {p q : Nat} (c : Caller) (h : q ≠ p) : moved callers p c q = callers q :=
  if_neg h

/-- Only the holder of `ordering_` is inside, and each producer is in a call of its own. -/
structure Locks (s : RecordWriter) : Prop where
  held : ∀ p, (s.callers p).locked → s.ordering_ = some p
  own : ∀ p c, (s.callers p).call? = some c → c.producer = p

/-- A producer that moves within one call keeps the rest as it was. -/
theorem Locks.move {s : RecordWriter} (hI : Locks s) (p : Nat) (c : Caller) (ordering : Option Nat)
    (hown : ∀ call, c.call? = some call → call.producer = p)
    (hself : c.locked → ordering = some p)
    (hother : ordering = s.ordering_ ∨ s.ordering_ = none ∨ s.ordering_ = some p) :
    (∀ q, (moved s.callers p c q).locked → ordering = some q) ∧
      ∀ q call, (moved s.callers p c q).call? = some call → call.producer = q := by
  constructor
  · intro q hq
    by_cases hqp : q = p
    · subst hqp
      rw [moved_self] at hq
      exact hself hq
    · rw [moved_other _ _ hqp] at hq
      have hh := hI.held q hq
      rcases hother with ho | ho | ho
      · rw [ho]; exact hh
      · rw [ho] at hh; cases hh
      · rw [ho] at hh
        exact absurd (Option.some.inj hh).symm hqp
  · intro q call hq
    by_cases hqp : q = p
    · subst hqp
      rw [moved_self] at hq
      exact hown call hq
    · rw [moved_other _ _ hqp] at hq
      exact hI.own q call hq

theorem step_locks (a : WriterAction) (hI : Locks s) (h : step A s a = some s') : Locks s' := by
  cases a with
  | call p m d =>
    obtain ⟨hp, rfl⟩ := step_call h
    obtain ⟨h1, h2⟩ := hI.move p (.waiting ⟨s.calls, p, m, d⟩) s.ordering_
      (by rintro _ ⟨⟩; rfl) (by rintro ⟨⟩) (.inl rfl)
    exact ⟨h1, h2⟩
  | lock p =>
    obtain ⟨c, hp, ho, rfl⟩ := step_lock h
    obtain ⟨h1, h2⟩ := hI.move p (.testing c) (some p)
      (by rintro _ ⟨⟩; exact hI.own p c (by rw [hp]; rfl)) (fun _ => rfl) (.inr (.inl ho))
    exact ⟨h1, h2⟩
  | test p =>
    obtain ⟨c, hp, ⟨-, -, rfl⟩ | ⟨-, rfl⟩⟩ := step_test h
    · obtain ⟨h1, h2⟩ := hI.move p .outside none (by rintro _ ⟨⟩) (by rintro ⟨⟩)
        (.inr (.inr (hI.held p (by rw [hp]; rfl))))
      exact ⟨h1, h2⟩
    · obtain ⟨h1, h2⟩ := hI.move p (.sealing c) s.ordering_
        (by rintro _ ⟨⟩; exact hI.own p c (by rw [hp]; rfl)) (fun _ => hI.held p (by rw [hp]; rfl)) (.inl rfl)
      exact ⟨h1, h2⟩
  | make_record p evp =>
    obtain ⟨c, hp, ⟨e, encrypt, -, rfl⟩ | ⟨wire, encrypt, -, rfl⟩⟩ := step_make_record h
    · obtain ⟨h1, h2⟩ := hI.move p .outside none (by rintro _ ⟨⟩) (by rintro ⟨⟩)
        (.inr (.inr (hI.held p (by rw [hp]; rfl))))
      exact ⟨h1, h2⟩
    · obtain ⟨h1, h2⟩ := hI.move p (.pushing c wire) s.ordering_
        (by rintro _ ⟨⟩; exact hI.own p c (by rw [hp]; rfl)) (fun _ => hI.held p (by rw [hp]; rfl)) (.inl rfl)
      exact ⟨h1, h2⟩
  | push p =>
    obtain ⟨c, wire, hp, -, rfl⟩ := step_push h
    obtain ⟨h1, h2⟩ := hI.move p .outside none (by rintro _ ⟨⟩) (by rintro ⟨⟩)
      (.inr (.inr (hI.held p (by rw [hp]; rfl))))
    exact ⟨h1, h2⟩
  | check e => obtain ⟨-, dead, drainer, rfl, -⟩ := step_check h; exact ⟨hI.held, hI.own⟩
  | wake =>
    obtain ⟨-, ⟨-, rfl⟩ | ⟨record, queue, -, rfl⟩⟩ := step_wake h
    · exact ⟨hI.held, hI.own⟩
    · exact ⟨hI.held, hI.own⟩
  | write n =>
    obtain ⟨record, offset, -, ⟨-, -, rfl⟩ | ⟨-, rfl⟩⟩ := step_write h
    · exact ⟨hI.held, hI.own⟩
    · exact ⟨hI.held, hI.own⟩
  | write_fails => obtain ⟨record, offset, -, rfl⟩ := step_write_fails h; exact ⟨hI.held, hI.own⟩
  | die => rw [step_die h]; exact ⟨hI.held, hI.own⟩

/-! ## Where the sealed records are -/

/-- The record between `make_wire_record` and the queue. -/
def pushing (s : RecordWriter) : List Bytes :=
  match s.ordering_ with
  | some p => (s.callers p).pending
  | none => []

/-- Every sealed record is written, in hand, queued or about to be queued, in this order. -/
def Accounted (s : RecordWriter) : Prop :=
  s.sealed.map (·.wire) = s.sent ++ (s.drainer.in_hand ++ (s.queue_ ++ s.pushing))

/-- The lock passes from `p`, who had nothing to push, with nothing to push. -/
theorem pushing_moved (s : RecordWriter) (p : Nat) (c : Caller) (h : c.pending = (s.callers p).pending) :
    pushing { s with callers := moved s.callers p c } = s.pushing := by
  simp only [pushing]
  cases s.ordering_ with
  | none => rfl
  | some q =>
    by_cases hqp : q = p
    · subst hqp; simp [h]
    · simp only [moved_other _ _ hqp]

theorem step_accounted (a : WriterAction) (hL : Locks s) (hI : Accounted s) (h : step A s a = some s') :
    Accounted s' := by
  cases a with
  | call p m d =>
    obtain ⟨hp, rfl⟩ := step_call h
    have := pushing_moved s p (.waiting ⟨s.calls, p, m, d⟩) (by rw [hp]; rfl)
    simp only [Accounted, pushing] at hI this ⊢
    rw [this]; exact hI
  | lock p =>
    obtain ⟨c, hp, ho, rfl⟩ := step_lock h
    simpa [Accounted, pushing, ho, Caller.pending] using hI
  | test p =>
    obtain ⟨c, hp, ⟨-, -, rfl⟩ | ⟨-, rfl⟩⟩ := step_test h
    · have ho := hL.held p (by rw [hp]; rfl)
      simpa [Accounted, pushing, ho, hp, Caller.pending] using hI
    · have ho := hL.held p (by rw [hp]; rfl)
      simpa [Accounted, pushing, ho, hp, Caller.pending] using hI
  | make_record p evp =>
    obtain ⟨c, hp, ⟨e, encrypt, -, rfl⟩ | ⟨wire, encrypt, -, rfl⟩⟩ := step_make_record h
    · have ho := hL.held p (by rw [hp]; rfl)
      simpa [Accounted, pushing, ho, hp, Caller.pending] using hI
    · have ho := hL.held p (by rw [hp]; rfl)
      simp only [Accounted, pushing, ho, hp, Caller.pending, List.append_nil] at hI
      simp [Accounted, pushing, ho, Caller.pending, hI]
  | push p =>
    obtain ⟨c, wire, hp, -, rfl⟩ := step_push h
    have ho := hL.held p (by rw [hp]; rfl)
    simpa [Accounted, pushing, ho, hp, Caller.pending] using hI
  | check e =>
    obtain ⟨hd, dead, drainer, rfl, rfl | rfl⟩ := step_check h
    · simpa [Accounted, pushing, hd, Drainer.in_hand] using hI
    · simpa [Accounted, pushing, hd, Drainer.in_hand] using hI
  | wake =>
    obtain ⟨hd, ⟨-, rfl⟩ | ⟨record, queue, hq, rfl⟩⟩ := step_wake h
    · simpa [Accounted, pushing, hd, Drainer.in_hand] using hI
    · simpa [Accounted, pushing, hd, hq, Drainer.in_hand] using hI
  | write n =>
    obtain ⟨record, offset, hd, ⟨-, -, rfl⟩ | ⟨-, rfl⟩⟩ := step_write h
    · simpa [Accounted, pushing, hd, Drainer.in_hand] using hI
    · simpa [Accounted, pushing, hd, Drainer.in_hand] using hI
  | write_fails =>
    obtain ⟨record, offset, hd, rfl⟩ := step_write_fails h
    simpa [Accounted, pushing, hd, Drainer.in_hand] using hI
  | die => rw [step_die h]; exact hI

/-! ## The byte count -/

theorem total_append (xs ys : List Bytes) : total (xs ++ ys) = total xs + total ys := by
  simp [total]

theorem total_cons (x : Bytes) (xs : List Bytes) : total (x :: xs) = x.length + total xs := by
  simp [total]

/-- `queued_bytes_` is the size of the queue. -/
def Counted (s : RecordWriter) : Prop := s.queued_bytes_.toNat = total s.queue_

theorem step_counted (a : WriterAction) (hI : Counted s) (h : step A s a = some s') : Counted s' := by
  cases a with
  | call p m d => obtain ⟨-, rfl⟩ := step_call h; exact hI
  | lock p => obtain ⟨c, -, -, rfl⟩ := step_lock h; exact hI
  | test p => obtain ⟨c, -, ⟨-, -, rfl⟩ | ⟨-, rfl⟩⟩ := step_test h <;> exact hI
  | make_record p evp => obtain ⟨c, -, ⟨e, r, -, rfl⟩ | ⟨wire, r, -, rfl⟩⟩ := step_make_record h <;> exact hI
  | push p =>
    obtain ⟨c, wire, -, hfit, rfl⟩ := step_push h
    simp only [Counted, total_append, total_cons] at hI ⊢
    have hw : (UInt64.ofNat wire.length).toNat = wire.length :=
      UInt64.toNat_ofNat_of_lt' (Nat.lt_of_le_of_lt (Nat.le_add_left _ _) hfit)
    rw [UInt64.toNat_add, hw, hI, Nat.mod_eq_of_lt hfit]
    rfl
  | check e => obtain ⟨-, dead, drainer, rfl, -⟩ := step_check h; exact hI
  | wake =>
    obtain ⟨-, ⟨-, rfl⟩ | ⟨record, queue, hq, rfl⟩⟩ := step_wake h
    · exact hI
    · -- what is subtracted was counted in when the record was queued
      simp only [Counted, hq, total_cons] at hI ⊢
      have hlt := s.queued_bytes_.toNat_lt
      have hr : (UInt64.ofNat record.length).toNat = record.length :=
        UInt64.toNat_ofNat_of_lt' (by simp only [UInt64.size]; omega)
      rw [UInt64.toNat_sub_of_le _ _ (UInt64.le_iff_toNat_le.2 (by rw [hr]; omega)), hr, hI]
      omega
  | write n => obtain ⟨record, offset, -, ⟨-, -, rfl⟩ | ⟨-, rfl⟩⟩ := step_write h <;> exact hI
  | write_fails => obtain ⟨record, offset, -, rfl⟩ := step_write_fails h; exact hI
  | die => rw [step_die h]; exact hI

/-! ## The endpoint -/

/-- What reached the endpoint: whole records, and a part of the one in hand. -/
def Written (s : RecordWriter) : Prop := s.endpoint = s.sent.flatten ++ s.drainer.part

theorem step_written (a : WriterAction) (hI : Written s) (h : step A s a = some s') : Written s' := by
  cases a with
  | call p m d => obtain ⟨-, rfl⟩ := step_call h; exact hI
  | lock p => obtain ⟨c, -, -, rfl⟩ := step_lock h; exact hI
  | test p => obtain ⟨c, -, ⟨-, -, rfl⟩ | ⟨-, rfl⟩⟩ := step_test h <;> exact hI
  | make_record p evp => obtain ⟨c, -, ⟨e, r, -, rfl⟩ | ⟨wire, r, -, rfl⟩⟩ := step_make_record h <;> exact hI
  | push p => obtain ⟨c, wire, -, -, rfl⟩ := step_push h; exact hI
  | check e =>
    obtain ⟨hd, dead, drainer, rfl, rfl | rfl⟩ := step_check h
    · simpa [Written, hd, Drainer.part] using hI
    · simpa [Written, hd, Drainer.part] using hI
  | wake =>
    obtain ⟨hd, ⟨-, rfl⟩ | ⟨record, queue, -, rfl⟩⟩ := step_wake h
    · simpa [Written, hd, Drainer.part] using hI
    · simpa [Written, hd, Drainer.part] using hI
  | write n =>
    obtain ⟨record, offset, hd, hw⟩ := step_write h
    simp only [Written, hd, Drainer.part] at hI
    rcases hw with ⟨-, -, rfl⟩ | ⟨hn, rfl⟩
    · simp only [Written, Drainer.part, hI, List.append_assoc, List.take_add]
    · have : record.take offset ++ (record.drop offset).take n = record := by
        rw [← List.take_add, hn, List.take_length]
      simp [Written, Drainer.part, hI, this]
  | write_fails =>
    obtain ⟨record, offset, hd, rfl⟩ := step_write_fails h
    simpa [Written, hd, Drainer.part] using hI
  | die => rw [step_die h]; exact hI

/-! ## The order of the calls -/

/-- The calls whose outcome is settled, those refused apart. -/
def settled (s : RecordWriter) : List Call := s.sealed.map (·.call) ++ s.dropped

/-- Calls are numbered as they are made, and a producer's earlier calls are
settled before its current one. -/
structure Ordered (s : RecordWriter) : Prop where
  made : ∀ p c, (s.callers p).call? = some c → c.id < s.calls
  settled_made : ∀ x ∈ s.settled, x.id < s.calls
  fresh : ∀ p c, (s.callers p).open? = some c → ∀ x ∈ s.settled, x.producer = c.producer → x.id < c.id
  pairwise : s.sealed.Pairwise fun x y => x.call.producer = y.call.producer → x.call.id < y.call.id
  droppable : ∀ c ∈ s.dropped, c.droppable = true ∧ ∀ x ∈ s.sealed, x.call ≠ c

theorem call_of_open {c : Caller} {call : Call} (h : c.open? = some call) : c.call? = some call := by
  cases c <;> first | exact h | cases h

/-- A producer may move on in its call, or leave it. -/
theorem Ordered.move {s : RecordWriter} (hI : Ordered s) (p : Nat) (c : Caller)
    (hcall : ∀ call, c.call? = some call → (s.callers p).call? = some call)
    (hopen : ∀ call, c.open? = some call → (s.callers p).open? = some call) :
    (∀ q call, (moved s.callers p c q).call? = some call → call.id < s.calls) ∧
      ∀ q call, (moved s.callers p c q).open? = some call →
        ∀ x ∈ s.settled, x.producer = call.producer → x.id < call.id := by
  constructor
  · intro q call hq
    by_cases hqp : q = p
    · subst hqp
      exact hI.made q call (hcall call (by simpa using hq))
    · exact hI.made q call (by rwa [moved_other _ _ hqp] at hq)
  · intro q call hq
    by_cases hqp : q = p
    · subst hqp
      exact hI.fresh q call (hopen call (by simpa using hq))
    · exact hI.fresh q call (by rwa [moved_other _ _ hqp] at hq)

/-- Settling `p`'s call leaves the others' calls fresh: they are other producers'. -/
theorem Ordered.settle {s : RecordWriter} (hL : Locks s) (hI : Ordered s) (p : Nat) (c : Caller) (settling : Call)
    (hp : (s.callers p).call? = some settling) (hc : c.open? = none) (q : Nat) (call : Call)
    (hq : (moved s.callers p c q).open? = some call) (x : Call) (hx : x ∈ s.settled ∨ x = settling)
    (hsame : x.producer = call.producer) : x.id < call.id := by
  by_cases hqp : q = p
  · subst hqp
    rw [moved_self, hc] at hq
    cases hq
  · rw [moved_other _ _ hqp] at hq
    rcases hx with hx | rfl
    · exact hI.fresh q call hq x hx hsame
    · have h1 := hL.own p x hp
      have h2 := hL.own q call (call_of_open hq)
      exact absurd (h2.symm.trans (hsame.symm.trans h1)) hqp

theorem step_ordered (a : WriterAction) (hL : Locks s) (hI : Ordered s) (h : step A s a = some s') : Ordered s' := by
  cases a with
  | call p m d =>
    obtain ⟨hp, rfl⟩ := step_call h
    refine ⟨fun q c hq => ?_, fun x hx => Nat.lt_succ_of_lt (hI.settled_made x hx), fun q c hq x hx hsame => ?_,
      hI.pairwise, hI.droppable⟩
    · dsimp only at hq
      by_cases hqp : q = p
      · subst hqp
        rw [moved_self] at hq
        cases hq
        exact Nat.lt_succ_self _
      · rw [moved_other _ _ hqp] at hq
        exact Nat.lt_succ_of_lt (hI.made q c hq)
    · dsimp only at hq
      by_cases hqp : q = p
      · subst hqp
        rw [moved_self] at hq
        cases hq
        exact hI.settled_made x hx
      · rw [moved_other _ _ hqp] at hq
        exact hI.fresh q c hq x hx hsame
  | lock p =>
    obtain ⟨c, hp, -, rfl⟩ := step_lock h
    obtain ⟨h1, h2⟩ := hI.move p (.testing c) (by rw [hp]; exact fun _ h => h) (by rw [hp]; exact fun _ h => h)
    exact ⟨h1, hI.settled_made, h2, hI.pairwise, hI.droppable⟩
  | test p =>
    obtain ⟨c, hp, ⟨hd, -, rfl⟩ | ⟨-, rfl⟩⟩ := step_test h
    · obtain ⟨h1, -⟩ := hI.move p .outside (by rintro _ ⟨⟩) (by rintro _ ⟨⟩)
      have hset : ∀ x, x ∈ s.sealed.map (·.call) ++ (s.dropped ++ [c]) ↔ x ∈ s.settled ∨ x = c := by
        intro x; simp [settled, or_assoc]
      have hpc : (s.callers p).call? = some c := by rw [hp]; rfl
      refine ⟨h1, fun x hx => ?_, fun q call hq x hx => ?_, hI.pairwise, fun d hd' => ?_⟩
      · rcases (hset x).1 hx with hx | rfl
        · exact hI.settled_made x hx
        · exact hI.made p x hpc
      · exact hI.settle hL p .outside c hpc rfl q call hq x ((hset x).1 hx)
      · rcases List.mem_append.1 hd' with hd' | hd'
        · exact hI.droppable d hd'
        · rw [List.mem_singleton] at hd'
          subst hd'
          refine ⟨hd, ?_⟩
          rintro x hx rfl
          have := hI.fresh p x.call (by rw [hp]; rfl) x.call
            (List.mem_append.2 (.inl (List.mem_map_of_mem hx))) rfl
          omega
    · obtain ⟨h1, h2⟩ := hI.move p (.sealing c) (by rw [hp]; exact fun _ h => h) (by rw [hp]; exact fun _ h => h)
      exact ⟨h1, hI.settled_made, h2, hI.pairwise, hI.droppable⟩
  | make_record p evp =>
    obtain ⟨c, hp, ⟨e, encrypt, -, rfl⟩ | ⟨wire, encrypt, -, rfl⟩⟩ := step_make_record h
    · obtain ⟨h1, h2⟩ := hI.move p .outside (by rintro _ ⟨⟩) (by rintro _ ⟨⟩)
      exact ⟨h1, hI.settled_made, h2, hI.pairwise, hI.droppable⟩
    · obtain ⟨h1, -⟩ := hI.move p (.pushing c wire) (by rw [hp]; exact fun _ h => h) (by rintro _ ⟨⟩)
      have hset : ∀ x, x ∈ (s.sealed ++ [Sealed.mk c wire]).map (·.call) ++ s.dropped ↔ x ∈ s.settled ∨ x = c := by
        intro x; simp only [settled, List.map_append, List.mem_append, List.map_cons, List.map_nil, List.mem_singleton]
        exact or_right_comm
      have hpc : (s.callers p).call? = some c := by rw [hp]; rfl
      have hfresh := hI.fresh p c (by rw [hp]; rfl)
      refine ⟨h1, fun x hx => ?_, fun q call hq x hx => ?_, ?_, fun d hd => ⟨(hI.droppable d hd).1, fun x hx => ?_⟩⟩
      · rcases (hset x).1 hx with hx | rfl
        · exact hI.settled_made x hx
        · exact hI.made p x hpc
      · exact hI.settle hL p (.pushing c wire) c hpc rfl q call hq x ((hset x).1 hx)
      · refine List.pairwise_append.2 ⟨hI.pairwise, List.pairwise_singleton _ _, fun x hx y hy => ?_⟩
        rw [List.mem_singleton] at hy
        subst hy
        exact hfresh x.call (List.mem_append.2 (.inl (List.mem_map_of_mem hx)))
      · rcases List.mem_append.1 hx with hx | hx
        · exact (hI.droppable d hd).2 x hx
        · rw [List.mem_singleton] at hx
          subst hx
          rintro rfl
          exact Nat.lt_irrefl _ (hfresh c (List.mem_append.2 (.inr hd)) rfl)
  | push p =>
    obtain ⟨c, wire, hp, -, rfl⟩ := step_push h
    obtain ⟨h1, h2⟩ := hI.move p .outside (by rintro _ ⟨⟩) (by rintro _ ⟨⟩)
    exact ⟨h1, hI.settled_made, h2, hI.pairwise, hI.droppable⟩
  | check e =>
    obtain ⟨-, dead, drainer, rfl, -⟩ := step_check h
    exact { hI with }
  | wake =>
    obtain ⟨-, ⟨-, rfl⟩ | ⟨record, queue, -, rfl⟩⟩ := step_wake h <;>
      exact { hI with }
  | write n =>
    obtain ⟨record, offset, -, ⟨-, -, rfl⟩ | ⟨-, rfl⟩⟩ := step_write h <;>
      exact { hI with }
  | write_fails =>
    obtain ⟨record, offset, -, rfl⟩ := step_write_fails h
    exact { hI with }
  | die =>
    rw [step_die h]
    exact { hI with }

/-! ## What was asked -/

/-- The messages in hand and those refused are ones that `enqueue` was called with. -/
def Asked (P : WireMessage → Prop) (s : RecordWriter) : Prop :=
  (∀ p c, (s.callers p).call? = some c → P c.message) ∧ ∀ c ∈ s.refused, P c.message

theorem Asked.move {P : WireMessage → Prop} (hI : Asked P s) (p : Nat) (c : Caller)
    (hc : ∀ call, c.call? = some call → P call.message) (q : Nat) (call : Call)
    (hq : (moved s.callers p c q).call? = some call) : P call.message := by
  by_cases hqp : q = p
  · subst hqp
    exact hc call (by rwa [moved_self] at hq)
  · exact hI.1 q call (by rwa [moved_other _ _ hqp] at hq)

theorem step_asked {P : WireMessage → Prop} (a : WriterAction) (ha : ∀ p m d, a = .call p m d → P m)
    (hI : Asked P s) (h : step A s a = some s') : Asked P s' := by
  cases a with
  | call p m d =>
    obtain ⟨-, rfl⟩ := step_call h
    exact ⟨hI.move p _ (by rintro _ ⟨⟩; exact ha p m d rfl), hI.2⟩
  | lock p =>
    obtain ⟨c, hp, -, rfl⟩ := step_lock h
    exact ⟨hI.move p _ fun call hc => hI.1 p call (by rw [hp]; exact hc), hI.2⟩
  | test p =>
    obtain ⟨c, hp, ⟨-, -, rfl⟩ | ⟨-, rfl⟩⟩ := step_test h
    · exact ⟨hI.move p _ (by rintro _ ⟨⟩), hI.2⟩
    · exact ⟨hI.move p _ fun call hc => hI.1 p call (by rw [hp]; exact hc), hI.2⟩
  | make_record p evp =>
    obtain ⟨c, hp, ⟨e, encrypt, -, rfl⟩ | ⟨wire, encrypt, -, rfl⟩⟩ := step_make_record h
    · have hasked := hI.1 p c (by rw [hp]; rfl)
      refine ⟨hI.move p _ (by rintro _ ⟨⟩), ?_⟩
      exact List.forall_mem_append.2 ⟨hI.2, List.forall_mem_singleton.2 hasked⟩
    · exact ⟨hI.move p _ fun call hc => hI.1 p call (by rw [hp]; exact hc), hI.2⟩
  | push p =>
    obtain ⟨c, wire, -, -, rfl⟩ := step_push h
    exact ⟨hI.move p _ (by rintro _ ⟨⟩), hI.2⟩
  | check e => obtain ⟨-, dead, drainer, rfl, -⟩ := step_check h; exact hI
  | wake => obtain ⟨-, ⟨-, rfl⟩ | ⟨record, queue, -, rfl⟩⟩ := step_wake h <;> exact hI
  | write n => obtain ⟨record, offset, -, ⟨-, -, rfl⟩ | ⟨-, rfl⟩⟩ := step_write h <;> exact hI
  | write_fails => obtain ⟨record, offset, -, rfl⟩ := step_write_fails h; exact hI
  | die => rw [step_die h]; exact hI

theorem run_asked {P : WireMessage → Prop} {key : Key} {iv : Iv} {as : List WriterAction}
    (h : Run (step A) (.new key iv) as s) (ha : ∀ p m d, .call p m d ∈ as → P m) : Asked P s := by
  refine h.inv_trace_of (P := fun a => ∀ p m d, a = .call p m d → P m) (fun _ => Asked P)
    ⟨fun _ _ h => (by cases h), fun _ h => (by cases h)⟩ ?_ fun a hm p m d he => ha p m d (he ▸ hm)
  intro _ s a s' _ _ hI ha h
  exact step_asked a ha hI h

/-! ## What becomes of a call -/

/-- The calls among the actions. -/
def made (as : List WriterAction) : List Call :=
  (as.filterMap fun
    | .call p message droppable => some (p, message, droppable)
    | _ => none).zipIdx.map fun x => ⟨x.2, x.1.1, x.1.2.1, x.1.2.2⟩

theorem made_call (as : List WriterAction) (p : Nat) (m : WireMessage) (d : Bool) :
    made (as ++ [.call p m d]) = made as ++ [⟨(made as).length, p, m, d⟩] := by
  simp [made, List.filterMap_append, List.zipIdx_append]

theorem made_other (as : List WriterAction) {a : WriterAction} (ha : ∀ p m d, a ≠ .call p m d) :
    made (as ++ [a]) = made as := by
  cases a with
  | call p m d => exact absurd rfl (ha p m d)
  | _ => simp [made, List.filterMap_append]

/-- The call is open, or it has an outcome. -/
def Known (s : RecordWriter) (c : Call) : Prop :=
  (∃ p, (s.callers p).open? = some c) ∨ c ∈ s.sealed.map (·.call) ∨ c ∈ s.dropped ∨ c ∈ s.refused

/-- Only the producer that moves can settle its call. -/
theorem open_moved_or {callers : Nat → Caller} {c : Call} (p : Nat) (new : Caller)
    (hc : ∃ q, (callers q).open? = some c) :
    (callers p).open? = some c ∨ ∃ q, (moved callers p new q).open? = some c := by
  obtain ⟨q, hq⟩ := hc
  by_cases hqp : q = p
  · exact .inl (hqp ▸ hq)
  · exact .inr ⟨q, by rw [moved_other _ _ hqp]; exact hq⟩

/-- A producer that goes on with its call keeps it open. -/
theorem Known.move {c : Call} (hc : s.Known c) (p : Nat) (new : Caller) (hnew : new.open? = (s.callers p).open?) :
    Known { s with callers := moved s.callers p new } c := by
  refine hc.imp_left fun hopen => ?_
  rcases open_moved_or p new hopen with hp | hq
  · exact ⟨p, by dsimp only; rw [moved_self, hnew, hp]⟩
  · exact hq

/-- A producer that is done with its call leaves it with an outcome, and every other call as it was. -/
theorem Known.settle {c call : Call} (hc : s.Known c) {p : Nat} {new : Caller} (hp : (s.callers p).open? = some call)
    (hcallers : s'.callers = moved s.callers p new) (hsealed : s.sealed ⊆ s'.sealed) (hdropped : s.dropped ⊆ s'.dropped)
    (hrefused : s.refused ⊆ s'.refused) (hcall : s'.Known call) : s'.Known c := by
  rcases hc with hopen | hc | hc | hc
  · rcases open_moved_or p new hopen with hpc | hq
    · obtain rfl := Option.some.inj (hp.symm.trans hpc)
      exact hcall
    · exact .inl (hcallers ▸ hq)
  · exact .inr (.inl (List.map_subset _ hsealed hc))
  · exact .inr (.inr (.inl (hdropped hc)))
  · exact .inr (.inr (.inr (hrefused hc)))

theorem step_known (a : WriterAction) {c : Call} (hc : s.Known c) (h : step A s a = some s') : s'.Known c := by
  cases a with
  | call p m d =>
    obtain ⟨hp, rfl⟩ := step_call h
    refine hc.imp_left fun hopen => (open_moved_or p _ hopen).resolve_left fun hpc => ?_
    rw [hp] at hpc
    cases hpc
  | lock p =>
    obtain ⟨call, hp, -, rfl⟩ := step_lock h
    exact hc.move p (.testing call) (by rw [hp]; rfl)
  | test p =>
    obtain ⟨call, hp, ⟨-, -, rfl⟩ | ⟨-, rfl⟩⟩ := step_test h
    · refine hc.settle (by rw [hp]; rfl) rfl (List.Subset.refl _) (List.subset_append_left _ _) (List.Subset.refl _) ?_
      exact .inr (.inr (.inl (List.mem_append_right _ (List.mem_singleton_self _))))
    · exact hc.move p (.sealing call) (by rw [hp]; rfl)
  | make_record p evp =>
    obtain ⟨call, hp, ⟨e, encrypt, -, rfl⟩ | ⟨wire, encrypt, -, rfl⟩⟩ := step_make_record h
    · refine hc.settle (by rw [hp]; rfl) rfl (List.Subset.refl _) (List.Subset.refl _) (List.subset_append_left _ _) ?_
      exact .inr (.inr (.inr (List.mem_append_right _ (List.mem_singleton_self _))))
    · refine hc.settle (by rw [hp]; rfl) rfl (List.subset_append_left _ _) (List.Subset.refl _) (List.Subset.refl _) ?_
      exact .inr (.inl (by simp))
  | push p =>
    obtain ⟨call, wire, hp, -, rfl⟩ := step_push h
    exact hc.move p .outside (by rw [hp]; rfl)
  | check e => obtain ⟨-, dead, drainer, rfl, -⟩ := step_check h; exact hc
  | wake => obtain ⟨-, ⟨-, rfl⟩ | ⟨record, queue, -, rfl⟩⟩ := step_wake h <;> exact hc
  | write n => obtain ⟨record, offset, -, ⟨-, -, rfl⟩ | ⟨-, rfl⟩⟩ := step_write h <;> exact hc
  | write_fails => obtain ⟨record, offset, -, rfl⟩ := step_write_fails h; exact hc
  | die => rw [step_die h]; exact hc

theorem step_calls (a : WriterAction) (ha : ∀ p m d, a ≠ .call p m d) (h : step A s a = some s') :
    s'.calls = s.calls := by
  cases a with
  | call p m d => exact absurd rfl (ha p m d)
  | lock p => obtain ⟨c, -, -, rfl⟩ := step_lock h; rfl
  | test p => obtain ⟨c, -, ⟨-, -, rfl⟩ | ⟨-, rfl⟩⟩ := step_test h <;> rfl
  | make_record p evp => obtain ⟨c, -, ⟨e, r, -, rfl⟩ | ⟨wire, r, -, rfl⟩⟩ := step_make_record h <;> rfl
  | push p => obtain ⟨c, wire, -, -, rfl⟩ := step_push h; rfl
  | check e => obtain ⟨-, dead, drainer, rfl, -⟩ := step_check h; rfl
  | wake => obtain ⟨-, ⟨-, rfl⟩ | ⟨record, queue, -, rfl⟩⟩ := step_wake h <;> rfl
  | write n => obtain ⟨record, offset, -, ⟨-, -, rfl⟩ | ⟨-, rfl⟩⟩ := step_write h <;> rfl
  | write_fails => obtain ⟨record, offset, -, rfl⟩ := step_write_fails h; rfl
  | die => rw [step_die h]

/-- No call gets lost. -/
theorem run_known {key : Key} {iv : Iv} {as : List WriterAction} (h : Run (step A) (.new key iv) as s) :
    ∀ c ∈ made as, s.Known c := by
  have hrun : s.calls = (made as).length ∧ ∀ c ∈ made as, s.Known c := by
    refine h.inv_trace (fun as s => s.calls = (made as).length ∧ ∀ c ∈ made as, s.Known c)
      ⟨rfl, fun c hc => by cases hc⟩ ?_
    rintro as s a s' - ⟨hcalls, hknown⟩ hs
    by_cases ha : ∀ p m d, a ≠ .call p m d
    · rw [made_other as ha, step_calls a ha hs]
      exact ⟨hcalls, fun c hc => step_known a (hknown c hc) hs⟩
    · simp only [not_forall, not_not] at ha
      obtain ⟨p, m, d, rfl⟩ := ha
      have hold := fun c hc => step_known _ (hknown c hc) hs
      obtain ⟨-, rfl⟩ := step_call hs
      rw [made_call]
      refine ⟨by simp [hcalls], fun c hc => ?_⟩
      rcases List.mem_append.1 hc with hc | hc
      · exact hold c hc
      · rw [List.mem_singleton] at hc
        subst hc
        exact .inl ⟨p, by dsimp only; rw [moved_self, ← hcalls]; rfl⟩
  exact hrun.2

/-! ## Every run -/

/-- What holds of every state a writer reaches. -/
structure Inv (s : RecordWriter) : Prop where
  locks : Locks s
  accounted : Accounted s
  counted : Counted s
  written : Written s
  ordered : Ordered s

theorem inv_new (key : Key) (iv : Iv) : Inv (.new key iv) where
  locks := ⟨fun _ h => (by cases h), fun _ _ h => (by cases h)⟩
  accounted := rfl
  counted := rfl
  written := rfl
  ordered := ⟨fun _ _ h => (by cases h), fun _ h => (by cases h), fun _ _ h => (by cases h), .nil,
    fun _ h => (by cases h)⟩

theorem step_inv (a : WriterAction) (hI : Inv s) (h : step A s a = some s') : Inv s' where
  locks := step_locks a hI.locks h
  accounted := step_accounted a hI.locks hI.accounted h
  counted := step_counted a hI.counted h
  written := step_written a hI.written h
  ordered := step_ordered a hI.locks hI.ordered h

theorem run_inv {key : Key} {iv : Iv} {as : List WriterAction} (h : Run (step A) (.new key iv) as s) : Inv s :=
  h.inv Inv (inv_new key iv) fun _ a _ hI => step_inv a hI

end RecordWriter

/-- In every interleaving of the producers and the drain, the sealed records are
those written, in seal order, then the one in hand, the queue and the one about
to be queued, and the endpoint has the written ones and a part of the one in
hand. Every call made is open, sealed, dropped or refused. What is dropped is
droppable and was never sealed, each producer's records are in the order of its
calls, and `queued_bytes_` is the size of the queue, so that no subtraction from
it wraps. -/
theorem outbound_order_and_accounting (A : Aead) (key : Key) (iv : Iv) (as : List WriterAction) (s : RecordWriter)
    (h : Run (RecordWriter.step A) (.new key iv) as s) :
    s.sealed.map (·.wire) = s.sent ++ (s.drainer.in_hand ++ (s.queue_ ++ s.pushing)) ∧
    s.endpoint = s.sent.flatten ++ s.drainer.part ∧
    (∀ c ∈ RecordWriter.made as, (∃ p, (s.callers p).open? = some c) ∨ c ∈ s.sealed.map (·.call) ∨ c ∈ s.dropped ∨
      c ∈ s.refused) ∧
    (∀ c ∈ s.dropped, c.droppable = true ∧ ∀ x ∈ s.sealed, x.call ≠ c) ∧
    s.sealed.Pairwise (fun x y => x.call.producer = y.call.producer → x.call.id < y.call.id) ∧
    s.queued_bytes_.toNat = total s.queue_ ∧
    ∀ record queue, s.queue_ = record :: queue → record.length ≤ s.queued_bytes_.toNat := by
  have hI := RecordWriter.run_inv h
  refine ⟨hI.accounted, hI.written, RecordWriter.run_known h, hI.ordered.droppable, hI.ordered.pairwise, hI.counted,
    fun record queue hq => ?_⟩
  rw [hI.counted, hq, RecordWriter.total_cons]
  omega

/-- Two producers, the second waiting for the lock while the first seals, and the first record written. -/
def two_producers : List WriterAction :=
  [.call 0 ⟨.Video, 0, [7]⟩ true, .lock 0, .call 1 ⟨.Control, 0, [8, 9]⟩ false, .test 0, .make_record 0 .ok,
    .check false, .push 0, .lock 1, .wake, .write 23]

/-- The call of the first is sealed, sent and at the endpoint; the second's is open. -/
theorem outbound_order_and_accounting_two :
    ∃ s wire, Run (RecordWriter.step (markedAead fun _ _ _ => true)) (.new (.replicate 32 0) (.replicate 12 0))
        two_producers s ∧
      s.sealed = [⟨⟨0, 0, ⟨.Video, 0, [7]⟩, true⟩, wire⟩] ∧ s.sent = [wire] ∧ s.endpoint = wire ∧ wire.length = 23 ∧
      (s.callers 1).open? = some ⟨1, 1, ⟨.Control, 0, [8, 9]⟩, false⟩ ∧
      (∀ c ∈ RecordWriter.made two_producers, (∃ p, (s.callers p).open? = some c) ∨ c ∈ s.sealed.map (·.call) ∨
        c ∈ s.dropped ∨ c ∈ s.refused) ∧
      s.endpoint = s.sent.flatten ++ s.drainer.part ∧ s.queued_bytes_.toNat = total s.queue_ := by
  obtain ⟨s, wire, hs, hsealed, hsent, hend, hlen, hopen⟩ : ∃ s wire,
      exec (RecordWriter.step (markedAead fun _ _ _ => true)) (.new (.replicate 32 0) (.replicate 12 0))
        two_producers = some s ∧
      s.sealed = [⟨⟨0, 0, ⟨.Video, 0, [7]⟩, true⟩, wire⟩] ∧ s.sent = [wire] ∧ s.endpoint = wire ∧ wire.length = 23 ∧
      (s.callers 1).open? = some ⟨1, 1, ⟨.Control, 0, [8, 9]⟩, false⟩ := ⟨_, _, rfl, rfl, rfl, rfl, rfl, rfl⟩
  obtain ⟨-, hwritten, hknown, -, -, hcounted, -⟩ := outbound_order_and_accounting _ _ _ _ s (run_of_exec hs)
  exact ⟨s, wire, run_of_exec hs, hsealed, hsent, hend, hlen, hopen, hknown, hwritten, hcounted⟩

end CameraStreamer.Secure
