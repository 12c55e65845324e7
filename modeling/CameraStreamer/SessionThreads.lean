import CameraStreamer.ServeSession
import CameraStreamer.Lib.Runs
/-!
# The demultiplexer among its threads

`serve_session` step by step, next to the threads its sessions start: two video
loops, the tunnel pump and the record writer, which writes to the endpoint that
the ServerHello of the next session goes to. `end_session` marks the session
dead and joins them. `returned_serves` ties the machine to the function
`serve_session` of the demultiplexer.
-/

namespace CameraStreamer.Secure.SessionThreads

open Runs Incremental

def kCameras : Nat := 2

/-! ## Threads -/

inductive Worker where
  | video (camera : Nat)
  | pump
  | writer
  deriving DecidableEq

/-- Where a worker is. Only the record writer waits and writes. -/
inductive Place where
  | running
  /-- Past the test of `dead_`, waiting for a record. -/
  | waiting
  /-- In `endpoint_write_all`, with these bytes of a record to go. -/
  | writing (rest : Bytes)
  | exited
  deriving DecidableEq

structure Thread where
  session : Nat
  worker : Worker
  place : Place
  deriving DecidableEq

/-- A record writer that has not exited. -/
def Thread.CanWrite (t : Thread) : Prop := t.worker = .writer ∧ t.place ≠ .exited

/-- What a session is started with. -/
def workers_of (session : Nat) : List Thread :=
  (List.range kCameras).map (⟨session, .video ·, .running⟩) ++
    [⟨session, .pump, .running⟩, ⟨session, .writer, .running⟩]

/-- What a worker does. -/
inductive WorkerAct where
  /-- `video_loop` returns: a barren camera, or the session is dead. -/
  | gives_up
  /-- A record could not be sealed. -/
  | seal_fails
  /-- The test of `dead_` at the top of the loop ends it. -/
  | leaves
  | passes
  /-- The watchdog finds the host silent. -/
  | host_silent
  | finds_nothing
  | takes (record : Bytes)
  | writes (count : Nat)
  | interrupted
  | write_fails

/-! ## The serve thread -/

/-- What follows an `end_session()`. -/
inductive After where
  | respond (hello : Bytes)
  | clear
  | leave

inductive Serve where
  /-- At the test of `stopping_`. -/
  | top
  | reading
  /-- At the top of the inner loop. -/
  | parsing
  /-- In `end_session`, waiting for the workers. -/
  | joining (after : After)
  | responding (hello : Bytes)
  /-- In `endpoint_write_all`, with `rest` of the ServerHello to go. -/
  | replying (call : Nat) (rest wire : Bytes) (keys : SessionKeys)
  /-- At the test of `session->dead`. -/
  | checking
  | returned

/-- A hello was taken off the stream and is being answered. -/
def Serve.answers : Serve → Prop
  | .joining (.respond _) | .responding _ | .replying _ _ _ _ => True
  | _ => False

/-- Bytes on the endpoint, in the order of the `write` calls. -/
inductive Sent where
  | server_hello (call : Nat) (bytes : Bytes)
  | record (session : Nat) (bytes : Bytes)

def Sent.session : Sent → Nat
  | .server_hello call _ => call
  | .record session _ => session

/-- The order on the endpoint: a session's ServerHello, its records, the next ServerHello. -/
def Sent.rank : Sent → Nat
  | .server_hello call _ => 2 * call
  | .record session _ => 2 * session + 1

/-- A delivery: the hello accepted last, the session it went to, the `decrypt`
it was opened with, and the record. -/
structure Opened where
  accepted : Option (Nat × SessionKeys)
  session : Option Nat
  decrypt : SecureRecord
  wire : Bytes
  message : WireMessage

/-- `chunk` is what the last `read` gave, `reads` what the ones before it gave. -/
structure Serving where
  place : Serve
  demux : Demux
  stream : WireBuffer
  stopping : Bool
  dead : Nat → Bool
  threads : List Thread
  /-- The `workers` vector, as places in `threads`. -/
  workers : List Nat
  endpoint : List Sent
  accepted : Option (Nat × SessionKeys)
  opened : List Opened
  served : List Served
  chunk : Bytes
  reads : List EndpointRead

def Serving.new : Serving where
  place := .top
  demux := .new
  stream := []
  stopping := false
  dead := fun _ => false
  threads := []
  workers := []
  endpoint := []
  accepted := none
  opened := []
  served := []
  chunk := []
  reads := []

inductive Act where
  /-- `stop()` sets `stopping_`. -/
  | stop
  | test
  | read_data (chunk : Bytes)
  | read_interrupted
  | read_failed
  | turn
  | join
  | respond
  | write_hello (count : Nat)
  | hello_interrupted
  | hello_fails
  | establish
  | check
  | worker (i : Nat) (a : WorkerAct)

namespace Serving

def mark (s : Serving) (session : Nat) : Serving :=
  { s with dead := fun n => if n = session then true else s.dead n }

def go (s : Serving) : After → Serving
  | .respond hello => { s with place := .responding hello }
  | .clear => { s with stream := [], place := .checking }
  | .leave => { s with place := .returned }

/-- `end_session()` up to the joins: nothing without a session, else `shutdown()`. -/
def end_then (s : Serving) (after : After) : Serving :=
  match s.demux.session with
  | none => s.go after
  | some session => { s.mark session with place := .joining after }

def log (s : Serving) (e : Served) : Serving := { s with served := s.served ++ [e] }

/-- The stream is left with these bytes. -/
def left (s : Serving) (stream : WireBuffer) : Serving := { s with stream := stream }

def has_read (s : Serving) (r : EndpointRead) : Serving := { s with reads := s.reads ++ [r] }

/-- The ServerHello could not be written: both loops end. -/
def endpoint_fails (s : Serving) : Serving := (s.log .endpoint_failed).has_read (.data s.chunk false)

/-- A turn of the inner loop, up to the first call that blocks. -/
def turn (D : Device) (s : Serving) : Serving :=
  if s.stream.starts_with kClientHelloMagic then
    if s.stream.length < kClientHelloSize then { s with place := .checking }
    else (s.left (s.stream.consume kClientHelloSize)).end_then (.respond (s.stream.take kClientHelloSize))
  else
    match s.demux.decrypt with
    | none =>
      if s.stream.length ≠ 0 then { s.log (.discarded s.stream.length) with stream := [], place := .checking }
      else { s with place := .checking }
    | some decrypt =>
      match WireBuffer.next s.stream with
      | (.error e, _) => (s.log (.framing_failure e)).end_then .clear
      | (.ok none, stream) => { s.left stream with place := .checking }
      | (.ok (some wire), stream) =>
        match open_wire_record D.aead (D.ssl (s.demux.session.getD 0) decrypt.sequence_) wire decrypt with
        | (.error e, _) => ((s.left stream).log (.record_rejected e)).end_then .clear
        | (.ok message, decrypt') =>
          { (s.left stream).log (.delivered s.demux.session message) with
            demux := { s.demux with decrypt := some decrypt' }
            opened := s.opened ++ [⟨s.accepted, s.demux.session, decrypt, wire, message⟩] }

/-- All of `workers` can be joined. -/
def all_exited (s : Serving) : Bool :=
  s.workers.all fun i => (s.threads[i]?).all fun t => t.place = .exited

/-- The session of a hello that was accepted. -/
def establish (s : Serving) (call : Nat) (wire : Bytes) (keys : SessionKeys) : Serving :=
  { s with
    place := .parsing
    demux := { s.demux with decrypt := some (.new keys.host_key keys.host_iv), session := some call }
    dead := fun n => if n = call then false else s.dead n
    threads := s.threads ++ workers_of call
    workers := (List.range (workers_of call).length).map (s.threads.length + ·)
    served := s.served ++ [.server_hello wire, .established call keys] }

/-- `session && session->dead` -/
def is_dead (s : Serving) : Bool := s.demux.session.any s.dead

/-- Thread `i`, which is `t`, goes to `place`. -/
def put (s : Serving) (i : Nat) (t : Thread) (place : Place) : Serving :=
  { s with threads := s.threads.set i { t with place := place } }

def worker_step (s : Serving) (i : Nat) (t : Thread) (a : WorkerAct) : Option Serving :=
  match t.worker, t.place, a with
  | .video _, .running, .gives_up => some (s.put i t .exited)
  | .video _, .running, .seal_fails => some (s.mark t.session)
  | .pump, .running, .seal_fails => some ((s.mark t.session).put i t .exited)
  | .pump, .running, .leaves | .writer, .running, .leaves =>
    if s.dead t.session then some (s.put i t .exited) else none
  | .writer, .running, .passes => if s.dead t.session then none else some (s.put i t .waiting)
  | .writer, .running, .host_silent =>
    if s.dead t.session then none else some ((s.mark t.session).put i t .exited)
  | .writer, .waiting, .finds_nothing => some (s.put i t .running)
  | .writer, .waiting, .takes record => some (s.put i t (.writing record))
  | .writer, .writing rest, .writes count =>
    if 0 < count ∧ count ≤ rest.length then
      some { s.put i t (if count = rest.length then .running else .writing (rest.drop count)) with
        endpoint := s.endpoint ++ [.record t.session (rest.take count)] }
    else none
  | .writer, .writing _, .interrupted => some (if s.dead t.session then s.put i t .exited else s)
  | .writer, .writing _, .write_fails => some ((s.mark t.session).put i t .exited)
  | _, _, _ => none

def step (D : Device) (s : Serving) (a : Act) : Option Serving :=
  match s.place, a with
  | _, .stop => some { s with stopping := true }
  | _, .worker i a => (s.threads[i]?).bind (s.worker_step i · a)
  | .top, .test =>
    if s.stopping then some ((s.has_read (.interrupted true)).end_then .leave)
    else some { s with place := .reading }
  | .reading, .read_data chunk =>
    if chunk ≠ [] ∧ chunk.length ≤ 16 * 1024 then
      some { s with place := .parsing, stream := s.stream.append chunk, chunk := chunk }
    else none
  | .reading, .read_interrupted =>
    if s.stopping then some ((s.has_read (.interrupted true)).end_then .leave)
    else some { s.has_read (.interrupted false) with place := .top }
  | .reading, .read_failed => some ((s.has_read .failed).end_then .leave)
  | .parsing, .turn => some (s.turn D)
  | .joining after, .join =>
    if s.all_exited then
      some ({ s with
        workers := []
        demux := (end_session s.demux).2
        served := s.served ++ (end_session s.demux).1 }.go after)
    else none
  | .responding hello, .respond =>
    let s' := { s with demux := { s.demux with responds := s.demux.responds + 1 } }
    match Secure.respond D.answer s.demux.responds hello with
    | .error e => some { s'.log (.handshake_rejected e) with place := .parsing }
    | .ok (wire, keys) =>
      some { s' with
        place := .replying s.demux.responds wire wire keys
        accepted := some (s.demux.responds, keys) }
  | .replying call rest wire keys, .write_hello count =>
    if 0 < count ∧ count ≤ rest.length then
      some { s with
        place := .replying call (rest.drop count) wire keys
        endpoint := s.endpoint ++ [.server_hello call (rest.take count)] }
    else none
  | .replying call rest _ _, .hello_interrupted =>
    if rest = [] then none
    else if s.stopping then
      if D.writes call then none else some (s.endpoint_fails.end_then .leave)
    else some s
  | .replying call rest _ _, .hello_fails =>
    if rest = [] ∨ D.writes call then none else some (s.endpoint_fails.end_then .leave)
  | .replying call rest wire keys, .establish =>
    if rest = [] ∧ D.writes call then some (s.establish call wire keys) else none
  | .checking, .check =>
    if s.is_dead then some ((s.has_read (.data s.chunk true)).end_then .leave)
    else some { s.has_read (.data s.chunk false) with place := .top }
  | _, _ => none

end Serving

/-! ## The invariant -/

/-- Opened under the host key of the hello accepted last, and given to the session of that hello. -/
def Opened.Coherent (A : Aead) (o : Opened) : Prop :=
  ∃ call keys n, o.accepted = some (call, keys) ∧ o.session = some call ∧
    o.decrypt = (SecureRecord.new keys.host_key keys.host_iv).skip n ∧
    A.decrypt keys.host_key (nonce_at keys.host_iv (UInt64.ofNat n)) (o.wire.drop 4) = some o.message.plaintext

theorem Sent.rank_le (e : Sent) : e.rank ≤ 2 * e.session + 1 := by
  cases e with
  | server_hello call bytes => exact Nat.le_succ _
  | record session bytes => exact Nat.le_refl _

namespace Serving

/-- The session has the keys of the hello accepted last. -/
def Keyed (s : Serving) (r : SecureRecord) : Prop :=
  ∃ call keys n, s.accepted = some (call, keys) ∧ s.demux.session = some call ∧
    r = (SecureRecord.new keys.host_key keys.host_iv).skip n

/-- While a hello is answered there is no session. -/
def Answering (s : Serving) : Serve → Prop
  | .responding _ => s.demux.session = none
  | .replying call _ _ keys =>
    s.demux.session = none ∧ s.accepted = some (call, keys) ∧ ∀ e ∈ s.endpoint, e.rank ≤ 2 * call
  | _ => True

structure Inv (A : Aead) (s : Serving) : Prop where
  paired : s.demux.decrypt.isSome = s.demux.session.isSome
  keyed : ∀ r, s.demux.decrypt = some r → s.Keyed r
  /-- Only threads of the session run, and `workers` has them all. -/
  alive : ∀ i t, s.threads[i]? = some t → t.place ≠ .exited → i ∈ s.workers ∧ s.demux.session = some t.session
  answering : s.Answering s.place
  calls : ∀ call keys, s.accepted = some (call, keys) → call < s.demux.responds
  opened : ∀ o ∈ s.opened, o.Coherent A
  /-- Nothing on the endpoint is of a later session than the hello accepted last. -/
  sent : ∀ e ∈ s.endpoint, ∃ call keys, s.accepted = some (call, keys) ∧ e.session ≤ call
  ordered : s.endpoint.Pairwise fun e e' => e.rank ≤ e'.rank

variable {A : Aead} {s s' : Serving}

theorem inv_new : Inv A .new where
  paired := rfl
  keyed r h := by cases h
  alive i t h := by simp [Serving.new] at h
  answering := trivial
  calls call keys h := by cases h
  opened o h := by cases h
  sent e h := by cases h
  ordered := .nil

/-- The serve thread goes on elsewhere. -/
theorem Inv.move (hI : Inv A s) (hd : s'.demux = s.demux) (ha : s'.accepted = s.accepted)
    (ht : s'.threads = s.threads) (hw : s'.workers = s.workers) (ho : s'.opened = s.opened)
    (he : s'.endpoint = s.endpoint) (hp : s'.Answering s'.place) : Inv A s' where
  paired := by rw [hd]; exact hI.paired
  keyed := by simp only [Keyed, hd, ha]; exact hI.keyed
  alive := by rw [ht, hw, hd]; exact hI.alive
  answering := hp
  calls := by rw [ha, hd]; exact hI.calls
  opened := by rw [ho]; exact hI.opened
  sent := by rw [he, ha]; exact hI.sent
  ordered := by rw [he]; exact hI.ordered

theorem Inv.end_then (hI : Inv A s) (after : After) : Inv A (s.end_then after) := by
  unfold Serving.end_then
  cases hs : s.demux.session with
  | none =>
    cases after with
    | respond hello => exact hI.move rfl rfl rfl rfl rfl rfl hs
    | clear => exact hI.move rfl rfl rfl rfl rfl rfl trivial
    | leave => exact hI.move rfl rfl rfl rfl rfl rfl trivial
  | some session => exact hI.move rfl rfl rfl rfl rfl rfl trivial

theorem Inv.log (hI : Inv A s) (e : Served) : Inv A (s.log e) :=
  hI.move rfl rfl rfl rfl rfl rfl hI.answering

theorem Inv.left (hI : Inv A s) (stream : WireBuffer) : Inv A (s.left stream) :=
  hI.move rfl rfl rfl rfl rfl rfl hI.answering

theorem Inv.has_read (hI : Inv A s) (r : EndpointRead) : Inv A (s.has_read r) :=
  hI.move rfl rfl rfl rfl rfl rfl hI.answering

/-- A delivery uses up a nonce of the session's record. -/
theorem Inv.deliver (hI : Inv A s) {evp : Evp} {r r' : SecureRecord} {wire : Bytes} {m : WireMessage}
    (hr : s.demux.decrypt = some r) (ho : open_wire_record A evp wire r = (.ok m, r'))
    (hd : s'.demux = { s.demux with decrypt := some r' }) (ha : s'.accepted = s.accepted)
    (ht : s'.threads = s.threads) (hw : s'.workers = s.workers) (he : s'.endpoint = s.endpoint)
    (hop : s'.opened = s.opened ++ [⟨s.accepted, s.demux.session, r, wire, m⟩]) (hp : s'.place = .parsing) :
    Inv A s' := by
  obtain ⟨call, keys, n, hacc, hses, rfl⟩ := hI.keyed r hr
  obtain ⟨hopen, rfl⟩ := open_wire_record_ok ho
  have hpair : s.demux.session.isSome := by rw [← hI.paired, hr]; rfl
  constructor
  · rw [hd]
    exact hpair.symm
  · intro r hr
    rw [hd] at hr
    cases hr
    refine ⟨call, keys, n + 1, ha ▸ hacc, ?_, SecureRecord.skip_next _ n⟩
    rw [hd]
    exact hses
  · rw [ht, hw, hd]
    exact hI.alive
  · rw [hp]
    exact trivial
  · rw [ha, hd]
    exact hI.calls
  · intro o hmem
    rw [hop] at hmem
    rcases List.mem_append.1 hmem with hmem | hmem
    · exact hI.opened o hmem
    · rw [List.mem_singleton] at hmem
      subst hmem
      refine ⟨call, keys, n, hacc, hses, rfl, ?_⟩
      rw [SecureRecord.skip_nonce, SecureRecord.skip_key] at hopen
      exact hopen
  · rw [he, ha]
    exact hI.sent
  · rw [he]
    exact hI.ordered

theorem Inv.turn (D : Device) (hI : Inv D.aead s) (hp : s.place = .parsing) : Inv D.aead (s.turn D) := by
  unfold Serving.turn
  split
  · split
    · exact hI.move rfl rfl rfl rfl rfl rfl trivial
    · exact (hI.left _).end_then _
  · split
    · split
      · exact hI.move rfl rfl rfl rfl rfl rfl trivial
      · exact hI.move rfl rfl rfl rfl rfl rfl trivial
    · rename_i r hr
      split
      · exact (hI.log _).end_then _
      · exact hI.move rfl rfl rfl rfl rfl rfl trivial
      · split
        · exact ((hI.left _).log _).end_then _
        · rename_i ho
          exact hI.deliver hr ho rfl rfl rfl rfl rfl rfl hp

/-! ## Joining and answering -/

theorem all_exited_of {i : Nat} {t : Thread} (h : s.all_exited = true) (hi : i ∈ s.workers)
    (ht : s.threads[i]? = some t) : t.place = .exited := by
  have := List.all_eq_true.1 h i hi
  rw [ht] at this
  simpa using this

theorem end_session_decrypt {d : Demux} (h : d.decrypt.isSome = d.session.isSome) :
    (end_session d).2.decrypt = none := by
  unfold end_session
  cases hs : d.session with
  | none =>
    rw [hs] at h
    exact Option.not_isSome_iff_eq_none.1 (by simp [h])
  | some session => rfl

/-- Once the workers are joined no thread is left. -/
theorem Inv.joined (hI : Inv A s) (h : s.all_exited = true) (hd : s'.demux = (end_session s.demux).2)
    (ha : s'.accepted = s.accepted) (ht : s'.threads = s.threads) (ho : s'.opened = s.opened)
    (he : s'.endpoint = s.endpoint) (hp : s'.Answering s'.place) : Inv A s' := by
  have hdec := end_session_decrypt hI.paired
  constructor
  · rw [hd, hdec, end_session_session]
    rfl
  · intro r hr
    rw [hd, hdec] at hr
    cases hr
  · intro i t hi hx
    rw [ht] at hi
    exact absurd (all_exited_of h (hI.alive i t hi hx).1 hi) hx
  · exact hp
  · rw [ha, hd, end_session_responds]
    exact hI.calls
  · rw [ho]
    exact hI.opened
  · rw [he, ha]
    exact hI.sent
  · rw [he]
    exact hI.ordered

theorem Inv.join (hI : Inv A s) (h : s.all_exited = true) (after : After) :
    Inv A ({ s with
      workers := []
      demux := (end_session s.demux).2
      served := s.served ++ (end_session s.demux).1 }.go after) := by
  cases after with
  | respond hello => exact hI.joined h rfl rfl rfl rfl rfl (end_session_session s.demux)
  | clear => exact hI.joined h rfl rfl rfl rfl rfl trivial
  | leave => exact hI.joined h rfl rfl rfl rfl rfl trivial

/-- Without a session every thread has exited. -/
theorem Inv.no_threads (hI : Inv A s) (hs : s.demux.session = none) {i : Nat} {t : Thread}
    (ht : s.threads[i]? = some t) : t.place = .exited := by
  refine Decidable.byContradiction fun hx => ?_
  have := (hI.alive i t ht hx).2
  rw [hs] at this
  cases this

/-- A hello is refused. -/
theorem Inv.refuse (hI : Inv A s)
    (hd : s'.demux = { s.demux with responds := s.demux.responds + 1 }) (ha : s'.accepted = s.accepted)
    (ht : s'.threads = s.threads) (hw : s'.workers = s.workers) (ho : s'.opened = s.opened)
    (he : s'.endpoint = s.endpoint) (hp : s'.place = .parsing) : Inv A s' := by
  constructor
  · rw [hd]
    exact hI.paired
  · simp only [Keyed, hd, ha]
    exact hI.keyed
  · rw [ht, hw, hd]
    exact hI.alive
  · rw [hp]
    exact trivial
  · intro call keys h
    rw [ha] at h
    rw [hd]
    exact Nat.lt_succ_of_lt (hI.calls call keys h)
  · rw [ho]
    exact hI.opened
  · rw [he, ha]
    exact hI.sent
  · rw [he]
    exact hI.ordered

/-- A hello is accepted. -/
theorem Inv.accept (hI : Inv A s) (hs : s.demux.session = none) (keys : SessionKeys) {wire : Bytes}
    (hd : s'.demux = { s.demux with responds := s.demux.responds + 1 })
    (ha : s'.accepted = some (s.demux.responds, keys))
    (ht : s'.threads = s.threads) (hw : s'.workers = s.workers) (ho : s'.opened = s.opened)
    (he : s'.endpoint = s.endpoint) (hp : s'.place = .replying s.demux.responds wire wire keys) : Inv A s' := by
  have hdec : s.demux.decrypt = none := by
    have := hI.paired
    rw [hs] at this
    exact Option.not_isSome_iff_eq_none.1 (by simp [this])
  constructor
  · rw [hd]
    exact hI.paired
  · intro r hr
    rw [hd] at hr
    exact absurd hr (by simp [hdec])
  · rw [ht, hw, hd]
    exact hI.alive
  · rw [hp]
    refine ⟨by rw [hd]; exact hs, ha, fun e hmem => ?_⟩
    rw [he] at hmem
    obtain ⟨call, keys', hacc, hle⟩ := hI.sent e hmem
    have hlt := hI.calls call keys' hacc
    exact Nat.le_trans e.rank_le (by omega)
  · intro call keys' h
    rw [ha] at h
    cases h
    rw [hd]
    exact Nat.lt_succ_self _
  · rw [ho]
    exact hI.opened
  · intro e hmem
    rw [he] at hmem
    obtain ⟨call, keys', hacc, hle⟩ := hI.sent e hmem
    exact ⟨s.demux.responds, keys, ha, Nat.le_trans hle (Nat.le_of_lt (hI.calls call keys' hacc))⟩
  · rw [he]
    exact hI.ordered

/-- Bytes of the session of the hello accepted last go to the endpoint. -/
theorem Inv.send (hI : Inv A s) {e : Sent} {keys : SessionKeys} (hacc : s.accepted = some (e.session, keys))
    (hmax : ∀ x ∈ s.endpoint, x.rank ≤ e.rank)
    (hd : s'.demux = s.demux) (ha : s'.accepted = s.accepted) (ho : s'.opened = s.opened)
    (he : s'.endpoint = s.endpoint ++ [e])
    (hlive : ∀ i t, s'.threads[i]? = some t → t.place ≠ .exited → i ∈ s'.workers ∧ s.demux.session = some t.session)
    (hp : s'.Answering s'.place) : Inv A s' where
  paired := by rw [hd]; exact hI.paired
  keyed := by simp only [Keyed, hd, ha]; exact hI.keyed
  alive := by rw [hd]; exact hlive
  answering := hp
  calls := by rw [ha, hd]; exact hI.calls
  opened := by rw [ho]; exact hI.opened
  sent := by
    rw [he, ha]
    intro x hx
    rcases List.mem_append.1 hx with hx | hx
    · exact hI.sent x hx
    · rw [List.mem_singleton] at hx
      exact ⟨e.session, keys, hacc, by rw [hx]⟩
  ordered := by
    rw [he]
    refine List.pairwise_append.2 ⟨hI.ordered, List.pairwise_singleton _ _, fun x hx y hy => ?_⟩
    rw [List.mem_singleton] at hy
    rw [hy]
    exact hmax x hx

theorem workers_of_session {call : Nat} {t : Thread} (h : t ∈ workers_of call) : t.session = call := by
  rcases List.mem_append.1 h with h | h
  · obtain ⟨camera, -, rfl⟩ := List.mem_map.1 h
    rfl
  · simp only [List.mem_cons, List.not_mem_nil, or_false] at h
    rcases h with rfl | rfl
    · rfl
    · rfl

theorem Inv.establish (hI : Inv A s) {call : Nat} {keys : SessionKeys} (wire : Bytes) (hs : s.demux.session = none)
    (hacc : s.accepted = some (call, keys)) : Inv A (s.establish call wire keys) where
  paired := rfl
  keyed r hr := by
    cases hr
    exact ⟨call, keys, 0, hacc, rfl, (SecureRecord.skip_zero _).symm⟩
  alive i t ht hx := by
    simp only [Serving.establish] at ht ⊢
    by_cases hlt : i < s.threads.length
    · rw [List.getElem?_append_left hlt] at ht
      exact absurd (hI.no_threads hs ht) hx
    · rw [List.getElem?_append_right (by omega)] at ht
      have hmem := List.mem_of_getElem? ht
      obtain ⟨hk, -⟩ := List.getElem?_eq_some_iff.1 ht
      refine ⟨List.mem_map.2 ⟨i - s.threads.length, List.mem_range.2 hk, by omega⟩, ?_⟩
      rw [workers_of_session hmem]
  answering := trivial
  calls := hI.calls
  opened := hI.opened
  sent := hI.sent
  ordered := hI.ordered

/-! ## The workers -/

/-- A worker that goes elsewhere keeps its session. -/
theorem put_alive (hI : Inv A s) {j : Nat} {t : Thread} (hj : s.threads[j]? = some t) (hx : t.place ≠ .exited)
    (place : Place) (i : Nat) (u : Thread) (hi : (s.put j t place).threads[i]? = some u) (hu : u.place ≠ .exited) :
    i ∈ s.workers ∧ s.demux.session = some u.session := by
  simp only [Serving.put, List.getElem?_set] at hi
  split at hi
  · rename_i hij
    subst hij
    split at hi
    · cases hi
      exact hI.alive j t hj hx
    · cases hi
  · exact hI.alive i u hi hu

theorem Inv.put (hI : Inv A s) {j : Nat} {t : Thread} (hj : s.threads[j]? = some t) (hx : t.place ≠ .exited)
    (place : Place) : Inv A (s.put j t place) :=
  { hI with alive := put_alive hI hj hx place }

theorem Inv.mark (hI : Inv A s) (session : Nat) : Inv A (s.mark session) :=
  hI.move rfl rfl rfl rfl rfl rfl hI.answering

/-- No hello is answered in a session. -/
theorem Inv.answering_in_session (hI : Inv A s) {session : Nat} (hs : s.demux.session = some session)
    (hp : s'.place = s.place) : s'.Answering s'.place := by
  have ha := hI.answering
  rw [hp]
  cases hq : s.place with
  | responding hello =>
    rw [hq] at ha
    exact absurd (ha.symm.trans hs) (by simp)
  | replying call rest wire keys =>
    rw [hq] at ha
    exact absurd (ha.1.symm.trans hs) (by simp)
  | _ => trivial

theorem worker_step_inv {i : Nat} {t : Thread} {a : WorkerAct} (hI : Inv A s) (hi : s.threads[i]? = some t)
    (h : s.worker_step i t a = some s') : Inv A s' := by
  unfold worker_step at h
  split at h
  · rename_i hp
    cases h
    exact hI.put hi (by simp [hp]) _
  · cases h
    exact hI.mark _
  · rename_i hp
    cases h
    exact (hI.mark _).put hi (by simp [hp]) _
  · rename_i hp
    split at h
    · cases h
      exact hI.put hi (by simp [hp]) _
    · cases h
  · rename_i hp
    split at h
    · cases h
      exact hI.put hi (by simp [hp]) _
    · cases h
  · rename_i hp
    split at h
    · cases h
    · cases h
      exact hI.put hi (by simp [hp]) _
  · rename_i hp
    split at h
    · cases h
    · cases h
      exact (hI.mark _).put hi (by simp [hp]) _
  · rename_i hp
    cases h
    exact hI.put hi (by simp [hp]) _
  · rename_i hp
    cases h
    exact hI.put hi (by simp [hp]) _
  · -- bytes of a record go to the endpoint
    rename_i rest count _ hp
    have hx : t.place ≠ .exited := by simp [hp]
    split at h
    · cases h
      obtain ⟨-, hses⟩ := hI.alive i t hi hx
      obtain ⟨r, hr⟩ := Option.isSome_iff_exists.1 (by rw [hI.paired, hses]; rfl : s.demux.decrypt.isSome)
      obtain ⟨call, keys, n, hacc, hcall, -⟩ := hI.keyed r hr
      rw [hses] at hcall
      cases hcall
      refine hI.send (e := .record t.session (rest.take count)) hacc (fun x hm => ?_) rfl rfl rfl rfl
        (fun j u hj hu => put_alive hI hi hx _ j u hj hu) ?_
      · obtain ⟨call, keys', hacc', hle⟩ := hI.sent x hm
        rw [hacc] at hacc'
        cases hacc'
        exact Nat.le_trans x.rank_le (Nat.succ_le_succ (Nat.mul_le_mul_left 2 hle))
      · exact hI.answering_in_session hses rfl
    · cases h
  · rename_i hp
    cases h
    split
    · exact hI.put hi (by simp [hp]) _
    · exact hI
  · rename_i hp
    cases h
    exact (hI.mark _).put hi (by simp [hp]) _
  · cases h

/-! ## Every step -/

/-- What a step can do, and when. -/
inductive Step (D : Device) (s : Serving) : Serving → Prop where
  | stop : Step D s { s with stopping := true }
  | worker {i : Nat} {t : Thread} {a : WorkerAct} {s' : Serving} (ht : s.threads[i]? = some t)
      (hs : s.worker_step i t a = some s') : Step D s s'
  | stops (hp : s.place = .top ∨ s.place = .reading) (hs : s.stopping = true) :
      Step D s ((s.has_read (.interrupted true)).end_then .leave)
  | reads (hp : s.place = .top) (hs : s.stopping = false) : Step D s { s with place := .reading }
  | data {chunk : Bytes} (hp : s.place = .reading) (hc : chunk ≠ [] ∧ chunk.length ≤ 16 * 1024) :
      Step D s { s with place := .parsing, stream := s.stream.append chunk, chunk := chunk }
  | interrupted (hp : s.place = .reading) (hs : s.stopping = false) :
      Step D s { s.has_read (.interrupted false) with place := .top }
  | failed (hp : s.place = .reading) : Step D s ((s.has_read .failed).end_then .leave)
  | turn (hp : s.place = .parsing) : Step D s (s.turn D)
  | join {after : After} (hp : s.place = .joining after) (hx : s.all_exited = true) :
      Step D s ({ s with
        workers := []
        demux := (end_session s.demux).2
        served := s.served ++ (end_session s.demux).1 }.go after)
  | rejects {hello : Bytes} {e : String} (hp : s.place = .responding hello)
      (hr : Secure.respond D.answer s.demux.responds hello = .error e) :
      Step D s { s with
        demux := { s.demux with responds := s.demux.responds + 1 }
        served := s.served ++ [.handshake_rejected e]
        place := .parsing }
  | accepts {hello wire : Bytes} {keys : SessionKeys} (hp : s.place = .responding hello)
      (hr : Secure.respond D.answer s.demux.responds hello = .ok (wire, keys)) :
      Step D s { s with
        demux := { s.demux with responds := s.demux.responds + 1 }
        place := .replying s.demux.responds wire wire keys
        accepted := some (s.demux.responds, keys) }
  | sends {call : Nat} {rest wire : Bytes} {keys : SessionKeys} {count : Nat}
      (hp : s.place = .replying call rest wire keys) (hc : 0 < count ∧ count ≤ rest.length) :
      Step D s { s with
        place := .replying call (rest.drop count) wire keys
        endpoint := s.endpoint ++ [.server_hello call (rest.take count)] }
  | waits {call : Nat} {rest wire : Bytes} {keys : SessionKeys} (hp : s.place = .replying call rest wire keys)
      (hr : rest ≠ []) (hs : s.stopping = false) : Step D s s
  | fails {call : Nat} {rest wire : Bytes} {keys : SessionKeys} (hp : s.place = .replying call rest wire keys)
      (hr : rest ≠ []) (hw : D.writes call = false) : Step D s (s.endpoint_fails.end_then .leave)
  | establish {call : Nat} {wire : Bytes} {keys : SessionKeys} (hp : s.place = .replying call [] wire keys)
      (hw : D.writes call = true) : Step D s (s.establish call wire keys)
  | dead (hp : s.place = .checking) (hd : s.is_dead = true) :
      Step D s ((s.has_read (.data s.chunk true)).end_then .leave)
  | alive (hp : s.place = .checking) (hd : s.is_dead = false) :
      Step D s { s.has_read (.data s.chunk false) with place := .top }

theorem step_cases {D : Device} {a : Act} (h : s.step D a = some s') : Step D s s' := by
  unfold step at h
  split at h
  · cases h
    exact .stop
  · obtain ⟨t, ht, hs⟩ := Option.bind_eq_some_iff.1 h
    exact .worker ht hs
  · rename_i hp
    split at h
    · rename_i hs
      cases h
      exact .stops (.inl hp) hs
    · rename_i hs
      cases h
      exact .reads hp (Bool.eq_false_iff.2 hs)
  · rename_i chunk hp
    split at h
    · rename_i hc
      cases h
      exact .data hp hc
    · cases h
  · rename_i hp
    split at h
    · rename_i hs
      cases h
      exact .stops (.inr hp) hs
    · rename_i hs
      cases h
      exact .interrupted hp (Bool.eq_false_iff.2 hs)
  · rename_i hp
    cases h
    exact .failed hp
  · rename_i hp
    cases h
    exact .turn hp
  · rename_i hp
    split at h
    · rename_i hx
      cases h
      exact .join hp hx
    · cases h
  · rename_i hello hp
    dsimp only at h
    split at h
    · rename_i e hr
      cases h
      exact .rejects hp hr
    · rename_i wire keys hr
      cases h
      exact .accepts hp hr
  · rename_i hp
    split at h
    · rename_i hc
      cases h
      exact .sends hp hc
    · cases h
  · rename_i hp
    split at h
    · cases h
    · rename_i hr
      split at h
      · split at h
        · cases h
        · rename_i hw
          cases h
          exact .fails hp hr (Bool.eq_false_iff.2 hw)
      · rename_i hs
        cases h
        exact .waits hp hr (Bool.eq_false_iff.2 hs)
  · rename_i hp
    split at h
    · cases h
    · rename_i hw
      cases h
      exact .fails hp (fun hr => hw (.inl hr)) (Bool.eq_false_iff.2 fun hw' => hw (.inr hw'))
  · rename_i rest _ _ hp
    split at h
    · rename_i hw
      cases h
      rw [hw.1] at hp
      exact .establish hp hw.2
    · cases h
  · rename_i hp
    split at h
    · rename_i hd
      cases h
      exact .dead hp hd
    · rename_i hd
      cases h
      exact .alive hp (Bool.eq_false_iff.2 hd)
  · cases h

theorem step_inv {D : Device} {a : Act} (hI : Inv D.aead s) (h : s.step D a = some s') : Inv D.aead s' := by
  have here : ∀ {p}, s.place = p → s.Answering p := fun hp => hp ▸ hI.answering
  cases step_cases h with
  | stop => exact hI.move rfl rfl rfl rfl rfl rfl hI.answering
  | worker ht hs => exact worker_step_inv hI ht hs
  | stops => exact (hI.has_read _).end_then _
  | reads => exact hI.move rfl rfl rfl rfl rfl rfl trivial
  | data => exact hI.move rfl rfl rfl rfl rfl rfl trivial
  | interrupted => exact hI.move rfl rfl rfl rfl rfl rfl trivial
  | failed => exact (hI.has_read _).end_then _
  | turn hp => exact hI.turn D hp
  | join _ hx => exact hI.join hx _
  | rejects hp => exact hI.refuse rfl rfl rfl rfl rfl rfl rfl
  | accepts hp => exact hI.accept (here hp) _ rfl rfl rfl rfl rfl rfl rfl
  | @sends call rest wire keys count hp =>
    have hr := here hp
    refine hI.send (e := .server_hello call (rest.take count)) hr.2.1 hr.2.2 rfl rfl rfl rfl hI.alive ?_
    refine ⟨hr.1, hr.2.1, ?_⟩
    exact List.forall_mem_append.2 ⟨hr.2.2, List.forall_mem_singleton.2 (Nat.le_refl _)⟩
  | waits => exact hI
  | fails => exact ((hI.log _).has_read _).end_then _
  | establish hp => exact hI.establish _ (here hp).1 (here hp).2.1
  | dead => exact (hI.has_read _).end_then _
  | alive => exact hI.move rfl rfl rfl rfl rfl rfl trivial

theorem run_inv {D : Device} {as : List Act} (h : Run (step D) .new as s) : Inv D.aead s :=
  h.inv (Inv D.aead) inv_new fun _ _ _ => step_inv

/-! ## The machine and `serve_session` -/

/-- What `serve_session` does after a chunk was handled. -/
def after_chunk (D : Device) (d : Demux) (stream : WireBuffer) (dead : Bool) (reads : List EndpointRead) :
    List Served :=
  if d.session.isSome ∧ dead then (end_session d).1 else serve_session D d stream reads

/-- What it does with the rest of a chunk. -/
def parse (D : Device) (d : Demux) (stream : WireBuffer) (dead : Bool) (reads : List EndpointRead) : List Served :=
  match (Secure.demux D).drain d stream with
  | (evs, none) => evs
  | (evs, some (d', stream')) => evs ++ after_chunk D d' stream' dead reads

def reply (D : Device) (d : Demux) (call : Nat) (wire : Bytes) (keys : SessionKeys) (stream : WireBuffer) (dead : Bool)
    (reads : List EndpointRead) : List Served :=
  if D.writes call then
    [.server_hello wire, .established call keys] ++
      parse D { d with decrypt := some (.new keys.host_key keys.host_iv), session := some call } stream dead reads
  else [.endpoint_failed]

def answer_hello (D : Device) (d : Demux) (hello : Bytes) (stream : WireBuffer) (dead : Bool)
    (reads : List EndpointRead) : List Served :=
  match Secure.respond D.answer d.responds hello with
  | .error e => [.handshake_rejected e] ++ parse D { d with responds := d.responds + 1 } stream dead reads
  | .ok (wire, keys) => reply D { d with responds := d.responds + 1 } d.responds wire keys stream dead reads

def rest_after (D : Device) (d : Demux) (stream : WireBuffer) (dead : Bool) (reads : List EndpointRead) :
    After → List Served
  | .respond hello => answer_hello D d hello stream dead reads
  | .clear => after_chunk D d [] dead reads
  | .leave => []

/-- What `serve_session` still does from where the serve thread is. -/
def rest_of (D : Device) (d : Demux) (stream : WireBuffer) (dead : Bool) (reads : List EndpointRead) :
    Serve → List Served
  | .top | .reading => serve_session D d stream reads
  | .parsing => parse D d stream dead reads
  | .joining after => (end_session d).1 ++ rest_after D (end_session d).2 stream dead reads after
  | .responding hello => answer_hello D d hello stream dead reads
  | .replying call _ wire keys => reply D d call wire keys stream dead reads
  | .checking => after_chunk D d stream dead reads
  | .returned => []

/-- The reads to come: in the middle of a chunk, that chunk first. -/
def reads_from (chunk : Bytes) (dead : Bool) (reads : List EndpointRead) : Serve → List EndpointRead
  | .top | .reading | .joining .leave | .returned => reads
  | _ => .data chunk dead :: reads

/-- The events so far and what is still to come make up what `serve_session` does. -/
def Follows (D : Device) (s : Serving) : Prop :=
  ∀ dead reads, serve_session D .new [] (s.reads ++ reads_from s.chunk dead reads s.place) =
    s.served ++ rest_of D s.demux s.stream dead reads s.place

theorem serve_data (D : Device) (d : Demux) (stream : WireBuffer) (chunk : Bytes) (dead : Bool)
    (reads : List EndpointRead) :
    serve_session D d stream (.data chunk dead :: reads) = parse D d (stream.append chunk) dead reads := by
  rw [serve_session, parse]
  cases (Secure.demux D).drain d (stream.append chunk) with
  | mk evs place =>
    cases place with
    | none => rfl
    | some q =>
      dsimp only [after_chunk]
      split
      · rfl
      · rfl

theorem rest_end_then (D : Device) (dead : Bool) (reads : List EndpointRead) (after : After) :
    rest_of D (s.end_then after).demux (s.end_then after).stream dead reads (s.end_then after).place =
      (end_session s.demux).1 ++ rest_after D (end_session s.demux).2 s.stream dead reads after := by
  unfold end_then
  cases hs : s.demux.session with
  | none =>
    have he : end_session s.demux = ([], s.demux) := by rw [end_session, hs]
    rw [he]
    cases after with
    | respond hello => rfl
    | clear => rfl
    | leave => rfl
  | some session => rfl

@[simp] theorem end_then_served (after : After) : (s.end_then after).served = s.served := by
  unfold end_then
  cases s.demux.session with
  | none => cases after <;> rfl
  | some session => rfl

@[simp] theorem end_then_reads (after : After) : (s.end_then after).reads = s.reads := by
  unfold end_then
  cases s.demux.session with
  | none => cases after <;> rfl
  | some session => rfl

@[simp] theorem end_then_chunk (after : After) : (s.end_then after).chunk = s.chunk := by
  unfold end_then
  cases s.demux.session with
  | none => cases after <;> rfl
  | some session => rfl

theorem end_then_place (after : After) :
    (s.end_then after).place = .joining after ∨ (s.end_then after).place = (s.go after).place := by
  unfold end_then
  cases s.demux.session with
  | none => exact .inr rfl
  | some session => exact .inl rfl

theorem reads_end_then (chunk : Bytes) (dead : Bool) (reads : List EndpointRead) (after : After) :
    reads_from chunk dead reads (s.end_then after).place =
      match after with
      | .leave => reads
      | _ => .data chunk dead :: reads := by
  rcases end_then_place (s := s) after with h | h
  · rw [h]
    cases after <;> rfl
  · rw [h]
    cases after <;> rfl

/-- Leaving: the session ends and nothing else happens. -/
theorem Follows.leave {D : Device} {r : EndpointRead}
    (h : ∀ reads, serve_session D .new [] (s.reads ++ r :: reads) = s.served ++ (end_session s.demux).1) :
    Follows D ((s.has_read r).end_then .leave) := by
  intro dead reads
  rw [rest_end_then, reads_end_then, end_then_served, end_then_reads]
  simp only [has_read, rest_after, List.append_nil, List.append_assoc, List.singleton_append]
  exact h reads

/-- The ServerHello could not be written. -/
theorem Follows.fails {D : Device} {call : Nat} {rest wire : Bytes} {keys : SessionKeys} (h : Follows D s)
    (hp : s.place = .replying call rest wire keys) (hs : s.demux.session = none) (hw : ¬ D.writes call = true) :
    Follows D (s.endpoint_fails.end_then .leave) := by
  have he : end_session s.demux = ([], s.demux) := by rw [end_session, hs]
  refine Follows.leave (s := s.log .endpoint_failed) fun reads => ?_
  have hF := h false reads
  simp only [hp, rest_of, reply, hw] at hF
  simp only [log, he, List.append_nil]
  exact hF

theorem drain_parse {D : Device} {d d' : Demux} {b b' : WireBuffer} {evs : List Served}
    (h : demux_turn D d b = .more evs d' b') (dead : Bool) (reads : List EndpointRead) :
    parse D d b dead reads = evs ++ parse D d' b' dead reads := by
  unfold parse
  rw [(Secure.demux D).drain_more h]
  cases (Secure.demux D).drain d' b' with
  | mk es place =>
    cases place with
    | none => rfl
    | some q => simp

theorem wait_parse {D : Device} {d d' : Demux} {b b' : WireBuffer} {evs : List Served}
    (h : demux_turn D d b = .wait evs d' b') (dead : Bool) (reads : List EndpointRead) :
    parse D d b dead reads = evs ++ after_chunk D d' b' dead reads := by
  unfold parse
  rw [(Secure.demux D).drain_wait h]

theorem stop_parse {D : Device} {d : Demux} {b : WireBuffer} {evs : List Served}
    (h : demux_turn D d b = .stop evs) (dead : Bool) (reads : List EndpointRead) : parse D d b dead reads = evs := by
  unfold parse
  rw [(Secure.demux D).drain_stop h]

/-- A hello at the front is answered, then the rest of the chunk is parsed. -/
theorem hello_parse (D : Device) (d : Demux) (b : WireBuffer) (dead : Bool) (reads : List EndpointRead)
    (hb : b.starts_with kClientHelloMagic = true) (hl : ¬ b.length < kClientHelloSize) :
    parse D d b dead reads = (end_session d).1 ++
      answer_hello D (end_session d).2 (b.take kClientHelloSize) (b.consume kClientHelloSize) dead reads := by
  have ht : demux_turn D d b = hello_turn D d b := by rw [demux_turn, if_pos hb]
  simp only [hello_turn, hl, if_false] at ht
  simp only [answer_hello, end_session_responds]
  cases hr : Secure.respond D.answer d.responds (b.take kClientHelloSize) with
  | error e =>
    simp only [hr] at ht
    rw [drain_parse ht, List.append_assoc]
  | ok answer =>
    obtain ⟨wire, keys⟩ := answer
    simp only [hr] at ht
    simp only [reply]
    by_cases hw : D.writes d.responds = true
    · simp only [hw, if_true] at ht ⊢
      rw [drain_parse ht, List.append_assoc]
    · simp only [hw] at ht ⊢
      rw [stop_parse ht]
      rfl

theorem Follows.turn {D : Device} (h : Follows D s) (hp : s.place = .parsing) : Follows D (s.turn D) := by
  intro dead reads
  have hparse := h dead reads
  simp only [hp, reads_from, rest_of] at hparse
  unfold Serving.turn
  split
  · rename_i hb
    split
    · rename_i hl
      have ht : demux_turn D s.demux s.stream = .wait [] s.demux s.stream := by
        rw [demux_turn, if_pos hb, hello_turn, if_pos hl]
      rw [wait_parse ht] at hparse
      exact hparse
    · rename_i hl
      rw [hello_parse D s.demux s.stream dead reads hb hl] at hparse
      rw [rest_end_then, reads_end_then, end_then_served, end_then_reads, end_then_chunk]
      exact hparse
  · rename_i hb
    split
    · rename_i hd
      split
      · rename_i hl
        have ht : demux_turn D s.demux s.stream = .wait [.discarded s.stream.length] s.demux [] := by
          simp only [demux_turn, hb, hd, hl, if_true, if_false, ne_eq, not_false_eq_true, Bool.false_eq_true]
        rw [wait_parse ht, ← List.append_assoc] at hparse
        exact hparse
      · rename_i hl
        have ht : demux_turn D s.demux s.stream = .wait [] s.demux s.stream := by
          simp only [demux_turn, hb, hd, hl, if_false, Bool.false_eq_true]
        rw [wait_parse ht] at hparse
        exact hparse
    · rename_i r hd
      have ht := demux_record D s.demux r hd s.stream (Bool.eq_false_iff.2 hb)
      simp only [Secure.demux, record_turn] at ht
      split
      · rename_i e rest hn
        simp only [hn] at ht
        rw [wait_parse ht] at hparse
        rw [rest_end_then, reads_end_then, end_then_served, end_then_reads, end_then_chunk]
        simp only [Serving.log, List.append_assoc]
        exact hparse
      · rename_i stream hn
        simp only [hn] at ht
        rw [wait_parse ht] at hparse
        exact hparse
      · rename_i wire stream hn
        simp only [hn] at ht
        split
        · rename_i e r' ho
          simp only [ho] at ht
          rw [wait_parse ht] at hparse
          rw [rest_end_then, reads_end_then, end_then_served, end_then_reads, end_then_chunk]
          simp only [Serving.log, Serving.left, List.append_assoc]
          exact hparse
        · rename_i m r' ho
          simp only [ho] at ht
          rw [drain_parse ht, ← List.append_assoc] at hparse
          simp only [Serving.log, Serving.left, hp]
          exact hparse

theorem Follows.join {D : Device} {after : After} (h : Follows D s) (hp : s.place = .joining after) :
    Follows D ({ s with
      workers := []
      demux := (end_session s.demux).2
      served := s.served ++ (end_session s.demux).1 }.go after) := by
  intro dead reads
  have hj := h dead reads
  rw [hp, rest_of, ← List.append_assoc] at hj
  cases after with
  | respond hello => exact hj
  | clear => exact hj
  | leave => exact hj

/-- A step that only says what the serve thread does next, or that is another thread's. -/
theorem Follows.same {D : Device} (h : Follows D s) (hr : s'.reads = s.reads) (hv : s'.served = s.served)
    (hx : ∀ dead reads, reads_from s'.chunk dead reads s'.place = reads_from s.chunk dead reads s.place ∧
      rest_of D s'.demux s'.stream dead reads s'.place = rest_of D s.demux s.stream dead reads s.place) :
    Follows D s' := by
  intro dead reads
  obtain ⟨h1, h2⟩ := hx dead reads
  rw [hr, hv, h1, h2]
  exact h dead reads

theorem worker_step_serve {i : Nat} {t : Thread} {a : WorkerAct} (h : s.worker_step i t a = some s') :
    s'.reads = s.reads ∧ s'.served = s.served ∧ s'.opened = s.opened ∧ s'.chunk = s.chunk ∧ s'.place = s.place ∧
      s'.demux = s.demux ∧ s'.stream = s.stream := by
  unfold worker_step at h
  split at h <;> try split at h
  all_goals cases h
  all_goals try exact ⟨rfl, rfl, rfl, rfl, rfl, rfl, rfl⟩

theorem step_follows {D : Device} {a : Act} (hI : Inv D.aead s) (hF : Follows D s) (h : s.step D a = some s') :
    Follows D s' := by
  have here : ∀ {p}, s.place = p → s.Answering p := fun hp => hp ▸ hI.answering
  cases step_cases h with
  | stop => exact hF.same rfl rfl fun _ _ => ⟨rfl, rfl⟩
  | worker ht hs =>
    obtain ⟨hr, hv, -, hc, hp, hd, hs⟩ := worker_step_serve hs
    exact hF.same hr hv fun _ _ => by rw [hc, hp, hd, hs]; exact ⟨rfl, rfl⟩
  | stops hp =>
    refine Follows.leave fun reads => ?_
    have hF := hF true (.interrupted true :: reads)
    rcases hp with hp | hp
    · rw [hp] at hF
      exact hF
    · rw [hp] at hF
      exact hF
  | reads hp => exact hF.same rfl rfl fun _ _ => by rw [hp]; exact ⟨rfl, rfl⟩
  | @data chunk hp =>
    intro dead reads
    have hF := hF dead (.data chunk dead :: reads)
    rw [hp, rest_of, serve_data] at hF
    exact hF
  | interrupted hp =>
    intro dead reads
    have hF := hF true (.interrupted false :: reads)
    rw [hp] at hF
    simp only [has_read, List.append_assoc, List.singleton_append]
    exact hF
  | failed hp =>
    refine Follows.leave fun reads => ?_
    have hF := hF true (.failed :: reads)
    rw [hp] at hF
    exact hF
  | turn hp => exact hF.turn hp
  | join hp => exact hF.join hp
  | rejects hp hr =>
    intro dead reads
    have hF := hF dead reads
    simp only [hp, rest_of, answer_hello, hr] at hF
    rw [← List.append_assoc] at hF
    exact hF
  | accepts hp hr =>
    refine hF.same rfl rfl fun dead reads => ?_
    simp only [hp, reads_from, rest_of, answer_hello, hr, and_self]
  | sends hp => exact hF.same rfl rfl fun _ _ => by rw [hp]; exact ⟨rfl, rfl⟩
  | waits => exact hF
  | fails hp _ hw => exact hF.fails hp (here hp).1 (Bool.eq_false_iff.1 hw)
  | establish hp hw =>
    intro dead reads
    have hF := hF dead reads
    simp only [hp, rest_of, reply, hw, if_true] at hF
    rw [← List.append_assoc] at hF
    exact hF
  | dead hp hd =>
    refine Follows.leave fun reads => ?_
    -- The flag that was set is the session's.
    have hs : s.demux.session.isSome = true := by
      unfold is_dead at hd
      cases hs : s.demux.session with
      | none => simp [hs] at hd
      | some session => rfl
    have hF := hF true reads
    simp only [hp, rest_of, after_chunk, hs, and_self, if_true] at hF
    exact hF
  | alive hp =>
    intro dead reads
    have hF := hF false reads
    simp only [hp, rest_of, after_chunk, Bool.false_eq_true, and_false, if_false] at hF
    simp only [has_read, List.append_assoc, List.singleton_append]
    exact hF

theorem run_follows {D : Device} {as : List Act} (h : Run (step D) .new as s) : Follows D s := by
  have hIF : Inv D.aead s ∧ Follows D s :=
    h.inv (fun s => Inv D.aead s ∧ Follows D s) ⟨inv_new, fun _ _ => rfl⟩
      fun _ _ _ hI hs => ⟨step_inv hI.1 hs, step_follows hI.1 hI.2 hs⟩
  exact hIF.2

/-- A run that returns did what `serve_session` does on its reads, whatever the other threads did. -/
theorem returned_serves {D : Device} {as : List Act} (h : Run (step D) .new as s) (hp : s.place = .returned) :
    s.served = serve_session D .new [] s.reads := by
  have hf := run_follows h true []
  simp only [hp, reads_from, rest_of, List.append_nil] at hf
  exact hf.symm

/-! ## Deliveries -/

/-- Every delivery in the log is among the records opened. -/
def Logged (s : Serving) : Prop :=
  ∀ session m, .delivered session m ∈ s.served → ∃ o ∈ s.opened, o.session = session ∧ o.message = m

@[simp] theorem end_then_opened (after : After) : (s.end_then after).opened = s.opened := by
  unfold end_then
  cases s.demux.session with
  | none => cases after <;> rfl
  | some session => rfl

@[simp] theorem go_served (after : After) : (s.go after).served = s.served := by cases after <;> rfl

@[simp] theorem go_opened (after : After) : (s.go after).opened = s.opened := by cases after <;> rfl

theorem Logged.more (h : Logged s) (es : List Served) (hq : ∀ e ∈ es, ∀ n m, e ≠ .delivered n m)
    (hv : s'.served = s.served ++ es) (ho : s'.opened = s.opened) : Logged s' := by
  intro session m hm
  rw [hv] at hm
  rw [ho]
  rcases List.mem_append.1 hm with hm | hm
  · exact h session m hm
  · exact absurd rfl (hq _ hm session m)

theorem Logged.same (h : Logged s) (hv : s'.served = s.served) (ho : s'.opened = s.opened) : Logged s' :=
  h.more [] (by simp) (by rw [hv, List.append_nil]) ho

theorem Logged.turn {D : Device} (h : Logged s) : Logged (s.turn D) := by
  unfold Serving.turn
  split
  · split
    · exact h.same rfl rfl
    · exact h.same (end_then_served _) (end_then_opened _)
  · split
    · split
      · exact h.more [.discarded s.stream.length] (by simp) rfl rfl
      · exact h.same rfl rfl
    · split
      · rename_i e _ _
        exact h.more [.framing_failure e] (by simp) (end_then_served _) (end_then_opened _)
      · exact h.same rfl rfl
      · split
        · rename_i e _ _
          exact h.more [.record_rejected e] (by simp) (end_then_served _) (end_then_opened _)
        · intro session m hm
          rcases List.mem_append.1 hm with hm | hm
          · obtain ⟨o, ho, hos⟩ := h session m hm
            exact ⟨o, List.mem_append.2 (.inl ho), hos⟩
          · rw [List.mem_singleton] at hm
            cases hm
            exact ⟨_, List.mem_append.2 (.inr (List.mem_singleton.2 rfl)), rfl, rfl⟩

theorem step_logged {D : Device} {a : Act} (hL : Logged s) (h : s.step D a = some s') : Logged s' := by
  cases step_cases h with
  | stop => exact hL.same rfl rfl
  | worker ht hs =>
    obtain ⟨-, hv, ho, -⟩ := worker_step_serve hs
    exact hL.same hv ho
  | stops => exact hL.same (end_then_served _) (end_then_opened _)
  | reads => exact hL.same rfl rfl
  | data => exact hL.same rfl rfl
  | interrupted => exact hL.same rfl rfl
  | failed => exact hL.same (end_then_served _) (end_then_opened _)
  | turn => exact hL.turn
  | join => exact hL.more _ (fun e he => (end_session_quiet s.demux e he).1) (go_served _) (go_opened _)
  | @rejects hello e => exact hL.more [.handshake_rejected e] (by simp) rfl rfl
  | accepts => exact hL.same rfl rfl
  | sends => exact hL.same rfl rfl
  | waits => exact hL
  | fails => exact hL.more [.endpoint_failed] (by simp) (end_then_served _) (end_then_opened _)
  | establish => exact hL.more [.server_hello _, .established _ _] (by simp) rfl rfl
  | dead => exact hL.same (end_then_served _) (end_then_opened _)
  | alive => exact hL.same rfl rfl

theorem run_logged {D : Device} {as : List Act} (h : Run (step D) .new as s) : Logged s :=
  h.inv Logged (fun _ _ hm => by cases hm) fun _ _ _ => step_logged

/-! ## Two framings in one stream -/

/-- A record with a length that `WireBuffer::next` accepts. -/
def ValidRecord (wire : Bytes) : Prop :=
  ∃ b0 b1 b2 b3 body, wire = b0 :: b1 :: b2 :: b3 :: body ∧
    (BigEndian.get_be32 b0 b1 b2 b3).toNat = body.length ∧ 16 + 1 ≤ body.length ∧ body.length ≤ kMaxWireRecord

/-- The first byte of a length is zero, which the magic does not start with. -/
theorem record_not_hello {wire x y : Bytes} {stream : WireBuffer} (hw : ValidRecord wire)
    (h : stream ++ x = wire ++ y) :
    stream.starts_with kClientHelloMagic = false := by
  obtain ⟨b0, b1, b2, b3, body, rfl, hl, -, hle⟩ := hw
  have hb0 : b0.toNat = 0 := by
    rw [BigEndian.get_be32_toNat] at hl
    simp only [kMaxWireRecord, kMaxPayload] at hle
    omega
  rcases stream with _ | ⟨c0, stream⟩
  · rfl
  · simp only [List.cons_append, List.cons.injEq] at h
    have hc : c0 = 0 := UInt8.toNat_inj.1 (by rw [h.1, hb0]; rfl)
    unfold WireBuffer.starts_with
    split
    · rfl
    · simp [kClientHelloMagic, hc]

/-- A record is not answered as a hello. -/
theorem turn_record (D : Device) (hp : s.place = .parsing) {wire x y : Bytes} (hw : ValidRecord wire)
    (h : s.stream ++ x = wire ++ y) : ¬ (s.turn D).place.answers := by
  have hend : ∀ t : Serving, ¬ (t.end_then .clear).place.answers := by
    intro t
    rcases end_then_place (s := t) .clear with hc | hc
    · rw [hc]
      exact id
    · rw [hc]
      exact id
  unfold Serving.turn
  rw [record_not_hello hw h]
  simp only [Bool.false_eq_true, if_false]
  split
  · split
    · exact id
    · exact id
  · split
    · exact hend _
    · exact id
    · split
      · exact hend _
      · simp only [log, left, hp]
        exact id

/-- A hello is not framed or opened as a record, and answered once it is whole. -/
theorem turn_hello (D : Device) (hello : ClientHello) {x y : Bytes}
    (h : s.stream ++ x = encode_client_hello hello ++ y) :
    (s.turn D).opened = s.opened ∧ (∀ e ∈ (s.turn D).served, e ∈ s.served ∨ ∃ n, e = .discarded n) ∧
      (kClientHelloSize ≤ s.stream.length → (s.turn D).place = .joining (.respond (encode_client_hello hello)) ∨
        (s.turn D).place = .responding (encode_client_hello hello)) := by
  have hpre : s.stream <+: encode_client_hello hello ++ y := ⟨x, h⟩
  unfold Serving.turn
  by_cases h4 : 4 ≤ s.stream.length
  · rw [starts_with_hello hello y s.stream hpre h4]
    simp only [if_true]
    split
    · refine ⟨rfl, fun e he => .inl he, fun hle => ?_⟩
      omega
    · refine ⟨end_then_opened _, fun e he => .inl (by rwa [end_then_served] at he), fun hle => ?_⟩
      have ht : s.stream.take kClientHelloSize = encode_client_hello hello := by
        rw [List.prefix_iff_eq_take.1 hpre, List.take_take, Nat.min_eq_left hle, ← encode_client_hello_length hello,
          List.take_left]
      rw [ht]
      exact end_then_place _
  · rw [starts_with_short (by omega)]
    have hsize : 4 < kClientHelloSize := by decide
    simp only [Bool.false_eq_true, if_false]
    split
    · split
      · refine ⟨rfl, fun e he => ?_, fun hle => by omega⟩
        rcases List.mem_append.1 he with he | he
        · exact .inl he
        · exact .inr ⟨_, List.mem_singleton.1 he⟩
      · exact ⟨rfl, fun e he => .inl he, fun hle => by omega⟩
    · rw [next_short (by omega)]
      exact ⟨rfl, fun e he => .inl he, fun hle => by omega⟩

/-- In every state of every run: `decrypt` is set exactly when `session` is;
every message delivered was opened under the host key of the hello accepted
last, for the session of that hello; a record at a boundary is never answered as
a hello, and a hello at a boundary never framed as a record; and where the
ServerHello is written no record writer has yet to exit, so that its bytes come
after all of the sessions before it. -/
theorem session_coherence (D : Device) (as : List Act) (s : Serving) (h : Run (step D) .new as s) :
    (s.demux.decrypt.isSome ↔ s.demux.session.isSome) ∧
    (∀ session m, .delivered session m ∈ s.served →
      ∃ o ∈ s.opened, o.session = session ∧ o.message = m ∧ o.Coherent D.aead) ∧
    (s.place = .parsing → ∀ wire x y, ValidRecord wire → s.stream ++ x = wire ++ y → ¬ (s.turn D).place.answers) ∧
    (s.place = .parsing → ∀ hello x y, s.stream ++ x = encode_client_hello hello ++ y →
      (s.turn D).opened = s.opened ∧ (∀ e ∈ (s.turn D).served, e ∈ s.served ∨ ∃ n, e = .discarded n) ∧
        (kClientHelloSize ≤ s.stream.length → (s.turn D).place = .joining (.respond (encode_client_hello hello)) ∨
          (s.turn D).place = .responding (encode_client_hello hello))) ∧
    (∀ call rest wire keys, s.place = .replying call rest wire keys → ∀ t ∈ s.threads, ¬ t.CanWrite) ∧
    s.endpoint.Pairwise fun e e' => e.rank ≤ e'.rank := by
  have hI := run_inv h
  refine ⟨by rw [hI.paired], ?_, ?_, ?_, ?_, hI.ordered⟩
  · intro session m hm
    obtain ⟨o, ho, hs, hm⟩ := run_logged h session m hm
    exact ⟨o, ho, hs, hm, hI.opened o ho⟩
  · intro hp wire x y hw hb
    exact turn_record D hp hw hb
  · intro _ hello x y hb
    exact turn_hello D hello hb
  · intro call rest wire keys hp t ht hw
    have ha := hI.answering
    rw [hp] at ha
    obtain ⟨i, hi⟩ := List.mem_iff_getElem?.1 ht
    exact hw.2 (hI.no_threads ha.1 hi)

/-- A session with one message; a second hello comes while its writer is in the
middle of a record. -/
def superseded : List Act :=
  [.test, .read_data one_wire, .turn, .respond, .write_hello 4, .establish, .turn, .turn, .worker 3 .passes,
    .worker 3 (.takes [1, 2]), .worker 3 (.writes 1), .check, .test,
    .read_data (encode_client_hello one_conversation.hello), .turn, .worker 3 .interrupted, .worker 2 .leaves,
    .worker 0 .gives_up, .worker 1 .gives_up, .join, .respond]

set_option maxRecDepth 4000 in
theorem session_coherence_superseded :
    ∃ s, Run (step one_device) .new superseded s ∧ s.place.answers ∧ s.opened.length = 1 ∧
      s.endpoint.Pairwise fun e e' => e.rank ≤ e'.rank := by
  obtain ⟨s, hs, hp, ho⟩ : ∃ s, exec (step one_device) .new superseded = some s ∧ s.place.answers ∧
      s.opened.length = 1 := ⟨_, rfl, trivial, rfl⟩
  exact ⟨s, run_of_exec hs, hp, ho, (session_coherence one_device superseded s (run_of_exec hs)).2.2.2.2.2⟩

end Serving

end CameraStreamer.Secure.SessionThreads
