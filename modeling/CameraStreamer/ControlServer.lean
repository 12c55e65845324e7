import Mathlib.Data.List.Nodup
import CameraStreamer.Lib.Runs
import CameraStreamer.ControlDispatch
/-!
# The TCP control server

Any number of clients are connected. A `Conn` is on the heap until its pending read
completes with no line, or with no server: `reload` destroys the server between two
completions and constructs another one, while reads of the old one are pending.
-/

namespace CameraStreamer.Control
open Runs

/-- A `ControlServer::Conn`. -/
structure Conn where
  /-- The server it points to, by the order of construction; none for null. -/
  server : Option Nat

/-- A client's end of a connection. -/
structure Socket where
  /-- What it took of each write. -/
  sent : List Bytes := []
  /-- A write stops early only as the connection breaks. -/
  broken : Bool := false

/-- `g_output_stream_write_all` -/
def Socket.write (s : Socket) (out : Bytes) (took : Nat) : Socket :=
  if s.broken then s else ⟨s.sent ++ [out.take took], took < out.length⟩

inductive Event (W : Type) where
  | accepted (conn : Nat)
  /-- A line is dispatched in this state. -/
  | request (conn : Nat) (line : Bytes) (w : W)
  | broadcast (line : Bytes)
  | closed (conn : Nat)
  | destroyed

/-- The main loop, with the server there is and what is left of those before it. -/
structure Service (W : Type) where
  control_ : Option Nat := none
  constructed : Nat := 0
  conns_ : List Nat := []
  /-- The allocated `Conn`s, by the order of their connections. -/
  heap : Nat → Option Conn := fun _ => none
  accepted : Nat := 0
  /-- The `Conn`s given to the pending reads. -/
  reads : List Nat := []
  freed : List Nat := []
  sockets : Nat → Socket := fun _ => {}
  w : W
  log : List (Event W) := []
  /-- A `Conn` or a server has been used after its end. -/
  fault : Bool := false

namespace Service

inductive Act (W : Type) where
  | construct
  | accept (tls_ok : Bool)
  /-- A read completes, with a line or with the end or an error. -/
  | on_line (conn : Nat) (line : Option Bytes) (took : Nat)
  /-- A broadcast on the server that there is, not on one that is gone. -/
  | broadcast (line : Bytes) (took : Nat → Nat)
  | destroy
  /-- Another part of the process acts on what the handlers read. -/
  | world (w : W)

section
variable {D W : Type} [JsonGenerator D] (parse : JsonParser D) (registry : ControlRegistry D W)

def set_heap (s : Service W) (c : Nat) (conn : Option Conn) : Service W :=
  { s with heap := fun d => if d = c then conn else s.heap d }

/-- A member of the server is used. -/
def touch (s : Service W) (server : Nat) : Service W :=
  if s.control_ = some server then s else { s with fault := true }

def accept_connection (s : Service W) (server : Nat) : Service W :=
  let s' : Service W := { s with
    conns_ := s.accepted :: s.conns_
    accepted := s.accepted + 1
    reads := s.accepted :: s.reads
    log := s.log ++ [.accepted s.accepted] }
  s'.set_heap s.accepted (some ⟨some server⟩)

def close_conn (s : Service W) (c : Nat) (server : Option Nat) : Service W :=
  let s := match server with
    | none => s
    | some server =>
      let s := s.touch server
      { s with conns_ := s.conns_.filter (· != c), log := s.log ++ [Event.closed c] }
  { s with freed := s.freed ++ [c] }.set_heap c none

def process_line (s : Service W) (server c : Nat) (line : Bytes) (took : Nat) : Service W :=
  let r := dispatch_request parse registry line s.w
  let s := { s.touch server with w := r.2, log := s.log ++ [.request c line s.w] }
  if r.1.isEmpty then s
  else { s with sockets := fun d => if d = c then (s.sockets d).write r.1 took else s.sockets d }

def on_line (s : Service W) (c : Nat) (line : Option Bytes) (took : Nat) : Service W :=
  let s := { s with reads := s.reads.filter (· != c) }
  match s.heap c with
  | none => { s with fault := true }
  | some conn =>
    match conn.server, line with
    | some server, some line =>
      let s := s.process_line parse registry server c line took
      { s with reads := c :: s.reads }
    | server, _ => s.close_conn c server

/-- The line with its newline. -/
def terminated (line : Bytes) : Bytes := if line.getLast? = some 10 then line else line ++ [10]

def broadcast (s : Service W) (line : Bytes) (took : Nat → Nat) : Service W :=
  if line.isEmpty || s.conns_.isEmpty then s
  else { s with
    sockets := fun c => if c ∈ s.conns_ then (s.sockets c).write (terminated line) (took c) else s.sockets c
    log := s.log ++ [.broadcast line]
    fault := s.fault || s.conns_.any fun c => (s.heap c).isNone }

/-- `~ControlServer` -/
def destroy (s : Service W) : Service W :=
  { s with
    control_ := none
    heap := fun c => if c ∈ s.conns_ then (s.heap c).map fun _ => ⟨none⟩ else s.heap c
    conns_ := []
    log := s.log ++ [.destroyed]
    fault := s.fault || s.conns_.any fun c => (s.heap c).isNone }

def step (s : Service W) : Act W → Option (Service W)
  | .construct =>
    if s.control_ = none then
      some { s with control_ := some s.constructed, constructed := s.constructed + 1, conns_ := [] }
    else none
  | .accept tls_ok => s.control_.map fun server => if tls_ok then s.accept_connection server else s
  | .on_line c line took => if c ∈ s.reads then some (s.on_line parse registry c line took) else none
  | .broadcast line took => if s.control_ = none then none else some (s.broadcast line took)
  | .destroy => if s.control_ = none then none else some s.destroy
  | .world w => some { s with w := w }

end

/-! ## What a client is due -/

/-- Whether the server has a connection, and what was to be written to it. -/
structure Account where
  live : Bool := false
  due : List Bytes := []

section
variable {D W : Type} [JsonGenerator D] (parse : JsonParser D) (registry : ControlRegistry D W)

/-- Its own requests are answered, and what is broadcast while it is connected is passed on. -/
def Account.add (c : Nat) (a : Account) : Event W → Account
  | .accepted d => if d = c then { a with live := true } else a
  | .request d line w =>
    let out := (dispatch_request parse registry line w).1
    if d = c ∧ out ≠ [] then { a with due := a.due ++ [out] } else a
  | .broadcast line => if a.live then { a with due := a.due ++ [terminated line] } else a
  | .closed d => if d = c then { a with live := false } else a
  | .destroyed => { a with live := false }

def account (log : List (Event W)) (c : Nat) : Account := log.foldl (Account.add parse registry c) {}

theorem account_snoc (log : List (Event W)) (e : Event W) (c : Nat) :
    account parse registry (log ++ [e]) c = (account parse registry log c).add parse registry c e := by
  unfold account
  rw [List.foldl_append]
  rfl

end

/-- The lines that a connection had dispatched. -/
def requests {W : Type} (log : List (Event W)) (c : Nat) : List Bytes :=
  log.filterMap fun
    | .request d line _ => if d = c then some line else none
    | _ => none

/-- The lines that its reads brought. -/
def lines {W : Type} (as : List (Act W)) (c : Nat) : List Bytes :=
  as.filterMap fun
    | .on_line d line _ => if d = c then line else none
    | _ => none

/-! ## Sockets -/

/-- The socket took all that was due, or up to the write at which it broke. -/
inductive Took : List Bytes → Socket → Prop
  | all (due : List Bytes) : Took due ⟨due, false⟩
  | broke (before after : List Bytes) (out : Bytes) {took : Nat} (h : took < out.length) :
      Took (before ++ out :: after) ⟨before ++ [out.take took], true⟩

theorem Took.write {due : List Bytes} {s : Socket} (h : Took due s) (out : Bytes) (took : Nat) :
    Took (due ++ [out]) (s.write out took) := by
  cases h with
  | all =>
    unfold Socket.write
    rw [if_neg Bool.false_ne_true]
    dsimp only
    by_cases hshort : took < out.length
    · rw [decide_eq_true hshort]
      exact .broke due [] out hshort
    · rw [decide_eq_false hshort, List.take_of_length_le (Nat.le_of_not_lt hshort)]
      exact .all _
  | broke before after first hshort =>
    unfold Socket.write
    rw [if_pos rfl, List.append_assoc, List.cons_append]
    exact .broke before (after ++ [out]) first hshort

/-- The bytes that a client is sent are the first ones that it is due. -/
theorem Took.begins {due : List Bytes} {s : Socket} (h : Took due s) : s.sent.flatten <+: due.flatten := by
  cases h with
  | all => exact List.prefix_rfl
  | broke before after out hshort =>
    rw [List.flatten_append, List.flatten_append, List.flatten_singleton, List.flatten_cons]
    exact (List.prefix_append_right_inj _).2 ((List.take_prefix _ _).trans (List.prefix_append _ _))

theorem Took.complete {due : List Bytes} {s : Socket} (h : Took due s) (hs : s.broken = false) : s.sent = due := by
  cases h with
  | all => rfl
  | broke => cases hs

/-! ## The heap -/

section
variable {W : Type} {s : Service W}

/-- A `Conn` is allocated as long as its read is pending, and is in `conns_` as long as
the server that it points to is there. -/
structure Heap (s : Service W) : Prop where
  no_fault : s.fault = false
  once : s.reads.Nodup
  pending : ∀ c, c ∈ s.reads ↔ (s.heap c).isSome = true
  freed_once : s.freed.Nodup
  freed : ∀ c, c ∈ s.freed ↔ c < s.accepted ∧ s.heap c = none
  fresh : ∀ c, s.accepted ≤ c → s.heap c = none
  conns : ∀ c, c ∈ s.conns_ ↔ ∃ conn, s.heap c = some conn ∧ conn.server ≠ none
  server : ∀ c conn server, s.heap c = some conn → conn.server = some server → s.control_ = some server

theorem touch_self {server : Nat} (h : s.control_ = some server) : s.touch server = s := if_pos h

theorem Heap.accept (h : s.Heap) {server : Nat} (hcontrol : s.control_ = some server) :
    (s.accept_connection server).Heap := by
  have hnew : s.heap s.accepted = none := h.fresh _ (Nat.le_refl _)
  have hunread : s.accepted ∉ s.reads := fun hr => by
    have hsome := (h.pending _).1 hr
    rw [hnew] at hsome
    cases hsome
  unfold accept_connection set_heap
  constructor
  · exact h.no_fault
  · exact List.nodup_cons.2 ⟨hunread, h.once⟩
  · intro c
    dsimp only
    by_cases hc : c = s.accepted
    · simp [hc]
    · rw [if_neg hc, List.mem_cons, or_iff_right hc]
      exact h.pending c
  · exact h.freed_once
  · intro c
    dsimp only
    by_cases hc : c = s.accepted
    · rw [if_pos hc, h.freed c, hc]
      simp
    · rw [if_neg hc, h.freed c]
      have hlt : c < s.accepted + 1 ↔ c < s.accepted := by omega
      rw [hlt]
  · intro c hc
    dsimp only at hc ⊢
    rw [if_neg (by omega)]
    exact h.fresh c (by omega)
  · intro c
    dsimp only
    by_cases hc : c = s.accepted
    · simp [hc]
    · rw [if_neg hc, List.mem_cons, or_iff_right hc]
      exact h.conns c
  · intro c conn server' hc hserver'
    dsimp only at hc ⊢
    split at hc
    · cases hc
      cases hserver'
      exact hcontrol
    · exact h.server c conn server' hc hserver'

/-- What `close_conn` leaves, where the completed read was of this `Conn`. -/
theorem Heap.close_eq (h : s.Heap) {c : Nat} {conn : Conn} (hc : s.heap c = some conn) :
    { s with reads := s.reads.filter (· != c) }.close_conn c conn.server = { s with
      reads := s.reads.filter (· != c)
      conns_ := s.conns_.filter (· != c)
      freed := s.freed ++ [c]
      heap := fun d => if d = c then none else s.heap d
      log := s.log ++ if conn.server = none then [] else [.closed c] } := by
  unfold close_conn set_heap
  cases hserver : conn.server with
  | none =>
    have hout : s.conns_.filter (· != c) = s.conns_ := by
      refine List.filter_eq_self.2 fun d hd => ?_
      obtain ⟨conn', hd', hne⟩ := (h.conns d).1 hd
      rw [bne_iff_ne]
      rintro rfl
      rw [hc] at hd'
      cases hd'
      exact hne hserver
    rw [hout, if_pos rfl, List.append_nil]
  | some server =>
    have hcontrol : ({ s with reads := s.reads.filter (· != c) } : Service W).control_ = some server :=
      h.server c conn server hc hserver
    dsimp only
    rw [touch_self hcontrol, if_neg (Option.some_ne_none _)]

theorem Heap.accepted (h : s.Heap) {c : Nat} {conn : Conn} (hc : s.heap c = some conn) : c < s.accepted := by
  by_contra hlt
  rw [h.fresh c (Nat.le_of_not_lt hlt)] at hc
  cases hc

/-- The completion of a read whose `Conn` is not kept. -/
theorem Heap.close (h : s.Heap) {c : Nat} {conn : Conn} (hc : s.heap c = some conn) :
    ({ s with reads := s.reads.filter (· != c) }.close_conn c conn.server).Heap := by
  have hunfreed : c ∉ s.freed := fun hf => by
    have hnone := ((h.freed c).1 hf).2
    rw [hc] at hnone
    cases hnone
  rw [h.close_eq hc]
  constructor
  · exact h.no_fault
  · exact h.once.filter _
  · intro d
    dsimp only
    by_cases hd : d = c
    · simp [hd]
    · rw [if_neg hd, List.mem_filter, h.pending d]
      simp [hd]
  · exact h.freed_once.append (List.nodup_singleton c) (List.disjoint_singleton.2 hunfreed)
  · intro d
    dsimp only
    by_cases hd : d = c
    · simp [hd, h.accepted hc]
    · rw [if_neg hd, List.mem_append, h.freed d]
      simp [hd]
  · intro d hd
    dsimp only
    split
    · rfl
    · exact h.fresh d hd
  · intro d
    dsimp only
    rw [List.mem_filter, h.conns d]
    by_cases hd : d = c
    · simp [hd]
    · simp [hd]
  · intro d conn server hd hserver
    dsimp only at hd
    split at hd
    · cases hd
    · exact h.server d conn server hd hserver

theorem Heap.allocated (h : s.Heap) : (s.conns_.any fun c => (s.heap c).isNone) = false := by
  rw [List.any_eq_false]
  intro c hc
  obtain ⟨conn, hconn, -⟩ := (h.conns c).1 hc
  simp [hconn]

theorem Heap.broadcast (h : s.Heap) (line : Bytes) (took : Nat → Nat) : (s.broadcast line took).Heap := by
  unfold Service.broadcast
  split
  · exact h
  · exact { h with no_fault := by simp [h.no_fault, h.allocated] }

/-- Without a server nothing is connected. -/
theorem Heap.alone (h : s.Heap) (hcontrol : s.control_ = none) : ∀ c, c ∉ s.conns_ := by
  intro c hc
  obtain ⟨conn, hconn, hserver⟩ := (h.conns c).1 hc
  obtain ⟨server, hserver⟩ := Option.ne_none_iff_exists'.1 hserver
  rw [h.server c conn server hconn hserver] at hcontrol
  cases hcontrol

theorem Heap.construct (h : s.Heap) (hcontrol : s.control_ = none) :
    Heap { s with control_ := some s.constructed, constructed := s.constructed + 1, conns_ := [] } := by
  have hnone : s.conns_ = [] := List.eq_nil_iff_forall_not_mem.2 (h.alone hcontrol)
  refine { h with conns := fun c => ?_, server := fun c conn server hconn hserver => ?_ }
  · rw [← h.conns c, hnone]
  · rw [h.server c conn server hconn hserver] at hcontrol
    cases hcontrol

theorem Heap.destroy (h : s.Heap) : s.destroy.Heap := by
  have hnull : ∀ c, (if c ∈ s.conns_ then (s.heap c).map fun _ => (⟨none⟩ : Conn) else s.heap c) =
      (s.heap c).map fun _ => ⟨none⟩ := by
    intro c
    split
    · rfl
    · rename_i hc
      cases hconn : s.heap c with
      | none => rfl
      | some conn =>
        have hserver : conn.server = none := by
          by_contra hne
          exact hc ((h.conns c).2 ⟨conn, hconn, hne⟩)
        rw [Option.map_some, ← hserver]
  unfold Service.destroy
  constructor
  · simp [h.no_fault, h.allocated]
  · exact h.once
  · intro c
    dsimp only
    rw [hnull, Option.isSome_map]
    exact h.pending c
  · exact h.freed_once
  · intro c
    dsimp only
    rw [hnull, Option.map_eq_none_iff]
    exact h.freed c
  · intro c hc
    dsimp only
    rw [hnull, h.fresh c hc]
    rfl
  · intro c
    dsimp only
    rw [hnull]
    constructor
    · intro hc
      cases hc
    · rintro ⟨conn, hconn, hne⟩
      obtain ⟨_, _, rfl⟩ := Option.map_eq_some_iff.1 hconn
      exact absurd rfl hne
  · intro c conn server hconn hserver
    dsimp only at hconn
    rw [hnull] at hconn
    obtain ⟨_, _, rfl⟩ := Option.map_eq_some_iff.1 hconn
    cases hserver

/-- A line is read and answered, and the next read is pending. -/
theorem Heap.answered (h : s.Heap) {c : Nat} (hc : c ∈ s.reads) :
    Heap { s with reads := c :: s.reads.filter (· != c) } := by
  refine { h with once := ?_, pending := fun d => ?_ }
  · exact List.nodup_cons.2 ⟨fun hm => by simp at hm, h.once.filter _⟩
  · rw [← h.pending d]
    by_cases hd : d = c
    · simp [hd, hc]
    · simp [hd]

end

/-! ## The books -/

section
variable {D W : Type} [JsonGenerator D] {parse : JsonParser D} {registry : ControlRegistry D W} {s s' : Service W}

/-- The log says which connections the server has, and what they are due. -/
structure Books (parse : JsonParser D) (registry : ControlRegistry D W) (s : Service W) : Prop where
  live : ∀ c, (account parse registry s.log c).live = true ↔ c ∈ s.conns_
  took : ∀ c, Took (account parse registry s.log c).due (s.sockets c)

theorem process_line_eq {server : Nat} (h : s.control_ = some server) (c : Nat) (line : Bytes) (took : Nat) :
    s.process_line parse registry server c line took = { s with
      w := (dispatch_request parse registry line s.w).2
      log := s.log ++ [.request c line s.w]
      sockets := fun d =>
        if d = c ∧ (dispatch_request parse registry line s.w).1 ≠ [] then
          (s.sockets d).write (dispatch_request parse registry line s.w).1 took
        else s.sockets d } := by
  unfold process_line
  rw [touch_self h]
  dsimp only
  split
  · rename_i hempty
    simp [List.isEmpty_iff.1 hempty]
  · rename_i hempty
    have hne : (dispatch_request parse registry line s.w).1 ≠ [] := fun h0 => hempty (List.isEmpty_iff.2 h0)
    simp [hne]

/-- The completion of a read answers its line, or frees its `Conn`. -/
theorem on_line_cases (parse : JsonParser D) (registry : ControlRegistry D W) {c : Nat} {conn : Conn}
    (hc : s.heap c = some conn) (line : Option Bytes) (took : Nat) :
    (∃ server l, conn.server = some server ∧ line = some l ∧
      s.on_line parse registry c line took =
        let t := { s with reads := s.reads.filter (· != c) }.process_line parse registry server c l took
        { t with reads := c :: t.reads }) ∨
      (conn.server = none ∨ line = none) ∧ s.on_line parse registry c line took =
        { s with reads := s.reads.filter (· != c) }.close_conn c conn.server := by
  unfold on_line
  dsimp only
  rw [hc]
  dsimp only
  cases hserver : conn.server with
  | none => exact .inr ⟨.inl rfl, rfl⟩
  | some server =>
    cases line with
    | none => exact .inr ⟨.inr rfl, rfl⟩
    | some line => exact .inl ⟨server, line, rfl, rfl, rfl⟩

theorem Books.accept (h : s.Books parse registry) (server : Nat) :
    (s.accept_connection server).Books parse registry := by
  unfold accept_connection set_heap
  constructor
  · intro c
    dsimp only
    rw [account_snoc, List.mem_cons, ← h.live c]
    unfold Account.add
    dsimp only
    split
    · rename_i hc
      simp [hc]
    · rename_i hc
      rw [or_iff_right (Ne.symm hc)]
  · intro c
    dsimp only
    rw [account_snoc]
    unfold Account.add
    dsimp only
    split
    · exact h.took c
    · exact h.took c

theorem Books.close (h : s.Books parse registry) (hh : s.Heap) {c : Nat} {conn : Conn} (hc : s.heap c = some conn) :
    ({ s with reads := s.reads.filter (· != c) }.close_conn c conn.server).Books parse registry := by
  have haccount : ∀ d, (account parse registry (s.log ++ if conn.server = none then [] else [.closed c]) d) =
      if d = c ∧ conn.server ≠ none then { account parse registry s.log d with live := false }
      else account parse registry s.log d := by
    intro d
    by_cases hserver : conn.server = none
    · simp [hserver]
    · rw [if_neg hserver, account_snoc]
      unfold Account.add
      by_cases hd : d = c
      · simp [hd, hserver]
      · simp [hd, Ne.symm hd]
  rw [hh.close_eq hc]
  constructor
  · intro d
    dsimp only
    rw [haccount, List.mem_filter, ← h.live d]
    by_cases hd : d = c
    · subst hd
      have hlive : (account parse registry s.log d).live = true ↔ conn.server ≠ none := by
        rw [h.live d, hh.conns d, hc]
        simp
      by_cases hserver : conn.server = none
      · simpa [hserver] using hlive
      · simp [hserver]
    · simp [hd]
  · intro d
    dsimp only
    rw [haccount]
    split
    · exact h.took d
    · exact h.took d

theorem Books.answered (h : s.Books parse registry) {server : Nat} (hcontrol : s.control_ = some server) (c : Nat)
    (line : Bytes) (took : Nat) : (s.process_line parse registry server c line took).Books parse registry := by
  rw [process_line_eq hcontrol]
  constructor
  · intro d
    dsimp only
    rw [account_snoc, ← h.live d]
    unfold Account.add
    dsimp only
    split
    · rfl
    · rfl
  · intro d
    dsimp only
    rw [account_snoc]
    unfold Account.add
    dsimp only
    by_cases hd : d = c ∧ (dispatch_request parse registry line s.w).1 ≠ []
    · rw [if_pos hd, if_pos ⟨hd.1.symm, hd.2⟩]
      exact (h.took d).write _ took
    · rw [if_neg hd, if_neg fun hd' => hd ⟨hd'.1.symm, hd'.2⟩]
      exact h.took d

/-- A broadcast reaches those connections that the server has. -/
theorem Books.broadcast (h : s.Books parse registry) (line : Bytes) (took : Nat → Nat) :
    (s.broadcast line took).Books parse registry := by
  unfold Service.broadcast
  split
  · exact h
  · constructor
    · intro c
      dsimp only
      rw [account_snoc, ← h.live c]
      unfold Account.add
      dsimp only
      split
      · rfl
      · rfl
    · intro c
      dsimp only
      rw [account_snoc]
      unfold Account.add
      dsimp only
      by_cases hc : c ∈ s.conns_
      · rw [if_pos hc, if_pos ((h.live c).2 hc)]
        exact (h.took c).write _ _
      · rw [if_neg hc, if_neg fun hl => hc ((h.live c).1 hl)]
        exact h.took c

theorem Books.destroy (h : s.Books parse registry) : s.destroy.Books parse registry := by
  unfold Service.destroy
  constructor
  · intro c
    dsimp only
    rw [account_snoc]
    unfold Account.add
    simp
  · intro c
    dsimp only
    rw [account_snoc]
    exact h.took c

/-! ## Runs -/

structure Inv (parse : JsonParser D) (registry : ControlRegistry D W) (s : Service W) : Prop where
  heap : s.Heap
  books : s.Books parse registry

theorem on_line_inv (h : s.Inv parse registry) {c : Nat} (hc : c ∈ s.reads) (line : Option Bytes) (took : Nat) :
    (s.on_line parse registry c line took).Inv parse registry := by
  obtain ⟨conn, hconn⟩ := Option.isSome_iff_exists.1 ((h.heap.pending c).1 hc)
  rcases on_line_cases parse registry hconn line took with
    ⟨server, l, hserver, rfl, heq⟩ | ⟨-, heq⟩
  · have hcontrol : s.control_ = some server := h.heap.server c conn server hconn hserver
    have hcontrol' : ({ s with reads := s.reads.filter (· != c) } : Service W).control_ = some server := hcontrol
    have hbooks : ({ s with reads := s.reads.filter (· != c) } : Service W).Books parse registry :=
      ⟨h.books.live, h.books.took⟩
    have hanswered := hbooks.answered hcontrol' c l took
    rw [process_line_eq hcontrol'] at hanswered
    rw [heq]
    dsimp only
    rw [process_line_eq hcontrol']
    exact ⟨{ h.heap.answered hc with }, ⟨hanswered.live, hanswered.took⟩⟩
  · rw [heq]
    exact ⟨h.heap.close hconn, h.books.close h.heap hconn⟩

theorem step_inv (h : s.Inv parse registry) {a : Act W} (ha : s.step parse registry a = some s') :
    s'.Inv parse registry := by
  cases a with
  | construct =>
    obtain ⟨hcontrol, ha⟩ := Option.ite_none_right_eq_some.1 ha
    cases ha
    have hnone : s.conns_ = [] := List.eq_nil_iff_forall_not_mem.2 (h.heap.alone hcontrol)
    refine ⟨h.heap.construct hcontrol, fun c => ?_, h.books.took⟩
    rw [h.books.live c, hnone]
  | accept tls_ok =>
    obtain ⟨server, hcontrol, rfl⟩ := Option.map_eq_some_iff.1 ha
    split
    · exact ⟨h.heap.accept hcontrol, h.books.accept server⟩
    · exact h
  | on_line c line took =>
    obtain ⟨hc, ha⟩ := Option.ite_none_right_eq_some.1 ha
    cases ha
    exact on_line_inv h hc line took
  | broadcast line took =>
    obtain ⟨-, ha⟩ := Option.ite_none_left_eq_some.1 ha
    cases ha
    exact ⟨h.heap.broadcast line took, h.books.broadcast line took⟩
  | destroy =>
    obtain ⟨-, ha⟩ := Option.ite_none_left_eq_some.1 ha
    cases ha
    exact ⟨h.heap.destroy, h.books.destroy⟩
  | world w =>
    cases ha
    exact ⟨{ h.heap with }, ⟨h.books.live, h.books.took⟩⟩

theorem init_inv (w : W) : ({ w := w } : Service W).Inv parse registry where
  heap := {
    no_fault := rfl
    once := .nil
    pending := fun c => by simp
    freed_once := .nil
    freed := fun c => by simp
    fresh := fun c _ => rfl
    conns := fun c => by simp
    server := fun c conn server hconn => by cases hconn }
  books := ⟨fun c => by simp [account], fun c => .all []⟩

/-! ### What a step adds to the log -/

/-- What an action adds. -/
def added (s : Service W) : Act W → List (Event W)
  | .construct => []
  | .accept tls_ok => if tls_ok then [.accepted s.accepted] else []
  | .on_line c line _ =>
    if c ∈ s.conns_ then match line with
      | some line => [.request c line s.w]
      | none => [.closed c]
    else []
  | .broadcast line _ => if line.isEmpty || s.conns_.isEmpty then [] else [.broadcast line]
  | .destroy => [.destroyed]
  | .world _ => []

theorem on_line_log (h : s.Inv parse registry) {c : Nat} (hc : c ∈ s.reads) (line : Option Bytes) (took : Nat) :
    (s.on_line parse registry c line took).log = s.log ++ s.added (.on_line c line took) ∧
      (s.on_line parse registry c line took).accepted = s.accepted ∧
      ∀ d ∈ (s.on_line parse registry c line took).conns_, d ∈ s.conns_ := by
  obtain ⟨conn, hconn⟩ := Option.isSome_iff_exists.1 ((h.heap.pending c).1 hc)
  have hhas : c ∈ s.conns_ ↔ conn.server ≠ none := by
    rw [h.heap.conns c, hconn]
    simp
  unfold added
  dsimp only
  rcases on_line_cases parse registry hconn line took with
    ⟨server, l, hserver, rfl, heq⟩ | ⟨hnone, heq⟩
  · have hcontrol : ({ s with reads := s.reads.filter (· != c) } : Service W).control_ = some server :=
      h.heap.server c conn server hconn hserver
    rw [heq]
    dsimp only
    rw [process_line_eq hcontrol, if_pos (hhas.2 (by simp [hserver]))]
    exact ⟨rfl, rfl, fun d hd => hd⟩
  · rw [heq, h.heap.close_eq hconn]
    refine ⟨?_, rfl, fun d hd => List.mem_of_mem_filter hd⟩
    dsimp only
    by_cases hserver : conn.server = none
    · rw [if_pos hserver, if_neg fun hm => hhas.1 hm hserver]
    · rw [if_neg hserver, if_pos (hhas.2 hserver), hnone.resolve_left hserver]

theorem step_log (h : s.Inv parse registry) {a : Act W} (ha : s.step parse registry a = some s') :
    s'.log = s.log ++ s.added a ∧ s.accepted ≤ s'.accepted ∧
      ∀ c, c ∈ s'.conns_ ∨ s'.accepted ≤ c → c ∈ s.conns_ ∨ s.accepted ≤ c := by
  cases a with
  | construct =>
    obtain ⟨-, ha⟩ := Option.ite_none_right_eq_some.1 ha
    cases ha
    exact ⟨(List.append_nil _).symm, Nat.le_refl _, fun c hc => hc.imp_left fun hm => by cases hm⟩
  | accept tls_ok =>
    obtain ⟨server, -, rfl⟩ := Option.map_eq_some_iff.1 ha
    unfold added
    dsimp only
    split
    · refine ⟨rfl, Nat.le_succ _, fun c hc => ?_⟩
      rcases hc with hc | hc
      · rcases List.mem_cons.1 hc with rfl | hc
        · exact .inr (Nat.le_refl _)
        · exact .inl hc
      · exact .inr (Nat.le_of_succ_le hc)
    · exact ⟨(List.append_nil _).symm, Nat.le_refl _, fun _ hc => hc⟩
  | on_line c line took =>
    obtain ⟨hc, ha⟩ := Option.ite_none_right_eq_some.1 ha
    cases ha
    obtain ⟨hlog, haccepted, hconns⟩ := on_line_log h hc line took
    rw [haccepted]
    exact ⟨hlog, Nat.le_refl _, fun d hd => hd.imp_left (hconns d)⟩
  | broadcast line took =>
    obtain ⟨-, ha⟩ := Option.ite_none_left_eq_some.1 ha
    cases ha
    unfold Service.broadcast added
    dsimp only
    split
    · exact ⟨(List.append_nil _).symm, Nat.le_refl _, fun _ hc => hc⟩
    · exact ⟨rfl, Nat.le_refl _, fun _ hc => hc⟩
  | destroy =>
    obtain ⟨-, ha⟩ := Option.ite_none_left_eq_some.1 ha
    cases ha
    exact ⟨rfl, Nat.le_refl _, fun c hc => hc.imp_left fun hm => by cases hm⟩
  | world w =>
    cases ha
    exact ⟨(List.append_nil _).symm, Nat.le_refl _, fun _ hc => hc⟩

omit [JsonGenerator D] in
theorem broadcast_added {a : Act W} {b : Bytes} (h : .broadcast b ∈ s.added a) : ∃ took, a = .broadcast b took := by
  unfold added at h
  cases a with
  | broadcast line took =>
    dsimp only at h
    split at h
    · cases h
    · cases List.mem_singleton.1 h
      exact ⟨took, rfl⟩
  | accept tls_ok => cases tls_ok <;> simp at h
  | on_line c line took =>
    dsimp only at h
    split at h
    · cases line <;> simp at h
    · cases h
  | destroy => simp at h
  | construct | world => cases h

omit [JsonGenerator D] in
theorem lines_snoc (as : List (Act W)) (a : Act W) (c : Nat) : lines (as ++ [a]) c = lines as c ++ lines [a] c :=
  List.filterMap_append

/-- The line that an action brings to a connection of the server is dispatched. -/
theorem step_requests (h : s.Inv parse registry) {a : Act W} (ha : s.step parse registry a = some s') (c : Nat) :
    requests s'.log c = requests s.log c ++ if c ∈ s.conns_ then lines [a] c else [] := by
  have hadded : requests (s.added a) c = if c ∈ s.conns_ then lines [a] c else [] := by
    cases a with
    | on_line d line took =>
      unfold added
      dsimp only
      by_cases hd : d = c
      · subst hd
        split
        · cases line with
          | none => simp [requests, lines]
          | some l => simp [requests, lines]
        · rfl
      · have hother : lines [(.on_line d line took : Act W)] c = [] := by simp [lines, hd]
        rw [hother, ite_self]
        split
        · cases line with
          | none => rfl
          | some l => simp [requests, hd]
        · rfl
    | accept tls_ok =>
      unfold added
      cases tls_ok with
      | false => exact (ite_self _).symm
      | true => exact (ite_self _).symm
    | broadcast line took =>
      unfold added
      dsimp only
      split
      · exact (ite_self _).symm
      · exact (ite_self _).symm
    | construct | destroy | world => exact (ite_self _).symm
  rw [(step_log h ha).1, ← hadded]
  exact List.filterMap_append

/-- Lines come to pending reads only. -/
theorem step_lines {a : Act W} (ha : s.step parse registry a = some s') {c : Nat} (hc : c ∉ s.reads) :
    lines [a] c = [] := by
  cases a with
  | on_line d line took =>
    obtain ⟨hd, -⟩ := Option.ite_none_right_eq_some.1 ha
    have hne : d ≠ c := fun h => hc (h ▸ hd)
    simp [lines, hne]
  | construct | accept | broadcast | destroy | world => rfl

/-! ### Runs -/

/-- Of the lines that its reads brought, the first ones of a connection were dispatched,
and all of them as long as the server has it. -/
def Dispatched (as : List (Act W)) (s : Service W) : Prop :=
  ∀ c, requests s.log c <+: lines as c ∧ (c ∈ s.conns_ ∨ s.accepted ≤ c → requests s.log c = lines as c)

theorem step_dispatched {as : List (Act W)} {a : Act W} (hi : s.Inv parse registry) (h : Dispatched as s)
    (ha : s.step parse registry a = some s') : Dispatched (as ++ [a]) s' := by
  intro c
  rw [lines_snoc, step_requests hi ha c]
  by_cases hc : c ∈ s.conns_
  · rw [if_pos hc, (h c).2 (.inl hc)]
    exact ⟨List.prefix_rfl, fun _ => rfl⟩
  · rw [if_neg hc, List.append_nil]
    refine ⟨(h c).1.trans (List.prefix_append _ _), fun hc' => ?_⟩
    have hfresh : s.accepted ≤ c := ((step_log hi ha).2.2 c hc').resolve_left hc
    have hunread : c ∉ s.reads := fun hr => by
      have hsome := (hi.heap.pending c).1 hr
      rw [hi.heap.fresh c hfresh] at hsome
      cases hsome
    rw [step_lines ha hunread, List.append_nil]
    exact (h c).2 (.inr hfresh)

/-- In every run of the main loop, however accepts, reads, broadcasts on the server that
there is and the end of the server interleave, no `Conn` is used after its end, nor a
server by a `Conn`; a `Conn` has one read pending until it is freed, once; without its
server it is freed by that read, whatever this brings, and nothing is dispatched; the
lines of a connection are dispatched in order, as long as its server is there; and what
a client is sent is, in order, the replies to its own requests and what was broadcast
while it was connected, up to the first write that failed. -/
theorem served_in_order {w : W} {as : List (Act W)} (h : Run (step parse registry) { w := w } as s) :
    s.fault = false ∧
      (∀ c < s.accepted, s.reads.count c = 1 ∧ s.freed.count c = 0 ∨ s.reads.count c = 0 ∧ s.freed.count c = 1) ∧
      (∀ c ∈ s.reads, c ∉ s.conns_ → ∀ line took, ∃ t, s.step parse registry (.on_line c line took) = some t ∧
        c ∉ t.reads ∧ c ∈ t.freed ∧ t.log = s.log ∧ t.sockets = s.sockets) ∧
      (∀ c, requests s.log c <+: lines as c ∧ (c ∈ s.conns_ → requests s.log c = lines as c)) ∧
      ∀ c, (s.sockets c).sent.flatten <+: (account parse registry s.log c).due.flatten ∧
        ((s.sockets c).broken = false → (s.sockets c).sent = (account parse registry s.log c).due) := by
  obtain ⟨hinv, hdispatched⟩ := h.inv_trace (fun as s => s.Inv parse registry ∧ Dispatched as s)
    ⟨init_inv w, fun c => ⟨List.prefix_rfl, fun _ => rfl⟩⟩
    fun as s a s' _ hs ha => ⟨step_inv hs.1 ha, step_dispatched hs.1 hs.2 ha⟩
  refine ⟨hinv.heap.no_fault, fun c hc => ?_, fun c hc hconns line took => ?_, fun c => ?_, fun c => ?_⟩
  · cases hconn : s.heap c with
    | some conn =>
      have hread : c ∈ s.reads := (hinv.heap.pending c).2 (by rw [hconn]; rfl)
      have hunfreed : c ∉ s.freed := fun hf => by
        have hnone := ((hinv.heap.freed c).1 hf).2
        rw [hconn] at hnone
        cases hnone
      exact .inl ⟨List.count_eq_one_of_mem hinv.heap.once hread, List.count_eq_zero.2 hunfreed⟩
    | none =>
      have hunread : c ∉ s.reads := fun hr => by
        have hsome := (hinv.heap.pending c).1 hr
        rw [hconn] at hsome
        cases hsome
      exact .inr ⟨List.count_eq_zero.2 hunread,
        List.count_eq_one_of_mem hinv.heap.freed_once ((hinv.heap.freed c).2 ⟨hc, hconn⟩)⟩
  · obtain ⟨conn, hconn⟩ := Option.isSome_iff_exists.1 ((hinv.heap.pending c).1 hc)
    have hserver : conn.server = none := by
      by_contra hne
      exact hconns ((hinv.heap.conns c).2 ⟨conn, hconn, hne⟩)
    refine ⟨_, if_pos hc, ?_⟩
    rcases on_line_cases parse registry hconn line took with
      ⟨server, l, hsome, -, -⟩ | ⟨-, heq⟩
    · rw [hserver] at hsome
      cases hsome
    · rw [heq, hinv.heap.close_eq hconn, hserver]
      simp
  · exact ⟨(hdispatched c).1, fun hc => (hdispatched c).2 (.inl hc)⟩
  · exact ⟨(hinv.books.took c).begins, (hinv.books.took c).complete⟩

end

def every_ping : JsonParser Rat := fun _ => .ok (some (.object [("id", .int 1), ("method", .string "ping")]))

def pings : ControlRegistry Rat Unit := [("ping", PingHandler)]

/-- The second client takes less than its reply; the server is destroyed with both reads pending. -/
def two_clients : List (Act Unit) :=
  [.construct, .accept true, .accept true, .on_line 0 (some [123, 125]) 100, .broadcast [98] (fun _ => 2),
    .on_line 1 (some [123, 125]) 5, .destroy, .construct, .broadcast [99] (fun _ => 2),
    .on_line 0 (some [123, 125]) 100, .on_line 1 none 0]

theorem served_in_order_two :
    ∃ s, Run (step every_ping pings) { w := () } two_clients s ∧ s.fault = false ∧
      s.freed = [0, 1] ∧ (s.sockets 0).sent.length = 2 ∧ (s.sockets 0).sent = (account every_ping pings s.log 0).due ∧
      (s.sockets 1).sent.flatten <+: (account every_ping pings s.log 1).due.flatten := by
  have hrun : ((exec (step every_ping pings) { w := () } two_clients).map fun s =>
      (s.freed, (s.sockets 0).sent.length, (s.sockets 0).broken)) = some ([0, 1], 2, false) := by
    decide +kernel
  obtain ⟨s, hs, hfields⟩ := Option.map_eq_some_iff.1 hrun
  obtain ⟨hfreed, hfields⟩ := Prod.mk.inj hfields
  obtain ⟨hlength, hbroken⟩ := Prod.mk.inj hfields
  obtain ⟨hfault, -, -, -, hsent⟩ := served_in_order (run_of_exec hs)
  exact ⟨s, run_of_exec hs, hfault, hfreed, hlength, (hsent 0).2 hbroken, (hsent 1).1⟩

end Service

end CameraStreamer.Control
