import Mathlib.Logic.Function.Basic
import CameraStreamer.Lib.Runs
/-!
# The sockets of the tunnel

`LocalTunnel` keeps two descriptors, `control_` and `update_`. `deliver` opens,
closes and reopens them under `mutex_`; `pump` takes a snapshot of them under
`mutex_`, polls and reads outside it, and closes under it again. In between the
number it holds may be closed, or another file's.
-/

namespace CameraStreamer.Secure.TunnelSockets

open Runs

/-- The tunnel's descriptors. -/
inductive Slot where
  | control_
  | update_
  deriving DecidableEq

/-- What a descriptor of the process refers to. The tunnel's connections go by the
order in which they were opened. -/
inductive File where
  | tunnel (connection : Nat)
  | other
  deriving DecidableEq

/-- `pump` -/
inductive Pump where
  /-- At `while (!dead_)`. -/
  | idle
  | snapshot (fds : Slot → Option Nat)
  /-- What `poll` has reported and is still to be read. -/
  | polled (ready : List (Slot × Nat))
  /-- `read` on `fd`, which then referred to `saw`, gave nothing; before `close_channel`.
  The slot had changed `stamp` times. -/
  | closing (slot : Slot) (fd : Nat) (saw : Option File) (stamp : Nat) (ready : List (Slot × Nat))
  | returned

def Pump.next : List (Slot × Nat) → Pump
  | [] => .idle
  | ready => .polled ready

structure Tunnel where
  held : Slot → Option Nat
  /-- The process's descriptors. -/
  fds : Nat → Option File
  /-- Connections the tunnel has opened. -/
  opened : Nat
  /-- How often each slot was opened or closed. -/
  changed : Slot → Nat
  pump : Pump
  dead_ : Bool
  /-- What each `read` of `pump` was on. -/
  reads : List (Option File)
  /-- What `pump` saw end, and what it closed for it. -/
  closes : List (Option File × Option File)

/-- One attempt of `deliver`: what `open_update_` or `connect_local` gives, with the
number of the connection's far end if that is in this process, and whether the write works. -/
structure Attempt where
  opened : Option (Nat × Option Nat)
  written : Bool

inductive Act where
  | deliver (slot : Slot) (first second : Attempt)
  | shutdown
  | die
  /-- Other files of the process, the local servers' sockets among them. -/
  | open_other (fd : Nat)
  | close_other (fd : Nat)
  | take_snapshot
  /-- Nothing is reported on a number without a file. -/
  | poll (control_ready update_ready : Bool)
  /-- `got`: some bytes; `queued`: `enqueue_` took them. -/
  | read (got queued : Bool)
  | close_channel

namespace Tunnel

def new : Tunnel where
  held _ := none
  fds _ := none
  opened := 0
  changed _ := 0
  pump := .idle
  dead_ := false
  reads := []
  closes := []

def close (s : Tunnel) (slot : Slot) : Tunnel :=
  match s.held slot with
  | none => s
  | some fd => { s with
      held := Function.update s.held slot none
      fds := Function.update s.fds fd none
      changed := Function.update s.changed slot (s.changed slot + 1) }

/-- The next connection, on the number `fd`. -/
def open_at (s : Tunnel) (slot : Slot) (fd : Nat) : Tunnel :=
  { s with
    held := Function.update s.held slot (some fd)
    fds := Function.update s.fds fd (some (.tunnel s.opened))
    opened := s.opened + 1
    changed := Function.update s.changed slot (s.changed slot + 1) }

def open_other (s : Tunnel) (fd : Nat) : Tunnel := { s with fds := Function.update s.fds fd (some .other) }

/-- `deliver`, from one of its attempts on. `none` where the numbers are not free. -/
def deliver (slot : Slot) : List Attempt → Tunnel → Option Tunnel
  | [], s => some s
  | attempt :: rest, s =>
    match s.held slot with
    | some _ => if attempt.written then some s else deliver slot rest (s.close slot)
    | none =>
      match attempt.opened with
      | none => some s
      | some (fd, far) =>
        if s.fds fd = none ∧ far ≠ some fd ∧ ∀ f ∈ far, s.fds f = none then
          let s := far.elim s s.open_other
          let s := s.open_at slot fd
          if attempt.written then some s else deliver slot rest (s.close slot)
        else none

/-- The descriptors of the snapshot on which there is something. -/
def ready (s : Tunnel) (fds : Slot → Option Nat) (slot : Slot) (reported : Bool) : List (Slot × Nat) :=
  match fds slot with
  | some fd => if reported && (s.fds fd).isSome then [(slot, fd)] else []
  | none => []

def step (s : Tunnel) : Act → Option Tunnel
  | .deliver slot first second => s.deliver slot [first, second]
  | .shutdown => some ((s.close .control_).close .update_)
  | .die => some { s with dead_ := true }
  | .open_other fd => if s.fds fd = none then some (s.open_other fd) else none
  | .close_other fd => if s.fds fd = some .other then some { s with fds := Function.update s.fds fd none } else none
  | .take_snapshot =>
    match s.pump with
    | .idle => some { s with pump := if s.dead_ then .returned else .snapshot s.held }
    | _ => none
  | .poll control_ready update_ready =>
    match s.pump with
    | .snapshot fds => some { s with
        pump := .next (s.ready fds .control_ control_ready ++ s.ready fds .update_ update_ready) }
    | _ => none
  | .read got queued =>
    match s.pump with
    | .polled ((slot, fd) :: rest) =>
      let s := { s with reads := s.reads ++ [s.fds fd] }
      -- a number without a file is refused
      if got && (s.fds fd).isSome then
        some (if queued then { s with pump := .next rest } else { s with pump := .returned, dead_ := true })
      else some { s with pump := .closing slot fd (s.fds fd) (s.changed slot) rest }
    | _ => none
  | .close_channel =>
    match s.pump with
    | .closing slot _ saw _ rest =>
      some { s.close slot with pump := .next rest, closes := s.closes ++ [(saw, (s.held slot).bind s.fds)] }
    | _ => none

/-- `pump` reads from the tunnel's connections, and closes the one that it saw end or none. -/
structure Sound (s : Tunnel) : Prop where
  reads : ∀ file ∈ s.reads, ∃ connection, file = some (.tunnel connection)
  closes : ∀ p ∈ s.closes, p.2 = none ∨ p.2 = p.1

/-- `pump` reads from a number that one of the slots holds, and closes a slot that
holds the number it read from and has not changed since, or holds none. -/
def steady (s : Tunnel) : Act → Bool
  | .read _ _ =>
    match s.pump with
    | .polled ((_, fd) :: _) => s.held .control_ = some fd || s.held .update_ = some fd
    | _ => true
  | .close_channel =>
    match s.pump with
    | .closing slot fd _ stamp _ => s.held slot = none || (s.held slot = some fd && s.changed slot = stamp)
    | _ => true
  | _ => true

/-! ## The descriptors -/

variable {s s' : Tunnel}

theorem close_none {slot : Slot} (h : s.held slot = none) : s.close slot = s := by
  unfold close
  rw [h]

theorem close_some {slot : Slot} {fd : Nat} (h : s.held slot = some fd) : s.close slot = { s with
    held := Function.update s.held slot none
    fds := Function.update s.fds fd none
    changed := Function.update s.changed slot (s.changed slot + 1) } := by
  unfold close
  rw [h]

/-- Each connection in the process's table is held by a slot, on a number of its own. -/
structure Table (s : Tunnel) : Prop where
  held : ∀ slot fd, s.held slot = some fd → ∃ connection, s.fds fd = some (.tunnel connection)
  tunnel : ∀ fd connection, s.fds fd = some (.tunnel connection) →
    connection < s.opened ∧ ∃ slot, s.held slot = some fd
  apart : ∀ slot slot' fd, s.held slot = some fd → s.held slot' = some fd → slot = slot'
  unique : ∀ fd fd' connection, s.fds fd = some (.tunnel connection) → s.fds fd' = some (.tunnel connection) → fd = fd'

/-- What may be said of a slot from a `read` of `fd` to the `close_channel`. -/
structure Watch (s : Tunnel) (slot : Slot) (fd : Nat) (saw : Option File) (stamp : Nat) : Prop where
  past : stamp ≤ s.changed slot
  old : ∀ connection, saw = some (.tunnel connection) → connection < s.opened
  /-- A slot that has not changed still has what was read from. -/
  same : s.changed slot = stamp → s.held slot = some fd → s.fds fd = saw
  /-- A slot that still has it has not changed. -/
  kept : ∀ connection fd', saw = some (.tunnel connection) → s.held slot = some fd' →
    s.fds fd' = some (.tunnel connection) → fd' = fd ∧ s.changed slot = stamp

structure Inv (s : Tunnel) : Prop where
  table : Table s
  watch : ∀ slot fd saw stamp rest, s.pump = .closing slot fd saw stamp rest → Watch s slot fd saw stamp

theorem Table.congr (ht : Table s) (hheld : s'.held = s.held) (hfds : s'.fds = s.fds) (hopened : s'.opened = s.opened) :
    Table s' where
  held := by
    rw [hheld, hfds]
    exact ht.held
  tunnel := by
    rw [hheld, hfds, hopened]
    exact ht.tunnel
  apart := by
    rw [hheld]
    exact ht.apart
  unique := by
    rw [hfds]
    exact ht.unique

/-- What an updated table has at a place was put there now, or is from before. -/
theorem update_eq_some_iff {α β : Type} [DecidableEq α] {f : α → Option β} {x x' : α} {o : Option β} {b : β} :
    Function.update f x o x' = some b ↔ x' = x ∧ o = some b ∨ x' ≠ x ∧ f x' = some b := by
  by_cases he : x' = x
  · subst he
    rw [Function.update_self]
    simp
  · rw [Function.update_of_ne he]
    simp [he]

theorem Table.close (ht : Table s) (slot : Slot) : Table (s.close slot) := by
  cases h : s.held slot with
  | none =>
    rw [close_none h]
    exact ht
  | some fd =>
    rw [close_some h]
    have hother : ∀ {slot' fd'},
        Function.update s.held slot none slot' = some fd' → s.held slot' = some fd' ∧ fd' ≠ fd := by
      intro slot' fd' h'
      obtain ⟨-, hnone⟩ | ⟨hne, h'⟩ := update_eq_some_iff.1 h'
      · cases hnone
      · refine ⟨h', ?_⟩
        rintro rfl
        exact hne (ht.apart slot' slot fd' h' h)
    have hfds : ∀ {fd' connection}, Function.update s.fds fd none fd' = some (.tunnel connection) →
        s.fds fd' = some (.tunnel connection) ∧ fd' ≠ fd := by
      intro fd' connection h'
      obtain ⟨-, hnone⟩ | ⟨hne, h'⟩ := update_eq_some_iff.1 h'
      · cases hnone
      · exact ⟨h', hne⟩
    constructor
    · intro slot' fd' h'
      obtain ⟨hheld, hne⟩ := hother h'
      obtain ⟨connection, hc⟩ := ht.held slot' fd' hheld
      exact ⟨connection, update_eq_some_iff.2 (.inr ⟨hne, hc⟩)⟩
    · intro fd' connection h'
      obtain ⟨hc, hne⟩ := hfds h'
      obtain ⟨hlt, slot', hheld⟩ := ht.tunnel fd' connection hc
      refine ⟨hlt, slot', update_eq_some_iff.2 (.inr ⟨?_, hheld⟩)⟩
      rintro rfl
      exact hne (Option.some.inj (hheld.symm.trans h))
    · intro slot' slot'' fd' h' h''
      exact ht.apart slot' slot'' fd' (hother h').1 (hother h'').1
    · intro fd' fd'' connection h' h''
      exact ht.unique fd' fd'' connection (hfds h').1 (hfds h'').1

theorem Table.open_at (ht : Table s) {slot : Slot} {fd : Nat} (hslot : s.held slot = none) (hfd : s.fds fd = none) :
    Table (s.open_at slot fd) := by
  have hfree : ∀ slot', s.held slot' ≠ some fd := by
    intro slot' h'
    obtain ⟨connection, hc⟩ := ht.held slot' fd h'
    rw [hfd] at hc
    cases hc
  have hnew : ∀ fd', s.fds fd' ≠ some (.tunnel s.opened) := by
    intro fd' hc
    exact absurd (ht.tunnel fd' s.opened hc).1 (Nat.lt_irrefl _)
  constructor
  · intro slot' fd' h'
    obtain ⟨-, ⟨⟩⟩ | ⟨-, hs⟩ := update_eq_some_iff.1 h'
    · exact ⟨s.opened, Function.update_self ..⟩
    · obtain ⟨connection, hc⟩ := ht.held slot' fd' hs
      refine ⟨connection, update_eq_some_iff.2 (.inr ⟨?_, hc⟩)⟩
      rintro rfl
      exact hfree slot' hs
  · intro fd' connection h'
    obtain ⟨rfl, ⟨⟩⟩ | ⟨-, hc⟩ := update_eq_some_iff.1 h'
    · exact ⟨Nat.lt_succ_self _, slot, Function.update_self ..⟩
    · obtain ⟨hlt, slot', hs⟩ := ht.tunnel fd' connection hc
      refine ⟨Nat.lt_succ_of_lt hlt, slot', update_eq_some_iff.2 (.inr ⟨?_, hs⟩)⟩
      rintro rfl
      rw [hslot] at hs
      cases hs
  · intro slot' slot'' fd' h' h''
    obtain ⟨rfl, ⟨⟩⟩ | ⟨-, hs⟩ := update_eq_some_iff.1 h' <;> obtain ⟨rfl, h⟩ | ⟨-, hs'⟩ := update_eq_some_iff.1 h''
    · rfl
    · exact absurd hs' (hfree slot'')
    · cases h
      exact absurd hs (hfree slot')
    · exact ht.apart slot' slot'' fd' hs hs'
  · intro fd' fd'' connection h' h''
    obtain ⟨rfl, ⟨⟩⟩ | ⟨-, hc⟩ := update_eq_some_iff.1 h' <;> obtain ⟨rfl, h⟩ | ⟨-, hc'⟩ := update_eq_some_iff.1 h''
    · rfl
    · exact absurd hc' (hnew fd'')
    · cases h
      exact absurd hc (hnew fd')
    · exact ht.unique fd' fd'' connection hc hc'

/-- A file of another kind comes or goes on a number that is not the tunnel's. -/
theorem Table.other (ht : Table s) {fd : Nat} {file : Option File}
    (hfd : ∀ connection, s.fds fd ≠ some (.tunnel connection))
    (hfile : ∀ connection, file ≠ some (.tunnel connection)) :
    Table { s with fds := Function.update s.fds fd file } := by
  have hfds : ∀ {fd' connection}, Function.update s.fds fd file fd' = some (.tunnel connection) ↔
      s.fds fd' = some (.tunnel connection) := by
    intro fd' connection
    rw [update_eq_some_iff]
    constructor
    · rintro (⟨-, h⟩ | ⟨-, h⟩)
      · exact absurd h (hfile connection)
      · exact h
    · intro h
      refine .inr ⟨?_, h⟩
      rintro rfl
      exact hfd connection h
  constructor
  · intro slot fd' h
    obtain ⟨connection, hc⟩ := ht.held slot fd' h
    exact ⟨connection, hfds.2 hc⟩
  · exact fun fd' connection h => ht.tunnel fd' connection (hfds.1 h)
  · exact ht.apart
  · exact fun fd' fd'' connection h h' => ht.unique fd' fd'' connection (hfds.1 h) (hfds.1 h')

/-! ## From a read to the close -/

section Watch
variable {slot : Slot} {fd : Nat} {saw : Option File} {stamp : Nat}

/-- A step that leaves the slot and what it holds as they were. -/
theorem Watch.congr (hw : Watch s slot fd saw stamp) (hchanged : s'.changed slot = s.changed slot)
    (hheld : s'.held slot = s.held slot) (hopened : s.opened ≤ s'.opened)
    (hfds : ∀ fd', s.held slot = some fd' → s'.fds fd' = s.fds fd') : Watch s' slot fd saw stamp where
  past := by
    rw [hchanged]
    exact hw.past
  old connection h := Nat.lt_of_lt_of_le (hw.old connection h) hopened
  same hstamp h := by
    rw [hchanged] at hstamp
    rw [hheld] at h
    rw [hfds fd h]
    exact hw.same hstamp h
  kept connection fd' hsaw h hfile := by
    rw [hheld] at h
    rw [hfds fd' h] at hfile
    rw [hchanged]
    exact hw.kept connection fd' hsaw h hfile

theorem Watch.close (hw : Watch s slot fd saw stamp) (ht : Table s) (slot' : Slot) :
    Watch (s.close slot') slot fd saw stamp := by
  cases h : s.held slot' with
  | none =>
    rw [close_none h]
    exact hw
  | some fd₀ =>
    rw [close_some h]
    have hpast := hw.past
    by_cases he : slot = slot'
    · subst he
      constructor
      · dsimp only
        rw [Function.update_self]
        omega
      · exact hw.old
      · intro hstamp
        dsimp only at hstamp
        rw [Function.update_self] at hstamp
        omega
      · intro connection fd' _ hheld
        dsimp only at hheld
        rw [Function.update_self] at hheld
        cases hheld
    · apply hw.congr
      · exact Function.update_of_ne he _ _
      · exact Function.update_of_ne he _ _
      · exact Nat.le_refl _
      · intro fd' hheld
        apply Function.update_of_ne
        rintro rfl
        exact he (ht.apart slot slot' fd' hheld h)

theorem Watch.open_at (hw : Watch s slot fd saw stamp) (ht : Table s) {slot' : Slot} {fd₀ : Nat}
    (hfd : s.fds fd₀ = none) : Watch (s.open_at slot' fd₀) slot fd saw stamp := by
  have hpast := hw.past
  by_cases he : slot = slot'
  · subst he
    constructor
    · show stamp ≤ Function.update s.changed slot (s.changed slot + 1) slot
      rw [Function.update_self]
      omega
    · exact fun connection h => Nat.lt_succ_of_lt (hw.old connection h)
    · intro hstamp
      change Function.update s.changed slot (s.changed slot + 1) slot = stamp at hstamp
      rw [Function.update_self] at hstamp
      omega
    · intro connection fd' hsaw hheld hfile
      -- the new connection is none that was seen
      change Function.update s.held slot (some fd₀) slot = some fd' at hheld
      rw [Function.update_self] at hheld
      obtain rfl := Option.some.inj hheld
      change Function.update s.fds fd₀ (some (.tunnel s.opened)) fd₀ = some (.tunnel connection) at hfile
      rw [Function.update_self] at hfile
      cases hfile
      exact absurd (hw.old _ hsaw) (Nat.lt_irrefl _)
  · apply hw.congr
    · exact Function.update_of_ne he _ _
    · exact Function.update_of_ne he _ _
    · exact Nat.le_succ _
    · intro fd' hheld
      apply Function.update_of_ne
      rintro rfl
      obtain ⟨connection, hc⟩ := ht.held slot fd' hheld
      rw [hfd] at hc
      cases hc

theorem Watch.other (hw : Watch s slot fd saw stamp) (ht : Table s) {fd₀ : Nat} {file : Option File}
    (hfd : ∀ connection, s.fds fd₀ ≠ some (.tunnel connection)) :
    Watch { s with fds := Function.update s.fds fd₀ file } slot fd saw stamp := by
  apply hw.congr
  · rfl
  · rfl
  · exact Nat.le_refl _
  · intro fd' hheld
    apply Function.update_of_ne
    rintro rfl
    obtain ⟨connection, hc⟩ := ht.held slot fd' hheld
    exact hfd connection hc

end Watch

@[simp] theorem close_pump (slot : Slot) : (s.close slot).pump = s.pump := by
  unfold close
  split <;> rfl

@[simp] theorem close_reads (slot : Slot) : (s.close slot).reads = s.reads := by
  unfold close
  split <;> rfl

@[simp] theorem close_closes (slot : Slot) : (s.close slot).closes = s.closes := by
  unfold close
  split <;> rfl

theorem Inv.close (hI : Inv s) (slot : Slot) : Inv (s.close slot) := by
  refine ⟨hI.table.close slot, fun slot' fd saw stamp rest h => ?_⟩
  rw [close_pump] at h
  exact (hI.watch slot' fd saw stamp rest h).close hI.table slot

theorem Inv.open_at (hI : Inv s) {slot : Slot} {fd : Nat} (hslot : s.held slot = none) (hfd : s.fds fd = none) :
    Inv (s.open_at slot fd) :=
  ⟨hI.table.open_at hslot hfd, fun slot' fd' saw stamp rest h =>
    (hI.watch slot' fd' saw stamp rest h).open_at hI.table hfd⟩

theorem Inv.other (hI : Inv s) {fd : Nat} {file : Option File}
    (hfd : ∀ connection, s.fds fd ≠ some (.tunnel connection))
    (hfile : ∀ connection, file ≠ some (.tunnel connection)) :
    Inv { s with fds := Function.update s.fds fd file } :=
  ⟨hI.table.other hfd hfile, fun slot fd' saw stamp rest h => (hI.watch slot fd' saw stamp rest h).other hI.table hfd⟩

/-- A pump that is not about to close a channel. -/
theorem Inv.away (ht : Table s) (hpump : ∀ slot fd saw stamp rest, s.pump ≠ .closing slot fd saw stamp rest) : Inv s :=
  ⟨ht, fun slot fd saw stamp rest h => absurd h (hpump slot fd saw stamp rest)⟩

theorem next_not_closing (ready : List (Slot × Nat)) (slot : Slot) (fd : Nat) (saw : Option File) (stamp : Nat)
    (rest : List (Slot × Nat)) : Pump.next ready ≠ .closing slot fd saw stamp rest := by
  cases ready with
  | nil => exact nofun
  | cons => exact nofun

/-- What `deliver` keeps: it only opens and closes descriptors. -/
theorem deliver_inv {slot : Slot} {attempts : List Attempt} (hI : Inv s) (h : s.deliver slot attempts = some s') :
    Inv s' ∧ s'.pump = s.pump ∧ s'.reads = s.reads ∧ s'.closes = s.closes := by
  induction attempts generalizing s with
  | nil =>
    cases h
    exact ⟨hI, rfl, rfl, rfl⟩
  | cons attempt rest ih =>
    unfold deliver at h
    split at h
    · split at h
      · cases h
        exact ⟨hI, rfl, rfl, rfl⟩
      · simpa using ih (hI.close slot) h
    · rename_i hslot
      split at h
      · cases h
        exact ⟨hI, rfl, rfl, rfl⟩
      · rename_i fd far hopened
        obtain ⟨⟨hfd, hfar, hfree⟩, hs⟩ := Option.ite_none_right_eq_some.1 h
        -- the far end first, on a number that is free too
        obtain ⟨t, ht, hIt, hslot_t, hfd_t, hpump, hreads, hcloses⟩ : ∃ t, far.elim s s.open_other = t ∧ Inv t ∧
            t.held slot = none ∧ t.fds fd = none ∧ t.pump = s.pump ∧ t.reads = s.reads ∧ t.closes = s.closes := by
          cases far with
          | none => exact ⟨s, rfl, hI, hslot, hfd, rfl, rfl, rfl⟩
          | some f =>
            have hf : s.fds f = none := hfree f rfl
            refine ⟨_, rfl, hI.other (fun _ h => ?_) (fun _ h => by cases h), hslot, ?_, rfl, rfl, rfl⟩
            · rw [hf] at h
              cases h
            · rw [← hfd]
              apply Function.update_of_ne
              rintro rfl
              exact hfar rfl
        dsimp only at hs
        rw [ht] at hs
        have hIo := hIt.open_at hslot_t hfd_t
        split at hs
        · cases hs
          exact ⟨hIo, hpump, hreads, hcloses⟩
        · obtain ⟨hI', hp, hr, hc⟩ := ih (hIo.close slot) hs
          rw [close_pump] at hp
          rw [close_reads] at hr
          rw [close_closes] at hc
          exact ⟨hI', hp.trans hpump, hr.trans hreads, hc.trans hcloses⟩

/-! ## Runs -/

theorem Table.new : Table new where
  held _ _ h := by cases h
  tunnel _ _ h := by cases h
  apart _ _ _ h := by cases h
  unique _ _ _ h := by cases h

theorem Inv.new : Inv new := by
  apply Inv.away Table.new
  exact fun _ _ _ _ _ => nofun

theorem Sound.new : Sound new where
  reads _ h := by cases h
  closes _ h := by cases h

/-- What was read from a number the slots do not hold is not the tunnel's. -/
theorem Table.held_iff (ht : Table s) (fd : Nat) :
    (s.held .control_ = some fd ∨ s.held .update_ = some fd) ↔ ∃ connection, s.fds fd = some (.tunnel connection) := by
  constructor
  · rintro (h | h)
    · exact ht.held _ fd h
    · exact ht.held _ fd h
  · rintro ⟨connection, h⟩
    obtain ⟨-, slot, hheld⟩ := ht.tunnel fd connection h
    cases slot with
    | control_ => exact .inl hheld
    | update_ => exact .inr hheld

/-- A close of a slot is of what was seen to end just when the slot still has the
number it was read from and has not changed, or has none. -/
theorem Watch.closes_iff {slot : Slot} {fd : Nat} {saw : Option File} {stamp : Nat} (ht : Table s)
    (hw : Watch s slot fd saw stamp) :
    ((s.held slot).bind s.fds = none ∨ (s.held slot).bind s.fds = saw) ↔
      s.held slot = none ∨ s.held slot = some fd ∧ s.changed slot = stamp := by
  cases h : s.held slot with
  | none => simp
  | some fd' =>
    obtain ⟨connection, hc⟩ := ht.held slot fd' h
    simp only [Option.bind_some, hc, reduceCtorEq, false_or, Option.some.injEq]
    constructor
    · intro hsaw
      exact hw.kept connection fd' hsaw.symm h hc
    · rintro ⟨rfl, hstamp⟩
      rw [← hc]
      exact hw.same hstamp h

/-- What a step does. -/
inductive Did (s : Tunnel) : Act → Tunnel → Prop
  | deliver {slot first second t} (h : s.deliver slot [first, second] = some t) : Did s (.deliver slot first second) t
  | shutdown : Did s .shutdown ((s.close .control_).close .update_)
  | die : Did s .die { s with dead_ := true }
  | open_other {fd} (hfd : s.fds fd = none) : Did s (.open_other fd) (s.open_other fd)
  | close_other {fd} (hfd : s.fds fd = some .other) :
    Did s (.close_other fd) { s with fds := Function.update s.fds fd none }
  | take_snapshot : Did s .take_snapshot { s with pump := if s.dead_ then .returned else .snapshot s.held }
  | poll {control_ready update_ready fds} : Did s (.poll control_ready update_ready) { s with
      pump := .next (s.ready fds .control_ control_ready ++ s.ready fds .update_ update_ready) }
  /-- A record is queued, or the session ends. -/
  | read {got queued slot fd rest pump dead} (hpump : s.pump = .polled ((slot, fd) :: rest))
    (haway : ∀ slot fd saw stamp rest, pump ≠ .closing slot fd saw stamp rest) :
    Did s (.read got queued) { s with pump := pump, dead_ := dead, reads := s.reads ++ [s.fds fd] }
  | read_end {got queued slot fd rest} (hpump : s.pump = .polled ((slot, fd) :: rest)) :
    Did s (.read got queued) { s with
      pump := .closing slot fd (s.fds fd) (s.changed slot) rest, reads := s.reads ++ [s.fds fd] }
  | close_channel {slot fd saw stamp rest} (hpump : s.pump = .closing slot fd saw stamp rest) :
    Did s .close_channel { s.close slot with
      pump := .next rest, closes := s.closes ++ [(saw, (s.held slot).bind s.fds)] }

theorem step_did {a : Act} (h : s.step a = some s') : Did s a s' := by
  cases a with
  | deliver slot first second => exact .deliver h
  | shutdown =>
    cases h
    exact .shutdown
  | die =>
    cases h
    exact .die
  | open_other fd =>
    obtain ⟨hfd, hs⟩ := Option.ite_none_right_eq_some.1 h
    cases hs
    exact .open_other hfd
  | close_other fd =>
    obtain ⟨hfd, hs⟩ := Option.ite_none_right_eq_some.1 h
    cases hs
    exact .close_other hfd
  | take_snapshot =>
    simp only [Tunnel.step] at h
    split at h
    · cases h
      exact .take_snapshot
    · cases h
  | poll control_ready update_ready =>
    simp only [Tunnel.step] at h
    split at h
    · cases h
      exact .poll
    · cases h
  | read got queued =>
    simp only [Tunnel.step] at h
    split at h
    · rename_i slot fd rest hpump
      split at h
      · cases h
        split
        · exact .read hpump (next_not_closing rest)
        · exact .read hpump fun _ _ _ _ _ => nofun
      · cases h
        exact .read_end hpump
    · cases h
  | close_channel =>
    simp only [Tunnel.step] at h
    split at h
    · rename_i slot fd saw stamp rest hpump
      cases h
      exact .close_channel hpump
    · cases h

theorem Inv.step {a : Act} (hI : Inv s) (h : s.step a = some s') : Inv s' := by
  cases step_did h with
  | deliver h => exact (deliver_inv hI h).1
  | shutdown => exact (hI.close _).close _
  | die =>
    refine ⟨hI.table.congr rfl rfl rfl, fun slot fd saw stamp rest h => ?_⟩
    exact (hI.watch slot fd saw stamp rest h).congr rfl rfl (Nat.le_refl _) fun _ _ => rfl
  | open_other hfd =>
    apply hI.other
    · intro connection h
      rw [hfd] at h
      cases h
    · exact fun _ => nofun
  | close_other hfd =>
    apply hI.other
    · intro connection h
      rw [hfd] at h
      cases h
    · exact fun _ => nofun
  | take_snapshot =>
    refine .away (hI.table.congr rfl rfl rfl) fun slot fd saw stamp rest => ?_
    dsimp only
    split <;> exact nofun
  | poll => exact .away (hI.table.congr rfl rfl rfl) (next_not_closing _)
  | read _ haway => exact .away (hI.table.congr rfl rfl rfl) haway
  | @read_end _ _ slot fd rest hpump =>
    refine ⟨hI.table.congr rfl rfl rfl, ?_⟩
    rintro _ _ _ _ _ ⟨⟩
    refine ⟨Nat.le_refl _, ?_, fun _ _ => rfl, ?_⟩
    · exact fun connection hsaw => (hI.table.tunnel fd connection hsaw).1
    · exact fun connection fd' hsaw _ hfile => ⟨hI.table.unique fd' fd connection hfile hsaw, rfl⟩
  | @close_channel slot => exact .away ((hI.table.close slot).congr rfl rfl rfl) (next_not_closing _)

/-! ## What is read and closed -/

theorem Sound.congr (hA : Sound s) (hreads : s'.reads = s.reads) (hcloses : s'.closes = s.closes) : Sound s' where
  reads := by
    rw [hreads]
    exact hA.reads
  closes := by
    rw [hcloses]
    exact hA.closes

theorem Sound.read_iff {file : Option File} (hA : Sound s) (hreads : s'.reads = s.reads ++ [file])
    (hcloses : s'.closes = s.closes) : Sound s' ↔ ∃ connection, file = some (.tunnel connection) := by
  constructor
  · intro hs
    apply hs.reads
    rw [hreads]
    exact List.mem_append_right _ (List.mem_singleton_self _)
  · intro hfile
    constructor
    · rw [hreads]
      exact List.forall_mem_append.2 ⟨hA.reads, List.forall_mem_singleton.2 hfile⟩
    · rw [hcloses]
      exact hA.closes

theorem Sound.close_iff {p : Option File × Option File} (hA : Sound s) (hreads : s'.reads = s.reads)
    (hcloses : s'.closes = s.closes ++ [p]) : Sound s' ↔ p.2 = none ∨ p.2 = p.1 := by
  constructor
  · intro hs
    apply hs.closes
    rw [hcloses]
    exact List.mem_append_right _ (List.mem_singleton_self _)
  · intro hp
    constructor
    · rw [hreads]
      exact hA.reads
    · rw [hcloses]
      exact List.forall_mem_append.2 ⟨hA.closes, List.forall_mem_singleton.2 hp⟩

theorem Table.steady_read_iff (ht : Table s) {got queued : Bool} {slot : Slot} {fd : Nat} {rest : List (Slot × Nat)}
    (hpump : s.pump = .polled ((slot, fd) :: rest)) :
    s.steady (.read got queued) = true ↔ ∃ connection, s.fds fd = some (.tunnel connection) := by
  rw [← ht.held_iff fd]
  simp [steady, hpump]

/-- A sound tunnel stays so just where the step is steady. -/
theorem Inv.sound_iff {a : Act} (hI : Inv s) (hA : Sound s) (h : s.step a = some s') :
    Sound s' ↔ s.steady a = true := by
  cases step_did h with
  | deliver h =>
    obtain ⟨-, -, hreads, hcloses⟩ := deliver_inv hI h
    exact iff_of_true (hA.congr hreads hcloses) rfl
  | shutdown => exact iff_of_true (hA.congr (by simp) (by simp)) rfl
  | die => exact iff_of_true (hA.congr rfl rfl) rfl
  | open_other => exact iff_of_true (hA.congr rfl rfl) rfl
  | close_other => exact iff_of_true (hA.congr rfl rfl) rfl
  | take_snapshot => exact iff_of_true (hA.congr rfl rfl) rfl
  | poll => exact iff_of_true (hA.congr rfl rfl) rfl
  | read hpump =>
    rw [hI.table.steady_read_iff hpump]
    exact hA.read_iff rfl rfl
  | read_end hpump =>
    rw [hI.table.steady_read_iff hpump]
    exact hA.read_iff rfl rfl
  | @close_channel slot fd saw stamp rest hpump =>
    have hsteady : s.steady .close_channel = true ↔
        s.held slot = none ∨ s.held slot = some fd ∧ s.changed slot = stamp := by
      simp [steady, hpump]
    rw [hsteady, ← (hI.watch slot fd saw stamp rest hpump).closes_iff hI.table]
    exact hA.close_iff (p := (saw, (s.held slot).bind s.fds)) (close_reads slot) rfl

/-- In a run `pump` reads from the tunnel's connections and closes those alone that it
saw end, if and only if each read is from a number that a slot holds and each close
finds the slot unchanged since the read, or empty. -/
theorem closes_what_ended_iff (as : List Act) (t : Tunnel) (h : Run step new as t) :
    (∀ pre post s, as = pre ++ post → Run step new pre s → Sound s) ↔
      Meets step (fun s a => s.steady a = true) new as := by
  apply h.always_iff_meets Inv Sound Inv.new Sound.new
  · exact fun s a s' hI hs => hI.step hs
  · exact fun s a s' hI hA hs => hI.sound_iff hA hs

/-- A connection on the number 5, its far end on 4. -/
def connects : Attempt := ⟨some (5, some 4), true⟩

/-- The write finds the far end closed. -/
def broken : Attempt := ⟨none, false⟩

/-- An upload that ends, is seen to end and closed, and the next one. -/
def two_uploads : List Act :=
  [.deliver .update_ connects broken, .take_snapshot, .poll false true, .read true true, .close_other 4, .take_snapshot,
    .poll false true, .read false true, .close_channel, .deliver .update_ connects broken]

theorem closes_what_ended_iff_two : ∃ t, Run step new two_uploads t ∧
    t.closes = [(some (.tunnel 0), some (.tunnel 0))] ∧ t.held .update_ = some 5 ∧
      ∀ pre post s, two_uploads = pre ++ post → Run step new pre s → Sound s := by
  obtain ⟨t, ht, hcloses, hheld⟩ : ∃ t, exec step new two_uploads = some t ∧
      t.closes = [(some (.tunnel 0), some (.tunnel 0))] ∧ t.held .update_ = some 5 := ⟨_, rfl, rfl, rfl⟩
  have hrun := run_of_exec ht
  exact ⟨t, hrun, hcloses, hheld, (closes_what_ended_iff two_uploads t hrun).2 (meets_of_checks (by decide +kernel))⟩

/-- An upload ends; before `pump`, which has read its end, closes it, the first record
of the next one finds it ended too and opens a connection. -/
def reopened : List Act :=
  [.deliver .update_ connects broken, .close_other 4, .take_snapshot, .poll false true, .read false true,
    .deliver .update_ broken connects, .close_channel]

/-- The new connection is closed for the end of the old one. -/
theorem reopened_closed : ¬ ∀ as t, Run step new as t → Sound t := by
  intro hall
  obtain ⟨t, ht, hcloses⟩ : ∃ t, exec step new reopened = some t ∧ t.closes = [(some (.tunnel 0), some (.tunnel 1))] :=
    ⟨_, rfl, rfl⟩
  have hbad := (hall reopened t (run_of_exec ht)).closes (some (.tunnel 0), some (.tunnel 1))
    (by rw [hcloses]; exact List.mem_singleton_self _)
  rcases hbad with hbad | hbad
  · cases hbad
  · cases hbad

end Tunnel

end CameraStreamer.Secure.TunnelSockets
