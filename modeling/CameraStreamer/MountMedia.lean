import CameraStreamer.Lib.Runs
import CameraStreamer.RtspLaunch
/-!
# The media of a mount

`MountController` while clients come and go: gst-rtsp-server builds a media when
a client connects and unprepares it when the last one leaves, and clients with
different queries get media of their own, so that several may be live at once.
The mount has one weak reference for all of them, one frame counter and one
detection thread.
-/

namespace CameraStreamer

open Runs

/-- `GstState` -/
inductive GstState where
  | null
  | ready
  | paused
  | playing
  deriving DecidableEq

/-- `GstBuffer`, as far as the pad probe reads it. -/
structure GstBuffer where
  pts : UInt64
  offset : UInt64

def GST_CLOCK_TIME_NONE : UInt64 := 0xffffffffffffffff
def GST_BUFFER_OFFSET_NONE : UInt64 := 0xffffffffffffffff

def kWatchdogPeriodSec : Int := 5
def kStallChecks : Nat := 3

/-- The bin of a media: whether it has a "detect" element and whether the face
detector loads. It has a "camsrc" and a "pay0", which every launch string names. -/
structure Bin where
  detect : Bool
  loads : Bool
  deriving DecidableEq

structure StreamStatus (D : Type) where
  mounted : Bool
  streaming : Bool
  frames : UInt64
  fps : D
  sequence : UInt64
  pts : UInt64
  wallclock : Int

/-- `MountController` with its media, which go by numbers. -/
structure LiveMount (D : Type) where
  dead_ : Bool := false
  factory_ : Option MediaFactory
  detection : Option (Detection D)
  /-- The weak references. What they refer to is unprepared before it is freed. -/
  media_ : Option Nat := none
  source_ : Option Nat := none
  /-- The media whose appsink the thread pulls from. -/
  detect_thread_ : Option Nat := none
  frames_ : UInt64 := 0
  last_sequence_ : UInt64 := 0
  last_pts_ : UInt64 := 0
  last_wallclock_ : Int := 0
  last_frames_ : UInt64 := 0
  stalled_checks_ : Nat := 0
  fps_ : D

namespace LiveMount
variable {D : Type} (mount : LiveMount D)

def mounted : Bool := mount.factory_.isSome && !mount.dead_

def stop_detection : LiveMount D := { mount with detect_thread_ := none }

/-- Whether `start_detection` gets as far as its `stop_detection`. -/
def detects (bin : Bin) : Bool :=
  mount.detection.any (fun detection => detection.detect_model_ != "") && bin.detect

def start_detection (m : Nat) (bin : Bin) : LiveMount D :=
  if mount.detects bin then
    if bin.loads then { mount.stop_detection with detect_thread_ := some m } else mount.stop_detection
  else mount

def on_media_configure (m : Nat) (bin : Bin) : LiveMount D :=
  start_detection { mount with media_ := some m, source_ := some m } m bin

/-- Which media was unprepared is not looked at. -/
def on_media_unprepared : LiveMount D := stop_detection { mount with media_ := none, source_ := none }

/-- The buffer is the first of a frame. -/
def counted (buffer : GstBuffer) : Bool :=
  !(buffer.pts != GST_CLOCK_TIME_NONE && buffer.pts == mount.last_pts_ && 0 < mount.frames_)

/-- A buffer list can be empty. -/
def on_payload_buffer (buffer : Option GstBuffer) (now : Int) : LiveMount D :=
  match buffer with
  | none => mount
  | some buffer =>
    if mount.counted buffer then
      let count := mount.frames_ + 1
      { mount with
        frames_ := count
        last_sequence_ := if buffer.offset = GST_BUFFER_OFFSET_NONE then count - 1 else buffer.offset
        last_pts_ := if buffer.pts = GST_CLOCK_TIME_NONE then mount.last_pts_ else buffer.pts
        last_wallclock_ := now }
    else mount

def status : StreamStatus D where
  mounted := mount.mounted
  streaming := mount.media_.isSome
  frames := mount.frames_
  fps := mount.fps_
  sequence := mount.last_sequence_
  pts := mount.last_pts_
  wallclock := mount.last_wallclock_

variable [Doubles D]

/-- `state` is the state of each media's bin. -/
def check_stall (state : Nat → GstState) : Bool × LiveMount D :=
  if mount.mounted then
    match mount.media_ with
    | none => (false, { mount with stalled_checks_ := 0, last_frames_ := mount.frames_, fps_ := Doubles.ofInt 0 })
    | some m =>
      if state m ≠ .playing ∨ mount.frames_ ≠ mount.last_frames_ then
        (false, { mount with
          fps_ := Doubles.div (Doubles.ofInt (mount.frames_ - mount.last_frames_).toNat)
            (Doubles.ofInt kWatchdogPeriodSec)
          stalled_checks_ := 0
          last_frames_ := mount.frames_ })
      else
        -- the checks counted so far may have found another media
        (decide (kStallChecks ≤ mount.stalled_checks_ + 1), { mount with
          fps_ := Doubles.ofInt 0
          stalled_checks_ := mount.stalled_checks_ + 1 })
  else (false, mount)

def disable : LiveMount D :=
  { mount with dead_ := true, media_ := none, source_ := none, fps_ := Doubles.ofInt 0 }

end LiveMount

/-! ## Media that come and go -/

/-- What a check found there was. -/
structure Seen where
  live : List Nat
  state : Nat → GstState
  media_ : Option Nat
  delivered : Nat → Nat
  total : Nat

/-- A mount and its media: `media` are those that were configured, `live` those
not unprepared since, `delivered` the frames counted of each and `total` all of
them, `checks` the watchdog's checks, newest first, and `cut_off` the live media
whose detection was stopped. -/
structure Watched (D : Type) where
  mount : LiveMount D
  media : List Nat := []
  live : List Nat := []
  state : Nat → GstState := fun _ => .null
  properties : Nat → StringMap := fun _ => []
  delivered : Nat → Nat := fun _ => 0
  total : Nat := 0
  checks : List Seen := []
  cut_off : List Nat := []

inductive MountEvent where
  /-- A new media is built. -/
  | configure (m : Nat) (bin : Bin)
  | unprepared (m : Nat)
  | payload (m : Nat) (buffer : Option GstBuffer) (now : Int)
  | state (m : Nat) (state : GstState)
  | set_source_property (property value : String)
  | refresh_launch (launch : String)
  | check
  | disable

namespace Watched
variable {D : Type} [Doubles D]

/-- A mount on which nobody has connected yet. -/
def installed (mount : MountController D) : Watched D where
  mount := { factory_ := mount.factory_, detection := mount.detection, fps_ := Doubles.ofInt 0 }

/-- The media whose detection a `stop_detection` ends while they are live. -/
def running (mount : LiveMount D) (live : List Nat) : List Nat := mount.detect_thread_.toList.filter live.contains

def set_source_property (s : Watched D) (property value : String) : Bool × Watched D :=
  match s.mount.source_ with
  | none => (false, s)
  | some m => (true, { s with properties := Function.update s.properties m ((s.properties m).assign property value) })

def seen (s : Watched D) : Seen := ⟨s.live, s.state, s.mount.media_, s.delivered, s.total⟩

def step (s : Watched D) : MountEvent → Option (Watched D)
  | .configure m bin =>
    if s.media.contains m then none
    else some { s with
      mount := s.mount.on_media_configure m bin
      media := m :: s.media
      live := m :: s.live
      cut_off := s.cut_off ++ if s.mount.detects bin then running s.mount s.live else [] }
  | .unprepared m =>
    if s.live.contains m then
      let live := s.live.filter (· != m)
      some { s with
        mount := s.mount.on_media_unprepared
        live := live
        cut_off := s.cut_off ++ running s.mount live }
    else none
  | .payload m buffer now =>
    if s.media.contains m then
      let mount := s.mount.on_payload_buffer buffer now
      if buffer.any s.mount.counted then
        some { s with
          mount := mount
          delivered := Function.update s.delivered m (s.delivered m + 1)
          total := s.total + 1 }
      else some { s with mount := mount }
    else none
  | .state m state => some { s with state := Function.update s.state m state }
  | .set_source_property property value => some (s.set_source_property property value).2
  | .refresh_launch launch =>
    some { s with mount := { s.mount with factory_ := s.mount.factory_.map fun f => { f with launch := launch } } }
  | .check => some { s with mount := (s.mount.check_stall s.state).2, checks := s.seen :: s.checks }
  | .disable => some { s with mount := s.mount.disable }

/-! ## What a step leaves as it was -/

section Frame
omit [Doubles D]
variable (mount : LiveMount D) (m : Nat) (bin : Bin)

theorem on_media_configure_eq : ∃ thread, mount.on_media_configure m bin =
    { mount with media_ := some m, source_ := some m, detect_thread_ := thread } := by
  unfold LiveMount.on_media_configure LiveMount.start_detection
  split
  · split
    · exact ⟨_, rfl⟩
    · exact ⟨none, rfl⟩
  · exact ⟨mount.detect_thread_, rfl⟩

theorem on_payload_buffer_eq (buffer : Option GstBuffer) (now : Int) :
    ∃ sequence pts wallclock, mount.on_payload_buffer buffer now = { mount with
      frames_ := if buffer.any mount.counted then mount.frames_ + 1 else mount.frames_
      last_sequence_ := sequence
      last_pts_ := pts
      last_wallclock_ := wallclock } := by
  unfold LiveMount.on_payload_buffer
  rcases buffer with - | buffer
  · exact ⟨_, _, _, rfl⟩
  · simp only [Option.any_some]
    split
    · exact ⟨_, _, _, rfl⟩
    · exact ⟨_, _, _, rfl⟩

end Frame

theorem check_stall_eq (mount : LiveMount D) (state : Nat → GstState) : ∃ last stalled fps,
    (mount.check_stall state).2 = { mount with last_frames_ := last, stalled_checks_ := stalled, fps_ := fps } ∧
      (mount.mounted = true → last = mount.frames_ ∧ (stalled = 0 ∨ stalled = mount.stalled_checks_ + 1 ∧
        mount.frames_ = mount.last_frames_ ∧ ∃ m, mount.media_ = some m ∧ state m = .playing)) := by
  unfold LiveMount.check_stall
  split
  · split
    · exact ⟨_, _, _, rfl, fun _ => ⟨rfl, .inl rfl⟩⟩
    · rename_i m hm
      split
      · exact ⟨_, _, _, rfl, fun _ => ⟨rfl, .inl rfl⟩⟩
      · rename_i hsilent
        simp only [not_or, not_not] at hsilent
        exact ⟨mount.last_frames_, _, _, rfl, fun _ => ⟨hsilent.2.symm, .inr ⟨rfl, hsilent.2, m, hm, hsilent.1⟩⟩⟩
  · rename_i hmounted
    exact ⟨_, _, mount.fps_, rfl, fun h => absurd h hmounted⟩

/-- A check condemns the mount where it counts the last silence. -/
theorem check_stall_iff (mount : LiveMount D) (state : Nat → GstState) : (mount.check_stall state).1 = true ↔
    mount.mounted = true ∧ ∃ m, mount.media_ = some m ∧ state m = .playing ∧ mount.frames_ = mount.last_frames_ ∧
      kStallChecks ≤ mount.stalled_checks_ + 1 := by
  unfold LiveMount.check_stall
  split
  · rename_i hmounted
    split
    · rename_i hm
      simp [hm]
    · rename_i m hm
      split
      · rename_i hlive
        simp only [hm, hmounted, Bool.false_eq_true, Option.some.injEq, true_and, false_iff, not_exists]
        rintro m' ⟨rfl, hp, hf, -⟩
        exact hlive.elim (· hp) (· hf)
      · rename_i hsilent
        simp only [not_or, not_not] at hsilent
        simp [hm, hmounted, hsilent.1, hsilent.2]
  · rename_i hmounted
    simp [hmounted]

/-! ## Whose silence a check counts -/

/-- The frames counted up to the newest of the checks. -/
def counted_at (checks : List Seen) : Nat := checks.head?.elim 0 (·.total)

/-- `m` was live and playing in the last `kStallChecks` checks, the one now included,
and has delivered no frame since the check before them. -/
structure Silent (s : Watched D) (m : Nat) : Prop where
  now : m ∈ s.live ∧ s.state m = .playing
  enough : kStallChecks - 1 ≤ s.checks.length
  before : ∀ c ∈ s.checks.take (kStallChecks - 1), m ∈ c.live ∧ c.state m = .playing ∧ c.delivered m = s.delivered m
  since : (s.checks[kStallChecks - 1]?).elim 0 (·.delivered m) = s.delivered m

/-- Where a check would count the last silence, it has found the same media as the checks before it. -/
def Own (s : Watched D) : MountEvent → Prop
  | .check => ∀ m, s.mount.mounted = true → s.mount.media_ = some m → s.state m = .playing →
      s.mount.frames_ = s.mount.last_frames_ → kStallChecks ≤ s.mount.stalled_checks_ + 1 →
        ∀ c ∈ s.checks.take (kStallChecks - 1), m ∈ c.live
  | _ => True

/-- Fewer frames come between two checks than the counter can tell apart. -/
def Tells (s : Watched D) : MountEvent → Prop
  | .check => s.total < counted_at s.checks + 2 ^ 64
  | _ => True

structure Inv (s : Watched D) : Prop where
  tracked : ∀ m, s.mount.media_ = some m → m ∈ s.live
  known : ∀ m ∈ s.live, m ∈ s.media
  seen : ∀ c ∈ s.checks, ∀ m ∈ c.live, m ∈ s.media
  same : ∀ c ∈ s.checks, ∀ m ∈ c.live, s.mount.media_ = some m → c.media_ = some m
  frames : s.mount.frames_ = UInt64.ofNat s.total
  none_delivered : s.total = 0 → ∀ m, s.delivered m = 0
  delivered : ∀ c ∈ s.checks, c.total ≤ s.total ∧ (c.total = s.total → c.delivered = s.delivered)
  last : s.mount.mounted = true → s.mount.last_frames_ = UInt64.ofNat (counted_at s.checks)
  /-- The checks counted have found some media playing, and no frame came since the one before them. -/
  counted : s.mount.mounted = true → s.mount.stalled_checks_ ≤ s.checks.length ∧
    ∀ c ∈ s.checks.take s.mount.stalled_checks_, c.total = counted_at (s.checks.drop s.mount.stalled_checks_) ∧
      ∃ m, c.media_ = some m ∧ c.state m = .playing

theorem inv_installed (mount : MountController D) : Inv (installed mount) where
  tracked _ h := by cases h
  known _ h := by cases h
  seen _ h := by cases h
  same _ h := by cases h
  frames := rfl
  none_delivered _ _ := rfl
  delivered _ h := by cases h
  last _ := rfl
  counted _ := ⟨Nat.le_refl 0, fun _ h => by cases h⟩

variable {s s' : Watched D}

section Kept
omit [Doubles D]

theorem Inv.counted_at_le (hI : Inv s) : counted_at s.checks ≤ s.total := by
  unfold counted_at
  cases h : s.checks with
  | nil => exact Nat.zero_le _
  | cons c checks => exact (hI.delivered c (by simp [h])).1

/-- Equal counters mean that no frame came since the check before. -/
theorem Inv.total_eq (hI : Inv s) (hm : s.mount.mounted = true) (ht : s.total < counted_at s.checks + 2 ^ 64)
    (hf : s.mount.frames_ = s.mount.last_frames_) : s.total = counted_at s.checks := by
  rw [hI.frames, hI.last hm] at hf
  have hmod : s.total % 2 ^ 64 = counted_at s.checks % 2 ^ 64 := by
    simpa using congrArg UInt64.toNat hf
  have hle := hI.counted_at_le
  omega

theorem Inv.counted_at_drop (hI : Inv s) (hm : s.mount.mounted = true) :
    counted_at (s.checks.drop s.mount.stalled_checks_) = counted_at s.checks := by
  obtain ⟨hlen, hcounted⟩ := hI.counted hm
  cases hn : s.mount.stalled_checks_ with
  | zero => rfl
  | succ n =>
    cases hc : s.checks with
    | nil => simp [hn, hc] at hlen
    | cons c checks =>
      rw [hn, hc] at hcounted
      exact (hcounted c (by simp)).1.symm

/-- Where none of the newest `n` checks found a frame more than the one before them, nor did any check in between. -/
theorem counted_at_get {checks : List Seen} {k n : Nat} (hk : k ≤ n)
    (h : ∀ c ∈ checks.take n, c.total = counted_at (checks.drop n)) :
    (checks[k]?).elim 0 (·.total) = counted_at (checks.drop n) := by
  rcases Nat.lt_or_eq_of_le hk with hk | rfl
  · cases hget : checks[k]? with
    | none =>
      have hlen := List.getElem?_eq_none_iff.1 hget
      rw [List.drop_eq_nil_of_le (by omega)]
      rfl
    | some c => exact h c (List.mem_of_getElem? (by rw [List.getElem?_take_of_lt hk, hget]))
  · rw [counted_at, List.head?_drop]

theorem Inv.configure (hI : Inv s) {m : Nat} (hm : m ∉ s.media) (bin : Bin) (cut_off : List Nat) :
    Inv { s with
      mount := s.mount.on_media_configure m bin
      media := m :: s.media
      live := m :: s.live
      cut_off := cut_off } := by
  obtain ⟨thread, he⟩ := on_media_configure_eq s.mount m bin
  rw [he]
  refine ⟨?_, ?_, ?_, ?_, hI.frames, hI.none_delivered, hI.delivered, hI.last, hI.counted⟩
  · rintro _ ⟨⟩
    exact List.mem_cons_self
  · intro m' hm'
    rcases List.mem_cons.1 hm' with rfl | hm'
    · exact List.mem_cons_self
    · exact List.mem_cons_of_mem _ (hI.known m' hm')
  · intro c hc m' hm'
    exact List.mem_cons_of_mem _ (hI.seen c hc m' hm')
  · rintro c hc m' hm' ⟨⟩
    exact absurd (hI.seen c hc _ hm') hm

theorem Inv.unprepared (hI : Inv s) (m : Nat) (cut_off : List Nat) :
    Inv { s with
      mount := s.mount.on_media_unprepared
      live := s.live.filter (· != m)
      cut_off := cut_off } where
  tracked _ h := by cases h
  known m' hm' := hI.known m' (List.mem_filter.1 hm').1
  seen := hI.seen
  same _ _ _ _ h := by cases h
  frames := hI.frames
  none_delivered := hI.none_delivered
  delivered := hI.delivered
  last := hI.last
  counted := hI.counted

theorem Inv.payload (hI : Inv s) {buffer : Option GstBuffer} (now : Int) (m : Nat)
    (hb : buffer.any s.mount.counted = true) :
    Inv { s with
      mount := s.mount.on_payload_buffer buffer now
      delivered := Function.update s.delivered m (s.delivered m + 1)
      total := s.total + 1 } := by
  obtain ⟨sequence, pts, wallclock, he⟩ := on_payload_buffer_eq s.mount buffer now
  rw [he]
  refine ⟨hI.tracked, hI.known, hI.seen, hI.same, ?_, ?_, ?_, hI.last, hI.counted⟩
  · simp [hb, hI.frames]
  · intro h
    cases h
  · intro c hc
    have hle := (hI.delivered c hc).1
    refine ⟨Nat.le_succ_of_le hle, fun h => ?_⟩
    rw [h] at hle
    exact absurd hle (Nat.not_succ_le_self _)

end Kept

theorem Inv.check (hI : Inv s) (ht : s.total < counted_at s.checks + 2 ^ 64) :
    Inv { s with mount := (s.mount.check_stall s.state).2, checks := s.seen :: s.checks } := by
  obtain ⟨last, stalled, fps, he, hstalled⟩ := check_stall_eq s.mount s.state
  rw [he]
  refine ⟨hI.tracked, hI.known, ?_, ?_, hI.frames, hI.none_delivered, ?_, ?_, ?_⟩
  · intro c hc m hm
    rcases List.mem_cons.1 hc with rfl | hc
    · exact hI.known m hm
    · exact hI.seen c hc m hm
  · intro c hc m hm hmedia
    rcases List.mem_cons.1 hc with rfl | hc
    · exact hmedia
    · exact hI.same c hc m hm hmedia
  · intro c hc
    rcases List.mem_cons.1 hc with rfl | hc
    · exact ⟨Nat.le_refl _, fun _ => rfl⟩
    · exact hI.delivered c hc
  · intro hm
    exact (hstalled hm).1.trans hI.frames
  · intro hm
    obtain ⟨hlen, hcounted⟩ := hI.counted hm
    rcases (hstalled hm).2 with rfl | ⟨rfl, hframes, m, hmedia, hplaying⟩
    · exact ⟨Nat.zero_le _, fun _ h => by cases h⟩
    · refine ⟨Nat.succ_le_succ hlen, fun c hc => ?_⟩
      rw [List.take_succ_cons] at hc
      rw [List.drop_succ_cons]
      rcases List.mem_cons.1 hc with rfl | hc
      · exact ⟨(hI.total_eq hm ht hframes).trans (hI.counted_at_drop hm).symm, m, hmedia, hplaying⟩
      · exact hcounted c hc

theorem Inv.step (hI : Inv s) {a : MountEvent} (ht : Tells s a) (h : s.step a = some s') : Inv s' := by
  cases a with
  | configure m bin =>
    obtain ⟨hm, hs⟩ := Option.ite_none_left_eq_some.1 h
    cases hs
    exact hI.configure (by simpa using hm) bin _
  | unprepared m =>
    obtain ⟨-, hs⟩ := Option.ite_none_right_eq_some.1 h
    cases hs
    exact hI.unprepared m _
  | payload m buffer now =>
    obtain ⟨-, hs⟩ := Option.ite_none_right_eq_some.1 h
    split at hs
    · rename_i hb
      cases hs
      exact hI.payload now m hb
    · rename_i hb
      cases hs
      obtain ⟨sequence, pts, wallclock, he⟩ := on_payload_buffer_eq s.mount buffer now
      rw [he]
      refine ⟨hI.tracked, hI.known, hI.seen, hI.same, ?_, hI.none_delivered, hI.delivered, hI.last, hI.counted⟩
      simp [hb, hI.frames]
  | state m state =>
    cases h
    exact { hI with }
  | set_source_property property value =>
    cases h
    unfold set_source_property
    split
    · exact hI
    · exact { hI with }
  | refresh_launch launch =>
    cases h
    have hmounted : ∀ f : MediaFactory → MediaFactory,
        ({ s.mount with factory_ := s.mount.factory_.map f } : LiveMount D).mounted = s.mount.mounted := by
      intro f
      simp [LiveMount.mounted]
    refine ⟨hI.tracked, hI.known, hI.seen, hI.same, hI.frames, hI.none_delivered, hI.delivered, ?_, ?_⟩
    · rw [hmounted]
      exact hI.last
    · rw [hmounted]
      exact hI.counted
  | check =>
    cases h
    exact hI.check ht
  | disable =>
    cases h
    have hdead : s.mount.disable.mounted = false := by simp [LiveMount.mounted, LiveMount.disable]
    refine ⟨fun _ h => by (cases h), hI.known, hI.seen, fun _ _ _ _ h => by (cases h), hI.frames, hI.none_delivered,
      hI.delivered, ?_, ?_⟩
    · rw [hdead]
      intro h
      cases h
    · rw [hdead]
      intro h
      cases h

/-- A check that condemns the mount condemns the media it found for its own silence
just when the two checks before found that media too. -/
theorem Inv.own_iff (hI : Inv s) (ht : Tells s .check) :
    ((s.mount.check_stall s.state).1 = true → ∃ m, s.mount.media_ = some m ∧ s.Silent m) ↔ Own s .check := by
  rw [check_stall_iff]
  constructor
  · intro hsilent m hmounted hmedia hplaying hframes hcount c hc
    obtain ⟨m', hm', hs⟩ := hsilent ⟨hmounted, m, hmedia, hplaying, hframes, hcount⟩
    obtain rfl : m = m' := Option.some.inj (hmedia.symm.trans hm')
    exact (hs.before c hc).1
  · rintro hown ⟨hmounted, m, hmedia, hplaying, hframes, hcount⟩
    obtain ⟨hlen, hcounted⟩ := hI.counted hmounted
    have htotal : s.total = counted_at (s.checks.drop s.mount.stalled_checks_) :=
      (hI.total_eq hmounted ht hframes).trans (hI.counted_at_drop hmounted).symm
    have hlive := hown m hmounted hmedia hplaying hframes hcount
    have hle : kStallChecks - 1 ≤ s.mount.stalled_checks_ := Nat.sub_le_of_le_add hcount
    refine ⟨m, hmedia, ⟨hI.tracked m hmedia, hplaying⟩, hle.trans hlen, fun c hc => ?_, ?_⟩
    · obtain ⟨hc_total, m', hc_media, hc_playing⟩ := hcounted c ((List.take_subset_take_left _ hle) hc)
      have hc_mem := List.mem_of_mem_take hc
      have hsame := hI.same c hc_mem m (hlive c hc) hmedia
      obtain rfl : m' = m := Option.some.inj (hc_media.symm.trans hsame)
      exact ⟨hlive c hc, hc_playing, congrFun ((hI.delivered c hc_mem).2 (hc_total.trans htotal.symm)) _⟩
    · -- the check before those, or the start
      have hbefore := counted_at_get hle (fun c hc => (hcounted c hc).1)
      rw [← htotal] at hbefore
      cases hget : s.checks[kStallChecks - 1]? with
      | none =>
        rw [hget] at hbefore
        exact (hI.none_delivered hbefore.symm m).symm
      | some c =>
        rw [hget] at hbefore
        exact congrFun ((hI.delivered c (List.mem_of_getElem? hget)).2 hbefore) m

/-- The watchdog condemns a media only for its own silence, in every check of a run,
just when no check counts the last silence of a media that was not there in the two before. -/
theorem condemns_own_silence_iff (mount : MountController D) (as : List MountEvent) (s : Watched D)
    (hr : Run step (installed mount) as s) (ht : Meets step Tells (installed mount) as) :
    (∀ pre post t, as = pre ++ .check :: post → Run step (installed mount) pre t →
        (t.mount.check_stall t.state).1 = true → ∃ m, t.mount.media_ = some m ∧ t.Silent m) ↔
      Meets step Own (installed mount) as := by
  have hI : ∀ pre a post t, as = pre ++ a :: post → Run step (installed mount) pre t → Inv t := by
    intro pre a post t he hpre
    subst he
    exact hpre.inv_meets Inv (inv_installed mount) (fun _ _ _ hI ht hs => hI.step ht hs) ht.left
  constructor
  · intro hall pre a post t he hpre
    cases a with
    | check => exact ((hI pre _ post t he hpre).own_iff (ht pre _ post t he hpre)).1 (hall pre post t he hpre)
    | _ => trivial
  · intro hown pre post t he hpre
    exact ((hI pre _ post t he hpre).own_iff (ht pre _ post t he hpre)).2 (hown pre _ post t he hpre)

instance (s : Watched D) : (a : MountEvent) → Decidable (Tells s a)
  | .check => inferInstanceAs (Decidable (s.total < counted_at s.checks + 2 ^ 64))
  | .configure _ _ | .unprepared _ | .payload _ _ _ | .state _ _ | .set_source_property _ _ | .refresh_launch _
  | .disable => .isTrue trivial

instance (s : Watched D) : (a : MountEvent) → Decidable (Own s a)
  | .check => decidable_of_iff
      (∀ m ∈ s.mount.media_, ¬ (s.mount.mounted = true ∧ s.state m = .playing ∧ s.mount.frames_ = s.mount.last_frames_ ∧
        kStallChecks ≤ s.mount.stalled_checks_ + 1) ∨ ∀ c ∈ s.checks.take (kStallChecks - 1), m ∈ c.live)
      ⟨fun h m hmounted hm hs hf hk => (h m hm).resolve_left (not_not_intro ⟨hmounted, hs, hf, hk⟩),
        fun h m hm => Decidable.not_or_of_imp fun ⟨hmounted, hs, hf, hk⟩ => h m hmounted hm hs hf hk⟩
  | .configure _ _ | .unprepared _ | .payload _ _ _ | .state _ _ | .set_source_property _ _ | .refresh_launch _
  | .disable => .isTrue trivial

def test_mount : MountController Rat where
  factory_ := some ⟨"( videotestsrc name=camsrc ! x265enc ! rtph265pay name=pay0 )", ⟨false, false, true⟩⟩

/-- One media that plays and delivers nothing. -/
def stalled : List MountEvent := [.configure 0 ⟨false, false⟩, .state 0 .playing, .check, .check, .check]

theorem condemns_own_silence_iff_stalled : ∃ s, Run step (installed test_mount) stalled s ∧
    Meets step Own (installed test_mount) stalled ∧
    ∀ pre post t, stalled = pre ++ .check :: post → Run step (installed test_mount) pre t →
      (t.mount.check_stall t.state).1 = true → ∃ m, t.mount.media_ = some m ∧ t.Silent m := by
  obtain ⟨s, hs⟩ : ∃ s, exec step (installed test_mount) stalled = some s := ⟨_, rfl⟩
  have hc : Runs.checks step (fun s a => decide (Tells s a ∧ Own s a)) (installed test_mount) stalled = true := by
    decide +kernel
  have hboth : ∀ pre a post t, stalled = pre ++ a :: post → Run step (installed test_mount) pre t →
      Tells t a ∧ Own t a := fun pre a post t he hr => of_decide_eq_true (meets_of_checks hc pre a post t he hr)
  have ht : Meets step Tells (installed test_mount) stalled := fun pre a post t he hr => (hboth pre a post t he hr).1
  have ho : Meets step Own (installed test_mount) stalled := fun pre a post t he hr => (hboth pre a post t he hr).2
  exact ⟨s, run_of_exec hs, ho, (condemns_own_silence_iff test_mount stalled s (run_of_exec hs) ht).2 ho⟩

/-- Two checks find a silent media; it goes, and the check after that finds the next one, just begun. -/
def reconnected : List MountEvent :=
  [.configure 0 ⟨false, false⟩, .state 0 .playing, .check, .check, .unprepared 0, .configure 1 ⟨false, false⟩,
    .state 1 .playing]

/-- No media was silent for that long, and the mount is condemned. -/
theorem reconnected_condemned :
    ¬ ∀ (mount : MountController Rat) as s, Run step (installed mount) as s →
      (s.mount.check_stall s.state).1 = true → ∃ m, s.Silent m := by
  intro hall
  obtain ⟨s, hs, hcheck, hlive, hchecks⟩ : ∃ s, exec step (installed test_mount) reconnected = some s ∧
      (s.mount.check_stall s.state).1 = true ∧ s.live = [1] ∧
      ∃ c ∈ s.checks.take (kStallChecks - 1), c.live = [0] := ⟨_, rfl, rfl, rfl, _, List.mem_cons_self, rfl⟩
  obtain ⟨m, hm⟩ := hall test_mount reconnected s (run_of_exec hs) hcheck
  obtain ⟨c, hc, hc_live⟩ := hchecks
  have hnow := hm.now.1
  have hbefore := (hm.before c hc).1
  rw [hlive, List.mem_singleton] at hnow
  rw [hc_live, List.mem_singleton, hnow] at hbefore
  cases hbefore

/-! ## Which media the mount refers to -/

/-- With a live media, the mount refers to one, and no live media has lost its detection. -/
def Tracks (s : Watched D) : Prop :=
  s.mount.dead_ = false →
    (s.live ≠ [] → ∃ m ∈ s.live, s.mount.media_ = some m ∧ s.mount.source_ = some m) ∧ s.cut_off = []

/-- Only the last live media is unprepared, and no media takes the detection of a live one. -/
def Alone (s : Watched D) : MountEvent → Prop
  | .unprepared m => s.mount.dead_ = false → ∀ d ∈ s.live, d = m
  | .configure _ bin => s.mount.dead_ = false → s.mount.detects bin = true →
      ∀ d, s.mount.detect_thread_ = some d → d ∉ s.live
  | _ => True

section
omit [Doubles D]

/-- Then the status says that the camera streams, a setting reaches a live source
and the watchdog looks at a live media. -/
theorem Tracks.reaches (h : Tracks s) (hdead : s.mount.dead_ = false) (hlive : s.live ≠ []) :
    s.mount.status.streaming = true ∧ (∃ m ∈ s.live, s.mount.media_ = some m) ∧
      ∀ property value, ∃ m ∈ s.live, s.set_source_property property value = (true, { s with
        properties := Function.update s.properties m ((s.properties m).assign property value) }) := by
  obtain ⟨m, hm, hmedia, hsource⟩ := (h hdead).1 hlive
  refine ⟨by simp [LiveMount.status, hmedia], ⟨m, hm, hmedia⟩, fun property value => ⟨m, hm, ?_⟩⟩
  rw [set_source_property, hsource]

theorem running_eq_nil {mount : LiveMount D} {live : List Nat} :
    running mount live = [] ↔ ∀ d, mount.detect_thread_ = some d → d ∉ live := by
  simp [running]

theorem tracks_configure (hT : Tracks s) (m : Nat) (bin : Bin) :
    Tracks { s with
      mount := s.mount.on_media_configure m bin
      media := m :: s.media
      live := m :: s.live
      cut_off := s.cut_off ++ if s.mount.detects bin then running s.mount s.live else [] } ↔
      Alone s (.configure m bin) := by
  obtain ⟨thread, he⟩ := on_media_configure_eq s.mount m bin
  rw [he, Alone]
  refine forall_congr' fun hdead => ?_
  rw [(hT hdead).2, List.nil_append, and_iff_right fun _ => ⟨m, List.mem_cons_self, rfl, rfl⟩]
  split
  · rename_i hdetects
    rw [running_eq_nil, forall_prop_of_true hdetects]
  · rename_i hdetects
    exact iff_of_true rfl fun h => absurd h hdetects

theorem tracks_unprepared (hT : Tracks s) (m : Nat) :
    Tracks { s with
      mount := s.mount.on_media_unprepared
      live := s.live.filter (· != m)
      cut_off := s.cut_off ++ running s.mount (s.live.filter (· != m)) } ↔ Alone s (.unprepared m) := by
  refine forall_congr' fun hdead => ?_
  rw [(hT hdead).2, List.nil_append]
  have hlast : s.live.filter (· != m) = [] ↔ ∀ d ∈ s.live, d = m := by simp
  rw [← hlast]
  constructor
  · rintro ⟨hlive, -⟩
    -- the weak reference is cleared whoever else is live
    by_contra hne
    obtain ⟨m', -, hm', -⟩ := hlive hne
    cases hm'
  · intro hnil
    exact ⟨fun h => absurd hnil h, running_eq_nil.2 fun _ _ => by simp [hnil]⟩

end

theorem step_tracks {a : MountEvent} (hT : Tracks s) (h : s.step a = some s') : Tracks s' ↔ Alone s a := by
  cases a with
  | configure m bin =>
    obtain ⟨-, hs⟩ := Option.ite_none_left_eq_some.1 h
    cases hs
    exact tracks_configure hT m bin
  | unprepared m =>
    obtain ⟨-, hs⟩ := Option.ite_none_right_eq_some.1 h
    cases hs
    exact tracks_unprepared hT m
  | payload m buffer now =>
    obtain ⟨-, hs⟩ := Option.ite_none_right_eq_some.1 h
    obtain ⟨sequence, pts, wallclock, he⟩ := on_payload_buffer_eq s.mount buffer now
    refine iff_of_true ?_ trivial
    rw [he] at hs
    split at hs
    · cases hs
      exact hT
    · cases hs
      exact hT
  | state m state =>
    cases h
    exact iff_of_true hT trivial
  | set_source_property property value =>
    cases h
    refine iff_of_true ?_ trivial
    unfold set_source_property
    split
    · exact hT
    · exact hT
  | refresh_launch launch =>
    cases h
    exact iff_of_true hT trivial
  | check =>
    cases h
    obtain ⟨last, stalled, fps, he, -⟩ := check_stall_eq s.mount s.state
    rw [he]
    exact iff_of_true hT trivial
  | disable =>
    cases h
    exact iff_of_true (fun hdead => by cases hdead) trivial

/-- All through a run the mount refers to a live media when it has one, and keeps
detection going, just when only the last live media is ever unprepared and none
is configured that takes over detection from a live one. -/
theorem tracks_live_media_iff (mount : MountController D) (as : List MountEvent) (s : Watched D)
    (hr : Run step (installed mount) as s) :
    (∀ pre post t, as = pre ++ post → Run step (installed mount) pre t → Tracks t) ↔
      Meets step Alone (installed mount) as :=
  hr.always_iff_meets (fun _ => True) Tracks trivial (fun _ => ⟨fun h => absurd rfl h, rfl⟩)
    (fun _ _ _ _ _ => trivial) fun _ _ _ _ hT hs => step_tracks hT hs

instance (s : Watched D) : (a : MountEvent) → Decidable (Alone s a)
  | .unprepared m => inferInstanceAs (Decidable (s.mount.dead_ = false → ∀ d ∈ s.live, d = m))
  | .configure _ bin => decidable_of_iff
      (∀ d ∈ s.mount.detect_thread_, s.mount.dead_ = false → s.mount.detects bin = true → d ∉ s.live)
      ⟨fun h hdead hdetects d hd => h d hd hdead hdetects, fun h d hd hdead hdetects => h hdead hdetects d hd⟩
  | .check | .payload _ _ _ | .state _ _ | .set_source_property _ _ | .refresh_launch _ | .disable => .isTrue trivial

/-- One client after the other. -/
theorem tracks_live_media_iff_reconnected : ∃ s, Run step (installed test_mount) reconnected s ∧ s.live = [1] ∧
    Meets step Alone (installed test_mount) reconnected ∧
    ∀ pre post t, reconnected = pre ++ post → Run step (installed test_mount) pre t → Tracks t := by
  obtain ⟨s, hs, hlive⟩ : ∃ s, exec step (installed test_mount) reconnected = some s ∧ s.live = [1] := ⟨_, rfl, rfl⟩
  have hc : Runs.checks step (fun s a => decide (Alone s a)) (installed test_mount) reconnected = true := by
    decide +kernel
  have ha : Meets step Alone (installed test_mount) reconnected := fun pre a post t he hr =>
    of_decide_eq_true (meets_of_checks hc pre a post t he hr)
  exact ⟨s, run_of_exec hs, hlive, ha, (tracks_live_media_iff test_mount reconnected s (run_of_exec hs)).2 ha⟩

/-- Two clients with different queries: the one that leaves takes the mount's reference with it. -/
def two_clients : List MountEvent := [.configure 0 ⟨false, false⟩, .configure 1 ⟨false, false⟩, .unprepared 0]

theorem two_clients_untracked :
    ¬ ∀ (mount : MountController Rat) as s, Run step (installed mount) as s → s.Tracks := by
  intro hall
  obtain ⟨s, hs, hdead, hlive, hmedia⟩ : ∃ s, exec step (installed test_mount) two_clients = some s ∧
      s.mount.dead_ = false ∧ s.live = [1] ∧ s.mount.media_ = none := ⟨_, rfl, rfl, rfl, rfl⟩
  obtain ⟨m, -, hm, -⟩ := (hall test_mount two_clients s (run_of_exec hs) hdead).1 (by simp [hlive])
  rw [hmedia] at hm
  cases hm

/-! ## The mount that the settings see -/

section
omit [Doubles D]

def controller (s : Watched D) : MountController D :=
  ⟨s.mount.factory_, s.mount.detection, s.mount.source_.map s.properties⟩

theorem controller_set_source_property (property value : String) :
    ((s.set_source_property property value).1, (s.set_source_property property value).2.controller) =
      s.controller.set_source_property property value := by
  unfold set_source_property MountController.set_source_property controller
  cases hs : s.mount.source_ with
  | none => simp [hs]
  | some m => simp [hs]

end

theorem controller_refresh_launch {launch : String} (h : s.step (.refresh_launch launch) = some s') :
    s'.controller = s.controller.refresh_launch launch := by
  cases h
  rfl

end Watched

end CameraStreamer
