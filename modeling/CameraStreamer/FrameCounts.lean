import Mathlib.Data.List.Destutter
import CameraStreamer.MountMedia
/-!
# Frames and packets

`on_payload_buffer` counts a frame where the timestamp changes, since the
payloader may push a frame as one buffer, as many, or as a list. The count is of
the runs of equal timestamps, and of the buffers without one, except that the
first timestamp is compared with what `last_pts_` held before.
-/

namespace CameraStreamer

/-- What a payloader pushes: a buffer, or a list that is not empty. -/
inductive Push where
  | buffer (b : GstBuffer)
  | list (first : GstBuffer) (rest : List GstBuffer)

namespace Push

/-- The buffer that the pad probe looks at. -/
def first : Push → GstBuffer
  | .buffer b => b
  | .list first _ => first

def buffers : Push → List GstBuffer
  | .buffer b => [b]
  | .list first rest => first :: rest

end Push

def GstBuffer.valid (buffer : GstBuffer) : Bool := buffer.pts != GST_CLOCK_TIME_NONE

/-- The timestamps of the buffers that have one. -/
def timestamps (bs : List GstBuffer) : List UInt64 := (bs.filter (·.valid)).map (·.pts)

/-- The maximal runs of equal timestamps, which a buffer without a timestamp does
not end, and the buffers without one. -/
def frames (bs : List GstBuffer) : Nat := ((timestamps bs).destutter (· ≠ ·)).length + bs.countP (!·.valid)

namespace LiveMount
variable {D : Type} (mount : LiveMount D)

/-- The pad probe on each push, at its time. -/
def payload (ps : List (Push × Int)) : LiveMount D :=
  ps.foldl (fun mount p => mount.on_payload_buffer (some p.1.first) p.2) mount

/-- The buffers of the pushes, and those that the pad probe looks at. -/
def pushed (ps : List (Push × Int)) : List GstBuffer := ps.flatMap (·.1.buffers)

def probed (ps : List (Push × Int)) : List GstBuffer := ps.map (·.1.first)

/-- The first timestamp is taken for the one of a frame that was counted before: it
is the mount's `last_pts_`, and something has been counted by then. -/
def mistakes (bs : List GstBuffer) : Bool :=
  (timestamps bs).head? = some mount.last_pts_ && (mount.frames_ ≠ 0 || bs.head?.any (!·.valid))

/-! ## Counting one by one -/

theorem timestamps_valid {b : GstBuffer} (h : b.valid = true) (bs : List GstBuffer) :
    timestamps (b :: bs) = b.pts :: timestamps bs := by
  unfold timestamps
  rw [List.filter_cons_of_pos h]
  rfl

theorem timestamps_invalid {b : GstBuffer} (h : b.valid = false) (bs : List GstBuffer) :
    timestamps (b :: bs) = timestamps bs := by
  unfold timestamps
  rw [List.filter_cons_of_neg (by simp [h])]

/-- The frames that begin after the timestamp `last`. -/
def begun (last : UInt64) : List GstBuffer → Nat
  | [] => 0
  | b :: bs => if b.valid then if b.pts = last then begun last bs else begun b.pts bs + 1 else begun last bs + 1

theorem begun_eq (last : UInt64) (bs : List GstBuffer) :
    begun last bs + 1 = ((timestamps bs).destutter' (· ≠ ·) last).length + bs.countP (!·.valid) := by
  induction bs generalizing last with
  | nil => rfl
  | cons b bs ih =>
    unfold begun
    cases hv : b.valid with
    | false =>
      rw [timestamps_invalid hv, List.countP_cons_of_pos (by simp [hv]), if_neg (by simp)]
      have := ih last
      omega
    | true =>
      rw [timestamps_valid hv, List.countP_cons_of_neg (by simp [hv]), if_pos rfl]
      by_cases he : b.pts = last
      · rw [if_pos he, List.destutter'_cons_neg (R := (· ≠ ·)) _ (by simp [he])]
        exact ih last
      · rw [if_neg he, List.destutter'_cons_pos (R := (· ≠ ·)) _ (Ne.symm he), List.length_cons]
        have := ih b.pts
        omega

theorem frames_eq (last : UInt64) (bs : List GstBuffer) :
    frames bs = begun last bs + if (timestamps bs).head? = some last then 1 else 0 := by
  have h := begun_eq last bs
  unfold frames
  cases ht : timestamps bs with
  | nil =>
    rw [ht] at h
    simp only [List.destutter'_nil, List.length_singleton] at h
    simp only [List.destutter_nil, List.length_nil, List.head?_nil, reduceCtorEq, if_false]
    omega
  | cons a l =>
    rw [ht] at h
    rw [List.destutter_cons', List.head?_cons]
    by_cases he : a = last
    · subst he
      rw [List.destutter'_cons_neg (R := (· ≠ ·)) _ (by simp)] at h
      rw [if_pos rfl]
      omega
    · rw [List.destutter'_cons_pos (R := (· ≠ ·)) _ (Ne.symm he), List.length_cons] at h
      rw [if_neg (by simpa using he)]
      omega

/-! ## What the mount counts -/

variable {mount}

theorem counted_iff (b : GstBuffer) :
    mount.counted b = true ↔ ¬ (b.valid = true ∧ b.pts = mount.last_pts_ ∧ mount.frames_ ≠ 0) := by
  have hpos : 0 < mount.frames_ ↔ mount.frames_ ≠ 0 := UInt64.pos_iff_ne_zero
  simp only [counted, GstBuffer.valid, hpos, Bool.not_eq_true', Bool.and_eq_false_iff, bne_eq_false_iff_eq,
    beq_eq_false_iff_ne, decide_eq_false_iff_not, bne_iff_ne]
  tauto

/-- The pad probe on a buffer that begins a frame. -/
theorem on_payload_counted {b : GstBuffer} (now : Int) (h : mount.counted b = true) :
    (mount.on_payload_buffer (some b) now).frames_ = mount.frames_ + 1 ∧
      (mount.on_payload_buffer (some b) now).last_pts_ = if b.valid then b.pts else mount.last_pts_ := by
  unfold on_payload_buffer
  dsimp only
  rw [if_pos h]
  refine ⟨rfl, ?_⟩
  by_cases hv : b.pts = GST_CLOCK_TIME_NONE
  · simp [hv, GstBuffer.valid]
  · simp [hv, GstBuffer.valid]

theorem on_payload_same {b : GstBuffer} (now : Int) (h : ¬ mount.counted b = true) :
    mount.on_payload_buffer (some b) now = mount := by
  unfold on_payload_buffer
  dsimp only
  rw [if_neg h]

theorem succ_toNat {n : UInt64} (h : n.toNat + 1 < 2 ^ 64) : (n + 1).toNat = n.toNat + 1 := by
  rw [UInt64.toNat_add]
  exact Nat.mod_eq_of_lt h

/-- What `begun` says of a buffer, once a frame has been counted. -/
theorem begun_cons (b : GstBuffer) (bs : List GstBuffer) (hpos : mount.frames_ ≠ 0) :
    begun mount.last_pts_ (b :: bs) = if mount.counted b then
      begun (if b.valid then b.pts else mount.last_pts_) bs + 1 else begun mount.last_pts_ bs := by
  rw [begun]
  cases hv : b.valid with
  | false =>
    have hc : mount.counted b = true := (counted_iff b).2 (by simp [hv])
    rw [if_pos hc]
    rfl
  | true =>
    by_cases he : b.pts = mount.last_pts_
    · have hc : ¬ mount.counted b = true := mt (counted_iff b).1 (not_not.2 ⟨hv, he, hpos⟩)
      rw [if_neg hc, if_pos rfl, if_pos he]
    · have hc : mount.counted b = true := (counted_iff b).2 fun h => he h.2.1
      rw [if_pos hc, if_pos rfl, if_neg he, if_pos rfl]

/-- Once a frame has been counted, the mount counts the frames that begin. -/
theorem payload_begun (ps : List (Push × Int)) (hpos : mount.frames_ ≠ 0)
    (h : mount.frames_.toNat + begun mount.last_pts_ (probed ps) < 2 ^ 64) :
    (mount.payload ps).frames_.toNat = mount.frames_.toNat + begun mount.last_pts_ (probed ps) := by
  induction ps generalizing mount with
  | nil => rfl
  | cons p ps ih =>
    show ((mount.on_payload_buffer (some p.1.first) p.2).payload ps).frames_.toNat = _
    have hbegun := begun_cons p.1.first (probed ps) hpos
    change begun mount.last_pts_ (probed (p :: ps)) = _ at hbegun
    rw [hbegun] at h ⊢
    by_cases hc : mount.counted p.1.first = true
    · obtain ⟨hframes, hlast⟩ := on_payload_counted p.2 hc
      rw [if_pos hc, ← hlast] at h ⊢
      have hsucc := succ_toNat (n := mount.frames_) (by omega)
      rw [← hframes] at hsucc
      have hpos' : (mount.on_payload_buffer (some p.1.first) p.2).frames_ ≠ 0 := by
        intro h0
        rw [h0] at hsucc
        exact absurd hsucc (Nat.succ_ne_zero _).symm
      rw [ih hpos' (by omega)]
      omega
    · rw [on_payload_same p.2 hc]
      rw [if_neg hc] at h ⊢
      exact ih hpos h

/-- What the mount counts of a media: its frames, and one less where the first is mistaken for an earlier one. -/
theorem payload_frames (mount : LiveMount D) (ps : List (Push × Int))
    (h : mount.frames_.toNat + frames (probed ps) < 2 ^ 64) :
    (mount.payload ps).frames_.toNat + (if mount.mistakes (probed ps) then 1 else 0) =
      mount.frames_.toNat + frames (probed ps) := by
  by_cases hpos : mount.frames_ = 0
  · cases ps with
    | nil => simp [payload, probed, mistakes, timestamps, frames]
    | cons p ps =>
      -- the first buffer is counted, whatever its timestamp
      have hc : mount.counted p.1.first = true := (counted_iff _).2 fun h => h.2.2 hpos
      obtain ⟨hframes, hlast⟩ := on_payload_counted p.2 hc
      show ((mount.on_payload_buffer (some p.1.first) p.2).payload ps).frames_.toNat + _ = _
      change _ + frames (p.1.first :: probed ps) < _ at h
      change _ + (if mount.mistakes (p.1.first :: probed ps) then 1 else 0) = _ + frames (p.1.first :: probed ps)
      have hone : (mount.on_payload_buffer (some p.1.first) p.2).frames_ = 1 := by rw [hframes, hpos]; rfl
      have hcount : frames (p.1.first :: probed ps) =
          begun (mount.on_payload_buffer (some p.1.first) p.2).last_pts_ (probed ps) + 1 +
            if mount.mistakes (p.1.first :: probed ps) then 1 else 0 := by
        rw [hlast]
        cases hv : p.1.first.valid with
        | false =>
          rw [frames_eq mount.last_pts_, timestamps_invalid hv]
          simp [begun, hv, mistakes, timestamps_invalid hv]
        | true =>
          rw [frames_eq p.1.first.pts, timestamps_valid hv]
          simp [begun, hv, mistakes, hpos]
      rw [payload_begun ps (by rw [hone]; decide) (by rw [hone, show (1 : UInt64).toNat = 1 from rfl]; omega), hone,
        hcount, hpos]
      simp only [UInt64.toNat_one, UInt64.toNat_zero]
      omega
  · have hcount := frames_eq mount.last_pts_ (probed ps)
    have hmistakes : mount.mistakes (probed ps) = true ↔ (timestamps (probed ps)).head? = some mount.last_pts_ := by
      simp [mistakes, hpos]
    simp only [hmistakes]
    rw [payload_begun ps hpos (by omega)]
    omega

/-! ## All the buffers of a list -/

theorem frames_mono {bs cs : List GstBuffer} (h : bs.Sublist cs) : frames bs ≤ frames cs := by
  have htimes : (timestamps bs).Sublist (timestamps cs) := (h.filter _).map _
  have hchain := List.isChain_destutter (· ≠ ·) (timestamps bs)
  exact Nat.add_le_add (hchain.length_le_length_destutter_ne ((List.destutter_sublist _ _).trans htimes)) h.countP_le

theorem probed_sublist (ps : List (Push × Int)) : (probed ps).Sublist (pushed ps) := by
  induction ps with
  | nil => exact List.Sublist.slnil
  | cons p ps ih =>
    have hfirst : [p.1.first].Sublist p.1.buffers := by
      cases p.1 with
      | buffer b => exact List.Sublist.refl _
      | list first rest => exact List.singleton_sublist.2 List.mem_cons_self
    exact hfirst.append ih

theorem payload_append (ps qs : List (Push × Int)) : mount.payload (ps ++ qs) = (mount.payload ps).payload qs :=
  List.foldl_append

theorem pushed_append (ps qs : List (Push × Int)) : pushed (ps ++ qs) = pushed ps ++ pushed qs := List.flatMap_append

/-- The counter does not fall, unless it wraps. -/
theorem payload_grows {pre : List (Push × Int)} {p : Push × Int}
    (h : mount.frames_.toNat + frames (probed (pre ++ [p])) < 2 ^ 64) :
    (mount.payload pre).frames_ ≤ (mount.payload (pre ++ [p])).frames_ := by
  have hprobed : probed (pre ++ [p]) = probed pre ++ [p.1.first] := List.map_append
  have hle : frames (probed pre) ≤ frames (probed (pre ++ [p])) := by
    rw [hprobed]
    exact frames_mono (List.sublist_append_left _ _)
  have hbefore := payload_frames mount pre (by omega)
  have hafter := payload_frames mount (pre ++ [p]) h
  rw [payload_append] at hafter ⊢
  change ((mount.payload pre).on_payload_buffer (some p.1.first) p.2).frames_.toNat + _ = _ at hafter
  show _ ≤ ((mount.payload pre).on_payload_buffer (some p.1.first) p.2).frames_
  by_cases hc : (mount.payload pre).counted p.1.first = true
  · rw [(on_payload_counted p.2 hc).1] at hafter ⊢
    by_cases hmax : (mount.payload pre).frames_.toNat + 1 < 2 ^ 64
    · rw [UInt64.le_iff_toNat_le, succ_toNat hmax]
      omega
    · -- it would be 0, with nearly 2 ^ 64 frames counted
      have hlt := (mount.payload pre).frames_.toNat_lt
      have hzero : ((mount.payload pre).frames_ + 1).toNat = 0 := by
        rw [UInt64.toNat_add, show (1 : UInt64).toNat = 1 from rfl]
        omega
      rw [hzero] at hafter
      split at hafter <;> split at hbefore <;> omega
  · rw [on_payload_same p.2 hc]
    exact UInt64.le_refl _

/-! ## Sequences -/

/-- The reported sequence is the number of the last frame. -/
def Sequenced (mount : LiveMount D) : Prop := mount.frames_ ≠ 0 → mount.status.sequence = mount.frames_ - 1

theorem Sequenced.payload {ps : List (Push × Int)} (h : mount.Sequenced)
    (hoffset : ∀ b ∈ pushed ps, b.offset = GST_BUFFER_OFFSET_NONE) : (mount.payload ps).Sequenced := by
  induction ps generalizing mount with
  | nil => exact h
  | cons p ps ih =>
    have hfirst : p.1.first.offset = GST_BUFFER_OFFSET_NONE :=
      hoffset _ ((probed_sublist (p :: ps)).subset List.mem_cons_self)
    apply ih
    · show (mount.on_payload_buffer (some p.1.first) p.2).Sequenced
      by_cases hc : mount.counted p.1.first = true
      · intro _
        unfold on_payload_buffer
        dsimp only [status]
        rw [if_pos hc]
        exact if_pos hfirst
      · rw [on_payload_same p.2 hc]
        exact h
    · intro b hb
      exact hoffset b (List.mem_append_right _ hb)

/-! ## Exactly -/

/-- A media's frames are counted once each, and the counter never falls; without
offsets the reported sequence is the number of the last frame. -/
structure CountsExactly (mount : LiveMount D) (ps : List (Push × Int)) : Prop where
  count : (mount.payload ps).frames_.toNat = mount.frames_.toNat + frames (pushed ps)
  grows : ∀ pre p post, ps = pre ++ p :: post → (mount.payload pre).frames_ ≤ (mount.payload (pre ++ [p])).frames_
  sequence : (∀ b ∈ pushed ps, b.offset = GST_BUFFER_OFFSET_NONE) → mount.Sequenced →
    ∀ pre post, ps = pre ++ post → (mount.payload pre).Sequenced

theorem counts_exactly_iff (mount : LiveMount D) (ps : List (Push × Int)) : mount.CountsExactly ps ↔
    mount.frames_.toNat + frames (pushed ps) < 2 ^ 64 ∧ frames (probed ps) = frames (pushed ps) ∧
      mount.mistakes (probed ps) = false := by
  have hle := frames_mono (probed_sublist ps)
  constructor
  · intro h
    have hfits : mount.frames_.toNat + frames (pushed ps) < 2 ^ 64 := by
      rw [← h.count]
      exact UInt64.toNat_lt _
    have hcount := payload_frames mount ps (by omega)
    rw [h.count] at hcount
    refine ⟨hfits, by omega, ?_⟩
    cases hm : mount.mistakes (probed ps) with
    | false => rfl
    | true =>
      rw [hm, if_pos rfl] at hcount
      omega
  · rintro ⟨hfits, hsame, hm⟩
    have hcount := payload_frames mount ps (by omega)
    rw [hm, if_neg (by simp)] at hcount
    refine ⟨by omega, ?_, ?_⟩
    · rintro pre p post rfl
      apply payload_grows
      have hpart : probed (pre ++ p :: post) = probed (pre ++ [p]) ++ probed post := by
        rw [List.append_cons]
        exact List.map_append
      have hpart_le := frames_mono (List.sublist_append_left (probed (pre ++ [p])) (probed post))
      rw [← hpart] at hpart_le
      omega
    · rintro hoffset h pre post rfl
      apply h.payload
      intro b hb
      apply hoffset
      rw [pushed_append]
      exact List.mem_append_left _ hb

/-! ## The watchdog -/

/-- What the pad probe leaves as it was. -/
theorem payload_eq (mount : LiveMount D) (ps : List (Push × Int)) :
    ∃ count sequence pts wallclock, mount.payload ps = { mount with
    frames_ := count
    last_sequence_ := sequence
    last_pts_ := pts
    last_wallclock_ := wallclock } := by
  induction ps generalizing mount with
  | nil => exact ⟨_, _, _, _, rfl⟩
  | cons p ps ih =>
    obtain ⟨sequence, pts, wallclock, hstep⟩ := Watched.on_payload_buffer_eq mount (some p.1.first) p.2
    obtain ⟨count, sequence, pts, wallclock, hrest⟩ := ih (mount.on_payload_buffer (some p.1.first) p.2)
    refine ⟨count, sequence, pts, wallclock, hrest.trans ?_⟩
    rw [hstep]

variable [Doubles D]

/-- A check looks at the number of frames, and at no timestamp. -/
theorem check_stall_alike (mount : LiveMount D) (state : Nat → GstState) (sequence pts : UInt64) (wallclock : Int) :
    check_stall { mount with last_sequence_ := sequence, last_pts_ := pts, last_wallclock_ := wallclock } state =
      ((mount.check_stall state).1, { (mount.check_stall state).2 with
        last_sequence_ := sequence
        last_pts_ := pts
        last_wallclock_ := wallclock }) := by
  unfold check_stall
  change (if mount.mounted then _ else _) = _
  by_cases hmounted : mount.mounted = true
  · simp only [if_pos hmounted]
    cases mount.media_ with
    | none => rfl
    | some m =>
      by_cases hlive : state m ≠ .playing ∨ mount.frames_ ≠ mount.last_frames_
      · simp only [if_pos hlive]
      · simp only [if_neg hlive]
  · simp only [if_neg hmounted]

/-- What a check makes of a mount: its verdict, the rate, and the silent checks it has counted. -/
def verdict (mount : LiveMount D) (state : Nat → GstState) : Bool × D × Nat :=
  let (stalled, checked) := mount.check_stall state
  (stalled, checked.fps_, checked.stalled_checks_)

/-- However the same number of frames was packetised, the watchdog sees the same. -/
theorem verdict_alike {ps qs : List (Push × Int)} (h : (mount.payload ps).frames_ = (mount.payload qs).frames_)
    (state : Nat → GstState) : (mount.payload ps).verdict state = (mount.payload qs).verdict state := by
  obtain ⟨count, sequence, pts, wallclock, hps⟩ := payload_eq mount ps
  obtain ⟨count', sequence', pts', wallclock', hqs⟩ := payload_eq mount qs
  rw [hps, hqs] at h ⊢
  obtain rfl : count = count' := h
  unfold verdict
  rw [check_stall_alike { mount with frames_ := count } state sequence pts wallclock,
    check_stall_alike { mount with frames_ := count } state sequence' pts' wallclock']

/-- The mount counts the frames of a media exactly, and the watchdog depends on nothing
else of it, if and only if the counter does not wrap, the buffers behind the first of a
list make no difference to the count, and the media's first timestamp is not mistaken
for one that was counted before. -/
theorem frames_counted_iff (mount : LiveMount D) (ps : List (Push × Int)) :
    (mount.CountsExactly ps ∧ ∀ qs state, mount.CountsExactly qs → frames (pushed qs) = frames (pushed ps) →
        (mount.payload qs).verdict state = (mount.payload ps).verdict state) ↔
      mount.frames_.toNat + frames (pushed ps) < 2 ^ 64 ∧ frames (probed ps) = frames (pushed ps) ∧
        mount.mistakes (probed ps) = false := by
  rw [← counts_exactly_iff]
  refine and_iff_left_of_imp fun h qs state hqs hsame => ?_
  apply verdict_alike
  rw [← UInt64.toNat_inj, hqs.count, h.count, hsame]

/-- A mount that has counted nothing yet. -/
def fresh : LiveMount Rat := { factory_ := none, detection := none, fps_ := 0 }

/-- A buffer without a timestamp, and the first that has one, which is 0. -/
def untimed_first : List (Push × Int) :=
  [(.buffer ⟨GST_CLOCK_TIME_NONE, GST_BUFFER_OFFSET_NONE⟩, 0), (.buffer ⟨0, GST_BUFFER_OFFSET_NONE⟩, 1)]

/-- The second is taken for a packet of the first. -/
theorem untimed_first_missed : ¬ ∀ ps, fresh.CountsExactly ps := by
  intro h
  have hcount := (h untimed_first).count
  rw [show (fresh.payload untimed_first).frames_ = 1 from rfl,
    show frames (pushed untimed_first) = 2 from rfl] at hcount
  cases hcount

end LiveMount

end CameraStreamer
