import CameraStreamer.CameraPipeline
import CameraStreamer.Lib.Bytes
import CameraStreamer.Lib.Fanout
/-!
# A camera's pipeline among its threads

`CameraPipeline` in use: its owner starts it, stops it and pumps the encoded
frames, the detection thread pumps the raw ones, and any thread registers a
transport or replaces the spec. The owner joins the detection thread before it
starts or stops the pipeline.
-/

namespace CameraStreamer.Media

open Runs

/-- One encoded access unit. -/
structure Frame where
  data : Bytes
  pts : UInt64
  keyframe : Bool
  deriving DecidableEq

/-- What `on_raw` is given, the camera apart. -/
structure Raw where
  bgrx : Bytes
  width : Int
  height : Int
  stride : Int
  deriving DecidableEq

/-- A sample of an appsink: its buffer, if it has one, with what mapping it gives,
and the members of its caps. -/
structure Sample where
  buffer : Option (Option Bytes)
  pts : UInt64
  delta_unit : Bool
  width : Option Int
  height : Option Int

namespace Sample

/-- The frame that `deliver` makes of it. -/
def frame (s : Sample) : Option Frame :=
  s.buffer.join.map fun data => { data, pts := s.pts, keyframe := !s.delta_unit }

/-- The frame that `deliver_raw` makes of it. -/
def raw (s : Sample) : Option Raw :=
  let width := s.width.getD 0
  let height := s.height.getD 0
  if width ≤ 0 ∨ height ≤ 0 then none
  else s.buffer.join.map fun bgrx =>
    -- the size is cast to int before it is divided
    { bgrx, width, height, stride := (Int.bmod bgrx.length (2 ^ 32)).tdiv height }

end Sample

/-- Where the owner is. -/
inductive Owner where
  | idle
  /-- In `start`, before `spec()`. -/
  | cleared
  /-- In `start`, with its copy of the spec. -/
  | building (spec : PipelineSpec)
  /-- In `deliver`, with the transports that the frame has not been given to. -/
  | pumping (frame : Frame) (targets : List Nat)

/-- A call on a transport. -/
inductive Call where
  | on_frame (camera : Nat) (frame : Frame)
  | on_raw (camera : Nat) (raw : Raw)

namespace Call

def camera : Call → Nat
  | on_frame camera _ => camera
  | on_raw camera _ => camera

def frame : Call → Option Frame
  | on_frame _ frame => some frame
  | on_raw _ _ => none

def raw : Call → Option Raw
  | on_frame _ _ => none
  | on_raw _ raw => some raw

end Call

structure CameraPipeline where
  camera_ : Nat
  spec_ : PipelineSpec
  relaunch_ : Bool
  frames_ : UInt64
  built : Built
  transports_ : List Nat
  owner : Owner
  /-- The detection thread in `deliver_raw`. -/
  detector : Option (Raw × List Nat)
  /-- Calls of `set_spec` that have stored their spec and not yet set the flag. -/
  storing : Nat
  calls : List (Nat × Call)
  /-- The spec of the pipeline that plays. -/
  live : Option PipelineSpec

inductive Act where
  | add_transport (transport : Option Nat)
  /-- `set_spec`, up to the store. -/
  | store (spec : PipelineSpec)
  /-- The rest of it. -/
  | set_relaunch
  /-- `start`, up to `relaunch_ = false`. -/
  | clear
  | read_spec
  /-- The rest of `start`. -/
  | launch (gst : Gst)
  | stop
  /-- `pump` with a sample, up to the copy of the transports. -/
  | pull (sample : Sample)
  /-- `deliver` calls the next transport, or counts the frame. -/
  | next
  /-- The same for `pump_raw`. -/
  | pull_raw (sample : Sample)
  | next_raw

namespace CameraPipeline

def new (camera : Nat) (spec : PipelineSpec) : CameraPipeline where
  camera_ := camera
  spec_ := spec
  relaunch_ := false
  frames_ := 0
  built := {}
  transports_ := []
  owner := .idle
  detector := none
  storing := 0
  calls := []
  live := none

def launched (s : CameraPipeline) (spec : PipelineSpec) (gst : Gst) : CameraPipeline :=
  let started := Media.launch gst s.camera_ spec s.built
  { s with
    owner := .idle
    built := started.2
    live :=
      match started.1 with
      | .ok () => some spec
      | .error _ => none }

def step (s : CameraPipeline) : Act → Option CameraPipeline
  | .add_transport none => some s
  | .add_transport (some transport) => some { s with transports_ := s.transports_ ++ [transport] }
  | .store spec =>
    if spec.source = "" ∨ spec = s.spec_ then some s
    else some { s with spec_ := spec, storing := s.storing + 1 }
  | .set_relaunch =>
    if s.storing = 0 then none else some { s with relaunch_ := true, storing := s.storing - 1 }
  | .clear =>
    match s.owner, s.detector with
    | .idle, none => some { s with owner := .cleared, relaunch_ := false, built := s.built.stop, live := none }
    | _, _ => none
  | .read_spec =>
    match s.owner with
    | .cleared => some { s with owner := .building s.spec_ }
    | _ => none
  | .launch gst =>
    match s.owner with
    | .building spec => some (s.launched spec gst)
    | _ => none
  | .stop =>
    match s.owner, s.detector with
    | .idle, none => some { s with built := s.built.stop, live := none }
    | _, _ => none
  | .pull sample =>
    match s.owner, s.built.sink_, sample.frame with
    | .idle, some _, some frame => some { s with owner := .pumping frame s.transports_ }
    | .idle, some _, none => some s
    | _, _, _ => none
  | .next =>
    match s.owner with
    | .pumping frame (transport :: targets) => some { s with
        owner := .pumping frame targets
        calls := s.calls ++ [(transport, .on_frame s.camera_ frame)] }
    | .pumping _ [] => some { s with owner := .idle, frames_ := s.frames_ + 1 }
    | _ => none
  | .pull_raw sample =>
    match s.detector, s.built.detect_, sample.raw with
    | none, some _, some raw => some { s with detector := some (raw, s.transports_) }
    | none, some _, none => some s
    | _, _, _ => none
  | .next_raw =>
    match s.detector with
    | some (raw, transport :: targets) => some { s with
        detector := some (raw, targets)
        calls := s.calls ++ [(transport, .on_raw s.camera_ raw)] }
    | some (_, []) => some { s with detector := none }
    | none => none

/-! ## The two fan-outs -/

def frames (s : CameraPipeline) : Fanout.State Nat Frame where
  registered := s.transports_
  under_way :=
    match s.owner with
    | .pumping frame targets => some (frame, targets)
    | _ => none
  given := s.calls.filterMap fun c => c.2.frame.map (c.1, ·)

def raws (s : CameraPipeline) : Fanout.State Nat Raw where
  registered := s.transports_
  under_way := s.detector
  given := s.calls.filterMap fun c => c.2.raw.map (c.1, ·)

end CameraPipeline

namespace Act

def frames : Act → Option (Fanout.Act Nat Frame)
  | .add_transport transport => transport.map .register
  | .pull sample => sample.frame.map .pull
  | .next => some .next
  | _ => none

def raws : Act → Option (Fanout.Act Nat Raw)
  | .add_transport transport => transport.map .register
  | .pull_raw sample => sample.raw.map .pull
  | .next_raw => some .next
  | _ => none

/-- The frames that the actions pull. -/
def pulled (as : List Act) : List Frame := as.filterMap fun
  | .pull sample => sample.frame
  | _ => none

end Act

namespace CameraPipeline

variable {camera : Nat} {spec : PipelineSpec} {gst : Gst} {s s' t : CameraPipeline} {as : List Act} {a : Act}

/-! ## What an action can do -/

/-- The steps that change the pipeline or its spec, and hand on no frame. -/
inductive Owned (s : CameraPipeline) : Act → CameraPipeline → Prop
  | store {spec : PipelineSpec} (hsource : spec.source ≠ "") (hne : spec ≠ s.spec_) :
    Owned s (.store spec) { s with spec_ := spec, storing := s.storing + 1 }
  | set_relaunch (h : 0 < s.storing) :
    Owned s .set_relaunch { s with relaunch_ := true, storing := s.storing - 1 }
  | clear (ho : s.owner = .idle) (hd : s.detector = none) :
    Owned s .clear { s with owner := .cleared, relaunch_ := false, built := s.built.stop, live := none }
  | read_spec (ho : s.owner = .cleared) : Owned s .read_spec { s with owner := .building s.spec_ }
  | launch {gst : Gst} {spec : PipelineSpec} (ho : s.owner = .building spec) :
    Owned s (.launch gst) (s.launched spec gst)
  | stop (ho : s.owner = .idle) (hd : s.detector = none) :
    Owned s .stop { s with built := s.built.stop, live := none }

/-- The steps of the two fan-outs. -/
inductive Fanned (s : CameraPipeline) : Act → CameraPipeline → Prop
  | add_transport {transport : Nat} :
    Fanned s (.add_transport (some transport)) { s with transports_ := s.transports_ ++ [transport] }
  | pull {sample : Sample} {frame : Frame} {sink : Node} (ho : s.owner = .idle) (hs : s.built.sink_ = some sink)
    (hf : sample.frame = some frame) :
    Fanned s (.pull sample) { s with owner := .pumping frame s.transports_ }
  | give {frame : Frame} {k : Nat} {ks : List Nat} (ho : s.owner = .pumping frame (k :: ks)) :
    Fanned s .next { s with owner := .pumping frame ks, calls := s.calls ++ [(k, .on_frame s.camera_ frame)] }
  | count {frame : Frame} (ho : s.owner = .pumping frame []) :
    Fanned s .next { s with owner := .idle, frames_ := s.frames_ + 1 }
  | pull_raw {sample : Sample} {raw : Raw} {sink : Node} (hd : s.detector = none) (hs : s.built.detect_ = some sink)
    (hr : sample.raw = some raw) :
    Fanned s (.pull_raw sample) { s with detector := some (raw, s.transports_) }
  | give_raw {raw : Raw} {k : Nat} {ks : List Nat} (hd : s.detector = some (raw, k :: ks)) :
    Fanned s .next_raw { s with detector := some (raw, ks), calls := s.calls ++ [(k, .on_raw s.camera_ raw)] }
  | end_raw {raw : Raw} (hd : s.detector = some (raw, [])) : Fanned s .next_raw { s with detector := none }

/-- The steps that change nothing. -/
inductive Idled (s : CameraPipeline) : Act → Prop
  | add_transport : Idled s (.add_transport none)
  | store {spec : PipelineSpec} (h : spec.source = "" ∨ spec = s.spec_) : Idled s (.store spec)
  | pull {sample : Sample} (h : sample.frame = none) : Idled s (.pull sample)
  | pull_raw {sample : Sample} (h : sample.raw = none) : Idled s (.pull_raw sample)

theorem step_cases (h : step s a = some s') : Owned s a s' ∨ Fanned s a s' ∨ Idled s a ∧ s' = s := by
  cases a with
  | add_transport transport =>
    cases transport with
    | none => exact .inr (.inr ⟨.add_transport, (Option.some.inj h).symm⟩)
    | some k =>
      obtain rfl := Option.some.inj h
      exact .inr (.inl .add_transport)
  | store spec =>
    simp only [step] at h
    split at h
    · rename_i hsame
      exact .inr (.inr ⟨.store hsame, (Option.some.inj h).symm⟩)
    · rename_i hne
      obtain ⟨hsource, hspec⟩ := not_or.1 hne
      obtain rfl := Option.some.inj h
      exact .inl (.store hsource hspec)
  | set_relaunch =>
    simp only [step] at h
    split at h
    · cases h
    · rename_i hne
      obtain rfl := Option.some.inj h
      exact .inl (.set_relaunch (Nat.pos_of_ne_zero hne))
  | clear =>
    simp only [step] at h
    split at h
    · rename_i ho hd
      obtain rfl := Option.some.inj h
      exact .inl (.clear ho hd)
    · cases h
  | read_spec =>
    simp only [step] at h
    split at h
    · rename_i ho
      obtain rfl := Option.some.inj h
      exact .inl (.read_spec ho)
    · cases h
  | launch gst =>
    simp only [step] at h
    split at h
    · rename_i ho
      obtain rfl := Option.some.inj h
      exact .inl (.launch ho)
    · cases h
  | stop =>
    simp only [step] at h
    split at h
    · rename_i ho hd
      obtain rfl := Option.some.inj h
      exact .inl (.stop ho hd)
    · cases h
  | pull sample =>
    simp only [step] at h
    split at h
    · rename_i ho hsink hf
      obtain rfl := Option.some.inj h
      exact .inr (.inl (.pull ho hsink hf))
    · rename_i hf
      exact .inr (.inr ⟨.pull hf, (Option.some.inj h).symm⟩)
    · cases h
  | next =>
    simp only [step] at h
    split at h
    · rename_i ho
      obtain rfl := Option.some.inj h
      exact .inr (.inl (.give ho))
    · rename_i ho
      obtain rfl := Option.some.inj h
      exact .inr (.inl (.count ho))
    · cases h
  | pull_raw sample =>
    simp only [step] at h
    split at h
    · rename_i hd hsink hr
      obtain rfl := Option.some.inj h
      exact .inr (.inl (.pull_raw hd hsink hr))
    · rename_i hr
      exact .inr (.inr ⟨.pull_raw hr, (Option.some.inj h).symm⟩)
    · cases h
  | next_raw =>
    simp only [step] at h
    split at h
    · rename_i hd
      obtain rfl := Option.some.inj h
      exact .inr (.inl (.give_raw hd))
    · rename_i hd
      obtain rfl := Option.some.inj h
      exact .inr (.inl (.end_raw hd))
    · cases h

/-! ## Every frame reaches every transport -/

theorem Owned.frames (h : Owned s a s') : s'.frames = s.frames ∧ a.frames = none := by
  cases h with
  | store | set_relaunch | stop => exact ⟨rfl, rfl⟩
  | clear ho | read_spec ho | launch ho => simp [CameraPipeline.frames, Act.frames, launched, ho]

theorem Owned.raws (h : Owned s a s') : s'.raws = s.raws ∧ a.raws = none := by
  cases h with
  | store | set_relaunch | stop | clear | read_spec | launch => exact ⟨rfl, rfl⟩

theorem Idled.frames (h : Idled s a) : a.frames = none ∧ a.raws = none := by
  cases h with
  | add_transport | store => exact ⟨rfl, rfl⟩
  | pull h | pull_raw h => simp [Act.frames, Act.raws, h]

/-- On the encoded frames a step of the pipeline is a step of a fan-out, or none. -/
theorem Fanned.frames (h : Fanned s a s') :
    a.frames = none ∧ s'.frames = s.frames ∨ ∃ b, a.frames = some b ∧ Fanout.step s.frames b = some s'.frames := by
  cases h with
  | add_transport => exact .inr ⟨_, rfl, rfl⟩
  | @pull sample frame _ ho _ hf =>
    exact .inr ⟨.pull frame, by simp [Act.frames, hf], by simp [CameraPipeline.frames, Fanout.step, ho]⟩
  | give ho => exact .inr ⟨.next, rfl, by simp [CameraPipeline.frames, Fanout.step, ho, Call.frame]⟩
  | count ho => exact .inr ⟨.next, rfl, by simp [CameraPipeline.frames, Fanout.step, ho]⟩
  | pull_raw | end_raw => exact .inl ⟨rfl, rfl⟩
  | give_raw => exact .inl ⟨rfl, by simp [CameraPipeline.frames, Call.frame]⟩

theorem Fanned.raws (h : Fanned s a s') :
    a.raws = none ∧ s'.raws = s.raws ∨ ∃ b, a.raws = some b ∧ Fanout.step s.raws b = some s'.raws := by
  cases h with
  | add_transport => exact .inr ⟨_, rfl, rfl⟩
  | pull | count => exact .inl ⟨rfl, rfl⟩
  | give => exact .inl ⟨rfl, by simp [CameraPipeline.raws, Call.raw]⟩
  | @pull_raw sample raw _ hd _ hr =>
    exact .inr ⟨.pull raw, by simp [Act.raws, hr], by simp [CameraPipeline.raws, Fanout.step, hd]⟩
  | give_raw hd => exact .inr ⟨.next, rfl, by simp [CameraPipeline.raws, Fanout.step, hd, Call.raw]⟩
  | end_raw hd => exact .inr ⟨.next, rfl, by simp [CameraPipeline.raws, Fanout.step, hd]⟩

/-- A run of the pipeline is a run of each of its fan-outs. -/
theorem fanned_run {ι : Type} (view : CameraPipeline → Fanout.State Nat ι) (own : Act → Option (Fanout.Act Nat ι))
    (hstep : ∀ s a s', step s a = some s' →
      own a = none ∧ view s' = view s ∨ ∃ b, own a = some b ∧ Fanout.step (view s) b = some (view s'))
    (h : Run step (new camera spec) as t) :
    Run Fanout.step (view (new camera spec)) (as.filterMap own) (view t) := by
  refine h.project view own ?_ ?_
  · intro s a s' hs ha
    rcases hstep s a s' hs with ⟨-, he⟩ | ⟨b, hb, -⟩
    · exact he
    · rw [ha] at hb; cases hb
  · intro s a s' b hs ha
    rcases hstep s a s' hs with ⟨hn, -⟩ | ⟨c, hc, hc'⟩
    · rw [hn] at ha; cases ha
    · rw [hc] at ha
      obtain rfl := Option.some.inj ha
      exact hc'

theorem step_frames (s : CameraPipeline) (a : Act) (s' : CameraPipeline) (h : step s a = some s') :
    a.frames = none ∧ s'.frames = s.frames ∨ ∃ b, a.frames = some b ∧ Fanout.step s.frames b = some s'.frames := by
  rcases step_cases h with ho | hf | ⟨hi, rfl⟩
  · exact .inl ho.frames.symm
  · exact hf.frames
  · exact .inl ⟨hi.frames.1, rfl⟩

theorem step_raws (s : CameraPipeline) (a : Act) (s' : CameraPipeline) (h : step s a = some s') :
    a.raws = none ∧ s'.raws = s.raws ∨ ∃ b, a.raws = some b ∧ Fanout.step s.raws b = some s'.raws := by
  rcases step_cases h with ho | hf | ⟨hi, rfl⟩
  · exact .inl ho.raws.symm
  · exact hf.raws
  · exact .inl ⟨hi.frames.2, rfl⟩

/-! ## The count of frames -/

/-- The frame in `deliver`, counted. -/
def in_hand (s : CameraPipeline) : UInt64 :=
  match s.owner with
  | .pumping _ _ => 1
  | _ => 0

/-- A frame is counted once, when it was pulled. -/
theorem step_counted (h : step s a = some s') :
    s'.frames_ + s'.in_hand = s.frames_ + s.in_hand + UInt64.ofNat (Act.pulled [a]).length := by
  rcases step_cases h with ho | hf | ⟨hi, rfl⟩
  · cases ho with
    | store | set_relaunch | stop => simp [in_hand, Act.pulled]
    | clear ho | read_spec ho | launch ho => simp [in_hand, Act.pulled, launched, ho]
  · cases hf with
    | add_transport | pull_raw | give_raw | end_raw => simp [in_hand, Act.pulled]
    | pull ho _ hf => simp [in_hand, Act.pulled, ho, hf]
    | give ho | count ho => simp [in_hand, Act.pulled, ho]
  · cases hi with
    | add_transport | store | pull_raw => simp [Act.pulled]
    | pull hnone => simp [Act.pulled, hnone]

theorem counted (h : Run step (new camera spec) as t) :
    t.frames_ + t.in_hand = UInt64.ofNat (Act.pulled as).length := by
  refine h.inv_trace (fun as s => s.frames_ + s.in_hand = UInt64.ofNat (Act.pulled as).length) rfl ?_
  intro as s a s' _ ih hs
  have happend : Act.pulled (as ++ [a]) = Act.pulled as ++ Act.pulled [a] := List.filterMap_append ..
  rw [step_counted hs, ih, happend, List.length_append, UInt64.ofNat_add]

/-! ## The pipeline that plays -/

structure Inv (camera : Nat) (s : CameraPipeline) : Prop where
  camera_eq : s.camera_ = camera
  named : ∀ c ∈ s.calls, c.2.camera = camera
  up : ∀ spec, s.live = some spec → ∃ gst b, Accepts gst spec ∧ s.built = wanted gst camera spec (Built.stop b)
  down : s.live = none → s.built.stop = s.built
  starting : (s.owner = .cleared ∨ ∃ spec, s.owner = .building spec) → s.live = none
  pumping : ∀ frame targets, s.owner = .pumping frame targets → s.live ≠ none
  detecting : s.detector ≠ none → ∃ spec, s.live = some spec ∧ detects spec = true
  /-- A spec that was replaced since it was read has the rebuild asked for, or about to be. -/
  told : ∀ spec, s.live = some spec ∨ s.owner = .building spec →
    spec = s.spec_ ∨ s.relaunch_ = true ∨ 0 < s.storing

theorem inv_new : Inv camera (new camera spec) where
  camera_eq := rfl
  named := by simp [new]
  up := by simp [new]
  down := fun _ => rfl
  starting := fun _ => rfl
  pumping := by simp [new]
  detecting := by simp [new]
  told := by simp [new]

/-- `launch` leaves the pipeline asked for, or none. -/
theorem launched_cases (s : CameraPipeline) (spec : PipelineSpec) (gst : Gst) :
    Accepts gst spec ∧ (s.launched spec gst).live = some spec ∧
        (s.launched spec gst).built = wanted gst s.camera_ spec s.built ∨
      (s.launched spec gst).live = none ∧ (s.launched spec gst).built.stop = (s.launched spec gst).built := by
  generalize hr : Media.launch gst s.camera_ spec s.built = r
  rcases r with ⟨e | ⟨⟩, b⟩
  · obtain ⟨hp, hsink, hdetect, hsource, -⟩ := launch_error hr
    right
    simp only [launched, hr, true_and]
    cases b
    simp_all [Built.stop]
  · obtain ⟨hA, rfl⟩ := launch_ok.1 hr
    exact .inl ⟨hA, by simp [launched, hr]⟩

theorem Inv.launched (h : Inv camera s) (ho : s.owner = .building spec) : Inv camera (s.launched spec gst) := by
  have hlive := h.starting (.inr ⟨spec, ho⟩)
  refine ⟨h.camera_eq, h.named, ?_, ?_, by simp [CameraPipeline.launched],
    by simp [CameraPipeline.launched], ?_, ?_⟩
  · intro spec' hspec
    rcases launched_cases s spec gst with ⟨hA, hl, hb⟩ | ⟨hl, -⟩
    · obtain rfl : spec = spec' := Option.some.inj (hl.symm.trans hspec)
      exact ⟨gst, s.built, hA, by rw [hb, h.camera_eq, h.down hlive]⟩
    · rw [hl] at hspec; cases hspec
  · intro hnone
    rcases launched_cases s spec gst with ⟨-, hl, -⟩ | ⟨-, hb⟩
    · rw [hl] at hnone; cases hnone
    · exact hb
  · intro hd
    obtain ⟨spec', hspec, -⟩ := h.detecting hd
    rw [hlive] at hspec; cases hspec
  · intro spec' hspec
    have hidle : (s.launched spec gst).owner = .idle := rfl
    simp only [hidle, reduceCtorEq, or_false] at hspec
    rcases launched_cases s spec gst with ⟨-, hl, -⟩ | ⟨hl, -⟩
    · obtain rfl : spec = spec' := Option.some.inj (hl.symm.trans hspec)
      exact h.told spec (.inr ho)
    · rw [hl] at hspec; cases hspec

theorem Inv.owned (h : Inv camera s) (hs : Owned s a s') : Inv camera s' := by
  cases hs with
  | store => exact { h with told := fun _ _ => .inr (.inr (Nat.succ_pos _)) }
  | set_relaunch => exact { h with told := fun _ _ => .inr (.inl rfl) }
  | clear ho hd =>
    exact ⟨h.camera_eq, h.named, by simp, fun _ => rfl, fun _ => rfl, by simp, by simp [hd], by simp⟩
  | read_spec ho =>
    have hlive := h.starting (.inl ho)
    refine ⟨h.camera_eq, h.named, h.up, h.down, fun _ => hlive, by simp, h.detecting, ?_⟩
    rintro spec (hspec | hspec)
    · rw [hlive] at hspec; cases hspec
    · exact .inl (Owner.building.inj hspec).symm
  | launch ho => exact h.launched ho
  | stop ho hd =>
    exact ⟨h.camera_eq, h.named, by simp, fun _ => rfl, fun _ => rfl, by simp [ho], by simp [hd], by simp [ho]⟩

/-- Only a pipeline that plays has an appsink to pull from. -/
theorem Inv.sink (h : Inv camera s) {sink : Node} (hs : s.built.sink_ = some sink) : s.live ≠ none := by
  intro hnone
  rw [← h.down hnone] at hs
  cases hs

theorem Inv.detect_sink (h : Inv camera s) {sink : Node} (hs : s.built.detect_ = some sink) :
    ∃ spec, s.live = some spec ∧ detects spec = true := by
  cases hl : s.live with
  | none =>
    rw [← h.down hl] at hs
    cases hs
  | some spec =>
    obtain ⟨gst, b, -, hb⟩ := h.up spec hl
    refine ⟨spec, rfl, ?_⟩
    cases hd : detects spec with
    | true => rfl
    | false => simp [hb, wanted, hd, Built.stop] at hs

theorem Inv.fanned (h : Inv camera s) (hs : Fanned s a s') : Inv camera s' := by
  have hcall : ∀ c : Nat × Call, c.2.camera = s.camera_ → ∀ d ∈ s.calls ++ [c], d.2.camera = camera := by
    intro c hc d hd
    rcases List.mem_append.1 hd with hd | hd
    · exact h.named d hd
    · rw [List.mem_singleton.1 hd, hc, h.camera_eq]
  have hlive : ∀ spec, s.live = some spec → spec = s.spec_ ∨ s.relaunch_ = true ∨ 0 < s.storing :=
    fun spec hspec => h.told spec (.inl hspec)
  cases hs with
  | add_transport => exact { h with }
  | pull ho hsink =>
    exact { h with starting := by simp, pumping := fun _ _ _ => h.sink hsink, told := by simpa using hlive }
  | give ho =>
    exact { h with
      named := hcall _ rfl
      starting := by simp
      pumping := fun _ _ _ => h.pumping _ _ ho
      told := by simpa using hlive }
  | count => exact { h with starting := by simp, pumping := by simp, told := by simpa using hlive }
  | pull_raw hd hsink => exact { h with detecting := fun _ => h.detect_sink hsink }
  | give_raw hd => exact { h with named := hcall _ rfl, detecting := fun _ => h.detecting (by simp [hd]) }
  | end_raw hd => exact { h with detecting := by simp }

theorem run_inv (h : Run step (new camera spec) as t) : Inv camera t := by
  refine h.inv (Inv camera) inv_new ?_
  intro s a s' hinv hs
  rcases step_cases hs with ho | hf | ⟨-, rfl⟩
  · exact hinv.owned ho
  · exact hinv.fanned hf
  · exact hinv

/-! ## What the threads can rely on -/

/-- What holds after the actions, whatever their order. -/
structure Serves (camera : Nat) (as : List Act) (t : CameraPipeline) : Prop where
  /-- Each transport got, or still gets from the call under way, the frames pulled since it registered. -/
  frames : ∀ k, t.frames.got k ++ t.frames.pending k = Fanout.due k 0 (as.filterMap Act.frames)
  raws : ∀ k, t.raws.got k ++ t.raws.pending k = Fanout.due k 0 (as.filterMap Act.raws)
  named : ∀ c ∈ t.calls, c.2.camera = camera
  counted : t.frames_ + t.in_hand = UInt64.ofNat (Act.pulled as).length
  up : ∀ spec, t.live = some spec → ∃ gst p, Accepts gst spec ∧ t.built.pipeline_ = some p ∧ Wired gst spec p ∧
    t.built.sink_ = some venc_sink.node ∧ t.built.detect_ = if detects spec then some detect_sink.node else none
  down : t.live = none →
    t.built.pipeline_ = none ∧ t.built.sink_ = none ∧ t.built.detect_ = none ∧ t.built.source_ = false
  /-- No frame is handed on from a pipeline that was taken down. -/
  mapped : (t.frames.under_way ≠ none → t.live ≠ none) ∧
    (t.raws.under_way ≠ none → ∃ spec, t.live = some spec ∧ detects spec = true)
  told : ∀ spec, t.live = some spec → spec = t.spec_ ∨ t.relaunch_ = true ∨ 0 < t.storing

/-- For every order of the owner's, the detection thread's and the setters' steps:
every frame reaches every transport registered before it once and in order, on
both branches, while the pipeline it came from plays; a pipeline that plays is the
one its spec asks for; and that is the current spec unless a rebuild is asked for
or about to be. -/
theorem serves (h : Run step (new camera spec) as t) : Serves camera as t := by
  have hinv := run_inv h
  refine ⟨?_, ?_, hinv.named, CameraPipeline.counted h, ?_, ?_, ⟨?_, hinv.detecting⟩,
    fun spec hspec => hinv.told spec (.inl hspec)⟩
  · exact Fanout.got_pending (fanned_run CameraPipeline.frames Act.frames step_frames h)
  · exact Fanout.got_pending (fanned_run CameraPipeline.raws Act.raws step_raws h)
  · intro spec hspec
    obtain ⟨gst, b, hA, hb⟩ := hinv.up spec hspec
    obtain ⟨p, hp, hwired⟩ := wanted_wired gst spec camera b.stop
    exact ⟨gst, p, hA, by rw [hb]; exact hp, hwired, by rw [hb]; rfl, by rw [hb]; rfl⟩
  · intro hnone
    rw [← hinv.down hnone]
    exact ⟨rfl, rfl, rfl, rfl⟩
  · intro hway
    cases ho : t.owner with
    | pumping frame targets => exact hinv.pumping frame targets ho
    | idle | cleared | building => simp [CameraPipeline.frames, ho] at hway

/-- A keyframe of one byte. -/
def one_byte : Sample where
  buffer := some (some [7])
  pts := 33000000
  delta_unit := false
  width := some 320
  height := some 240

/-- A transport registers during the first frames of both branches, and the spec is
replaced during the second encoded one. -/
def late_transport : List Act := [
  .add_transport (some 1), .clear, .read_spec, .launch obliging,
  .pull one_byte, .pull_raw one_byte, .add_transport (some 2), .next_raw, .next, .next_raw, .next,
  .pull one_byte, .store { source := "videotestsrc name=camsrc", detect_width := 640, detect_height := 480 },
  .next, .set_relaunch, .next, .next, .pull_raw one_byte, .next_raw, .next_raw, .next_raw]

/-- With a detect branch of 320 by 240. -/
def small_spec : PipelineSpec :=
  { source := "videotestsrc name=camsrc", detect_width := 320, detect_height := 240 }

theorem late_transport_served :
    ∃ t, Run step (new 0 small_spec) late_transport t ∧ Serves 0 late_transport t ∧
      t.frames_ = 2 ∧ t.calls.map (·.1) = [1, 1, 1, 2, 1, 2] ∧ (t.raws.got 2).map (·.bgrx) = [[7]] ∧
      t.relaunch_ = true := by
  have hend : (exec step (new 0 small_spec) late_transport).map
      (fun t => (t.frames_, t.calls.map (·.1), (t.raws.got 2).map (·.bgrx), t.relaunch_)) =
        some (2, [1, 1, 1, 2, 1, 2], [[7]], true) := by decide +kernel
  obtain ⟨t, ht, hvalues⟩ := Option.map_eq_some_iff.1 hend
  simp only [Prod.mk.injEq] at hvalues
  exact ⟨t, run_of_exec ht, serves (run_of_exec ht), hvalues⟩

end CameraPipeline

end CameraStreamer.Media
