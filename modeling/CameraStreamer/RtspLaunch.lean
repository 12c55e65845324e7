import CameraStreamer.Lib.Find
import CameraStreamer.UsbStreams
/-!
# Launch strings of the RTSP mounts

`RtspServer::start` installs a launch string on the mount of each enabled camera
and, with face detection on, puts the detection branch into it where it finds the
encoder tail. `RtspServer::refresh_launch` installs one without that step.
-/

namespace CameraStreamer

open Runs Control

/-- The flags of `GstRTSPLowerTrans`. -/
structure LowerTrans where
  udp : Bool
  udp_mcast : Bool
  tcp : Bool
  deriving DecidableEq

/-- `GstRTSPMediaFactory` -/
structure MediaFactory where
  launch : String
  protocols : LowerTrans
  deriving DecidableEq

/-- What `enable_detection` was given. -/
structure Detection (D : Type) where
  detect_model_ : String
  detect_width_ : Int
  detect_height_ : Int
  detect_score_ : D
  detect_fps_ : Int

structure MountController (D : Type) where
  factory_ : Option MediaFactory := none
  detection : Option (Detection D) := none
  /-- The properties set on the source of the live media. -/
  source_ : Option StringMap := none

namespace MountController
variable {D : Type}

def install (launch : String) (transport : LowerTrans) (mount : MountController D) : MountController D :=
  { mount with factory_ := some ⟨launch, transport⟩ }

def refresh_launch (launch : String) (mount : MountController D) : MountController D :=
  { mount with factory_ := mount.factory_.map fun factory => { factory with launch := launch } }

def set_source_property (property value : String) (mount : MountController D) : Bool × MountController D :=
  match mount.source_ with
  | none => (false, mount)
  | some live => (true, { mount with source_ := some (live.assign property value) })

/-- The launch string that the next media is built from. -/
def installed (mount : MountController D) : Option String := mount.factory_.map (·.launch)

theorem set_source_property_installed (property value : String) (mount : MountController D) :
    (mount.set_source_property property value).2.installed = mount.installed := by
  unfold set_source_property
  split <;> rfl

/-- A mount without a factory is left without one. -/
theorem refresh_launch_installed (launch : String) (mount : MountController D) :
    (mount.refresh_launch launch).installed = mount.installed.map fun _ => launch := by
  unfold refresh_launch installed
  rcases mount.factory_ with - | factory <;> rfl

end MountController

namespace V4l2Source
variable {D V : Type} [Doubles D]

/-- Refusals are only logged. -/
def apply_initial_settings (v4l2 : V4l2Device V) (cam : CameraConfig D) (devices : V) : V :=
  let devices := if 0 < cam.exposure then (v4l2.set_control cam.device "exposure" cam.exposure devices).2 else devices
  let devices := if Doubles.lt (Doubles.ofInt 0) cam.gain then
      (v4l2.set_control cam.device "gain" (Doubles.toInt cam.gain) devices).2 else devices
  if 0 ≤ cam.trigger then (v4l2.set_trigger_mode cam.device cam.trigger devices).2 else devices

end V4l2Source

namespace RtspServer
variable {D V : Type} [Doubles D]

/-- What the server finds outside: the meta sink, the files, the network and the devices. -/
structure Env (V : Type) where
  has_meta_sink : Bool
  readable : String → Bool
  resolve_listen : String → String
  attach : String → Int → Bool
  v4l2 : V4l2Device V

variable (env : Env V)

omit [Doubles D] in
def detects (config : Config D) : Bool :=
  env.has_meta_sink && config.detect_model ≠ "" && env.readable config.detect_model

omit [Doubles D] in
def detect_height (config : Config D) (cam : CameraConfig D) : Int :=
  if 0 < cam.width then max 2 (clear_low_bit (to_int ((config.detect_width * cam.height).tdiv cam.width)))
  else config.detect_width

omit [Doubles D] in
/-- Both transports give the detector the same height, for a camera that has one. -/
theorem detect_height_eq (config : Config D) {cam : CameraConfig D} (h : 0 < cam.height) :
    detect_height config cam = detect_height_for cam config.detect_width := by
  unfold detect_height detect_height_for
  by_cases hw : 0 < cam.width
  · rw [if_pos hw, if_neg (by omega)]
    dsimp only
    split <;> omega
  · rw [if_neg hw, if_pos (by omega)]

/-- The launch string of a camera, and what `enable_detection` is given for it. -/
def start_launch (config : Config D) (cam : CameraConfig D) (source : Source) : String × Option (Detection D) :=
  let launch := source.build_launch cam
  if detects env config then
    let plain := (PipelineBuilder.nvenc_tail cam).toList
    match Find.rfind plain launch.toList with
    | some position =>
      let detect_h := detect_height config cam
      let branch := PipelineBuilder.nvenc_tail_with_detect cam config.detect_width detect_h
      (String.ofList (Find.replace position plain.length branch.toList launch.toList),
        some ⟨config.detect_model, config.detect_width, detect_h, config.detect_score, config.detect_fps⟩)
    | none => (launch, none)  -- the test source has no such tail
  else (launch, none)

/-- It is made of the server's settings, the encoder tail and what the source builds. -/
theorem start_launch_server (config : Config D) (cameras : Fin kNumCameras → CameraConfig D) (cam : CameraConfig D)
    (source : Source) :
    start_launch env { config with cameras := cameras } cam source = start_launch env config cam source := by
  unfold start_launch detects detect_height
  rfl

variable {env} in
theorem start_launch_congr {config : Config D} {cam cam' : CameraConfig D} {source : Source}
    (hlaunch : source.build_launch cam = source.build_launch cam')
    (htail : PipelineBuilder.nvenc_tail cam = PipelineBuilder.nvenc_tail cam')
    (hheight : detect_height config cam = detect_height config cam') :
    start_launch env config cam source = start_launch env config cam' source := by
  unfold start_launch PipelineBuilder.nvenc_tail_with_detect
  rw [hlaunch, htail, hheight]

def lower_trans (transport : String) : LowerTrans :=
  if transport = "udp" then ⟨true, true, false⟩
  else if transport = "all" then ⟨true, true, true⟩
  else ⟨false, false, true⟩

/-- `mounts_` -/
abbrev Mounts (D : Type) := Fin kNumCameras → MountController D

/-- The mount of one camera, and its count. -/
def start_camera (config : Config D) (s : Mounts D × V × Nat) (i : Fin kNumCameras) : Mounts D × V × Nat :=
  let (mounts, devices, enabled) := s
  let cam := config.cameras i
  if cam.enabled then
    match create_source cam.source with
    | none => s
    | some source =>
      let (launch, detection) := start_launch env config cam source
      -- `enable_detection` is called only where the branch went in
      let mount := match detection with
        | some detection => { mounts i with detection := some detection }
        | none => mounts i
      let devices := match source with
        | .v4l2 => V4l2Source.apply_initial_settings env.v4l2 cam devices
        | _ => devices
      (Function.update mounts i (mount.install launch (lower_trans config.transport)), devices, enabled + 1)
  else s

def start (config : Config D) (mounts : Mounts D) (devices : V) : Except String Unit × Mounts D × V :=
  let address := env.resolve_listen config.listen
  if address = "" then
    (.error ("listen=" ++ config.listen ++ ": no usable IPv4 address (interface down or no address yet?)"), mounts,
      devices)
  else
    let (mounts, devices, enabled) := (List.finRange kNumCameras).foldl (start_camera env config) (mounts, devices, 0)
    if enabled = 0 then (.error "no cameras enabled, nothing to serve", mounts, devices)
    else if env.attach address config.port then (.ok (), mounts, devices)
    else (.error ("failed to attach RTSP server on " ++ address ++ ":" ++ toString config.port), mounts, devices)

/-- The server as an `IStreamController`. -/
def controller : IStreamController D (Mounts D) where
  set_source_property cam property value mounts :=
    let (set, mount) := (mounts cam).set_source_property property value
    (set, Function.update mounts cam mount)
  refresh_launch config cam mounts :=
    match create_source (config.cameras cam).source with
    | none => mounts
    | some source =>
      -- built anew, without the step that `start` makes after it
      Function.update mounts cam ((mounts cam).refresh_launch (source.build_launch (config.cameras cam)))

/-! ## What `start` installs -/

/-- The launch string that `start` installs for a camera. -/
def fresh_launch (config : Config D) (c : Fin kNumCameras) : Option String :=
  if (config.cameras c).enabled then
    (create_source (config.cameras c).source).map fun source => (start_launch env config (config.cameras c) source).1
  else none

variable {env} {config : Config D}

theorem start_camera_installed (s : Mounts D × V × Nat) (i c : Fin kNumCameras) :
    ((start_camera env config s i).1 c).installed =
      if c = i then (fresh_launch env config c).or (s.1 c).installed else (s.1 c).installed := by
  unfold start_camera fresh_launch
  by_cases hc : c = i
  · subst hc
    rw [if_pos rfl]
    by_cases he : (config.cameras c).enabled = true
    · rcases hs : create_source (config.cameras c).source with - | source
      · simp [he, hs]
      · simp [he, hs, MountController.install, MountController.installed]
    · simp [he]
  · rw [if_neg hc]
    by_cases he : (config.cameras i).enabled = true
    · rcases hs : create_source (config.cameras i).source with - | source
      · simp [he, hs]
      · simp [he, hs, hc]
    · simp [he]

theorem start_cameras_installed (l : List (Fin kNumCameras)) (s : Mounts D × V × Nat) (c : Fin kNumCameras) :
    (c ∈ l → ((l.foldl (start_camera env config) s).1 c).installed =
      (fresh_launch env config c).or (s.1 c).installed) ∧
    (c ∉ l → ((l.foldl (start_camera env config) s).1 c).installed = (s.1 c).installed) := by
  induction l generalizing s with
  | nil => simp
  | cons i l ih =>
    obtain ⟨hin, hout⟩ := ih (start_camera env config s i)
    rw [start_camera_installed] at hin hout
    rw [List.foldl_cons, List.mem_cons, not_or]
    by_cases hi : c = i
    · subst hi
      rw [if_pos rfl] at hin hout
      refine ⟨fun _ => ?_, fun h => absurd rfl h.1⟩
      by_cases hl : c ∈ l
      · rw [hin hl]
        rcases fresh_launch env config c with - | launch <;> rfl
      · exact hout hl
    · rw [if_neg hi] at hin hout
      exact ⟨fun h => hin (h.resolve_left hi), fun h => hout h.2⟩

/-- On a server that starts afresh. -/
theorem start_installed (devices : V) (c : Fin kNumCameras) :
    ((start env config (fun _ => {}) devices).2.1 c).installed =
      if env.resolve_listen config.listen = "" then none else fresh_launch env config c := by
  have hc : (((List.finRange kNumCameras).foldl (start_camera env config)
      (fun _ => {}, devices, 0)).1 c).installed = _ := (start_cameras_installed _ _ c).1 (List.mem_finRange c)
  rw [show (({} : MountController D).installed) = none from rfl, Option.or_none] at hc
  unfold start
  dsimp only
  split
  · rfl
  · split
    · exact hc
    · split
      · exact hc
      · exact hc

/-! ## The encoder tail in a launch string -/

section Tail
variable (cam : CameraConfig D)

omit [Doubles D] in
/-- The encoder tail ends with a 6. -/
theorem nvenc_tail_last : ∃ q, (PipelineBuilder.nvenc_tail cam).toList = q ++ ['6'] := by
  have hlast : " name=pay0 pt=96".toList = " name=pay0 pt=9".toList ++ ['6'] := by decide
  unfold PipelineBuilder.nvenc_tail
  dsimp only
  rw [String.toList_append, hlast, ← List.append_assoc]
  exact ⟨_, rfl⟩

/-- The sources with an NVIDIA encoder end in the encoder tail. -/
theorem build_launch_tail {source : Source} (h : source ≠ .test) :
    source.build_launch cam =
      "( " ++ source.build_source_fragment cam ++ " ! " ++ PipelineBuilder.nvenc_tail cam ++ " )" := by
  rcases source with - | - | -
  · rfl
  · rfl
  · exact absurd rfl h

/-- With detection on, the branch stands where the encoder tail stood. -/
theorem start_launch_detects (hd : detects env config = true) {source : Source} (h : source ≠ .test) :
    (start_launch env config cam source).1 = "( " ++ source.build_source_fragment cam ++ " ! " ++
      PipelineBuilder.nvenc_tail_with_detect cam config.detect_width (detect_height config cam) ++ " )" := by
  obtain ⟨q, hq⟩ := nvenc_tail_last cam
  obtain ⟨pre, hpre⟩ : ∃ pre, pre = "( " ++ source.build_source_fragment cam ++ " ! " := ⟨_, rfl⟩
  have hend : '6' ∉ " )".toList := by decide
  have hl : (source.build_launch cam).toList =
      pre.toList ++ (PipelineBuilder.nvenc_tail cam).toList ++ " )".toList := by
    rw [build_launch_tail cam h, ← hpre, String.toList_append, String.toList_append]
  have hfind : Find.rfind (PipelineBuilder.nvenc_tail cam).toList (source.build_launch cam).toList =
      some pre.toList.length := by
    rw [hl, hq]
    exact Find.rfind_append hend
  unfold start_launch
  dsimp only
  rw [if_pos hd, hfind, ← hpre, ← String.toList_inj]
  dsimp only
  rw [String.toList_ofList, hl, Find.replace_append, String.toList_append, String.toList_append]

theorem start_launch_plain (hd : detects env config = false) (source : Source) :
    (start_launch env config cam source).1 = source.build_launch cam := by
  unfold start_launch
  dsimp only
  rw [if_neg (by rw [hd]; decide)]

theorem wrapped_ne {x : String} (hx : 0 < x.length) (pre p y z post : String) :
    pre ++ (x ++ p ++ y ++ z) ++ post ≠ pre ++ p ++ post := by
  intro h
  have hl := congrArg String.length h
  simp only [String.length_append] at hl
  omega

/-- The branch makes it another launch string. -/
theorem start_launch_ne (hd : detects env config = true) {source : Source} (h : source ≠ .test) :
    (start_launch env config cam source).1 ≠ source.build_launch cam := by
  have htee : 0 < "tee name=t  t. ! ".length := by decide
  rw [start_launch_detects cam hd h, build_launch_tail cam h]
  exact wrapped_ne htee _ _ _ _ _

end Tail

/-! ## No encoder tail in the test source's launch string -/

/-- No two `v` follow one another, and none is the last character. -/
def Apart (s : String) : Prop :=
  s.toList.IsChain (fun a b => ¬ (a = 'v' ∧ b = 'v')) ∧ s.toList.getLast? ≠ some 'v'

instance (s : String) : Decidable (Apart s) := inferInstanceAs (Decidable (_ ∧ _))

theorem Apart.append {s t : String} (hs : Apart s) (ht : Apart t) : Apart (s ++ t) := by
  unfold Apart
  rw [String.toList_append]
  refine ⟨List.isChain_append.2 ⟨hs.1, ht.1, ?_⟩, ?_⟩
  · rintro x hx y hy ⟨rfl, rfl⟩
    exact hs.2 hx
  · rw [List.getLast?_append]
    rcases hl : t.toList.getLast? with - | y
    · exact hs.2
    · intro hy
      exact ht.2 (hl.trans hy)

theorem apart_of_not_mem {s : String} (h : 'v' ∉ s.toList) : Apart s := by
  constructor
  · rw [List.isChain_iff_getElem]
    intro i hi hv
    exact h (hv.1 ▸ List.getElem_mem _)
  · exact fun hl => h (List.mem_of_getLast? hl)

theorem apart_toString (i : Int) : Apart (toString i) := by
  apply apart_of_not_mem
  intro h
  rcases int_chars i 'v' h with hminus | hdigit
  · cases hminus
  · exact absurd hdigit (by decide)

section Test
variable (cam : CameraConfig D)

omit [Doubles D] in
theorem caps_tail_apart : Apart (PipelineBuilder.caps_tail cam) := by
  have hwidth : Apart "width=" := by decide
  have hheight : Apart ",height=" := by decide
  have hframerate : Apart ",framerate=" := by decide
  have hend : Apart "/1" := by decide
  exact (((((hwidth.append (apart_toString _)).append hheight).append (apart_toString _)).append hframerate).append
    (apart_toString _)).append hend

omit [Doubles D] in
theorem test_launch_apart : Apart (TestSource.build_launch cam) := by
  have hopen : Apart "( " := by decide
  have hsource : Apart "videotestsrc name=camsrc is-live=true ! video/x-raw," := by decide +kernel
  have hconvert : Apart " ! videoconvert" := by decide
  have hqueue : Apart " ! queue ! " := by decide
  have hoptions : Apart " tune=zerolatency key-int-max=30 bitrate=" := by decide +kernel
  have hbang : Apart " ! " := by decide
  have hname : Apart " name=pay0 pt=96" := by decide
  have hclose : Apart " )" := by decide
  have henc (h265 : Bool) : Apart (if h265 then "x265enc" else "x264enc") := by
    rcases h265 with - | - <;> decide
  have hparse (h265 : Bool) : Apart (PipelineBuilder.parse_element h265) := by
    rcases h265 with - | - <;> decide
  have hpay (h265 : Bool) : Apart (PipelineBuilder.pay_element h265) := by
    rcases h265 with - | - <;> decide
  have hfragment : Apart (TestSource.build_source_fragment cam) :=
    (hsource.append (caps_tail_apart cam)).append hconvert
  unfold TestSource.build_launch
  exact ((((((((((hopen.append hfragment).append hqueue).append (henc _)).append hoptions).append
    (apart_toString _)).append hbang).append (hparse _)).append hqueue).append (hpay _)).append hname).append hclose

omit [Doubles D] in
theorem nvenc_tail_not_apart :
    ¬ (PipelineBuilder.nvenc_tail cam).toList.IsChain (fun a b => ¬ (a = 'v' ∧ b = 'v')) := by
  -- the two `v` of nvv4l2h264enc and nvv4l2h265enc
  have henc (h265 : Bool) : ¬ ("queue ! " ++ if h265 then "nvv4l2h265enc" else "nvv4l2h264enc").toList.IsChain
      (fun a b => ¬ (a = 'v' ∧ b = 'v')) := by
    rcases h265 with - | - <;> decide
  obtain ⟨rest, hrest⟩ : ∃ rest, PipelineBuilder.nvenc_tail cam =
      ("queue ! " ++ if cam.codec == "h265" then "nvv4l2h265enc" else "nvv4l2h264enc") ++ rest := by
    unfold PipelineBuilder.nvenc_tail
    dsimp only
    iterate 6 rw [String.append_assoc]
    exact ⟨_, rfl⟩
  rw [hrest, String.toList_append]
  exact fun h => henc _ h.left_of_append

theorem start_launch_test : (start_launch env config cam .test).1 = Source.test.build_launch cam := by
  have hnone : Find.rfind (PipelineBuilder.nvenc_tail cam).toList (Source.test.build_launch cam).toList = none := by
    rw [Find.rfind_eq_none]
    rintro ⟨pre, post, he⟩
    have hchain := (test_launch_apart cam).1
    rw [show TestSource.build_launch cam = Source.test.build_launch cam from rfl, ← he] at hchain
    exact nvenc_tail_not_apart cam hchain.left_of_append.right_of_append
  unfold start_launch
  dsimp only
  rw [hnone]
  split <;> rfl

/-- The plain launch string is what `start` installs where it adds no branch. -/
theorem start_launch_eq_iff {source : Source} :
    (start_launch env config cam source).1 = source.build_launch cam ↔ detects env config = false ∨ source = .test := by
  constructor
  · intro h
    by_contra hn
    rw [not_or, Bool.not_eq_false] at hn
    exact start_launch_ne cam hn.1 hn.2 h
  · rintro (hd | rfl)
    · exact start_launch_plain cam hd source
    · exact start_launch_test cam

end Test

/-! ## After requests -/

abbrev State (D V : Type) := ControlState D (Mounts D × Option SecureUsbServer) V

variable (env) in
/-- In network mode there is no USB transport. -/
def started (config : Config D) (devices : V) : State D V :=
  let (_, mounts, devices) := start env config (fun _ => {}) devices
  ⟨config, (mounts, none), devices⟩

variable (env) in
def step (s : State D V) (r : Request D) : Option (State D V) :=
  some (r.handle (control_context env.readable (some controller) env.v4l2) s).2

/-- The launch string installed on the camera's mount. -/
def installed (s : State D V) (c : Fin kNumCameras) : Option String := (s.stream.1 c).installed

section Effects
variable {s s' : State D V} {refreshed : Option (Fin kNumCameras)} {switched : Option (Fin kNumCameras × Bool)}
  {c : Fin kNumCameras} {source : Source}

/-- A refresh replaces the launch string of a mount that has one; before it the
live media may get a property. -/
theorem refresh_installed {stream : Mounts D × Option SecureUsbServer} {camera : Fin kNumCameras}
    (hs : create_source (config.cameras c).source = some source) (hnone : s.stream.2 = none)
    (hstream : stream = s.stream ∨ ∃ property value, stream =
      ((control_context env.readable (some controller) env.v4l2).stream.set_source_property camera property value
        s.stream).2) :
    ∃ mounts, (control_context env.readable (some controller) env.v4l2).stream.refresh_launch config camera stream =
      (mounts, none) ∧ (mounts c).installed =
        if camera = c then (installed s c).map fun _ => source.build_launch (config.cameras c) else installed s c := by
  have hs' : s.stream = (s.stream.1, none) := Prod.ext rfl hnone
  -- the property leaves the factories alone
  obtain ⟨mounts, rfl, hm⟩ : ∃ mounts, stream = (mounts, none) ∧ (mounts c).installed = installed s c := by
    rcases hstream with rfl | ⟨property, value, rfl⟩
    · exact ⟨s.stream.1, hs', rfl⟩
    · rw [hs']
      refine ⟨_, rfl, ?_⟩
      by_cases hc : c = camera
      · subst hc
        rw [Function.update_self]
        exact MountController.set_source_property_installed _ _ _
      · rw [Function.update_of_ne hc]
        rfl
  refine ⟨_, rfl, ?_⟩
  by_cases hc : camera = c
  · subst hc
    rw [if_pos rfl, ← hm]
    simp only [controller, hs]
    rw [Function.update_self]
    exact MountController.refresh_launch_installed _ _
  · rw [if_neg hc, ← hm]
    simp only [controller]
    rcases create_source (config.cameras camera).source with - | other
    · rfl
    · exact congrArg MountController.installed (Function.update_of_ne (Ne.symm hc) _ _)

theorem effect_installed (hs : create_source (s.cam c).source = some source) (hnone : s.stream.2 = none)
    (h : Effect (control_context env.readable (some controller) env.v4l2) s refreshed none s') :
    s'.stream.2 = none ∧ installed s' c =
      if refreshed = some c then (installed s c).map fun _ => source.build_launch (s'.cam c) else installed s c := by
  rw [← h.source c] at hs
  cases h with
  | none devices => exact ⟨hnone, rfl⟩
  | device camera exposure gain devices hsrc => exact ⟨hnone, rfl⟩
  | refresh camera exposure gain isp zoom zoom_x zoom_y config stream hconfig hstream =>
    obtain ⟨mounts, he, hm⟩ := refresh_installed hs hnone hstream
    refine ⟨congrArg Prod.snd he, ?_⟩
    simp only [Option.some.injEq]
    exact (congrArg (fun stream => (stream.1 c).installed) he).trans hm

/-- A request that does not refresh a camera leaves its launch string what it was. -/
theorem effect_launch (hs : create_source (s.cam c).source = some source)
    (h : Effect (control_context env.readable (some controller) env.v4l2) s refreshed none s')
    (hc : refreshed ≠ some c) :
    start_launch env s'.config (s'.cam c) source = start_launch env s.config (s.cam c) source ∧
      source.build_launch (s'.cam c) = source.build_launch (s.cam c) := by
  obtain hcam | ⟨exposure, gain, hsrc, hcam⟩ : s'.cam c = s.cam c ∨
      ∃ exposure gain, (s.cam c).source = "v4l2" ∧ s'.cam c = { s.cam c with exposure := exposure, gain := gain } := by
    cases h with
    | none devices => exact .inl rfl
    | device camera exposure gain devices hsrc =>
      by_cases he : c = camera
      · subst he
        exact .inr ⟨exposure, gain, hsrc, Config.set_camera_self _ _ _⟩
      · exact .inl (Config.set_camera_other _ _ he)
    | refresh camera exposure gain isp zoom zoom_x zoom_y config stream hconfig hstream =>
      have he : c ≠ camera := fun he => hc (by rw [he])
      rw [ControlState.cam, hconfig]
      exact .inl (Config.set_camera_other _ _ he)
  · rw [h.server, start_launch_server, hcam]
    exact ⟨rfl, rfl⟩
  · -- the V4L2 driver has these two settings, the launch string has not
    rw [hsrc] at hs
    cases hs
    have hlaunch : Source.v4l2.build_launch (s'.cam c) = Source.v4l2.build_launch (s.cam c) := by
      rw [hcam]
      rfl
    rw [h.server, start_launch_server]
    refine ⟨start_launch_congr hlaunch ?_ ?_, hlaunch⟩
    · rw [hcam]
      rfl
    · rw [hcam]
      rfl

end Effects

/-- Where a mounted camera stands; `refreshed` says whether a request has rebuilt its launch string. -/
structure Mounted (env : Env V) (config : Config D) (c : Fin kNumCameras) (source : Source) (refreshed : Bool)
    (s : State D V) : Prop where
  network : s.stream.2 = none
  server : s.config = { config with cameras := s.config.cameras }
  sources : ∀ c, (s.cam c).source = (config.cameras c).source
  known : create_source (config.cameras c).source = some source
  enabled : (s.cam c).enabled = true
  launch : installed s c = some (if refreshed then source.build_launch (s.cam c)
    else (start_launch env s.config (s.cam c) source).1)

variable {s s' : State D V} {c : Fin kNumCameras} {source : Source} {refreshed : Bool}

theorem installed_started (devices : V) (c : Fin kNumCameras) : installed (started env config devices) c =
    if env.resolve_listen config.listen = "" then none else fresh_launch env config c := start_installed devices c

theorem mounted_started {devices : V} (h : installed (started env config devices) c ≠ none) :
    env.resolve_listen config.listen ≠ "" ∧
      ∃ source, Mounted env config c source false (started env config devices) := by
  have hi : installed (started env config devices) c = _ := installed_started devices c
  by_cases hlisten : env.resolve_listen config.listen = ""
  · rw [hi, if_pos hlisten] at h
    exact absurd rfl h
  refine ⟨hlisten, ?_⟩
  rw [hi, if_neg hlisten, fresh_launch] at h
  by_cases he : (config.cameras c).enabled = true
  swap
  · rw [if_neg he] at h
    exact absurd rfl h
  rcases hs : create_source (config.cameras c).source with - | source
  · rw [hs] at h
    simp at h
  · refine ⟨source, rfl, rfl, fun _ => rfl, hs, he, ?_⟩
    rw [hi, if_neg hlisten, fresh_launch, if_pos he, hs]
    rfl

theorem Mounted.effect {o : Option (Fin kNumCameras)} (h : Mounted env config c source refreshed s)
    (he : Effect (control_context env.readable (some controller) env.v4l2) s o none s') :
    Mounted env config c source (refreshed || o = some c) s' := by
  have hs : create_source (s.cam c).source = some source := (congrArg create_source (h.sources c)).trans h.known
  obtain ⟨hnetwork, hinstalled⟩ := effect_installed hs h.network he
  refine ⟨hnetwork, ?_, fun c' => (he.source c').trans (h.sources c'), h.known, (he.enabled c).trans h.enabled, ?_⟩
  · rw [he.server, h.server]
  · rw [hinstalled, h.launch]
    by_cases hc : o = some c
    · simp [hc]
    · -- both candidates are what they were
      obtain ⟨hfresh, hplain⟩ := effect_launch hs he hc
      rw [if_neg hc, hfresh, hplain]
      simp [hc]

theorem Mounted.handle (h : Mounted env config c source refreshed s) {r : Request D} (hr : r.switches = none) :
    Mounted env config c source (refreshed || r.refreshes config = some c)
      (r.handle (control_context env.readable (some controller) env.v4l2) s).2 := by
  have he := handle_effect (control_context env.readable (some controller) env.v4l2) r s
  rw [hr, Request.refreshes_congr h.sources] at he
  exact h.effect he

/-- The run of requests that switch no camera. -/
theorem mounted_run {devices : V} (hm : Mounted env config c source false (started env config devices))
    {requests : List (Request D)} (hstream : ∀ r ∈ requests, r.setting ≠ .stream)
    (hr : Run (step env) (started env config devices) requests s) :
    Mounted env config c source (requests.any fun r => r.refreshes config = some c) s := by
  induction hr with
  | nil => exact hm
  | @snoc requests s r s' hr ha ih =>
    cases ha
    have hlast := hstream r (by simp)
    have hswitches : r.switches = none := by
      unfold Request.switches
      split
      · rename_i h
        exact absurd h hlast
      · rfl
    rw [List.any_append, List.any_cons, List.any_nil, Bool.or_false]
    exact (ih fun r hr => hstream r (by simp [hr])).handle hswitches

theorem Mounted.installed_eq_iff (h : Mounted env config c source refreshed s)
    (hlisten : env.resolve_listen config.listen ≠ "") :
    installed s c = ((start env s.config (fun _ => {}) s.devices).2.1 c).installed ↔
      refreshed = false ∨ detects env config = false ∨ source = .test := by
  have hs : create_source (s.cam c).source = some source := (congrArg create_source (h.sources c)).trans h.known
  have hlisten' : env.resolve_listen s.config.listen ≠ "" := by
    rw [h.server]
    exact hlisten
  have hfresh : fresh_launch env s.config c = some (start_launch env s.config (s.cam c) source).1 := by
    rw [fresh_launch]
    exact (if_pos h.enabled).trans (congrArg (Option.map _) hs)
  have hdetects : detects env s.config = detects env config := by
    rw [h.server]
    rfl
  rw [start_installed, if_neg hlisten', hfresh, h.launch, Option.some.injEq]
  rcases refreshed with - | -
  · simp
  · rw [if_pos rfl, eq_comm, start_launch_eq_iff, hdetects]
    simp

/-- After any run of settings, a mounted camera's launch string is what `start`
would install now just when no request rebuilt it, or there was no branch to lose. -/
theorem refreshed_launch_iff (env : Env V) (config : Config D) (devices : V) (requests : List (Request D))
    (c : Fin kNumCameras) (s : State D V) (hmounted : installed (started env config devices) c ≠ none)
    (hstream : ∀ r ∈ requests, r.setting ≠ .stream) (hr : Run (step env) (started env config devices) requests s) :
    installed s c = ((start env s.config (fun _ => {}) s.devices).2.1 c).installed ↔
      (∀ r ∈ requests, r.refreshes config ≠ some c) ∨ detects env config = false ∨
        (config.cameras c).source = "test" := by
  obtain ⟨hlisten, source, hm⟩ := mounted_started hmounted
  have hany : (requests.any fun r => r.refreshes config = some c) = false ↔
      ∀ r ∈ requests, r.refreshes config ≠ some c := by
    simp
  have htest : source = .test ↔ (config.cameras c).source = "test" := by
    rw [create_source_eq_some.1 hm.known]
    rcases source with - | - | - <;> decide
  rw [(mounted_run hm hstream hr).installed_eq_iff hlisten, hany, htest]

/-- A network where everything is there: a meta sink, the model and an address. -/
def equipped : Env Unit where
  has_meta_sink := true
  readable _ := true
  resolve_listen _ := "0.0.0.0"
  attach _ _ := true
  v4l2 := UsbStreams.no_device

theorem equipped_mounted : installed (started equipped (FileConfigLoader.builtin : Config Rat) ()) 0 ≠ none := by
  have he : ((FileConfigLoader.builtin : Config Rat).cameras 0).enabled = true := rfl
  rw [installed_started, if_neg (by decide), fresh_launch, if_pos he]
  exact Option.some_ne_none _

/-- The other camera is zoomed. -/
def zoom_other : Request Rat := ⟨.zoom, some [("camera", .int 1), ("factor", .int 2)]⟩

theorem refreshed_launch_iff_zoom : ∃ s,
    Run (step equipped) (started equipped (FileConfigLoader.builtin : Config Rat) ()) [zoom_other] s ∧
      (∀ r ∈ [zoom_other], r.refreshes (FileConfigLoader.builtin : Config Rat) ≠ some 0) ∧
        installed s 0 = ((start equipped s.config (fun _ => {}) s.devices).2.1 0).installed := by
  have hother : ∀ r ∈ [zoom_other], r.refreshes (FileConfigLoader.builtin : Config Rat) ≠ some 0 := by decide
  refine ⟨_, .snoc .nil rfl, hother, ?_⟩
  exact (refreshed_launch_iff equipped FileConfigLoader.builtin () [zoom_other] 0 _ equipped_mounted (by decide)
    (.snoc .nil rfl)).2 (.inl hother)

def zoom_first : Request Rat := ⟨.zoom, some [("camera", .int 0), ("factor", .int 2)]⟩

/-- Zooming takes the detection branch out of the launch string. -/
theorem zoom_drops_detection :
    ¬ ∀ (env : Env Unit) (config : Config Rat) devices requests c s,
      installed (started env config devices) c ≠ none → (∀ r ∈ requests, r.setting ≠ .stream) →
        Run (step env) (started env config devices) requests s →
          installed s c = ((start env s.config (fun _ => {}) s.devices).2.1 c).installed := by
  intro hall
  let config : Config Rat := FileConfigLoader.builtin
  obtain ⟨hlisten, source, hm⟩ := mounted_started equipped_mounted
  have hr : Run (step equipped) (started equipped config ()) [zoom_first] _ := .snoc .nil rfl
  have hsame := hall equipped config () [zoom_first] 0 _ equipped_mounted (by decide) hr
  have hsource : source = .argus := Option.some.inj (hm.known.symm.trans rfl)
  rw [(mounted_run hm (by decide) hr).installed_eq_iff hlisten, hsource] at hsame
  exact absurd hsame (by decide)

end RtspServer

end CameraStreamer
