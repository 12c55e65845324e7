import CameraStreamer.SettingHandlers
import CameraStreamer.VideoLoop
/-!
# Streams over USB

With `transports=usb` three places say whether a camera streams: the
configuration, the flag of the transport and whether its launch description is
empty. They start out in agreement. A set-stream writes the first two, and a
setting that goes into the launch description writes the third, whatever the
other two say.
-/

namespace CameraStreamer

open Runs Media Control Secure.VideoLoops

/-- `SecureUsbServer`, as far as the settings reach it. -/
structure SecureUsbServer where
  video_launch_ : List PipelineSpec
  stream_enabled_ : Fin kNumCameras → Bool := fun _ => true
  relaunch_ : Fin kNumCameras → Bool := fun _ => false
  /-- The properties set on the source of the pipeline that is up. -/
  live_source_ : Fin kNumCameras → Option StringMap := fun _ => none

namespace SecureUsbServer

def set_source_property (camera : Fin kNumCameras) (property value : String) (server : SecureUsbServer) :
    Bool × SecureUsbServer :=
  match server.live_source_ camera with
  | none => (false, server)
  | some live =>
    (true, { server with
      live_source_ := Function.update server.live_source_ camera (some (live.assign property value)) })

def set_stream_enabled (camera : Fin kNumCameras) (enabled : Bool) (server : SecureUsbServer) : SecureUsbServer :=
  { server with stream_enabled_ := Function.update server.stream_enabled_ camera enabled }

def refresh_launch (camera : Fin kNumCameras) (launch : PipelineSpec) (server : SecureUsbServer) : SecureUsbServer :=
  -- neither the flag nor the configuration is looked at
  if launch.source = "" then server
  else { server with
    video_launch_ := server.video_launch_.set camera launch
    relaunch_ := Function.update server.relaunch_ camera true }

/-- The camera has a description to build a pipeline from. -/
def described (server : SecureUsbServer) (camera : Fin kNumCameras) : Bool :=
  (video_spec server.video_launch_ camera).source != ""

/-- The video loop of the camera would open it. -/
def opens (server : SecureUsbServer) (camera : Fin kNumCameras) : Bool :=
  server.stream_enabled_ camera && server.described camera

variable {server : SecureUsbServer} {camera c : Fin kNumCameras}

/-- A property reaches the live source and nothing else. -/
theorem set_source_property_live (camera : Fin kNumCameras) (property value : String) :
    ∃ live, (server.set_source_property camera property value).2 = { server with live_source_ := live } := by
  unfold set_source_property
  split
  · exact ⟨server.live_source_, rfl⟩
  · exact ⟨_, rfl⟩

/-- A description that is stored is one to build a pipeline from. -/
theorem refresh_launch_opens {launch : PipelineSpec} (hlaunch : launch.source ≠ "")
    (hlen : server.video_launch_.length = kNumCameras) :
    (server.refresh_launch camera launch).opens c =
      if c = camera then server.stream_enabled_ c else server.opens c := by
  rw [refresh_launch, if_neg hlaunch]
  split
  · rename_i hc
    subst hc
    have hlt : c.val < server.video_launch_.length := by rw [hlen]; exact c.isLt
    simp [opens, described, video_spec, List.getElem?_set_self hlt, hlaunch]
  · rename_i hc
    have hne : camera.val ≠ c.val := fun h => hc (Fin.ext h.symm)
    simp only [opens, described, video_spec, List.getElem?_set_ne hne]

theorem refresh_launch_length (launch : PipelineSpec) :
    (server.refresh_launch camera launch).video_launch_.length = server.video_launch_.length := by
  unfold refresh_launch
  split
  · rfl
  · exact List.length_set

theorem set_stream_enabled_opens (enabled : Bool) :
    (server.set_stream_enabled camera enabled).opens c =
      if c = camera then enabled && server.described c else server.opens c := by
  by_cases hc : c = camera
  · subst hc
    simp [opens, set_stream_enabled, described]
  · simp [opens, set_stream_enabled, described, hc]

/-- What `opens` says of the video loop: before its test of the flag, it gets to a
pipeline just when the server opens the camera. -/
theorem opens_iff_starts {loop : VideoLoop} (hplace : loop.place = .test_enabled)
    (hlaunch : loop.video_launch_ = server.video_launch_) (henabled : loop.enabled = server.stream_enabled_ c) :
    server.opens c = true ↔
      (exec (VideoLoop.step c) loop [.go, .describe, .clear, .start true]).isSome = true := by
  simp only [opens, described, ← hlaunch, ← henabled, Bool.and_eq_true]
  by_cases he : loop.enabled = true
  · by_cases hs : (video_spec loop.video_launch_ c).source = ""
    · simp [exec, VideoLoop.step, VideoLoop.go, hplace, he, hs]
    · simp [exec, VideoLoop.step, VideoLoop.go, hplace, he, hs]
  · simp [exec, VideoLoop.step, VideoLoop.go, hplace, he]

end SecureUsbServer

section Controller
variable {D R : Type} [Doubles D] (readable : String → Bool) (rtsp : Option (IStreamController D R))

/-- `UsbAwareStreamController`: over the RTSP server, if there is one, and the USB
transport, if it is up. -/
def UsbAwareStreamController : IStreamController D (R × Option SecureUsbServer) where
  set_source_property cam property value := fun (r, usb) =>
    let (on_rtsp, r) := match rtsp with
      | some rtsp_ => rtsp_.set_source_property cam property value r
      | none => (false, r)
    match usb with
    | some server =>
      let (on_usb, server) := server.set_source_property cam property value
      (on_rtsp || on_usb, r, some server)
    | none => (on_rtsp, r, none)
  refresh_launch config cam := fun (r, usb) =>
    let r := match rtsp with
      | some rtsp_ => rtsp_.refresh_launch config cam r
      | none => r
    (r, usb.map fun server =>
      let launch := usb_pipeline_spec readable (config.cameras cam) config
      if launch.source ≠ "" then server.refresh_launch cam launch else server)

/-- The context that `Application::start_servers` gives the handlers. -/
def control_context {V : Type} (v4l2 : V4l2Device V) : ControlContext D (R × Option SecureUsbServer) V where
  stream := UsbAwareStreamController readable rtsp
  v4l2 := v4l2
  notify_stream := some fun camera enabled s => (s.1, s.2.map (·.set_stream_enabled camera enabled))

end Controller

namespace UsbStreams
variable {D V : Type} [Doubles D] (readable : String → Bool) (v4l2 : V4l2Device V)

/-- The branch of `Application::start_servers` for USB. -/
def start_servers (config : Config D) : SecureUsbServer where
  video_launch_ := List.ofFn fun i =>
    if (config.cameras i).enabled then usb_pipeline_spec readable (config.cameras i) config else {}

abbrev State (D V : Type) := ControlState D (Unit × Option SecureUsbServer) V

def started (file : Option (KeyFile D)) (devices : V) : State D V :=
  let config := FileConfigLoader.load file
  ⟨config, ((), some (start_servers readable config)), devices⟩

def step (s : State D V) (r : Request D) : Option (State D V) :=
  some (r.handle (control_context readable none v4l2) s).2

/-- The transport would open the camera. -/
def opens (s : State D V) (c : Fin kNumCameras) : Bool := s.stream.2.any (·.opens c)

/-- The cameras that would be opened are those enabled. -/
def Agrees (s : State D V) : Prop := ∀ c, opens s c = (s.cam c).enabled

/-- A setting is only changed on a camera that is enabled or switched off in the
transport, and a camera is only switched on that has a description. -/
def Good (s : State D V) (r : Request D) : Prop :=
  (∀ c, r.refreshes s.config = some c → s.stream.2.any (·.stream_enabled_ c) = true → (s.cam c).enabled = true) ∧
    ∀ c, r.switches = some (c, true) → s.stream.2.any (·.described c) = true

/-- The transport is up with a description for each camera, and every camera has a source. -/
structure Inv (s : State D V) : Prop where
  up : ∃ server, s.stream.2 = some server ∧ server.video_launch_.length = kNumCameras
  sources : ∀ c, ∃ source, create_source (s.cam c).source = some source

variable {readable} {v4l2} {s s' : State D V}

/-- A loaded camera has a source. -/
theorem loaded_source (file : Option (KeyFile D)) (c : Fin kNumCameras) :
    ∃ source, create_source ((FileConfigLoader.load file).cameras c).source = some source := by
  have h := FileConfigLoader.load_source file c
  simp only [List.mem_cons, List.not_mem_nil, or_false] at h
  rcases h with h | h | h
  · exact ⟨.argus, create_source_eq_some.2 h⟩
  · exact ⟨.v4l2, create_source_eq_some.2 h⟩
  · exact ⟨.test, create_source_eq_some.2 h⟩

theorem inv_started (file : Option (KeyFile D)) (devices : V) : Inv (started readable file devices) where
  up := ⟨_, rfl, by simp [start_servers]⟩
  sources := loaded_source file

theorem start_servers_launch (config : Config D) (c : Fin kNumCameras) :
    (start_servers readable config).video_launch_[c.val]? =
      some (if (config.cameras c).enabled then usb_pipeline_spec readable (config.cameras c) config else {}) := by
  rw [start_servers, List.getElem?_ofFn, dif_pos c.isLt]

theorem agrees_started (file : Option (KeyFile D)) (devices : V) : Agrees (started readable file devices) := by
  intro c
  obtain ⟨source, hs⟩ : ∃ source, create_source ((FileConfigLoader.load file).cameras c).source = some source :=
    loaded_source file c
  have hne := usb_pipeline_spec_source readable hs (FileConfigLoader.load file)
  simp only [opens, started, Option.any_some, SecureUsbServer.opens, SecureUsbServer.described, video_spec,
    start_servers_launch, ControlState.cam] at hne ⊢
  by_cases he : ((FileConfigLoader.load file).cameras c).enabled = true
  · simp [start_servers, he, hne]
  · simp [he]

/-- A refresh of a camera with a source stores a description; before it the live
pipeline may get a property. -/
theorem refresh_stream {c : Fin kNumCameras} {server : SecureUsbServer} {stream : Unit × Option SecureUsbServer}
    {config : Config D} {source : Source} (hsrc : create_source (config.cameras c).source = some source)
    (hs : s.stream.2 = some server)
    (h : stream = s.stream ∨ ∃ property value,
      stream = ((control_context (D := D) readable none v4l2).stream.set_source_property c property value s.stream).2) :
    ∃ live launch, launch.source ≠ "" ∧ (control_context readable none v4l2).stream.refresh_launch config c stream =
      ((), some (SecureUsbServer.refresh_launch c launch { server with live_source_ := live })) := by
  have hne := usb_pipeline_spec_source readable hsrc config
  have hstream : s.stream = ((), some server) := Prod.ext rfl hs
  obtain ⟨live, hlive⟩ : ∃ live, stream = ((), some { server with live_source_ := live }) := by
    rcases h with rfl | ⟨property, value, rfl⟩
    · exact ⟨server.live_source_, hstream⟩
    · obtain ⟨live, hl⟩ := server.set_source_property_live c property value
      refine ⟨live, ?_⟩
      rw [hstream, ← hl]
      rfl
  refine ⟨live, _, hne, ?_⟩
  simp only [hlive, control_context, UsbAwareStreamController, Option.map_some, if_pos hne]

section Effects
variable {refreshed : Option (Fin kNumCameras)} {switched : Option (Fin kNumCameras × Bool)}

theorem effect_inv (hI : Inv s) (h : Effect (control_context readable none v4l2) s refreshed switched s') : Inv s' where
  sources c := by
    rw [h.source]
    exact hI.sources c
  up := by
    obtain ⟨server, hs, hlen⟩ := hI.up
    cases h with
    | none devices => exact ⟨server, hs, hlen⟩
    | device c exposure gain devices hc => exact ⟨server, hs, hlen⟩
    | refresh c exposure gain isp zoom zoom_x zoom_y config stream hconfig hstream =>
      obtain ⟨source, hsrc⟩ := hI.sources c
      have hsrc' : create_source (config.cameras c).source = some source := by
        rw [hconfig, Config.set_camera_self]
        exact hsrc
      obtain ⟨live, launch, -, he⟩ := refresh_stream hsrc' hs hstream
      refine ⟨_, congrArg Prod.snd he, ?_⟩
      rw [SecureUsbServer.refresh_launch_length]
      exact hlen
    | switch c enabled =>
      refine ⟨server.set_stream_enabled c enabled, ?_, hlen⟩
      simp only [control_context, hs, Option.map_some]

omit [Doubles D] in
/-- Where a request touches the stream of one camera, that camera decides. -/
theorem agrees_iff {server' : SecureUsbServer} {c : Fin kNumCameras} {x : Bool} (hs' : s'.stream.2 = some server')
    (ho : ∀ c', server'.opens c' = if c' = c then x else opens s c') (hA : Agrees s)
    (he : ∀ c', c' ≠ c → (s'.cam c').enabled = (s.cam c').enabled) : Agrees s' ↔ x = (s'.cam c).enabled := by
  have hopens : ∀ c', opens s' c' = if c' = c then x else opens s c' := fun c' => by
    rw [opens, hs', Option.any_some, ho]
  constructor
  · intro h
    rw [← h c, hopens, if_pos rfl]
  · intro h c'
    rw [hopens]
    split
    · rename_i hc
      rw [hc, h]
    · rename_i hc
      rw [hA c', he c' hc]

/-- After a request the streams agree with the configuration just when it was a good one. -/
theorem effect_agrees (hI : Inv s) (hA : Agrees s)
    (h : Effect (control_context readable none v4l2) s refreshed switched s') :
    Agrees s' ↔
      (∀ c, refreshed = some c → s.stream.2.any (·.stream_enabled_ c) = true → (s.cam c).enabled = true) ∧
        ∀ c, switched = some (c, true) → s.stream.2.any (·.described c) = true := by
  obtain ⟨server, hs, hlen⟩ := hI.up
  have hopens : ∀ c, server.opens c = (s.cam c).enabled := fun c => by
    simpa only [opens, hs, Option.any_some] using hA c
  cases h with
  | none devices => exact iff_of_true hA (by simp)
  | device c exposure gain devices hc =>
    -- the driver's settings touch no stream
    refine iff_of_true (fun c' => (hA c').trans ?_) (by simp)
    exact (Config.set_camera_field (·.enabled) (by rfl) c').symm
  | refresh c exposure gain isp zoom zoom_x zoom_y config stream hconfig hstream =>
    obtain ⟨source, hsrc⟩ := hI.sources c
    have hsrc' : create_source (config.cameras c).source = some source := by
      rw [hconfig, Config.set_camera_self]
      exact hsrc
    have hen : ∀ c', (config.cameras c').enabled = (s.cam c').enabled := fun c' => by
      rw [hconfig]
      exact Config.set_camera_field (·.enabled) (by rfl) c'
    obtain ⟨live, launch, hne, he⟩ := refresh_stream hsrc' hs hstream
    have ho : ∀ c', (SecureUsbServer.refresh_launch c launch { server with live_source_ := live }).opens c' =
        if c' = c then server.stream_enabled_ c else opens s c' := by
      intro c'
      refine (SecureUsbServer.refresh_launch_opens hne (by exact hlen)).trans ?_
      by_cases hc : c' = c
      · rw [if_pos hc, if_pos hc, hc]
      · rw [if_neg hc, if_neg hc, opens, hs]
        rfl
    -- before the request the camera, if enabled, was open
    have hon : (s.cam c).enabled = true → server.stream_enabled_ c = true := fun h =>
      (Bool.and_eq_true_iff.1 ((hopens c).trans h)).1
    refine (agrees_iff ?_ ho hA ?_).trans ?_
    · exact congrArg Prod.snd he
    · exact fun c' _ => hen c'
    · simp only [hs, Option.any_some, Option.some.injEq, forall_eq', reduceCtorEq, false_implies, implies_true,
        and_true]
      rw [ControlState.cam, hen c, Bool.eq_iff_iff]
      exact ⟨Iff.mp, fun h => ⟨h, hon⟩⟩
  | switch c enabled =>
    -- the flag follows the request, the description stays
    have ho : ∀ c', (server.set_stream_enabled c enabled).opens c' =
        if c' = c then enabled && server.described c else opens s c' := by
      intro c'
      refine SecureUsbServer.set_stream_enabled_opens enabled |>.trans ?_
      by_cases hc : c' = c
      · rw [if_pos hc, if_pos hc, hc]
      · rw [if_neg hc, if_neg hc, opens, hs]
        rfl
    refine (agrees_iff ?_ ho hA ?_).trans ?_
    · simp only [control_context, hs, Option.map_some]
    · intro c' hc
      rw [ControlState.cam, Config.set_camera_other _ _ hc, ControlState.cam]
    · rw [hs]
      rcases enabled with - | -
      · simp [ControlState.cam]
      · simp [ControlState.cam]

end Effects

variable (readable) (v4l2) in
/-- In every run from a loaded configuration, the transport opens the enabled
cameras and no other in each state just when every request is a good one. -/
theorem streams_agree_iff (file : Option (KeyFile D)) (devices : V) (requests : List (Request D)) :
    (∀ pre post s, requests = pre ++ post → Run (step readable v4l2) (started readable file devices) pre s →
      Agrees s) ↔ Meets (step readable v4l2) Good (started readable file devices) requests := by
  refine always_iff_meets Inv Agrees (fun s r => ⟨_, rfl⟩) (inv_started file devices) (agrees_started file devices)
    ?_ ?_ requests
  · intro s r s' hI hs
    cases hs
    exact effect_inv hI (handle_effect _ r s)
  · intro s r s' hI hA hs
    cases hs
    exact effect_agrees hI hA (handle_effect _ r s)

/-- A file that disables the first camera. -/
def first_disabled : KeyFile Rat where
  integer _ _ := none
  boolean group key := if group = "cam0" ∧ key = "enabled" then some false else none
  double _ _ := none
  string _ _ := none
  keys _ := []

/-- No device answers. -/
def no_device : V4l2Device Unit where
  get_control device _ v := (.error (device ++ ": No such file or directory"), v)
  set_control device _ _ v := (.error (device ++ ": No such file or directory"), v)
  set_trigger_mode device _ v := (.error (device ++ ": No such file or directory"), v)

/-- Zooming into a camera that the file disables opens it. -/
theorem zoom_opens_disabled :
    ¬ ∀ (readable : String → Bool) (v4l2 : V4l2Device Unit) (file : Option (KeyFile Rat)) devices requests s,
      Run (step readable v4l2) (started readable file devices) requests s → Agrees s := by
  intro hall
  let zoom : Request Rat := ⟨.zoom, some [("camera", .int 0), ("factor", .int 2)]⟩
  let s : State Rat Unit := started (fun _ => false) (some first_disabled) ()
  have hagrees : Agrees (zoom.handle (control_context (fun _ => false) none no_device) s).2 :=
    hall _ no_device (some first_disabled) () [zoom] _ (.snoc .nil rfl)
  -- the flag of a disabled camera is up, so the zoom is not a good request
  have hgood := (effect_agrees (inv_started _ _) (agrees_started _ _) (handle_effect _ zoom s)).1 hagrees
  have henabled : (s.cam 0).enabled = true := hgood.1 0 (by decide) rfl
  exact absurd henabled (by decide)

end UsbStreams

end CameraStreamer
