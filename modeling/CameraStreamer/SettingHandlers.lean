import CameraStreamer.ControlDispatch
import CameraStreamer.Pipeline
/-!
# The handlers of the settings

set-stream, set-exposure, set-gain, set-zoom and set-isp, down to the calls they
make of the stream controller and the V4L2 device, which are parameters.
`handle_effect` says once what such a request can do.
-/

namespace CameraStreamer.Control

open Json

/-- `IStreamController`, over the state of what serves the streams. -/
structure IStreamController (D S : Type) where
  set_source_property : Fin kNumCameras → String → String → S → Bool × S
  refresh_launch : Config D → Fin kNumCameras → S → S

structure V4l2Control where
  default_value : Int

/-- `V4l2Device`, each operation with the device's path first. -/
structure V4l2Device (V : Type) where
  get_control : String → String → V → Except String V4l2Control × V
  set_control : String → String → Int → V → Except String Unit × V
  set_trigger_mode : String → Int → V → Except String Unit × V

structure ControlContext (D S V : Type) where
  stream : IStreamController D S
  v4l2 : V4l2Device V
  notify_stream : Option (Fin kNumCameras → Bool → S → S)

/-- What the handlers read and write. -/
structure ControlState (D S V : Type) where
  config : Config D
  stream : S
  devices : V

namespace ControlState
variable {D S V : Type}

def cam (s : ControlState D S V) (cam_index : Fin kNumCameras) : CameraConfig D := s.config.cameras cam_index

end ControlState

section Params
variable {D : Type} [Doubles D]

/-- The member `name`, where there are parameters and they have it. -/
def param (params : Option (Members D)) (name : String) : Option (Json D) := params.bind (·.lookup name)

def param_int (params : Option (Members D)) (name : String) : Option Int :=
  match param params name with
  | some (.int i) => some i
  | some (.double d) => some (Doubles.toInt d)
  | _ => none

def param_bool (params : Option (Members D)) (name : String) : Option Bool :=
  match param params name with
  | some (.bool b) => some b
  | _ => none

def param_double (params : Option (Members D)) (name : String) : Option D :=
  match param params name with
  | some (.double d) => some d
  | _ => (param_int params name).map Doubles.ofInt

def param_camera (params : Option (Members D)) : Option (Fin kNumCameras) :=
  (param_int params "camera").bind fun v =>
    if h : 0 ≤ v ∧ v < kNumCameras then some ⟨v.toNat, by omega⟩ else none

def require_camera (params : Option (Members D)) : Except ControlError (Fin kNumCameras) :=
  match param_camera params with
  | some idx => .ok idx
  | none => .error ⟨kInvalidParams, "camera must be 0 or 1"⟩

/-- A non-negative `us`. -/
def param_us (params : Option (Members D)) : Option Int := (param_int params "us").filter (0 ≤ ·)

/-- A gain that is not negative. -/
def param_gain (params : Option (Members D)) : Option D :=
  (param_double params "gain").filter (! Doubles.lt · (Doubles.ofInt 0))

def param_factor (params : Option (Members D)) : Option D :=
  (param_double params "factor").filter fun f => ! Doubles.lt f (Doubles.ofInt 1) && ! Doubles.lt (Doubles.ofInt 8) f

def kIspParams : List String :=
  ["wbmode", "saturation", "tnr-mode", "tnr-strength", "ee-mode", "ee-strength", "aeantibanding",
    "exposurecompensation", "aelock", "awblock", "ispdigitalgainrange"]

/-- The `param` of set-isp, empty where it is no string. -/
def isp_name (params : Option (Members D)) : String :=
  match param params "param" with
  | some (.string name) => name
  | _ => ""

/-- The text of a value node. -/
def isp_text : Json D → Option String
  | .string s => some s
  | .bool b => some (if b then "true" else "false")
  | .int i => some (toString i)
  | .double d => some (Doubles.format d)
  | _ => none

end Params

variable {D S V : Type} [Doubles D]

/-! ## The sources' runtime settings -/

/-- `SourceResult`, and the state after it. -/
abbrev SourceResult (D S V : Type) := Except String Unit × ControlState D S V

section Sources
variable (ctx : ControlContext D S V) (cam_index : Fin kNumCameras)

namespace ArgusSource

def kAutoExposure : String := "13000 100000000"
def kAutoGain : String := "1 16"

omit [Doubles D] in
/-- The live pipeline gets the property, if there is one to get; the launch
string is rebuilt from the new configuration. -/
def change (live : Option (String × String)) (cam : CameraConfig D) (s : ControlState D S V) : SourceResult D S V :=
  let config := s.config.set_camera cam_index cam
  let stream := match live with
    | some (property, value) => (ctx.stream.set_source_property cam_index property value s.stream).2
    | none => s.stream
  (.ok (), { s with config := config, stream := ctx.stream.refresh_launch config cam_index stream })

def set_exposure (us : Int) (s : ControlState D S V) : SourceResult D S V :=
  let ns := toString (us * 1000)
  let range := if 0 < us then ns ++ " " ++ ns else kAutoExposure
  change ctx cam_index (some ("exposuretimerange", range)) { s.cam cam_index with exposure := us } s

def set_gain (gain : D) (s : ControlState D S V) : SourceResult D S V :=
  let buf := Doubles.format gain
  let range := if Doubles.lt (Doubles.ofInt 0) gain then buf ++ " " ++ buf else kAutoGain
  change ctx cam_index (some ("gainrange", range)) { s.cam cam_index with gain := gain } s

def set_isp (param value : String) (s : ControlState D S V) : SourceResult D S V :=
  let cam := s.cam cam_index
  if value = "" then change ctx cam_index none { cam with isp := cam.isp.erase param } s
  else change ctx cam_index (some (param, value)) { cam with isp := cam.isp.assign param value } s

end ArgusSource

namespace V4l2Source

/-- `value` for the control, or with none the driver's default; the camera's
configuration follows when the device took it. -/
def set (control : String) (value : Option Int) (cam : CameraConfig D) (s : ControlState D S V) : SourceResult D S V :=
  let device := (s.cam cam_index).device
  let (r, devices) := match value with
    | some value => ctx.v4l2.set_control device control value s.devices
    | none =>
      -- back to the driver's default
      match ctx.v4l2.get_control device control s.devices with
      | (.error e, devices) => (.error e, devices)
      | (.ok c, devices) => ctx.v4l2.set_control device control c.default_value devices
  match r with
  | .error e => (.error e, { s with devices := devices })
  | .ok () => (.ok (), { s with config := s.config.set_camera cam_index cam, devices := devices })

def set_exposure (us : Int) (s : ControlState D S V) : SourceResult D S V :=
  set ctx cam_index "exposure" (if us = 0 then none else some us) { s.cam cam_index with exposure := us } s

def set_gain (gain : D) (s : ControlState D S V) : SourceResult D S V :=
  set ctx cam_index "gain" (if Doubles.eq gain (Doubles.ofInt 0) then none else some (Doubles.toInt gain))
    { s.cam cam_index with gain := gain } s

end V4l2Source

def set_exposure (us : Int) (s : ControlState D S V) : Source → SourceResult D S V
  | .argus => ArgusSource.set_exposure ctx cam_index us s
  | .v4l2 => V4l2Source.set_exposure ctx cam_index us s
  | .test => (.error "not supported for source 'test'", s)

def set_gain (gain : D) (s : ControlState D S V) : Source → SourceResult D S V
  | .argus => ArgusSource.set_gain ctx cam_index gain s
  | .v4l2 => V4l2Source.set_gain ctx cam_index gain s
  | .test => (.error "not supported for source 'test'", s)

def set_isp (param value : String) (s : ControlState D S V) : Source → SourceResult D S V
  | .argus => ArgusSource.set_isp ctx cam_index param value s
  | .v4l2 => (.error "ISP controls require the argus source (current source 'v4l2')", s)
  | .test => (.error "not supported for source 'test'", s)

end Sources

/-! ## The handlers -/

def empty_result : HandlerResult D := .ok (.object [])

omit [Doubles D] in
/-- The reply to a source's result. -/
def reply : SourceResult D S V → HandlerResult D × ControlState D S V
  | (.error e, s) => (.error ⟨kFailed, e⟩, s)
  | (.ok (), s) => (empty_result, s)

section Handlers
variable (ctx : ControlContext D S V)

def SetStreamHandler : IControlHandler D (ControlState D S V) := fun params s =>
  match require_camera params with
  | .error e => (.error e, s)
  | .ok cam_idx =>
    match param_bool params "enabled" with
    | none => (.error ⟨kInvalidParams, "enabled must be a boolean"⟩, s)
    | some enabled =>
      (empty_result, { s with
        config := s.config.set_camera cam_idx { s.cam cam_idx with enabled := enabled }
        stream := match ctx.notify_stream with
          | some notify_stream => notify_stream cam_idx enabled s.stream
          | none => s.stream })

def handle_exposure_or_gain (is_exposure : Bool) : IControlHandler D (ControlState D S V) := fun params s =>
  match require_camera params with
  | .error e => (.error e, s)
  | .ok cam_idx =>
    match create_source (s.cam cam_idx).source with
    | none => (.error ⟨kFailed, "unknown source '" ++ (s.cam cam_idx).source ++ "'"⟩, s)
    | some source =>
      if is_exposure then
        match param_us params with
        | none => (.error ⟨kInvalidParams, "us must be an integer >= 0"⟩, s)
        | some us => reply (set_exposure ctx cam_idx (to_int us) s source)
      else
        match param_gain params with
        | none => (.error ⟨kInvalidParams, "gain must be a number >= 0"⟩, s)
        | some gain => reply (set_gain ctx cam_idx gain s source)

def SetExposureHandler : IControlHandler D (ControlState D S V) := handle_exposure_or_gain ctx true
def SetGainHandler : IControlHandler D (ControlState D S V) := handle_exposure_or_gain ctx false

def SetZoomHandler : IControlHandler D (ControlState D S V) := fun params s =>
  match require_camera params with
  | .error e => (.error e, s)
  | .ok cam_idx =>
    match param_factor params with
    | none => (.error ⟨kInvalidParams, "factor must be a number in 1.0-8.0"⟩, s)
    | some factor =>
      let cam := s.cam cam_idx
      let centre (name : String) (default : D) : D :=
        ((param_double params name).map (Doubles.clamp · (Doubles.ofInt 0) (Doubles.ofInt 1))).getD default
      let config := s.config.set_camera cam_idx
        { cam with zoom_x := centre "x" cam.zoom_x, zoom_y := centre "y" cam.zoom_y, zoom := factor }
      -- refreshed whatever the source, and whether the camera is enabled or not
      (empty_result, { s with config := config, stream := ctx.stream.refresh_launch config cam_idx s.stream })

def SetIspHandler : IControlHandler D (ControlState D S V) := fun params s =>
  match require_camera params with
  | .error e => (.error e, s)
  | .ok cam_idx =>
    let source := (s.cam cam_idx).source
    if source ≠ "argus" then
      (.error ⟨kFailed, "ISP controls require the argus source (current source '" ++ source ++ "')"⟩, s)
    else
      let name := isp_name params
      if name ∉ kIspParams then
        -- everything else on the element belongs to the launch string
        (.error ⟨kInvalidParams, "param must be one of the nvarguscamerasrc ISP properties (see PROTOCOL.md)"⟩, s)
      else
        match param params "value" with
        | none => (.error ⟨kInvalidParams, "missing value"⟩, s)
        | some .null =>  -- forget the override
          match create_source source with
          | none => (empty_result, s)
          | some source => (empty_result, (set_isp ctx cam_idx name "" s source).2)
        | some vn =>
          match isp_text vn with
          | none => (.error ⟨kInvalidParams, "value must be a string, number, bool or null"⟩, s)
          | some value =>
            match create_source source with
            | none => (.error ⟨kFailed, "unknown source '" ++ source ++ "'"⟩, s)
            | some source => reply (set_isp ctx cam_idx name value s source)

end Handlers

inductive Setting where
  | stream
  | exposure
  | gain
  | zoom
  | isp
  deriving DecidableEq

structure Request (D : Type) where
  setting : Setting
  params : Option (Members D)

def Setting.handler (ctx : ControlContext D S V) : Setting → IControlHandler D (ControlState D S V)
  | stream => SetStreamHandler ctx
  | exposure => SetExposureHandler ctx
  | gain => SetGainHandler ctx
  | zoom => SetZoomHandler ctx
  | isp => SetIspHandler ctx

def Request.handle (ctx : ControlContext D S V) (r : Request D) (s : ControlState D S V) :
    HandlerResult D × ControlState D S V := r.setting.handler ctx r.params s

/-! ## What a request does -/

/-- The parameters of a set-isp, past the camera. -/
def isp_accepts (params : Option (Members D)) : Bool :=
  isp_name params ∈ kIspParams &&
    match param params "value" with
    | none => false
    | some .null => true
    | some vn => (isp_text vn).isSome

/-- The camera whose launch string `r` rebuilds: the handler gets past its
checks, and the setting is one that goes into the launch string. -/
def Request.refreshes (config : Config D) (r : Request D) : Option (Fin kNumCameras) :=
  (param_camera r.params).filter fun c =>
    match r.setting with
    | .stream => false
    | .exposure => (config.cameras c).source = "argus" && (param_us r.params).isSome
    | .gain => (config.cameras c).source = "argus" && (param_gain r.params).isSome
    | .zoom => (param_factor r.params).isSome
    | .isp => (config.cameras c).source = "argus" && isp_accepts r.params

/-- The camera that a set-stream switches, and whether on. -/
def Request.switches (r : Request D) : Option (Fin kNumCameras × Bool) :=
  match r.setting with
  | .stream => (param_camera r.params).bind fun c => (param_bool r.params "enabled").map (c, ·)
  | _ => none

/-- The state a request leaves, by the camera it refreshes and the one it switches. -/
inductive Effect (ctx : ControlContext D S V) (s : ControlState D S V) :
    Option (Fin kNumCameras) → Option (Fin kNumCameras × Bool) → ControlState D S V → Prop
  /-- Nothing but what the device was told. -/
  | none (devices : V) : Effect ctx s none none { s with devices := devices }
  | device (c : Fin kNumCameras) (exposure : Int) (gain : D) (devices : V) (h : (s.cam c).source = "v4l2") :
    Effect ctx s none none { s with
      config := s.config.set_camera c { s.cam c with exposure := exposure, gain := gain }
      devices := devices }
  | refresh (c : Fin kNumCameras) (exposure : Int) (gain : D) (isp : StringMap) (zoom zoom_x zoom_y : D)
    (config : Config D) (stream : S)
    (hconfig : config = s.config.set_camera c { s.cam c with
      exposure := exposure, gain := gain, isp := isp, zoom := zoom, zoom_x := zoom_x, zoom_y := zoom_y })
    (hstream : stream = s.stream ∨
      ∃ property value, stream = (ctx.stream.set_source_property c property value s.stream).2) :
    Effect ctx s (some c) none { s with config := config, stream := ctx.stream.refresh_launch config c stream }
  | switch (c : Fin kNumCameras) (enabled : Bool) :
    Effect ctx s none (some (c, enabled)) { s with
      config := s.config.set_camera c { s.cam c with enabled := enabled }
      stream := match ctx.notify_stream with
        | some notify_stream => notify_stream c enabled s.stream
        | none => s.stream }

section Effects
variable {ctx : ControlContext D S V} {c : Fin kNumCameras} {s : ControlState D S V}

omit [Doubles D] in
@[simp] theorem reply_state (r : SourceResult D S V) : (reply r).2 = r.2 := by
  obtain ⟨e | u, s⟩ := r <;> rfl

omit [Doubles D] in
theorem change_effect (live : Option (String × String)) (exposure : Int) (gain : D) (isp : StringMap) :
    Effect ctx s (some c) none (ArgusSource.change ctx c live
      { s.cam c with exposure := exposure, gain := gain, isp := isp } s).2 := by
  rcases live with - | ⟨property, value⟩
  · exact .refresh c exposure gain isp _ _ _ _ _ rfl (.inl rfl)
  · exact .refresh c exposure gain isp _ _ _ _ _ rfl (.inr ⟨property, value, rfl⟩)

omit [Doubles D] in
theorem v4l2_effect (h : (s.cam c).source = "v4l2") (control : String) (value : Option Int) (exposure : Int)
    (gain : D) :
    Effect ctx s none none (V4l2Source.set ctx c control value
      { s.cam c with exposure := exposure, gain := gain } s).2 := by
  unfold V4l2Source.set
  dsimp only
  split
  · exact .none _
  · exact .device c exposure gain _ h

/-- The camera a source refreshes when it applies a setting. -/
def refreshed (source : Source) (c : Fin kNumCameras) : Option (Fin kNumCameras) :=
  if source = .argus then some c else none

omit [Doubles D] in
theorem set_exposure_effect {source : Source} (h : (s.cam c).source = source.source_type) (us : Int) :
    Effect ctx s (refreshed source c) none (set_exposure ctx c us s source).2 := by
  rcases source with - | - | -
  · exact change_effect _ us _ _
  · exact v4l2_effect h _ _ us _
  · exact .none s.devices

theorem set_gain_effect {source : Source} (h : (s.cam c).source = source.source_type) (gain : D) :
    Effect ctx s (refreshed source c) none (set_gain ctx c gain s source).2 := by
  rcases source with - | - | -
  · exact change_effect _ _ gain _
  · exact v4l2_effect h _ _ _ gain
  · exact .none s.devices

omit [Doubles D] in
theorem set_isp_effect (param value : String) :
    Effect ctx s (some c) none (set_isp ctx c param value s .argus).2 := by
  unfold set_isp ArgusSource.set_isp
  dsimp only
  split
  · exact change_effect _ _ _ _
  · exact change_effect _ _ _ _

/-- A request without a camera is refused. -/
theorem handle_no_camera {r : Request D} (h : param_camera r.params = none) :
    r.handle ctx s = (.error ⟨kInvalidParams, "camera must be 0 or 1"⟩, s) := by
  obtain ⟨setting, params⟩ := r
  have hc : require_camera params = .error ⟨kInvalidParams, "camera must be 0 or 1"⟩ := by
    simp only [require_camera, h]
  rcases setting with - | - | - | - | - <;>
    simp only [Request.handle, Setting.handler, SetStreamHandler, SetExposureHandler, SetGainHandler,
      handle_exposure_or_gain, SetZoomHandler, SetIspHandler, hc]

theorem set_stream_effect {params : Option (Members D)} (hc : param_camera params = some c) :
    Effect ctx s none ((param_bool params "enabled").map (c, ·)) (SetStreamHandler ctx params s).2 := by
  simp only [SetStreamHandler, require_camera, hc]
  rcases param_bool params "enabled" with - | enabled
  · exact .none s.devices
  · exact .switch c enabled

theorem exposure_or_gain_effect {params : Option (Members D)} (hc : param_camera params = some c) (is_exposure : Bool) :
    Effect ctx s
      (if (s.cam c).source = "argus" ∧
        (if is_exposure then (param_us params).isSome else (param_gain params).isSome) = true then some c else none)
      none (handle_exposure_or_gain ctx is_exposure params s).2 := by
  simp only [handle_exposure_or_gain, require_camera, hc]
  rcases hs : create_source (s.cam c).source with - | source
  · -- an unknown source is not argus
    rw [if_neg (fun h => by rw [h.1] at hs; cases hs)]
    exact .none s.devices
  · have hsrc := create_source_eq_some.1 hs
    have hif : ∀ b : Bool, (if (s.cam c).source = "argus" ∧ b = true then some c else none) =
        if b then refreshed source c else none := by
      intro b
      rw [hsrc]
      rcases source with - | - | - <;> rcases b with - | - <;> simp [Source.source_type, refreshed]
    rw [hif]
    rcases is_exposure with - | -
    · rcases param_gain params with - | gain
      · exact .none s.devices
      · simpa using set_gain_effect hsrc gain
    · rcases param_us params with - | us
      · exact .none s.devices
      · simpa using set_exposure_effect hsrc (to_int us)

theorem zoom_effect {params : Option (Members D)} (hc : param_camera params = some c) :
    Effect ctx s (if (param_factor params).isSome then some c else none) none (SetZoomHandler ctx params s).2 := by
  simp only [SetZoomHandler, require_camera, hc]
  rcases param_factor params with - | factor
  · exact .none s.devices
  · exact .refresh c _ _ _ factor _ _ _ _ rfl (.inl rfl)

theorem isp_effect {params : Option (Members D)} (hc : param_camera params = some c) :
    Effect ctx s (if (s.cam c).source = "argus" ∧ isp_accepts params = true then some c else none) none
      (SetIspHandler ctx params s).2 := by
  simp only [SetIspHandler, require_camera, hc]
  by_cases hs : (s.cam c).source = "argus"
  swap
  · rw [if_neg (fun h => hs h.1), if_pos hs]
    exact .none s.devices
  by_cases hn : isp_name params ∈ kIspParams
  swap
  · rw [if_neg (fun h => hn (by simpa [isp_accepts] using And.left (Bool.and_eq_true_iff.1 h.2))),
      if_neg (not_not.2 hs), if_pos hn]
    exact .none s.devices
  rw [if_neg (not_not.2 hs), if_neg (not_not.2 hn)]
  simp only [isp_accepts, hs, hn, true_and, decide_true, Bool.true_and]
  -- a value of any kind comes down to one text, and the empty text to an erasure
  have hset (value : String) :
      Effect ctx s (some c) none (reply (set_isp ctx c (isp_name params) value s .argus)).2 := by
    rw [reply_state]
    exact set_isp_effect _ value
  rcases param params "value" with - | vn
  · exact .none s.devices
  · cases vn with
    | null => exact set_isp_effect _ _
    | array elements => exact .none s.devices
    | object members => exact .none s.devices
    | bool b => exact hset _
    | int i => exact hset _
    | double d => exact hset _
    | string text => exact hset _

/-- What a request refreshes and what it switches say all it can do. -/
theorem handle_effect (ctx : ControlContext D S V) (r : Request D) (s : ControlState D S V) :
    Effect ctx s (r.refreshes s.config) r.switches (r.handle ctx s).2 := by
  obtain ⟨setting, params⟩ := r
  rcases hc : param_camera params with - | c
  · rw [handle_no_camera hc]
    have hs : Request.switches ⟨setting, params⟩ = none := by
      rcases setting with - | - | - | - | - <;> simp [Request.switches, hc]
    rw [hs, Request.refreshes, hc]
    exact .none s.devices
  · -- each handler's checks, read as one condition on the camera
    have hr (p : Fin kNumCameras → Bool) (q : Prop) [Decidable q] (h : p c = true ↔ q) :
        (some c).filter p = if q then some c else none := by
      simp [Option.filter, h]
    rw [Request.refreshes, hc]
    rcases setting with - | - | - | - | -
    · rw [hr _ False (by simp), if_neg not_false, Request.switches, hc]
      exact set_stream_effect hc
    · rw [hr _ ((s.cam c).source = "argus" ∧ (param_us params).isSome = true) (by simp [ControlState.cam])]
      exact exposure_or_gain_effect hc true
    · rw [hr _ ((s.cam c).source = "argus" ∧ (param_gain params).isSome = true) (by simp [ControlState.cam])]
      exact exposure_or_gain_effect hc false
    · rw [hr _ ((param_factor params).isSome = true) (by simp)]
      exact zoom_effect hc
    · rw [hr _ ((s.cam c).source = "argus" ∧ isp_accepts params = true) (by simp [ControlState.cam])]
      exact isp_effect hc

namespace Effect
variable {s' : ControlState D S V} {refreshed : Option (Fin kNumCameras)} {switched : Option (Fin kNumCameras × Bool)}

omit [Doubles D]

/-- No request gives a camera another source. -/
theorem source (h : Effect ctx s refreshed switched s') (c : Fin kNumCameras) :
    (s'.cam c).source = (s.cam c).source := by
  cases h with
  | none devices => rfl
  | device c' exposure gain devices hc => exact Config.set_camera_field (·.source) (by rfl) c
  | refresh c' exposure gain isp zoom zoom_x zoom_y config stream hconfig hstream =>
    rw [ControlState.cam, hconfig]
    exact Config.set_camera_field (·.source) (by rfl) c
  | switch c' enabled => exact Config.set_camera_field (·.source) (by rfl) c

/-- Only a set-stream enables or disables. -/
theorem enabled (h : Effect ctx s refreshed .none s') (c : Fin kNumCameras) :
    (s'.cam c).enabled = (s.cam c).enabled := by
  cases h with
  | none devices => rfl
  | device c' exposure gain devices hc => exact Config.set_camera_field (·.enabled) (by rfl) c
  | refresh c' exposure gain isp zoom zoom_x zoom_y config stream hconfig hstream =>
    rw [ControlState.cam, hconfig]
    exact Config.set_camera_field (·.enabled) (by rfl) c

/-- Outside the cameras the configuration is never written. -/
theorem server (h : Effect ctx s refreshed switched s') :
    s'.config = { s.config with cameras := s'.config.cameras } := by
  cases h with
  | none devices => rfl
  | device c exposure gain devices hc => rfl
  | refresh c exposure gain isp zoom zoom_x zoom_y config stream hconfig hstream =>
    dsimp only
    rw [hconfig]
    rfl
  | switch c enabled => rfl

end Effect

end Effects

/-- What a request refreshes depends on the sources of the cameras only. -/
theorem Request.refreshes_congr {config config' : Config D}
    (h : ∀ c, (config.cameras c).source = (config'.cameras c).source) (r : Request D) :
    r.refreshes config = r.refreshes config' := by
  unfold refreshes
  congr 1
  funext c
  rw [h c]

/-! ## What exposure and gain come to -/

/-- The device takes the value, or with none its driver's default. -/
def V4l2Device.takes (v4l2 : V4l2Device V) (device control : String) (value : Option Int) (v : V) : Bool :=
  match value with
  | some value => (v4l2.set_control device control value v).1.isOk
  | none =>
    match v4l2.get_control device control v with
    | (.error _, _) => false
    | (.ok c, v) => (v4l2.set_control device control c.default_value v).1.isOk

section Writes
variable (ctx : ControlContext D S V) (s : ControlState D S V) (c : Fin kNumCameras)

omit [Doubles D] in
/-- The source has such a setting, and the device behind it takes the value. -/
def source_applies (control : String) (value : Option Int) : Source → Bool
  | .argus => true
  | .v4l2 => ctx.v4l2.takes (s.cam c).device control value s.devices
  | .test => false

omit [Doubles D] in
def applies (control : String) (value : Option Int) : Bool :=
  (create_source (s.cam c).source).any (source_applies ctx s c control value)

def exposure_value (us : Int) : Option Int := if to_int us = 0 then none else some (to_int us)

def gain_value (gain : D) : Option Int := if Doubles.eq gain (Doubles.ofInt 0) then none else some (Doubles.toInt gain)

omit [Doubles D] in
theorem v4l2_config (control : String) (value : Option Int) (cam : CameraConfig D) :
    (V4l2Source.set ctx c control value cam s).2.config =
      if ctx.v4l2.takes (s.cam c).device control value s.devices then s.config.set_camera c cam else s.config := by
  unfold V4l2Source.set V4l2Device.takes
  rcases value with - | value
  · rcases hg : ctx.v4l2.get_control (s.cam c).device control s.devices with ⟨e | current, devices⟩
    · simp only [hg, Bool.false_eq_true, if_false]
    · rcases hs : ctx.v4l2.set_control (s.cam c).device control current.default_value devices with ⟨e | u, devices'⟩
      · simp only [hg, hs, Except.isOk, Except.toBool, Bool.false_eq_true, if_false]
      · simp only [hg, hs, Except.isOk, Except.toBool, if_true]
  · rcases hs : ctx.v4l2.set_control (s.cam c).device control value s.devices with ⟨e | u, devices⟩
    · simp only [hs, Except.isOk, Except.toBool, Bool.false_eq_true, if_false]
    · simp only [hs, Except.isOk, Except.toBool, if_true]

variable {c} {params : Option (Members D)} (hc : param_camera params = some c)
include hc

theorem exposure_config : (SetExposureHandler ctx params s).2.config =
    match param_us params with
    | some us => if applies ctx s c "exposure" (exposure_value us) then
        s.config.set_camera c { s.cam c with exposure := to_int us } else s.config
    | none => s.config := by
  simp only [SetExposureHandler, handle_exposure_or_gain, require_camera, hc, if_true]
  rcases hs : create_source (s.cam c).source with - | source
  · rcases param_us params with - | us
    · rfl
    · simp only [applies, hs, Option.any_none, Bool.false_eq_true, if_false]
  rcases param_us params with - | us
  · rfl
  simp only [reply_state, applies, hs, Option.any_some]
  rcases source with - | - | -
  · rfl
  · exact v4l2_config ctx s c _ _ _
  · rfl

theorem gain_config : (SetGainHandler ctx params s).2.config =
    match param_gain params with
    | some gain => if applies ctx s c "gain" (gain_value gain) then
        s.config.set_camera c { s.cam c with gain := gain } else s.config
    | none => s.config := by
  simp only [SetGainHandler, handle_exposure_or_gain, require_camera, hc, Bool.false_eq_true, if_false]
  rcases hs : create_source (s.cam c).source with - | source
  · rcases param_gain params with - | gain
    · rfl
    · simp only [applies, hs, Option.any_none, Bool.false_eq_true, if_false]
  rcases param_gain params with - | gain
  · rfl
  simp only [reply_state, applies, hs, Option.any_some]
  rcases source with - | - | -
  · rfl
  · exact v4l2_config ctx s c _ _ _
  · rfl

end Writes

end CameraStreamer.Control
