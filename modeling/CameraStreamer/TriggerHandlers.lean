import CameraStreamer.V4l2Device
/-!
# The trigger handlers, and what an error reply leaves

set-trigger and set-sync. An error reply to a setting leaves the cameras and the
devices as they were, but for a set-sync that the second camera refuses after
the first took it: `error_reply_iff`.
-/

namespace CameraStreamer.Control

open Json

variable {D S V R : Type} [Doubles D]

/-! ## The handlers -/

section Handlers
variable (ctx : ControlContext D S V)

omit [Doubles D] in
/-- `ICameraSource::set_trigger` -/
def set_trigger (cam_index : Fin kNumCameras) (mode : Int) (s : ControlState D S V) : Source → SourceResult D S V
  | .argus => (.error "hardware trigger requires the v4l2 source (current source 'argus')", s)
  | .v4l2 =>
    let cam := s.cam cam_index
    match ctx.v4l2.set_trigger_mode cam.device mode s.devices with
    | (.error e, devices) => (.error e, { s with devices := devices })
    | (.ok (), devices) =>
      (.ok (), { s with config := s.config.set_camera cam_index { cam with trigger := mode }, devices := devices })
  | .test => (.error "not supported for source 'test'", s)

/-- A `mode` that is not negative. -/
def param_mode (params : Option (Members D)) : Option Int := (param_int params "mode").filter (0 ≤ ·)

def SetTriggerHandler : IControlHandler D (ControlState D S V) := fun params s =>
  match require_camera params with
  | .error e => (.error e, s)
  | .ok cam_idx =>
    match param_mode params with
    | none => (.error ⟨kInvalidParams, "mode must be an integer >= 0"⟩, s)
    | some mode =>
      match create_source (s.cam cam_idx).source with
      | none => (.error ⟨kFailed, "unknown source '" ++ (s.cam cam_idx).source ++ "'"⟩, s)
      | some source => reply (set_trigger ctx cam_idx (to_int mode) s source)

/-- The cameras in the order of the loops over them. -/
def cameras : List (Fin kNumCameras) := List.finRange kNumCameras

/-- The first enabled camera that is not on the v4l2 path. -/
def sync_precheck (config : Config D) : Option ControlError :=
  (cameras.find? fun i => (config.cameras i).enabled && (config.cameras i).source != "v4l2").map fun i =>
    ⟨kFailed, "cam" ++ toString i.val ++ " is source '" ++ (config.cameras i).source ++ "'; sync requires v4l2"⟩

/-- The second loop of set-sync, over the cameras that are left. -/
def sync_cameras (mode : Int) : List (Fin kNumCameras) → ControlState D S V → HandlerResult D × ControlState D S V
  | [], s => (empty_result, s)
  | i :: left, s =>
    let cam := s.cam i
    if cam.enabled then
      match ctx.v4l2.set_trigger_mode cam.device mode s.devices with
      | (.error e, devices) => (.error ⟨kFailed, e⟩, { s with devices := devices })
      | (.ok (), devices) =>
        sync_cameras mode left
          { s with config := s.config.set_camera i { cam with trigger := mode }, devices := devices }
    else sync_cameras mode left s

/-- External trigger, or free running. -/
def sync_mode (enabled : Bool) : Int := if enabled then 1 else 0

def SetSyncHandler : IControlHandler D (ControlState D S V) := fun params s =>
  match param_bool params "enabled" with
  | none => (.error ⟨kInvalidParams, "enabled must be a boolean"⟩, s)
  | some enabled =>
    match sync_precheck s.config with
    | some e => (.error e, s)
    | none => sync_cameras ctx (sync_mode enabled) cameras s

end Handlers

/-- The requests that change a setting. -/
inductive SettingRequest (D : Type) where
  | setting (r : Request D)
  | trigger (params : Option (Members D))
  | sync (params : Option (Members D))

def SettingRequest.handle (ctx : ControlContext D S V) :
    SettingRequest D → ControlState D S V → HandlerResult D × ControlState D S V
  | setting r => r.handle ctx
  | trigger params => SetTriggerHandler ctx params
  | sync params => SetSyncHandler ctx params

/-! ## What fails on one camera -/

/-- The cameras are configured as they were, and the devices set as they were. -/
def Untouched (settings : V → R) (s s' : ControlState D S V) : Prop :=
  s'.config.cameras = s.config.cameras ∧ settings s'.devices = settings s.devices

/-- An operation that fails has changed nothing of `settings`. -/
structure V4l2Device.Keeps (v4l2 : V4l2Device V) (settings : V → R) : Prop where
  get_control : ∀ device control v, settings (v4l2.get_control device control v).2 = settings v
  set_control : ∀ device control value v e, (v4l2.set_control device control value v).1 = .error e →
    settings (v4l2.set_control device control value v).2 = settings v
  set_trigger_mode : ∀ device mode v e, (v4l2.set_trigger_mode device mode v).1 = .error e →
    settings (v4l2.set_trigger_mode device mode v).2 = settings v

theorem v4l2_keeps {kernel : V4l2.Kernel V} {settings : V → R} (hk : kernel.Keeps settings) :
    (V4l2.V4l2Device kernel).Keeps settings where
  get_control device control v := by
    have h := V4l2.get_control_keeps hk device control v
    unfold V4l2.V4l2Device
    dsimp only
    split
    · rename_i e v' hv
      rw [hv] at h
      exact h
    · rename_i c v' hv
      rw [hv] at h
      exact h
  set_control device control value v e h := V4l2.set_control_keeps hk h
  set_trigger_mode device mode v e h := V4l2.set_trigger_mode_keeps hk h

section Errors
variable {ctx : ControlContext D S V} {settings : V → R} {c : Fin kNumCameras} {s : ControlState D S V}

omit [Doubles D] in
theorem Untouched.refl : Untouched settings s s := ⟨rfl, rfl⟩

omit [Doubles D] in
/-- A reply is an error just where the source's result is one. -/
theorem reply_error {r : SourceResult D S V} {e : ControlError} (h : (reply r).1 = .error e) :
    ∃ text, r.1 = .error text := by
  obtain ⟨text | u, s⟩ := r
  · exact ⟨text, rfl⟩
  · cases h

variable (hk : ctx.v4l2.Keeps settings)
include hk

omit [Doubles D] in
theorem V4l2Source.set_error {control : String} {value : Option Int} {cam : CameraConfig D} {e : String}
    (h : (V4l2Source.set ctx c control value cam s).1 = .error e) :
    Untouched settings s (V4l2Source.set ctx c control value cam s).2 := by
  unfold V4l2Source.set at h ⊢
  rcases value with - | value
  · -- back to the default: what is read first changes nothing either
    have hget := hk.get_control (s.cam c).device control s.devices
    rcases hg : ctx.v4l2.get_control (s.cam c).device control s.devices with ⟨e' | current, devices⟩
    · rw [hg] at hget
      simp only [hg]
      exact ⟨rfl, hget⟩
    · rw [hg] at hget
      have hset := hk.set_control (s.cam c).device control current.default_value devices
      rcases hs : ctx.v4l2.set_control (s.cam c).device control current.default_value devices with ⟨e' | u, devices'⟩
      · rw [hs] at hset
        simp only [hg, hs]
        exact ⟨rfl, (hset e' rfl).trans hget⟩
      · simp only [hg, hs] at h
        cases h
  · have hset := hk.set_control (s.cam c).device control value s.devices
    rcases hs : ctx.v4l2.set_control (s.cam c).device control value s.devices with ⟨e' | u, devices⟩
    · rw [hs] at hset
      simp only [hs]
      exact ⟨rfl, hset e' rfl⟩
    · simp only [hs] at h
      cases h

omit [Doubles D] in
theorem set_exposure_error {us : Int} {source : Source} {e : String}
    (h : (set_exposure ctx c us s source).1 = .error e) :
    Untouched settings s (set_exposure ctx c us s source).2 := by
  rcases source with - | - | -
  · cases h
  · exact V4l2Source.set_error hk h
  · exact .refl

theorem set_gain_error {gain : D} {source : Source} {e : String} (h : (set_gain ctx c gain s source).1 = .error e) :
    Untouched settings s (set_gain ctx c gain s source).2 := by
  rcases source with - | - | -
  · cases h
  · exact V4l2Source.set_error hk h
  · exact .refl

omit [Doubles D] in
theorem set_trigger_error {mode : Int} {source : Source} {e : String}
    (h : (set_trigger ctx c mode s source).1 = .error e) :
    Untouched settings s (set_trigger ctx c mode s source).2 := by
  rcases source with - | - | -
  · exact .refl
  · unfold set_trigger at h ⊢
    have hset := hk.set_trigger_mode (s.cam c).device mode s.devices
    rcases hs : ctx.v4l2.set_trigger_mode (s.cam c).device mode s.devices with ⟨e' | u, devices⟩
    · rw [hs] at hset
      simp only [hs]
      exact ⟨rfl, hset e' rfl⟩
    · simp only [hs] at h
      cases h
  · exact .refl

theorem exposure_or_gain_error {params : Option (Members D)} {is_exposure : Bool} {e : ControlError}
    (h : (handle_exposure_or_gain ctx is_exposure params s).1 = .error e) :
    Untouched settings s (handle_exposure_or_gain ctx is_exposure params s).2 := by
  unfold handle_exposure_or_gain at h ⊢
  rcases hc : require_camera params with e' | c
  · exact .refl
  simp only [hc] at h ⊢
  rcases hs : create_source (s.cam c).source with - | source
  · exact .refl
  simp only [hs] at h ⊢
  rcases is_exposure with - | -
  · rcases hg : param_gain params with - | gain
    · exact .refl
    · simp only [hg, Bool.false_eq_true, if_false] at h ⊢
      obtain ⟨text, ht⟩ := reply_error h
      rw [reply_state]
      exact set_gain_error hk ht
  · rcases hu : param_us params with - | us
    · exact .refl
    · simp only [hu, if_true] at h ⊢
      obtain ⟨text, ht⟩ := reply_error h
      rw [reply_state]
      exact set_exposure_error hk ht

theorem trigger_error {params : Option (Members D)} {e : ControlError}
    (h : (SetTriggerHandler ctx params s).1 = .error e) :
    Untouched settings s (SetTriggerHandler ctx params s).2 := by
  unfold SetTriggerHandler at h ⊢
  rcases hc : require_camera params with e' | c
  · exact .refl
  simp only [hc] at h ⊢
  rcases hm : param_mode params with - | mode
  · exact .refl
  simp only [hm] at h ⊢
  rcases hs : create_source (s.cam c).source with - | source
  · exact .refl
  · simp only [hs] at h ⊢
    obtain ⟨text, ht⟩ := reply_error h
    rw [reply_state]
    exact set_trigger_error hk ht

omit hk in
/-- The requests that write no device apply their change last, after every check. -/
theorem stream_error {params : Option (Members D)} {e : ControlError}
    (h : (SetStreamHandler ctx params s).1 = .error e) :
    (SetStreamHandler ctx params s).2 = s := by
  unfold SetStreamHandler at h ⊢
  rcases hc : require_camera params with e' | c
  · rfl
  · simp only [hc] at h ⊢
    rcases hb : param_bool params "enabled" with - | enabled
    · rfl
    · simp only [hb] at h
      cases h

omit hk in
theorem zoom_error {params : Option (Members D)} {e : ControlError} (h : (SetZoomHandler ctx params s).1 = .error e) :
    (SetZoomHandler ctx params s).2 = s := by
  unfold SetZoomHandler at h ⊢
  rcases hc : require_camera params with e' | c
  · rfl
  · simp only [hc] at h ⊢
    rcases hf : param_factor params with - | factor
    · rfl
    · simp only [hf] at h
      cases h

omit hk in
theorem isp_error {params : Option (Members D)} {e : ControlError} (h : (SetIspHandler ctx params s).1 = .error e) :
    (SetIspHandler ctx params s).2 = s := by
  unfold SetIspHandler at h ⊢
  rcases hc : require_camera params with e' | c
  · rfl
  simp only [hc] at h ⊢
  by_cases hs : (s.cam c).source = "argus"
  swap
  · rw [if_pos hs]
  rw [if_neg (not_not.2 hs)] at h ⊢
  by_cases hn : isp_name params ∈ kIspParams
  swap
  · rw [if_pos hn]
  rw [if_neg (not_not.2 hn)] at h ⊢
  -- on the argus path a value is always taken
  have hargus : create_source (s.cam c).source = some .argus := create_source_eq_some.2 hs
  have hset (value : String) : (reply (set_isp ctx c (isp_name params) value s .argus)).1 = empty_result := by
    simp only [set_isp, ArgusSource.set_isp]
    split <;> rfl
  rcases hv : param params "value" with - | vn
  · rfl
  simp only [hv] at h ⊢
  split at h
  · rename_i heq
    cases heq
  · simp only [hargus] at h
    cases h
  · rename_i vn' hnull heq
    cases heq
    rcases ht : isp_text vn with - | value
    · rfl
    · simp only [ht, hargus, hset] at h
      cases h

theorem setting_error {r : Request D} {e : ControlError} (h : (r.handle ctx s).1 = .error e) :
    Untouched settings s (r.handle ctx s).2 := by
  obtain ⟨setting, params⟩ := r
  cases setting with
  | stream =>
    have hs := stream_error h
    exact ⟨congrArg (·.config.cameras) hs, congrArg (settings ·.devices) hs⟩
  | exposure => exact exposure_or_gain_error hk h
  | gain => exact exposure_or_gain_error hk h
  | zoom =>
    have hs := zoom_error h
    exact ⟨congrArg (·.config.cameras) hs, congrArg (settings ·.devices) hs⟩
  | isp =>
    have hs := isp_error h
    exact ⟨congrArg (·.config.cameras) hs, congrArg (settings ·.devices) hs⟩

end Errors

/-! ## set-sync -/

/-- The first camera takes the trigger mode, which is news to it, and then the second refuses it. -/
def SyncSplits (ctx : ControlContext D S V) (settings : V → R) (params : Option (Members D))
    (s : ControlState D S V) : Prop :=
  ∃ enabled, param_bool params "enabled" = some enabled ∧
    (∀ c, (s.cam c).enabled = true ∧ (s.cam c).source = "v4l2") ∧
    let first := ctx.v4l2.set_trigger_mode (s.cam 0).device (sync_mode enabled) s.devices
    let second := ctx.v4l2.set_trigger_mode (s.cam 1).device (sync_mode enabled) first.2
    first.1 = .ok () ∧ (∃ e, second.1 = .error e) ∧
      ((s.cam 0).trigger ≠ sync_mode enabled ∨ settings first.2 ≠ settings s.devices)

section Sync
variable {ctx : ControlContext D S V} {settings : V → R} {s : ControlState D S V} {i : Fin kNumCameras}
  {left : List (Fin kNumCameras)} {mode : Int}

omit [Doubles D]

theorem sync_disabled (h : (s.cam i).enabled = false) :
    sync_cameras ctx mode (i :: left) s = sync_cameras ctx mode left s := by
  simp only [sync_cameras, h, Bool.false_eq_true, if_false]

theorem sync_refused {e : String} {devices : V} (h : (s.cam i).enabled = true)
    (hr : ctx.v4l2.set_trigger_mode (s.cam i).device mode s.devices = (.error e, devices)) :
    sync_cameras ctx mode (i :: left) s = (.error ⟨kFailed, e⟩, { s with devices := devices }) := by
  simp only [sync_cameras, h, if_true, hr]

theorem sync_taken {devices : V} (h : (s.cam i).enabled = true)
    (hr : ctx.v4l2.set_trigger_mode (s.cam i).device mode s.devices = (.ok (), devices)) :
    sync_cameras ctx mode (i :: left) s = sync_cameras ctx mode left
      { s with config := s.config.set_camera i { s.cam i with trigger := mode }, devices := devices } := by
  simp only [sync_cameras, h, if_true, hr]

/-- Past the precheck, every enabled camera is on the v4l2 path. -/
theorem sync_precheck_none {config : Config D} (h : sync_precheck config = none) (c : Fin kNumCameras)
    (he : (config.cameras c).enabled = true) : (config.cameras c).source = "v4l2" := by
  have hf := List.find?_eq_none.1 (Option.map_eq_none_iff.1 h) c (List.mem_finRange c)
  simpa [he] using hf

theorem sync_precheck_v4l2 {config : Config D} (h : ∀ c, (config.cameras c).source = "v4l2") :
    sync_precheck config = none := by
  rw [sync_precheck, Option.map_eq_none_iff, List.find?_eq_none]
  intro c _
  simp [h c]

theorem cameras_eq : cameras = [0, 1] := rfl

/-- With one camera left, an error comes from that camera, and it changed nothing. -/
theorem sync_last_error (hk : ctx.v4l2.Keeps settings) {e : ControlError}
    (h : (sync_cameras ctx mode [i] s).1 = .error e) : Untouched settings s (sync_cameras ctx mode [i] s).2 := by
  rcases hi : (s.cam i).enabled with - | -
  · rw [sync_disabled hi] at h
    cases h
  · rcases hr : ctx.v4l2.set_trigger_mode (s.cam i).device mode s.devices with ⟨e' | u, devices⟩
    · have hset := hk.set_trigger_mode (s.cam i).device mode s.devices e' (by rw [hr])
      rw [hr] at hset
      rw [sync_refused hi hr]
      exact ⟨rfl, hset⟩
    · rw [sync_taken hi hr] at h
      cases h

/-- A trigger mode written to a camera is the camera's own where it had it before. -/
theorem set_trigger_self {config : Config D} :
    (config.set_camera i { config.cameras i with trigger := mode }).cameras = config.cameras ↔
      (config.cameras i).trigger = mode := by
  constructor
  · intro h
    rw [← h, Config.set_camera_self]
  · intro h
    subst h
    exact Function.update_eq_self i config.cameras

theorem sync_error_iff [Doubles D] (hk : ctx.v4l2.Keeps settings) (params : Option (Members D)) :
    (∀ e, (SetSyncHandler ctx params s).1 = .error e → Untouched settings s (SetSyncHandler ctx params s).2) ↔
      ¬ SyncSplits ctx settings params s := by
  rcases hb : param_bool params "enabled" with - | enabled
  · simp only [SetSyncHandler, SyncSplits, hb]
    refine iff_of_true (fun _ _ => .refl) ?_
    rintro ⟨enabled, h, -⟩
    cases h
  rcases hp : sync_precheck s.config with - | e
  swap
  · simp only [SetSyncHandler, hb, hp]
    refine iff_of_true (fun _ _ => .refl) ?_
    rintro ⟨_, _, hall, -⟩
    rw [sync_precheck_v4l2 fun c => (hall c).2] at hp
    cases hp
  have hrun : SetSyncHandler ctx params s = sync_cameras ctx (sync_mode enabled) [0, 1] s := by
    simp only [SetSyncHandler, hb, hp, cameras_eq]
  rw [hrun]
  rcases h0 : (s.cam 0).enabled with - | -
  · -- the first camera is left out
    rw [sync_disabled h0]
    refine iff_of_true (fun _ => sync_last_error hk) ?_
    rintro ⟨_, _, hall, -⟩
    rw [(hall 0).1] at h0
    cases h0
  rcases hf : ctx.v4l2.set_trigger_mode (s.cam 0).device (sync_mode enabled) s.devices with ⟨e | u, devices⟩
  · -- the first camera refuses
    have hset := hk.set_trigger_mode (s.cam 0).device (sync_mode enabled) s.devices e (by rw [hf])
    rw [hf] at hset
    rw [sync_refused h0 hf]
    refine iff_of_true (fun _ _ => ⟨rfl, hset⟩) ?_
    rintro ⟨enabled', hb', -, hok, -⟩
    cases hb.symm.trans hb'
    rw [hf] at hok
    cases hok
  rw [sync_taken h0 hf]
  -- the second camera is as it was, whatever the first one took
  have hcam1 : (s.config.set_camera 0 { s.cam 0 with trigger := sync_mode enabled }).cameras 1 = s.cam 1 :=
    Config.set_camera_other _ _ (by decide)
  rcases h1 : (s.cam 1).enabled with - | -
  · rw [sync_disabled (by rw [ControlState.cam, hcam1, h1])]
    refine iff_of_true (fun _ h => by cases h) ?_
    rintro ⟨_, _, hall, -⟩
    rw [(hall 1).1] at h1
    cases h1
  rcases hs : ctx.v4l2.set_trigger_mode (s.cam 1).device (sync_mode enabled) devices with ⟨e | u, devices'⟩
  swap
  · rw [sync_taken (by rw [ControlState.cam, hcam1, h1]) (by rw [ControlState.cam, hcam1, hs])]
    refine iff_of_true (fun _ h => by cases h) ?_
    rintro ⟨enabled', hb', -, -, ⟨e, he⟩, -⟩
    cases hb.symm.trans hb'
    rw [hf, hs] at he
    cases he
  -- and now the second one refuses
  have hset := hk.set_trigger_mode (s.cam 1).device (sync_mode enabled) devices e (by rw [hs])
  rw [hs] at hset
  rw [sync_refused (by rw [ControlState.cam, hcam1, h1]) (by rw [ControlState.cam, hcam1, hs])]
  constructor
  · rintro h ⟨enabled', hb', _, _, _, hnews⟩
    cases hb.symm.trans hb'
    obtain ⟨hcameras, hdevices⟩ := h _ rfl
    rw [hf] at hnews
    rcases hnews with hnews | hnews
    · exact hnews (set_trigger_self.1 hcameras)
    · exact hnews (hset.symm.trans hdevices)
  · intro hn _ _
    have henabled : ∀ c : Fin 2, (s.cam c).enabled = true := Fin.forall_fin_two.2 ⟨h0, h1⟩
    have hsame : (s.cam 0).trigger = sync_mode enabled ∧ settings devices = settings s.devices := by
      by_contra hc
      refine hn ⟨enabled, hb, fun c => ⟨henabled c, sync_precheck_none hp c (henabled c)⟩, by rw [hf],
        ⟨e, by rw [hf, hs]⟩, ?_⟩
      rw [hf]
      exact not_and_or.1 hc
    exact ⟨set_trigger_self.2 hsame.1, hset.trans hsame.2⟩

end Sync

/-- The condition on a request: it is no set-sync that splits the cameras. -/
def SettingRequest.Sound (ctx : ControlContext D S V) (settings : V → R) (s : ControlState D S V) :
    SettingRequest D → Prop
  | sync params => ¬ SyncSplits ctx settings params s
  | _ => True

/-- An error reply means that nothing changed, for every request but a set-sync
that the first camera takes and the second refuses. -/
theorem error_reply_iff (stream : IStreamController D S) (notify_stream : Option (Fin kNumCameras → Bool → S → S))
    {kernel : V4l2.Kernel V} {settings : V → R} (hk : kernel.Keeps settings) (r : SettingRequest D)
    (s : ControlState D S V) :
    (∀ e, (r.handle ⟨stream, V4l2.V4l2Device kernel, notify_stream⟩ s).1 = .error e →
      Untouched settings s (r.handle ⟨stream, V4l2.V4l2Device kernel, notify_stream⟩ s).2) ↔
    r.Sound ⟨stream, V4l2.V4l2Device kernel, notify_stream⟩ settings s := by
  have hv := v4l2_keeps hk
  cases r with
  | setting r =>
    simp only [SettingRequest.Sound, iff_true]
    exact fun e h => setting_error hv h
  | trigger params =>
    simp only [SettingRequest.Sound, iff_true]
    exact fun e h => trigger_error hv h
  | sync params => exact sync_error_iff hv params

/-! ## A camera that is unplugged -/

/-- Both cameras on the v4l2 path. -/
def both_v4l2 : KeyFile Rat where
  integer _ _ := none
  boolean _ _ := none
  double _ _ := none
  string _ key := if key = "source" then some "v4l2" else none
  keys _ := []

/-- Only the first sensor is there; the state is its trigger mode. -/
def one_sensor : V4l2.Kernel Int where
  open_node path mode := if path = "/dev/video0" then (.ok (), mode) else (.error "No such file or directory", mode)
  query_ext_ctrls _ _ := [⟨0x9a2001, 1, "Trigger Mode", 0, 7, 1, 0, 0⟩]
  g_ext_ctrls _ _ mode := some mode
  s_ext_ctrls _ _ value _ := (.ok (), value)

theorem one_sensor_keeps : one_sensor.Keeps id where
  open_node path mode := by
    unfold one_sensor
    dsimp only
    split <;> rfl
  s_ext_ctrls path control value mode errno h := nomatch h

/-- Nothing is served. -/
def no_stream : IStreamController Rat Unit where
  set_source_property _ _ _ s := (false, s)
  refresh_launch _ _ s := s

def free_running : ControlState Rat Unit Int := ⟨FileConfigLoader.load (some both_v4l2), (), 0⟩

/-- A trigger mode that the second camera refuses. -/
def trigger_second : SettingRequest Rat := .trigger (some [("camera", .int 1), ("mode", .int 1)])

theorem error_reply_iff_unplugged :
    Untouched id free_running (trigger_second.handle ⟨no_stream, V4l2.V4l2Device one_sensor, none⟩ free_running).2 :=
  (error_reply_iff no_stream none one_sensor_keeps trigger_second free_running).2 trivial
    ⟨kFailed, "/dev/video1: No such file or directory"⟩ rfl

/-- A set-sync that fails on the second camera leaves the first one triggered. -/
theorem sync_half_applied :
    ¬ ∀ (kernel : V4l2.Kernel Int) (r : SettingRequest Rat) (s : ControlState Rat Unit Int), kernel.Keeps id →
      ∀ e, (r.handle ⟨no_stream, V4l2.V4l2Device kernel, none⟩ s).1 = .error e →
        Untouched id s (r.handle ⟨no_stream, V4l2.V4l2Device kernel, none⟩ s).2 := by
  intro hall
  let r : SettingRequest Rat := .sync (some [("enabled", .bool true)])
  have hsound := (error_reply_iff no_stream none one_sensor_keeps r free_running).1
    (hall one_sensor r free_running one_sensor_keeps)
  refine hsound ⟨true, rfl, ?_, rfl, ⟨_, rfl⟩, .inr ?_⟩
  · exact Fin.forall_fin_two.2 ⟨⟨rfl, rfl⟩, ⟨rfl, rfl⟩⟩
  · decide

end CameraStreamer.Control
