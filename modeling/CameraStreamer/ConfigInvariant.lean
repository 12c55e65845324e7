import CameraStreamer.IspLaunch
/-!
# What a configuration always satisfies

`ValidConfig` is what everything downstream takes for granted. The loader and
the request handlers write the same fields with checks of their own, and some
without: `valid_iff` says from which key files and over which requests the
configuration stays valid.
-/

namespace CameraStreamer

/-! ## Comparing doubles -/

namespace Doubles
variable {D : Type} [Doubles D]

/-- No NaN. -/
def Number (d : D) : Prop := le d d = true

/-- IEEE comparisons: with a NaN they are false, and numbers are in order. -/
structure Ordered (D : Type) [Doubles D] : Prop where
  le_number : ∀ {a b : D}, le a b = true → Number a ∧ Number b
  lt_iff : ∀ {a b : D}, lt a b = true ↔ Number a ∧ Number b ∧ le b a = false
  ofInt_le : ∀ {i j : Int}, 0 ≤ i → i ≤ j → j ≤ 8 → le (ofInt i : D) (ofInt j) = true
  half : le (ofInt 0) (div (ofInt 1) (ofInt 2) : D) = true ∧ le (div (ofInt 1) (ofInt 2) : D) (ofInt 1) = true

namespace Ordered
variable (h : Ordered D)
include h

theorem number_ofInt {i : Int} (h0 : 0 ≤ i) (h8 : i ≤ 8) : Number (ofInt i : D) := h.ofInt_le h0 (Int.le_refl i) h8

theorem le_of_not_lt {a b : D} (ha : Number a) (hb : Number b) (hlt : lt a b = false) : le b a = true := by
  by_contra hle
  rw [Bool.not_eq_true] at hle
  rw [h.lt_iff.2 ⟨ha, hb, hle⟩] at hlt
  cases hlt

/-- What passes a range check is in the range, or no number. -/
theorem in_range_iff {low high v : D} (hlow : Number low) (hhigh : Number high) (hl : lt v low = false)
    (hh : lt high v = false) : le low v = true ∧ le v high = true ↔ Number v :=
  ⟨fun hv => (h.le_number hv.1).2, fun hv => ⟨h.le_of_not_lt hv hlow hl, h.le_of_not_lt hhigh hv hh⟩⟩

/-- A clamped value is in the range, or no number. -/
theorem clamp_iff {low high v : D} (hle : le low high = true) :
    le low (clamp v low high) = true ∧ le (clamp v low high) high = true ↔ Number v := by
  obtain ⟨hlow, hhigh⟩ := h.le_number hle
  unfold clamp
  rcases hh : lt high v with - | -
  · rcases hl : lt v low with - | -
    · exact h.in_range_iff hlow hhigh hl hh
    · exact iff_of_true ⟨hlow, hle⟩ (h.lt_iff.1 hl).1
  · exact iff_of_true ⟨hle, hhigh⟩ (h.lt_iff.1 hh).2.1

end Ordered

end Doubles

open Doubles

/-! ## Validity -/

section Valid
variable {D : Type} [Doubles D]

structure ValidCamera (cam : CameraConfig D) : Prop where
  source : cam.source ∈ ["argus", "v4l2", "test"]
  codec : cam.codec ∈ ["h265", "h264"]
  zoom : le (ofInt 1) cam.zoom = true ∧ le cam.zoom (ofInt 8) = true
  zoom_x : le (ofInt 0) cam.zoom_x = true ∧ le cam.zoom_x (ofInt 1) = true
  zoom_y : le (ofInt 0) cam.zoom_y = true ∧ le cam.zoom_y (ofInt 1) = true
  exposure : 0 ≤ cam.exposure
  gain : le (ofInt 0) cam.gain = true
  isp : ∀ p ∈ cam.isp, p.1 ∈ Control.kIspParams

structure ValidServer (config : Config D) : Prop where
  port : 1 ≤ config.port ∧ config.port ≤ 65535
  control_port : 0 ≤ config.control_port ∧ config.control_port ≤ 65535
  discovery_port : 0 ≤ config.discovery_port ∧ config.discovery_port ≤ 65535
  update_port : 0 ≤ config.update_port ∧ config.update_port ≤ 65535
  transports : config.transports ∈ ["usb", "network"]
  transport : config.transport ∈ ["tcp", "udp", "all"]

def ValidConfig (config : Config D) : Prop := ValidServer config ∧ ∀ c, ValidCamera (config.cameras c)

/-- After a write to one camera, what counts is that camera. -/
theorem valid_set_camera {config : Config D} (h : ValidConfig config) (c : Fin kNumCameras) (cam : CameraConfig D) :
    ValidConfig (config.set_camera c cam) ↔ ValidCamera cam := by
  constructor
  · intro h'
    have hc := h'.2 c
    rwa [Config.set_camera_self] at hc
  · intro hcam
    refine ⟨{ h.1 with }, fun c' => ?_⟩
    by_cases hc : c' = c
    · rw [hc, Config.set_camera_self]
      exact hcam
    · rw [Config.set_camera_other _ _ hc]
      exact h.2 c'

end Valid

/-! ## Loaded configurations -/

namespace FileConfigLoader
variable {D : Type} [Doubles D]

/-- The file's numbers are in the ranges that the loader does not check, and its overrides on the whitelist. -/
structure GoodCamera (kf : KeyFile D) (group : String) : Prop where
  exposure : ∀ us, kf.integer group "exposure" = some us → 0 ≤ us
  gain : ∀ gain, kf.double group "gain" = some gain → le (ofInt 0) gain = true
  zoom : ∀ zoom, kf.double group "zoom" = some zoom → Number zoom
  zoom_x : ∀ x, kf.double group "zoom-x" = some x → Number x
  zoom_y : ∀ y, kf.double group "zoom-y" = some y → Number y
  isp : ∀ key ∈ kf.keys group, ∀ p, isp_entry kf group key = some p → p.1 ∈ Control.kIspParams

def GoodFile (file : Option (KeyFile D)) : Prop :=
  ∀ kf, file = some kf → ∀ c : Fin kNumCameras, GoodCamera kf ("cam" ++ toString c.val)

omit [Doubles D] in
theorem get_port_range {kf : KeyFile D} {key : String} {low default : Int} (h : low ≤ default ∧ default ≤ 65535) :
    low ≤ get_port kf "server" key low default ∧ get_port kf "server" key low default ≤ 65535 := by
  unfold get_port
  dsimp only
  split
  · exact h
  · omega

omit [Doubles D] in
/-- A value with a default that satisfies `P` does so if what the file has does. -/
theorem getD_iff {α : Type} {P : α → Prop} {default : α} (h : P default) (o : Option α) :
    P (o.getD default) ↔ ∀ a, o = some a → P a := by
  rcases o with - | a
  · simp [h]
  · simp

theorem load_zoom_iff (h : Ordered D) (zoom : D) :
    le (ofInt 1) (load_zoom zoom) = true ∧ le (load_zoom zoom) (ofInt 8) = true ↔ Number zoom := by
  have h1 : Number (ofInt 1 : D) := h.number_ofInt (by omega) (by omega)
  have h8 : Number (ofInt 8 : D) := h.number_ofInt (by omega) (by omega)
  unfold load_zoom
  rcases hl : lt zoom (ofInt 1) with - | -
  · rcases hh : lt (ofInt 8) zoom with - | -
    · exact h.in_range_iff h1 h8 hl hh
    · exact iff_of_true ⟨h1, h.ofInt_le (by omega) (by omega) (by omega)⟩ (h.lt_iff.1 hh).2.1
  · exact iff_of_true ⟨h1, h.ofInt_le (by omega) (by omega) (by omega)⟩ (h.lt_iff.1 hl).1

theorem builtin_camera_valid (h : Ordered D) (c : Fin kNumCameras) : ValidCamera
    (builtin_camera c : CameraConfig D) where
  source := by simp [builtin_camera]
  codec := by simp [builtin_camera]
  zoom := ⟨h.ofInt_le (by omega) (by omega) (by omega), h.ofInt_le (by omega) (by omega) (by omega)⟩
  zoom_x := h.half
  zoom_y := h.half
  exposure := Int.le_refl 0
  gain := h.ofInt_le (by omega) (by omega) (by omega)
  isp _ hp := nomatch hp

theorem load_camera_valid_iff (h : Ordered D) (kf : KeyFile D) (c : Fin kNumCameras) :
    ValidCamera (load_camera kf c (builtin_camera c)) ↔ GoodCamera kf ("cam" ++ toString c.val) := by
  have hb := builtin_camera_valid h c
  have h01 : le (ofInt 0 : D) (ofInt 1) = true := h.ofInt_le (by omega) (by omega) (by omega)
  have hnumber {d : D} {e : D} (hd : le e d = true) : Number d := (h.le_number hd).2
  -- each field of the camera against the key it is read from
  have hexposure := getD_iff (P := (0 ≤ ·)) hb.exposure (kf.integer ("cam" ++ toString c.val) "exposure")
  have hgain := getD_iff (P := fun g => le (ofInt 0) g = true) hb.gain (kf.double ("cam" ++ toString c.val) "gain")
  have hzoom := getD_iff (P := Number) (hnumber hb.zoom.1) (kf.double ("cam" ++ toString c.val) "zoom")
  have hx := getD_iff (P := Number) (hnumber hb.zoom_x.1) (kf.double ("cam" ++ toString c.val) "zoom-x")
  have hy := getD_iff (P := Number) (hnumber hb.zoom_y.1) (kf.double ("cam" ++ toString c.val) "zoom-y")
  constructor
  · intro hv
    refine ⟨hexposure.1 hv.exposure, hgain.1 hv.gain, hzoom.1 ((load_zoom_iff h _).1 hv.zoom),
      hx.1 ((h.clamp_iff h01).1 hv.zoom_x), hy.1 ((h.clamp_iff h01).1 hv.zoom_y), ?_⟩
    intro key hkey p hp
    exact hv.isp p (mem_load_isp.2 ⟨key, hkey, hp⟩)
  · intro hg
    refine ⟨get_choice_mem hb.source, get_choice_mem hb.codec, (load_zoom_iff h _).2 (hzoom.2 hg.zoom),
      (h.clamp_iff h01).2 (hx.2 hg.zoom_x), (h.clamp_iff h01).2 (hy.2 hg.zoom_y), hexposure.2 hg.exposure,
      hgain.2 hg.gain, ?_⟩
    intro p hp
    obtain ⟨key, hkey, hp⟩ := mem_load_isp.1 hp
    exact hg.isp key hkey p hp

theorem builtin_server_valid : ValidServer (builtin : Config D) := by
  constructor <;> simp [builtin]

theorem load_server_valid (file : Option (KeyFile D)) : ValidServer (load file : Config D) := by
  have hb : ValidServer (builtin : Config D) := builtin_server_valid
  rcases file with - | kf
  · exact hb
  · refine ⟨get_port_range hb.port, get_port_range hb.control_port, get_port_range hb.discovery_port,
      get_port_range hb.update_port, ?_, get_choice_mem hb.transport⟩
    -- the last check of the loader only repeats what the choice gave
    have hmem : get_choice kf "server" "transports" (builtin : Config D).transports ["network", "usb"] ∈
        ["network", "usb"] := get_choice_mem (by simp [builtin])
    simp only [List.mem_cons, List.not_mem_nil, or_false] at hmem
    show (if _ then _ else _) ∈ _
    rcases hmem with hmem | hmem
    · rw [hmem]
      decide
    · rw [hmem]
      decide

/-- What the file has to be for the configuration to be valid. -/
theorem load_valid_iff (h : Ordered D) (file : Option (KeyFile D)) :
    ValidConfig (load file : Config D) ↔ GoodFile file := by
  rw [ValidConfig, and_iff_right (load_server_valid file)]
  rcases file with - | kf
  · refine iff_of_true (builtin_camera_valid h) ?_
    intro kf hkf
    cases hkf
  · constructor
    · intro hv kf' hkf c
      cases hkf
      exact (load_camera_valid_iff h kf c).1 (hv c)
    · intro hg c
      exact (load_camera_valid_iff h kf c).2 (hg kf rfl c)

end FileConfigLoader

/-! ## Requests -/

namespace Control

open Json Runs

variable {D S V : Type}

/-- Any request: one that changes a setting, or another, whose handler only reads the configuration. -/
inductive AnyRequest (D S V : Type) where
  | setting (r : SettingRequest D)
  | other (handler : Config D → Option (Members D) → S × V → HandlerResult D × S × V) (params : Option (Members D))
  /-- The reload that a reload request queues: the file is read again, and the servers are started with what
  it says. If they do not start, the configuration is what it was. -/
  | reload (file : Option (KeyFile D)) (starts : Bool) (restart : Config D → S × V → S × V)

variable [Doubles D]

def AnyRequest.handle (ctx : ControlContext D S V) :
    AnyRequest D S V → ControlState D S V → HandlerResult D × ControlState D S V
  | setting r, s => r.handle ctx s
  | other handler params, s =>
    let (res, stream, devices) := handler s.config params (s.stream, s.devices)
    (res, { s with stream := stream, devices := devices })
  | reload file starts restart, s =>
    let config := if starts then FileConfigLoader.load file else s.config
    let (stream, devices) := restart config (s.stream, s.devices)
    -- the request was answered before
    (.ok (.object []), { s with config := config, stream := stream, devices := devices })

/-- The condition on a request. An exposure that is applied stays positive in 32
bits, the doubles that are written are numbers, and a file that is kept is good. -/
def Good (ctx : ControlContext D S V) (s : ControlState D S V) : AnyRequest D S V → Prop
  | .setting (.setting ⟨.exposure, params⟩) =>
    ∀ c us, param_camera params = some c → param_us params = some us →
      applies ctx s c "exposure" (exposure_value us) = true → us % 2 ^ 32 < 2 ^ 31
  | .setting (.setting ⟨.gain, params⟩) =>
    ∀ c gain, param_camera params = some c → param_gain params = some gain →
      applies ctx s c "gain" (gain_value gain) = true → Number gain
  | .setting (.setting ⟨.zoom, params⟩) =>
    ∀ c factor, param_camera params = some c → param_factor params = some factor →
      Number factor ∧ ∀ name ∈ ["x", "y"], ∀ v, param_double params name = some v → Number v
  | .reload file starts _ => starts = true → FileConfigLoader.GoodFile file
  | _ => True

section Steps
variable {ctx : ControlContext D S V} {s : ControlState D S V} {c : Fin kNumCameras} {params : Option (Members D)}

/-- A 32-bit integer is not negative when its top bit is clear. -/
theorem to_int_nonneg (us : Int) : 0 ≤ to_int us ↔ us % 2 ^ 32 < 2 ^ 31 := by
  unfold to_int
  rw [Int.bmod_def]
  norm_num
  split <;> omega

theorem valid_exposure {cam : CameraConfig D} (h : ValidCamera cam) (us : Int) :
    ValidCamera { cam with exposure := to_int us } ↔ us % 2 ^ 32 < 2 ^ 31 := by
  rw [← to_int_nonneg]
  exact ⟨fun h' => h'.exposure, fun hus => ⟨h.source, h.codec, h.zoom, h.zoom_x, h.zoom_y, hus, h.gain, h.isp⟩⟩

theorem valid_gain (ho : Ordered D) {cam : CameraConfig D} (h : ValidCamera cam) {gain : D}
    (hg : param_gain params = some gain) : ValidCamera { cam with gain := gain } ↔ Number gain := by
  have hlt : lt gain (ofInt 0) = false := by simpa using (Option.filter_eq_some_iff.1 hg).2
  have h0 : Number (ofInt 0 : D) := ho.number_ofInt (by omega) (by omega)
  exact ⟨fun h' => (ho.le_number h'.gain).2, fun hn =>
    ⟨h.source, h.codec, h.zoom, h.zoom_x, h.zoom_y, h.exposure, ho.le_of_not_lt hn h0 hlt, h.isp⟩⟩

theorem valid_zoom (ho : Ordered D) {cam : CameraConfig D} (h : ValidCamera cam) {factor : D}
    (hf : param_factor params = some factor) :
    ValidCamera { cam with
      zoom_x := ((param_double params "x").map (clamp · (ofInt 0) (ofInt 1))).getD cam.zoom_x
      zoom_y := ((param_double params "y").map (clamp · (ofInt 0) (ofInt 1))).getD cam.zoom_y
      zoom := factor } ↔
    Number factor ∧ ∀ name ∈ ["x", "y"], ∀ v, param_double params name = some v → Number v := by
  have h1 : Number (ofInt 1 : D) := ho.number_ofInt (by omega) (by omega)
  have h8 : Number (ofInt 8 : D) := ho.number_ofInt (by omega) (by omega)
  have h01 : le (ofInt 0 : D) (ofInt 1) = true := ho.ofInt_le (by omega) (by omega) (by omega)
  have hrange := (Option.filter_eq_some_iff.1 hf).2
  simp only [Bool.and_eq_true, Bool.not_eq_true'] at hrange
  have hfactor := ho.in_range_iff h1 h8 hrange.1 hrange.2
  -- a centre is the old one, or a clamped new one
  have hcentre (name : String) {old : D} (hold : le (ofInt 0) old = true ∧ le old (ofInt 1) = true) :
      (le (ofInt 0) (((param_double params name).map (clamp · (ofInt 0) (ofInt 1))).getD old) = true ∧
        le (((param_double params name).map (clamp · (ofInt 0) (ofInt 1))).getD old) (ofInt 1) = true) ↔
      ∀ v, param_double params name = some v → Number v := by
    rcases param_double params name with - | v
    · simp [hold]
    · simpa using ho.clamp_iff h01
  simp only [List.mem_cons, List.not_mem_nil, or_false, forall_eq_or_imp, forall_eq]
  constructor
  · intro h'
    exact ⟨hfactor.1 h'.zoom, (hcentre "x" h.zoom_x).1 h'.zoom_x, (hcentre "y" h.zoom_y).1 h'.zoom_y⟩
  · rintro ⟨hn, hx, hy⟩
    exact ⟨h.source, h.codec, hfactor.2 hn, (hcentre "x" h.zoom_x).2 hx, (hcentre "y" h.zoom_y).2 hy, h.exposure,
      h.gain, h.isp⟩

theorem valid_isp {cam : CameraConfig D} (h : ValidCamera cam) {name : String} (hn : name ∈ kIspParams)
    (value : String) : ValidCamera { cam with isp := write_isp name value cam.isp } := by
  refine ⟨h.source, h.codec, h.zoom, h.zoom_x, h.zoom_y, h.exposure, h.gain, fun p hp => ?_⟩
  dsimp only [write_isp] at hp
  split at hp
  · exact h.isp p (StringMap.erase_mem hp)
  · rcases StringMap.assign_mem hp with rfl | hp
    · exact hn
    · exact h.isp p hp

/-- The trigger is no part of what has to be valid. -/
theorem valid_trigger {config : Config D} (h : ValidConfig config) (c : Fin kNumCameras) (mode : Int) :
    ValidConfig (config.set_camera c { config.cameras c with trigger := mode }) := by
  have hc := h.2 c
  exact (valid_set_camera h c _).2
    { hc with }

theorem valid_sync (mode : Int) (left : List (Fin kNumCameras)) (h : ValidConfig s.config) :
    ValidConfig (sync_cameras ctx mode left s).2.config := by
  induction left generalizing s with
  | nil => exact h
  | cons i left ih =>
    rcases hi : (s.cam i).enabled with - | -
    · rw [sync_disabled hi]
      exact ih h
    · rcases hr : ctx.v4l2.set_trigger_mode (s.cam i).device mode s.devices with ⟨e | u, devices⟩
      · rw [sync_refused hi hr]
        exact h
      · rw [sync_taken hi hr]
        exact ih (valid_trigger h i mode)

/-- A camera's new setting counts only where the source takes it. -/
theorem valid_if_applied (h : ValidConfig s.config) (applied : Bool) {cam : CameraConfig D} {P : Prop}
    (hcam : ValidCamera cam ↔ P) :
    ValidConfig (if applied then s.config.set_camera c cam else s.config) ↔ (applied = true → P) := by
  cases applied with
  | true =>
    rw [if_pos rfl, valid_set_camera h, hcam]
    exact ⟨fun hP _ => hP, fun hP => hP rfl⟩
  | false => exact iff_of_true h (fun hf => by cases hf)

theorem valid_setting (ho : Ordered D) (h : ValidConfig s.config) (r : Request D) :
    ValidConfig (r.handle ctx s).2.config ↔ Good ctx s (.setting (.setting r)) := by
  obtain ⟨setting, params⟩ := r
  rcases hc : param_camera params with - | c
  · rw [handle_no_camera hc]
    refine iff_of_true h ?_
    cases setting with
    | exposure =>
      intro c us hc'
      rw [hc] at hc'
      cases hc'
    | gain =>
      intro c gain hc'
      rw [hc] at hc'
      cases hc'
    | zoom =>
      intro c factor hc'
      rw [hc] at hc'
      cases hc'
    | stream => trivial
    | isp => trivial
  have hcam : ValidCamera (s.cam c) := h.2 c
  cases setting with
  | stream =>
    refine iff_of_true ?_ trivial
    show ValidConfig (SetStreamHandler ctx params s).2.config
    simp only [SetStreamHandler, require_camera, hc]
    rcases param_bool params "enabled" with - | enabled
    · exact h
    · exact (valid_set_camera h c _).2
        { hcam with }
  | exposure =>
    show ValidConfig (SetExposureHandler ctx params s).2.config ↔ ∀ _ _, _
    rw [exposure_config ctx s hc]
    rcases hu : param_us params with - | us
    · exact iff_of_true h (fun _ _ _ hu' => by cases hu')
    · refine (valid_if_applied h _ (valid_exposure hcam us)).trans ?_
      constructor
      · intro hgood c' us' hc' hu' happ
        cases hc.symm.trans hc'
        cases hu'
        exact hgood happ
      · exact fun hgood => hgood c us hc rfl
  | gain =>
    show ValidConfig (SetGainHandler ctx params s).2.config ↔ ∀ _ _, _
    rw [gain_config ctx s hc]
    rcases hg : param_gain params with - | gain
    · exact iff_of_true h (fun _ _ _ hg' => by cases hg')
    · refine (valid_if_applied h _ (valid_gain ho hcam hg)).trans ?_
      constructor
      · intro hgood c' gain' hc' hg' happ
        cases hc.symm.trans hc'
        cases hg'
        exact hgood happ
      · exact fun hgood => hgood c gain hc rfl
  | zoom =>
    show ValidConfig (SetZoomHandler ctx params s).2.config ↔ ∀ _ _, _
    simp only [SetZoomHandler, require_camera, hc]
    rcases hf : param_factor params with - | factor
    · exact iff_of_true h (fun _ _ _ hf' => by cases hf')
    · refine (valid_set_camera h c _).trans ((valid_zoom ho hcam hf).trans ?_)
      constructor
      · intro hgood c' factor' _ hf'
        cases hf'
        exact hgood
      · intro hgood
        exact hgood c factor rfl rfl
  | isp =>
    refine iff_of_true ?_ trivial
    show ValidConfig (SetIspHandler ctx params s).2.config
    rw [isp_config hc]
    rcases hw : Request.isp_write s.config ⟨.isp, params⟩ with - | ⟨c', name, value⟩
    · exact h
    · exact (valid_set_camera h c' _).2 (valid_isp (h.2 c') (Request.isp_write_name hw) value)

theorem valid_step (ho : Ordered D) (h : ValidConfig s.config) (r : AnyRequest D S V) :
    ValidConfig (r.handle ctx s).2.config ↔ Good ctx s r := by
  cases r with
  | other handler params => exact iff_of_true h trivial
  | reload file starts restart =>
    cases starts with
    | false => exact iff_of_true h (fun hf => by cases hf)
    | true => exact (FileConfigLoader.load_valid_iff ho file).trans ⟨fun hfile _ => hfile, fun hgood => hgood rfl⟩
  | setting r =>
    cases r with
    | setting r => exact valid_setting ho h r
    | trigger params =>
      refine iff_of_true ?_ trivial
      show ValidConfig (SetTriggerHandler ctx params s).2.config
      unfold SetTriggerHandler
      rcases require_camera params with e | c
      · exact h
      rcases param_mode params with - | mode
      · exact h
      dsimp only
      rcases create_source (s.cam c).source with - | source
      · exact h
      rw [reply_state]
      rcases source with - | - | -
      · exact h
      · dsimp only [set_trigger]
        split
        · exact h
        · exact valid_trigger h c _
      · exact h
    | sync params =>
      refine iff_of_true ?_ trivial
      show ValidConfig (SetSyncHandler ctx params s).2.config
      unfold SetSyncHandler
      rcases param_bool params "enabled" with - | enabled
      · exact h
      dsimp only
      rcases sync_precheck s.config with - | e
      · exact valid_sync _ _ h
      · exact h

end Steps

/-! ## Every configuration of a run -/

section Run
variable (ctx : ControlContext D S V)

def take (s : ControlState D S V) (r : AnyRequest D S V) : Option (ControlState D S V) := some (r.handle ctx s).2

/-- From a key file on, over every sequence of requests and reloads, the configuration
is valid all along if and only if the file and each of them are good. -/
theorem valid_iff (ho : Ordered D) (file : Option (KeyFile D)) (stream : S) (devices : V)
    (requests : List (AnyRequest D S V)) :
    (∀ pre post s, requests = pre ++ post → Run (take ctx) (loaded file stream devices) pre s → ValidConfig s.config) ↔
      FileConfigLoader.GoodFile file ∧ Meets (take ctx) (Good ctx) (loaded file stream devices) requests := by
  have hruns (h0 : ValidConfig (FileConfigLoader.load file : Config D)) :
      (∀ pre post s, requests = pre ++ post → Run (take ctx) (loaded file stream devices) pre s → ValidConfig s.config) ↔
        Meets (take ctx) (Good ctx) (loaded file stream devices) requests := by
    refine always_iff_meets (fun _ => True) (fun s : ControlState D S V => ValidConfig s.config) (fun s r => ⟨_, rfl⟩)
      trivial h0
      (fun _ _ _ _ _ => trivial) ?_ requests
    intro s r s' _ hs h
    cases h
    exact valid_step ho hs r
  constructor
  · intro h
    have h0 : ValidConfig (FileConfigLoader.load file : Config D) := h [] requests _ rfl .nil
    exact ⟨(FileConfigLoader.load_valid_iff ho file).1 h0, (hruns h0).1 h⟩
  · rintro ⟨hfile, hm⟩
    exact (hruns ((FileConfigLoader.load_valid_iff ho file).2 hfile)).2 hm

end Run

/-! ## An exposure past 32 bits -/

theorem rat_ordered : Ordered Rat where
  le_number _ := ⟨decide_eq_true Rat.le_refl, decide_eq_true Rat.le_refl⟩
  lt_iff {a b} := by
    have ha : Number a := decide_eq_true Rat.le_refl
    have hb : Number b := decide_eq_true Rat.le_refl
    rw [and_iff_right ha, and_iff_right hb]
    show decide (a < b) = true ↔ decide (b ≤ a) = false
    rw [decide_eq_true_iff, decide_eq_false_iff_not, not_le]
  ofInt_le {i j} _ hij _ := by
    show decide ((i : Rat) ≤ j) = true
    rw [decide_eq_true_iff]
    exact_mod_cast hij
  half := by
    have h0 : (0 : Rat) ≤ 1 / 2 := by decide +kernel
    have h1 : (1 / 2 : Rat) ≤ 1 := by decide +kernel
    exact ⟨decide_eq_true (by exact_mod_cast h0), decide_eq_true (by exact_mod_cast h1)⟩

def set_exposure_request (us : Int) : AnyRequest Rat Unit Int :=
  .setting (.setting ⟨.exposure, some [("camera", .int 0), ("us", .int us)]⟩)

theorem valid_iff_exposure :
    ValidConfig ((set_exposure_request 5000).handle bench (loaded (some both_argus) () 0)).2.config := by
  refine (valid_iff bench rat_ordered (some both_argus) () 0 [set_exposure_request 5000]).2 ⟨?_, ?_⟩
    [set_exposure_request 5000] [] _ rfl (.snoc .nil rfl)
  · intro kf hkf c
    cases hkf
    exact ⟨fun _ h => (nomatch h), fun _ h => (nomatch h), fun _ h => (nomatch h), fun _ h => (nomatch h),
      fun _ h => (nomatch h), fun _ h => (nomatch h)⟩
  · refine Meets.nil.snoc .nil ?_
    intro c us _ hus _
    cases hus
    decide

/-- 2^31 µs pass the check of the request and are stored as a negative exposure. -/
theorem exposure_turns_negative :
    ¬ ∀ (file : Option (KeyFile Rat)) requests s, Run (take bench) (loaded file () 0) requests s →
      ValidConfig s.config := by
  intro hall
  have hm := ((valid_iff bench rat_ordered none () 0 [set_exposure_request (2 ^ 31)]).1
    fun pre post s _ hr => hall none pre s hr).2
  have hgood := hm [] _ [] _ rfl .nil 0 (2 ^ 31) rfl rfl rfl
  exact absurd hgood (by decide)

end Control

end CameraStreamer
