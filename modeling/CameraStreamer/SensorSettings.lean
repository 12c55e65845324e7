import CameraStreamer.RtspLaunch
/-!
# The sensor settings of a configuration

An Argus source takes exposure and gain from the launch string. The settings of a
V4L2 source are written to the device by `apply_initial_settings`, which
`RtspServer::start` calls and the USB branch of `Application::start_servers` does
not. We follow the application from start to start, with what each device was
told.
-/

namespace CameraStreamer.SensorSettings

open Runs Control RtspServer

/-! ## What a device is told -/

inductive Setting where
  | control (device control : String) (value : Int)
  | trigger (device : String) (mode : Int)
  deriving DecidableEq

/-- What the setting replaces. -/
def Setting.key : Setting → String × Option String
  | .control device name _ => (device, some name)
  | .trigger device _ => (device, none)

structure Told where
  setting : Setting
  taken : Bool

section Log
variable {V : Type} (v4l2 : V4l2Device V)

/-- The devices, and what they were told so far. -/
def logged : V4l2Device (V × List Told) where
  get_control device control s :=
    let (r, v) := v4l2.get_control device control s.1
    (r, v, s.2)
  set_control device control value s :=
    let (r, v) := v4l2.set_control device control value s.1
    (r, v, s.2 ++ [⟨.control device control value, r.isOk⟩])
  set_trigger_mode device mode s :=
    let (r, v) := v4l2.set_trigger_mode device mode s.1
    (r, v, s.2 ++ [⟨.trigger device mode, r.isOk⟩])

/-- The devices were told these settings, in order. -/
def Tells (settings : List Setting) (s s' : V × List Told) : Prop :=
  ∃ told, s'.2 = s.2 ++ told ∧ told.map (·.setting) = settings

theorem Tells.refl (s : V × List Told) : Tells [] s s := ⟨[], by simp, rfl⟩

theorem Tells.trans {l l' : List Setting} {s t u : V × List Told} (h : Tells l s t) (h' : Tells l' t u) :
    Tells (l ++ l') s u := by
  obtain ⟨told, ht, hl⟩ := h
  obtain ⟨told', hu, hl'⟩ := h'
  exact ⟨told ++ told', by rw [hu, ht, List.append_assoc], by rw [List.map_append, hl, hl']⟩

theorem set_control_tells (device control : String) (value : Int) (s : V × List Told) :
    Tells [.control device control value] s ((logged v4l2).set_control device control value s).2 := ⟨_, rfl, rfl⟩

theorem set_trigger_mode_tells (device : String) (mode : Int) (s : V × List Told) :
    Tells [.trigger device mode] s ((logged v4l2).set_trigger_mode device mode s).2 := ⟨_, rfl, rfl⟩

/-- A setting that is only made where it is configured. -/
theorem Tells.ite {p : Prop} [Decidable p] {setting : Setting} {s s' : V × List Told} (h : Tells [setting] s s') :
    Tells (if p then [setting] else []) s (if p then s' else s) := by
  split
  · exact h
  · exact .refl s

end Log

/-! ## What a configuration asks for -/

section Configured
variable {D V : Type} [Doubles D]

def initial_settings (cam : CameraConfig D) : List Setting :=
  (if 0 < cam.exposure then [.control cam.device "exposure" cam.exposure] else []) ++
    (if Doubles.lt (Doubles.ofInt 0) cam.gain then [.control cam.device "gain" (Doubles.toInt cam.gain)] else []) ++
    (if 0 ≤ cam.trigger then [.trigger cam.device cam.trigger] else [])

/-- The settings of a camera, where it is enabled and a V4L2 one. -/
def camera_settings (config : Config D) (c : Fin kNumCameras) : List Setting :=
  if (config.cameras c).enabled ∧ create_source (config.cameras c).source = some .v4l2 then
    initial_settings (config.cameras c)
  else []

def configured (config : Config D) : List Setting := (List.finRange kNumCameras).flatMap (camera_settings config)

/-- The setting was made, and the device has taken none instead since but of the same configuration. -/
def Given (config : Config D) (log : List Told) (a : Setting) : Prop :=
  ∃ before taken since, log = before ++ ⟨a, taken⟩ :: since ∧
    ∀ b ∈ since, b.taken = true → b.setting.key = a.key → b.setting ∈ configured config

/-- Every device has been given what the configuration asks for. -/
def InEffect (config : Config D) (log : List Told) : Prop := ∀ a ∈ configured config, Given config log a

theorem Tells.in_effect {config : Config D} {s s' : V × List Told} (h : Tells (configured config) s s') :
    InEffect config s'.2 := by
  obtain ⟨told, hs, hl⟩ := h
  intro a ha
  rw [← hl] at ha
  obtain ⟨⟨_, taken⟩, ht, rfl⟩ := List.mem_map.1 ha
  obtain ⟨before, since, rfl⟩ := List.append_of_mem ht
  refine ⟨s.2 ++ before, taken, since, by rw [hs, List.append_assoc], ?_⟩
  intro b hb _ _
  rw [← hl]
  exact List.mem_map_of_mem (List.mem_append_right before (List.mem_cons_of_mem _ hb))

theorem apply_initial_settings_tells (v4l2 : V4l2Device V) (cam : CameraConfig D) (s : V × List Told) :
    Tells (initial_settings cam) s (V4l2Source.apply_initial_settings (logged v4l2) cam s) := by
  unfold initial_settings V4l2Source.apply_initial_settings
  apply Tells.trans
  · apply Tells.trans
    · exact (set_control_tells v4l2 _ _ _ s).ite
    · exact (set_control_tells v4l2 _ _ _ _).ite
  · exact (set_trigger_mode_tells v4l2 _ _ _).ite

variable {env : Env (V × List Told)} {v4l2 : V4l2Device V} {config : Config D}

theorem start_camera_tells (he : env.v4l2 = logged v4l2) (s : Mounts D × (V × List Told) × Nat) (c : Fin kNumCameras) :
    Tells (camera_settings config c) s.2.1 (start_camera env config s c).2.1 := by
  unfold start_camera camera_settings
  dsimp only
  by_cases henabled : (config.cameras c).enabled = true
  · rw [if_pos henabled]
    cases hs : create_source (config.cameras c).source with
    | none => simpa [henabled] using Tells.refl s.2.1
    | some source =>
      cases source with
      | v4l2 =>
        rw [if_pos ⟨henabled, rfl⟩, he]
        exact apply_initial_settings_tells v4l2 _ s.2.1
      | argus => simpa [henabled] using Tells.refl s.2.1
      | test => simpa [henabled] using Tells.refl s.2.1
  · rw [if_neg henabled, if_neg fun h => henabled h.1]
    exact .refl _

theorem start_cameras_tells (he : env.v4l2 = logged v4l2) (l : List (Fin kNumCameras))
    (s : Mounts D × (V × List Told) × Nat) :
    Tells (l.flatMap (camera_settings config)) s.2.1 (l.foldl (start_camera env config) s).2.1 := by
  induction l generalizing s with
  | nil => exact .refl _
  | cons c l ih =>
    rw [List.flatMap_cons, List.foldl_cons]
    exact (start_camera_tells he s c).trans (ih _)

/-- An RTSP server that has started has told the devices what is configured. -/
theorem start_tells (he : env.v4l2 = logged v4l2) {mounts mounts' : Mounts D} {s s' : V × List Told}
    (h : RtspServer.start env config mounts s = (.ok (), mounts', s')) : Tells (configured config) s s' := by
  unfold RtspServer.start at h
  dsimp only at h
  split at h
  · cases h
  · have hcameras : Tells (configured config) s ((List.finRange kNumCameras).foldl (start_camera env config)
        (mounts, s, 0)).2.1 := start_cameras_tells he _ _
    split at h
    · cases h
    · split at h
      · cases h
        exact hcameras
      · cases h

end Configured

/-! ## The application -/

/-- What a start finds outside. -/
structure Outside where
  readable : String → Bool
  resolve_listen : String → String
  attach : String → Int → Bool
  /-- The control server starts on an address and a port. -/
  control : String → Int → Except String Unit

inductive Place where
  | new
  | running
  /-- Within `reload`, before the old configuration is started again. -/
  | reverting
  | exiting
  deriving DecidableEq

structure Application (D V : Type) where
  place : Place
  config_ : Config D
  session : Bool
  devices : V × List Told

inductive Act (D : Type) where
  | start (file : Option (KeyFile D)) (o : Outside)
  /-- `reload`, up to the result of its first `start_servers`. -/
  | reload (file : Option (KeyFile D)) (o : Outside)
  | revert (o : Outside)
  /-- A session of the host, or a client. -/
  | session_start
  | session_stop
  | frame (c : Fin kNumCameras)

namespace Application
variable {D V : Type} [Doubles D] (v4l2 : V4l2Device V)

def new (devices : V) : Application D V := ⟨.new, FileConfigLoader.builtin, false, devices, []⟩

def start_control (config : Config D) (o : Outside) : Except String Unit :=
  if 0 < config.control_port then o.control (o.resolve_listen config.listen) config.control_port else .ok ()

/-- `start_servers`, as far as it can fail or reaches a device. Discovery, update
and the USB transport may fail to come up without failing it. -/
def start_servers (config : Config D) (o : Outside) (devices : V × List Told) :
    Except String Unit × (V × List Told) :=
  if config.transports = "usb" then (.ok (), devices)
  else
    let env : Env (V × List Told) := ⟨true, o.readable, o.resolve_listen, o.attach, logged v4l2⟩
    match RtspServer.start env config (fun _ => {}) devices with
    | (.error e, _, devices) => (.error e, devices)
    | (.ok (), _, devices) => (start_control config o, devices)

/-- The servers were stopped, and are started for `config`. -/
def restart (s : Application D V) (config : Config D) (o : Outside) (failed : Application D V → Application D V) :
    Application D V :=
  let (r, devices) := start_servers v4l2 config o s.devices
  let s := { s with session := false, devices := devices }
  match r with
  | .ok () => { s with place := .running, config_ := config }
  | .error _ => failed s

def step (s : Application D V) (a : Act D) : Option (Application D V) :=
  match s.place, a with
  | .new, .start file o => some (s.restart v4l2 (FileConfigLoader.load file) o fun s => { s with place := .exiting })
  -- a failed reload leaves the previous configuration
  | .running, .reload file o =>
    some (s.restart v4l2 (FileConfigLoader.load file) o fun s => { s with place := .reverting })
  | .reverting, .revert o => some (s.restart v4l2 s.config_ o fun s => { s with place := .exiting })
  | .running, .session_start => some { s with session := true }
  | .running, .session_stop => some { s with session := false }
  | .running, .frame c => if s.session ∧ (s.config_.cameras c).enabled then some s else none
  | _, _ => none

/-- While the application serves, before any frame and after it, the devices have
been given what is configured. -/
def Settled (s : Application D V) : Prop := s.place = .running → InEffect s.config_ s.devices.2

/-- A start over USB is for a configuration whose settings the devices have already. -/
def Ready (config : Config D) (log : List Told) : Prop := config.transports = "usb" → InEffect config log

def readies (s : Application D V) : Act D → Prop
  | .start file _ | .reload file _ => Ready (FileConfigLoader.load file) s.devices.2
  | .revert _ => Ready s.config_ s.devices.2
  | _ => True

variable {v4l2}

theorem start_servers_tells {config : Config D} {o : Outside} {devices devices' : V × List Told}
    (h : start_servers v4l2 config o devices = (.ok (), devices')) :
    if config.transports = "usb" then devices' = devices else Tells (configured config) devices devices' := by
  unfold start_servers at h
  split at h
  · rename_i husb
    rw [if_pos husb]
    cases h
    rfl
  · rename_i husb
    rw [if_neg husb]
    dsimp only at h
    split at h
    · cases h
    · rename_i hstart
      obtain rfl : _ = devices' := congrArg Prod.snd h
      exact start_tells rfl hstart

theorem restart_settled {s : Application D V} {config : Config D} {o : Outside}
    {failed : Application D V → Application D V} (hfailed : ∀ s, (failed s).place ≠ .running) :
    Settled (s.restart v4l2 config o failed) ↔ Ready config s.devices.2 := by
  unfold restart
  rcases hstart : start_servers v4l2 config o s.devices with ⟨r, devices⟩
  cases r with
  | ok _ =>
    have htells := start_servers_tells hstart
    show ((.running : Place) = .running → InEffect config devices.2) ↔ _
    by_cases husb : config.transports = "usb"
    · rw [if_pos husb] at htells
      rw [htells]
      exact ⟨fun h _ => h rfl, fun h _ => h husb⟩
    · rw [if_neg husb] at htells
      exact ⟨fun _ h => absurd h husb, fun _ _ => htells.in_effect⟩
  | error e =>
    -- only a start over the network fails
    have husb : config.transports ≠ "usb" := by
      intro husb
      rw [start_servers, if_pos husb] at hstart
      cases hstart
    exact ⟨fun _ h => absurd h husb, fun _ h => absurd h (hfailed _)⟩

theorem step_settled {s s' : Application D V} {a : Act D} (hA : Settled s) (h : s.step v4l2 a = some s') :
    Settled s' ↔ s.readies a := by
  unfold step at h
  split at h
  · cases h
    apply restart_settled
    simp
  · cases h
    apply restart_settled
    simp
  · cases h
    apply restart_settled
    simp
  · cases h
    exact ⟨fun _ => trivial, fun _ => hA⟩
  · cases h
    exact ⟨fun _ => trivial, fun _ => hA⟩
  · obtain ⟨-, hs⟩ := Option.ite_none_right_eq_some.1 h
    cases hs
    exact ⟨fun _ => trivial, fun _ => hA⟩
  · cases h

/-- In a run the devices have been given what is configured, whenever the application
serves, if and only if every start over USB finds it given already. -/
theorem settings_in_effect_iff (v4l2 : V4l2Device V) (devices : V) (as : List (Act D)) (t : Application D V)
    (h : Run (step v4l2) (new devices) as t) :
    (∀ pre post s, as = pre ++ post → Run (step v4l2) (new devices) pre s → Settled s) ↔
      Meets (step v4l2) readies (new devices) as := by
  apply h.always_iff_meets (fun _ => True) Settled trivial
  · intro hplace
    cases hplace
  · exact fun _ _ _ _ _ => trivial
  · exact fun s a s' _ hA hs => step_settled hA hs

/-- A file with a V4L2 camera that is to expose for 5 ms. -/
def exposed (transports : String) : KeyFile Rat where
  integer group key := if group = "cam0" ∧ key = "exposure" then some 5000 else none
  boolean _ _ := none
  double _ _ := none
  string group key :=
    if group = "server" ∧ key = "transports" then some transports
    else if group = "cam0" ∧ key = "source" then some "v4l2"
    else none
  keys _ := []

/-- A device that takes every setting. -/
def obliging : V4l2Device Unit where
  get_control _ control v := (.error ("no control '" ++ control ++ "'"), v)
  set_control _ _ _ v := (.ok (), v)
  set_trigger_mode _ _ v := (.ok (), v)

def outside : Outside where
  readable _ := false
  resolve_listen _ := "0.0.0.0"
  attach _ _ := true
  control _ _ := .ok ()

def exposure : Setting := .control "/dev/video0" "exposure" 5000

theorem exposed_configured (transports : String) :
    configured (FileConfigLoader.load (some (exposed transports))) = [exposure] := by
  rfl

/-- Over the network first, and then over USB. -/
def switched (c : Fin kNumCameras) : List (Act Rat) :=
  [.start (some (exposed "network")) outside, .reload (some (exposed "usb")) outside, .session_start, .frame c]

/-- The application of `switched`, serving over `transports`. -/
def serving (transports : String) (session : Bool) : Application Rat Unit :=
  ⟨.running, FileConfigLoader.load (some (exposed transports)), session, (), [⟨exposure, true⟩]⟩

theorem settings_in_effect_iff_switched :
    ∃ t, Run (step obliging) (new ()) (switched 0) t ∧ t.config_.transports = "usb" ∧
    ∀ pre post s, switched 0 = pre ++ post → Run (step obliging) (new ()) pre s → Settled s := by
  have h1 : Run (step obliging) (new ()) ((switched 0).take 1) (serving "network" false) := .snoc .nil rfl
  have h2 : Run (step obliging) (new ()) ((switched 0).take 2) (serving "usb" false) := h1.snoc rfl
  have h3 : Run (step obliging) (new ()) ((switched 0).take 3) (serving "usb" true) := h2.snoc rfl
  have h4 : Run (step obliging) (new ()) (switched 0) (serving "usb" true) := h3.snoc rfl
  have hnetwork : (new ()).readies (.start (some (exposed "network")) outside) := fun h => absurd h (by decide)
  have husb : (serving "network" false).readies (.reload (some (exposed "usb")) outside) := by
    intro _ a ha
    rw [exposed_configured, List.mem_singleton] at ha
    subst ha
    exact ⟨[], true, [], rfl, fun b hb => by cases hb⟩
  have hsession : (serving "usb" false).readies .session_start := trivial
  have hframe : (serving "usb" true).readies (.frame 0) := trivial
  have hm : Meets (step obliging) readies (new ()) (switched 0) :=
    (((Meets.nil.snoc .nil hnetwork).snoc h1 husb).snoc h2 hsession).snoc h3 hframe
  exact ⟨_, h4, rfl, (settings_in_effect_iff obliging () (switched 0) _ h4).2 hm⟩

/-- A first start over USB tells the device nothing. -/
theorem usb_start_untold :
    ¬ ∀ (v4l2 : V4l2Device Unit) devices as (t : Application Rat Unit), Run (step v4l2) (new devices) as t →
      Settled t := by
  intro hall
  let t : Application Rat Unit := ⟨.running, FileConfigLoader.load (some (exposed "usb")), false, (), []⟩
  have hrun : Run (step obliging) (new ()) [.start (some (exposed "usb")) outside] t := .snoc .nil rfl
  obtain ⟨before, taken, since, hlog, -⟩ := hall obliging () _ t hrun rfl exposure
    (by rw [exposed_configured]; exact List.mem_singleton_self _)
  cases before <;> cases hlog

end Application

end CameraStreamer.SensorSettings
