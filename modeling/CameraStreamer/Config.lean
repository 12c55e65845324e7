import CameraStreamer.Json
/-!
# The configuration

`Config` and what the loader makes of a key file. A key file is known by what
GLib's accessors return for it.
-/

namespace CameraStreamer

/-- `Config::kNumCameras` -/
abbrev kNumCameras : Nat := 2

namespace Doubles
variable {D : Type} [Doubles D]

/-- `a == b` -/
def eq (a b : D) : Bool := le a b && le b a

/-- `CLAMP(v, low, high)` -/
def clamp (v low high : D) : D := if lt high v then high else if lt v low then low else v

end Doubles

/-- A `std::map` of strings, as it is iterated. -/
abbrev StringMap := List (String × String)

/-- `m[key] = value` -/
def StringMap.assign (key value : String) : StringMap → StringMap
  | [] => [(key, value)]
  | (k, v) :: m =>
    if key < k then (key, value) :: (k, v) :: m
    else if key = k then (key, value) :: m
    else (k, v) :: assign key value m

def StringMap.erase (key : String) (m : StringMap) : StringMap := m.filter (·.1 ≠ key)

structure CameraConfig (D : Type) where
  enabled : Bool := true
  /-- `argus`, `v4l2` or `test` -/
  source : String := "argus"
  sensor_id : Int := 0
  device : String := ""
  width : Int := 1440
  height : Int := 1080
  framerate : Int := 60
  codec : String := "h265"
  /-- In bit/s. -/
  bitrate : Int := 8000000
  /-- In µs, 0 for automatic. -/
  exposure : Int := 0
  /-- 0 for automatic. -/
  gain : D
  /-- -1 to leave it as it is. -/
  trigger : Int := -1
  isp : StringMap := []
  zoom : D
  zoom_x : D
  zoom_y : D

structure Config (D : Type) where
  port : Int := 8554
  listen : String := "all"
  transports : String := "usb"
  recovery_update : Bool := true
  transport : String := "tcp"
  control_port : Int := 8555
  discovery_port : Int := 8556
  update_port : Int := 8557
  tls_cert : String := ""
  tls_key : String := ""
  tls_ca : String := ""
  detect_model : String := "/usr/share/camera-streamer/face_detection_yunet.onnx"
  detect_width : Int := 320
  detect_score : D
  detect_fps : Int := 10
  cameras : Fin kNumCameras → CameraConfig D

namespace Config
variable {D : Type}

def set_camera (config : Config D) (camera : Fin kNumCameras) (cam : CameraConfig D) : Config D :=
  { config with cameras := Function.update config.cameras camera cam }

@[simp] theorem set_camera_self (config : Config D) (camera : Fin kNumCameras) (cam : CameraConfig D) :
    (config.set_camera camera cam).cameras camera = cam := by
  simp [set_camera]

theorem set_camera_other (config : Config D) {camera c : Fin kNumCameras} (cam : CameraConfig D) (h : c ≠ camera) :
    (config.set_camera camera cam).cameras c = config.cameras c := by
  simp [set_camera, h]

/-- What a new camera configuration has in common with the old one is the same for every camera. -/
theorem set_camera_field {α : Type} (f : CameraConfig D → α) {config : Config D} {camera : Fin kNumCameras}
    {cam : CameraConfig D} (h : f cam = f (config.cameras camera)) (c : Fin kNumCameras) :
    f ((config.set_camera camera cam).cameras c) = f (config.cameras c) := by
  by_cases hc : c = camera
  · rw [hc, set_camera_self, h]
  · rw [set_camera_other config cam hc]

end Config

/-- A `GKeyFile`; an accessor has `none` for a key that is missing or does not parse. -/
structure KeyFile (D : Type) where
  integer : String → String → Option Int
  boolean : String → String → Option Bool
  double : String → String → Option D
  string : String → String → Option String
  keys : String → List String

namespace FileConfigLoader
variable {D : Type} [Doubles D]

section Accessors
variable (kf : KeyFile D) (group key : String)

def get_int (default : Int) : Int := (kf.integer group key).getD default
def get_bool (default : Bool) : Bool := (kf.boolean group key).getD default
def get_double (default : D) : D := (kf.double group key).getD default
def get_string (default : String) : String := (kf.string group key).getD default

def get_choice (default : String) (allowed : List String) : String :=
  let v := get_string kf group key default
  if v ∈ allowed then v else default

/-- A port, back at the built-in one when it is out of range. -/
def get_port (low default : Int) : Int :=
  let port := get_int kf group key default
  if port < low ∨ 65535 < port then default else port

end Accessors

/-- The camera before the file is read. -/
def builtin_camera (i : Fin kNumCameras) : CameraConfig D where
  sensor_id := i.val
  device := "/dev/video" ++ toString i.val
  gain := Doubles.ofInt 0
  zoom := Doubles.ofInt 1
  zoom_x := Doubles.div (Doubles.ofInt 1) (Doubles.ofInt 2)
  zoom_y := Doubles.div (Doubles.ofInt 1) (Doubles.ofInt 2)

def builtin : Config D where
  detect_score := Doubles.div (Doubles.ofInt 45) (Doubles.ofInt 100)
  cameras := builtin_camera

def isp_prefix : List Char := "isp-".toList

/-- `isp-<property>` keys become overrides. -/
def load_isp (kf : KeyFile D) (group : String) (isp : StringMap) : StringMap :=
  (kf.keys group).foldl (fun isp key =>
    if isp_prefix.isPrefixOf key.toList then
      let value := get_string kf group key ""
      -- an empty value is no override
      if value ≠ "" then isp.assign (String.ofList (key.toList.drop isp_prefix.length)) value else isp
    else isp) isp

def load_zoom (zoom : D) : D :=
  if Doubles.lt zoom (Doubles.ofInt 1) || Doubles.lt (Doubles.ofInt 8) zoom then Doubles.ofInt 1 else zoom

def load_camera (kf : KeyFile D) (i : Fin kNumCameras) (cam : CameraConfig D) : CameraConfig D :=
  let group := "cam" ++ toString i.val
  { enabled := get_bool kf group "enabled" cam.enabled
    source := get_choice kf group "source" cam.source ["argus", "v4l2", "test"]
    sensor_id := get_int kf group "sensor-id" cam.sensor_id
    device := get_string kf group "device" cam.device
    width := get_int kf group "width" cam.width
    height := get_int kf group "height" cam.height
    framerate := get_int kf group "framerate" cam.framerate
    codec := get_choice kf group "codec" cam.codec ["h265", "h264"]
    bitrate := get_int kf group "bitrate" cam.bitrate
    exposure := get_int kf group "exposure" cam.exposure
    gain := get_double kf group "gain" cam.gain
    trigger := get_int kf group "trigger" cam.trigger
    isp := load_isp kf group cam.isp
    zoom := load_zoom (get_double kf group "zoom" cam.zoom)
    zoom_x := Doubles.clamp (get_double kf group "zoom-x" cam.zoom_x) (Doubles.ofInt 0) (Doubles.ofInt 1)
    zoom_y := Doubles.clamp (get_double kf group "zoom-y" cam.zoom_y) (Doubles.ofInt 0) (Doubles.ofInt 1) }

/-- The built-in configuration where no file could be loaded. -/
def load : Option (KeyFile D) → Config D
  | none => builtin
  | some kf =>
    let cfg : Config D := builtin
    let listen := get_string kf "server" "listen" cfg.listen
    let transports := get_choice kf "server" "transports" cfg.transports ["network", "usb"]
    { port := get_port kf "server" "port" 1 cfg.port
      listen := if listen = "" then "all" else listen
      -- one transport serves video at a time
      transports := if transports ≠ "usb" ∧ transports ≠ "network" then "usb" else transports
      recovery_update := get_bool kf "server" "recovery-update" cfg.recovery_update
      transport := get_choice kf "server" "transport" cfg.transport ["tcp", "udp", "all"]
      control_port := get_port kf "server" "control-port" 0 cfg.control_port
      discovery_port := get_port kf "server" "discovery-port" 0 cfg.discovery_port
      update_port := get_port kf "server" "update-port" 0 cfg.update_port
      tls_cert := get_string kf "server" "tls-cert" cfg.tls_cert
      tls_key := get_string kf "server" "tls-key" cfg.tls_key
      tls_ca := get_string kf "server" "tls-ca" cfg.tls_ca
      detect_model := get_string kf "detect" "model" cfg.detect_model
      detect_width := get_int kf "detect" "width" cfg.detect_width
      detect_score := get_double kf "detect" "score" cfg.detect_score
      detect_fps := get_int kf "detect" "fps" cfg.detect_fps
      cameras := fun i => load_camera kf i (cfg.cameras i) }

omit [Doubles D] in
theorem get_choice_mem {kf : KeyFile D} {group key default : String} {allowed : List String} (h : default ∈ allowed) :
    get_choice kf group key default allowed ∈ allowed := by
  simp only [get_choice]
  split
  · assumption
  · exact h

/-- Whatever the file says, a camera's source is one of the three. -/
theorem load_source (file : Option (KeyFile D)) (i : Fin kNumCameras) :
    ((load file).cameras i).source ∈ ["argus", "v4l2", "test"] := by
  rcases file with - | kf
  · simp [load, builtin, builtin_camera]
  · exact get_choice_mem (by simp [builtin, builtin_camera])

end FileConfigLoader

end CameraStreamer
