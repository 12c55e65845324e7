import CameraStreamer.Config
/-!
# Launch strings

`PipelineBuilder` and the three sources, as far as they turn a camera's
configuration into text, and the description that a pipeline over USB is built from.
-/

namespace CameraStreamer

/-- `x & ~1` -/
def clear_low_bit (x : Int) : Int := x - x % 2

/-- `static_cast<int>` of a wider integer. -/
def to_int (x : Int) : Int := x.bmod (2 ^ 32)

/-- What a number in a launch string is written with. -/
theorem int_chars (i : Int) : ∀ c ∈ (toString i).toList, c = '-' ∨ c.isDigit = true := by
  have hdigits : ∀ n : Nat, ∀ c ∈ (toString n).toList, c.isDigit = true := by
    intro n c h
    rw [Nat.toString_eq_ofList_toDigits, String.toList_ofList] at h
    exact Nat.isDigit_of_mem_toDigits (by omega) (by omega) h
  intro c h
  rcases i with n | n
  · exact .inr (hdigits n c h)
  · have hs : (toString (Int.negSucc n)).toList = '-' :: (toString (n + 1)).toList := by
      show ("-" ++ toString (n + 1)).toList = _
      rw [String.toList_append]
      rfl
    rw [hs] at h
    rcases List.mem_cons.1 h with h | h
    · exact .inl h
    · exact .inr (hdigits _ c h)

variable {D : Type} [Doubles D]

namespace PipelineBuilder

def argus_ranges (cam : CameraConfig D) : String :=
  (if 0 < cam.exposure then
    let ns := toString (cam.exposure * 1000)
    " exposuretimerange=\"" ++ ns ++ " " ++ ns ++ "\""
  else "") ++
  (if Doubles.lt (Doubles.ofInt 0) cam.gain then
    let buf := Doubles.format cam.gain
    " gainrange=\"" ++ buf ++ " " ++ buf ++ "\""
  else "") ++
  String.join (cam.isp.map fun (property, value) => " " ++ property ++ "=\"" ++ value ++ "\"")

def parse_element (h265 : Bool) : String := if h265 then "h265parse" else "h264parse"
def pay_element (h265 : Bool) : String := if h265 then "rtph265pay" else "rtph264pay"

def nvenc_tail (cam : CameraConfig D) : String :=
  let h265 := cam.codec == "h265"
  "queue ! " ++ (if h265 then "nvv4l2h265enc" else "nvv4l2h264enc") ++ " bitrate=" ++ toString cam.bitrate ++
    " insert-sps-pps=true idrinterval=30 maxperf-enable=true ! " ++ parse_element h265 ++ " ! queue ! " ++
    pay_element h265 ++ " name=pay0 pt=96"

def detect_branch (width height : Int) : String :=
  "queue leaky=downstream max-size-buffers=1 ! nvvidconv ! video/x-raw,format=BGRx,width=" ++ toString width ++
    ",height=" ++ toString height ++ " ! appsink name=detect sync=false async=false max-buffers=1 drop=false"

def nvenc_tail_with_detect (cam : CameraConfig D) (detect_width detect_height : Int) : String :=
  -- the payloader keeps its name, detection hangs off the second leg
  "tee name=t  t. ! " ++ nvenc_tail cam ++ "  t. ! " ++ detect_branch detect_width detect_height

/-- One side of the crop, from the camera's side, the zoom and the centre: where it starts and its length. -/
def crop (side : Int) (zoom centre : D) : Int × Int :=
  let c := max 2 (clear_low_bit (Doubles.toInt (Doubles.div (Doubles.ofInt side) zoom)))
  let start := clear_low_bit (Doubles.toInt (Doubles.sub (Doubles.mul centre (Doubles.ofInt side))
    (Doubles.div (Doubles.ofInt c) (Doubles.ofInt 2))))
  (if side - c < start then side - c else if start < 0 then 0 else start, c)

def zoom_crop (cam : CameraConfig D) : String :=
  if Doubles.le cam.zoom (Doubles.ofInt 1) then ""
  else
    let (left, cw) := crop cam.width cam.zoom cam.zoom_x
    let (top, ch) := crop cam.height cam.zoom cam.zoom_y
    " left=" ++ toString left ++ " right=" ++ toString (left + cw) ++ " top=" ++ toString top ++
      " bottom=" ++ toString (top + ch)

def zoom_tail (cam : CameraConfig D) : String :=
  " ! nvvidconv name=zoomer" ++ zoom_crop cam ++ " ! video/x-raw(memory:NVMM),format=NV12,width=" ++
    toString cam.width ++ ",height=" ++ toString cam.height

def caps_tail (cam : CameraConfig D) : String :=
  "width=" ++ toString cam.width ++ ",height=" ++ toString cam.height ++ ",framerate=" ++ toString cam.framerate ++ "/1"

end PipelineBuilder

open PipelineBuilder

/-- The classes of `ICameraSource`. -/
inductive Source where
  | argus
  | v4l2
  | test
  deriving DecidableEq

def create_source : String → Option Source
  | "argus" => some .argus
  | "v4l2" => some .v4l2
  | "test" => some .test
  | _ => none

def Source.source_type : Source → String
  | argus => "argus"
  | v4l2 => "v4l2"
  | test => "test"

theorem create_source_eq_some {source_type : String} {source : Source} :
    create_source source_type = some source ↔ source_type = source.source_type := by
  constructor
  · intro h
    unfold create_source at h
    split at h <;> cases h <;> rfl
  · rintro rfl
    rcases source with - | - | - <;> rfl

namespace ArgusSource

def build_source_fragment (cam : CameraConfig D) : String :=
  "nvarguscamerasrc name=camsrc sensor-id=" ++ toString cam.sensor_id ++ argus_ranges cam ++
    " ! video/x-raw(memory:NVMM)," ++ caps_tail cam ++
    -- no converter at zoom 1
    (if Doubles.lt (Doubles.ofInt 1) cam.zoom then zoom_tail cam else "")

def build_launch (cam : CameraConfig D) : String := "( " ++ build_source_fragment cam ++ " ! " ++ nvenc_tail cam ++ " )"

end ArgusSource

namespace V4l2Source

def build_source_fragment (cam : CameraConfig D) : String :=
  "v4l2src name=camsrc device=" ++ cam.device ++ " ! video/x-raw,format=GRAY8," ++ caps_tail cam ++ zoom_tail cam

def build_launch (cam : CameraConfig D) : String := "( " ++ build_source_fragment cam ++ " ! " ++ nvenc_tail cam ++ " )"

end V4l2Source

namespace TestSource

def build_source_fragment (cam : CameraConfig D) : String :=
  "videotestsrc name=camsrc is-live=true ! video/x-raw," ++ caps_tail cam ++ " ! videoconvert"

def build_launch (cam : CameraConfig D) : String :=
  let h265 := cam.codec == "h265"
  "( " ++ build_source_fragment cam ++ " ! queue ! " ++ (if h265 then "x265enc" else "x264enc") ++
    " tune=zerolatency key-int-max=30 bitrate=" ++ toString (cam.bitrate.tdiv 1000) ++ " ! " ++ parse_element h265 ++
    " ! queue ! " ++ pay_element h265 ++ " name=pay0 pt=96" ++ " )"

end TestSource

namespace Source

def build_source_fragment : Source → CameraConfig D → String
  | argus => ArgusSource.build_source_fragment
  | v4l2 => V4l2Source.build_source_fragment
  | test => TestSource.build_source_fragment

def build_launch : Source → CameraConfig D → String
  | argus => ArgusSource.build_launch
  | v4l2 => V4l2Source.build_launch
  | test => TestSource.build_launch

theorem append_ne_empty {s : String} (t : String) (h : s ≠ "") : s ++ t ≠ "" := fun he =>
  h (String.append_eq_empty_iff.1 he).1

/-- No source builds an empty fragment. -/
theorem build_source_fragment_ne (source : Source) (cam : CameraConfig D) : source.build_source_fragment cam ≠ "" := by
  rcases source with - | - | -
  · show ArgusSource.build_source_fragment cam ≠ ""
    unfold ArgusSource.build_source_fragment
    iterate 5 apply append_ne_empty
    decide
  · show V4l2Source.build_source_fragment cam ≠ ""
    unfold V4l2Source.build_source_fragment
    iterate 4 apply append_ne_empty
    decide
  · show TestSource.build_source_fragment cam ≠ ""
    unfold TestSource.build_source_fragment
    iterate 2 apply append_ne_empty
    decide

end Source

namespace Media

/-- What a pipeline is built from. `source` is a fragment that ends before the encoder. -/
structure PipelineSpec where
  source : String := ""
  h265 : Bool := true
  bitrate : Int := 8000000
  hw : Bool := true
  /-- 0 for no detect branch. -/
  detect_width : Int := 0
  detect_height : Int := 0
  deriving DecidableEq

end Media

open Media

section Spec
variable (readable : String → Bool)

omit [Doubles D] in
/-- `readable` is `access(path, R_OK) == 0`. -/
def face_detection_available (cfg : Config D) : Bool := cfg.detect_model ≠ "" && readable cfg.detect_model

omit [Doubles D] in
def detect_height_for (cam : CameraConfig D) (detect_width : Int) : Int :=
  if cam.width ≤ 0 ∨ cam.height ≤ 0 then detect_width
  else
    let even := clear_low_bit (to_int ((detect_width * cam.height).tdiv cam.width))
    if even < 2 then 2 else even

def usb_pipeline_spec (cam : CameraConfig D) (cfg : Config D) : PipelineSpec :=
  match create_source cam.source with
  | none => {}
  | some source =>
    let detects := face_detection_available readable cfg
    { source := source.build_source_fragment cam
      h265 := cam.codec == "h265"
      bitrate := cam.bitrate
      hw := cam.source != "test"
      detect_width := if detects then cfg.detect_width else 0
      detect_height := if detects then detect_height_for cam cfg.detect_width else 0 }

/-- A camera with a source has a description. -/
theorem usb_pipeline_spec_source {cam : CameraConfig D} {source : Source} (h : create_source cam.source = some source)
    (cfg : Config D) : (usb_pipeline_spec readable cam cfg).source ≠ "" := by
  simp only [usb_pipeline_spec, h]
  exact source.build_source_fragment_ne cam

end Spec

end CameraStreamer
