import CameraStreamer.Lib.Effects
import CameraStreamer.Lib.Flow
import CameraStreamer.Pipeline
import Mathlib.Data.List.Nodup
/-!
# One camera's pipeline

`CameraPipeline`: the graph that `build` assembles from a spec, element by
element, and what `start` leaves of it. Every call into GStreamer may be refused.
A refusal ends `build` where it is, and `start` then takes down what there is.
-/

namespace CameraStreamer.Media

open Effects CameraStreamer.Flow

/-! ## Elements -/

/-- An element of the pipeline: the bin parsed from a launch fragment, or one made by a factory. -/
inductive Node where
  | source (description : String)
  | element (desc : String)
  deriving DecidableEq

/-- What a property is set to. -/
inductive Value where
  | bool (b : Bool)
  | int (i : Int)
  | uint (n : Nat)
  | text (s : String)
  | caps (s : String)
  deriving DecidableEq

structure Element where
  node : Node
  factory : String
  props : List (String × Value) := []
  deriving DecidableEq

/-- `GstState`. -/
inductive State where
  | void_pending
  | null
  | ready
  | paused
  | playing
  deriving DecidableEq

/-- `gst_element_state_get_name`. -/
def State.get_name : State → String
  | .void_pending => "VOID_PENDING"
  | .null => "NULL"
  | .ready => "READY"
  | .paused => "PAUSED"
  | .playing => "PLAYING"

/-- What GStreamer answers to each call that one `start` can make. -/
structure Gst where
  /-- The bin, if there is one, and whether it has an element `camsrc`; and the error. -/
  parse : String → Option Bool × Option String
  make : String → String → Bool
  caps_from_string : String → Bool
  bin_add : Node → Bool
  link : Node → Node → Bool
  static_pad : Node → Bool
  /-- The tee's pad for the branch that starts at this element. -/
  request_pad : Node → Bool
  pad_link : Node → Bool
  /-- `gst_element_set_state` does not fail. -/
  set_state : Bool
  /-- The state that `gst_element_get_state` finds when it returns. -/
  get_state : State

namespace Element

def set (e : Element) (prop : String) (value : Value) : Element := { e with props := e.props ++ [(prop, value)] }

def set_caps (gst : Gst) (e : Element) (caps : String) : Element :=
  if gst.caps_from_string caps then e.set "caps" (.caps caps) else e

@[simp] theorem set_node (e : Element) (prop : String) (value : Value) : (e.set prop value).node = e.node := rfl

@[simp] theorem set_factory (e : Element) (prop : String) (value : Value) : (e.set prop value).factory = e.factory :=
  rfl

@[simp] theorem set_caps_node (gst : Gst) (e : Element) (caps : String) : (e.set_caps gst caps).node = e.node := by
  unfold set_caps; split <;> rfl

@[simp] theorem set_caps_factory (gst : Gst) (e : Element) (caps : String) :
    (e.set_caps gst caps).factory = e.factory := by
  unfold set_caps; split <;> rfl

/-- The value set last. -/
def get (e : Element) (prop : String) : Option Value := (e.props.reverse.find? (·.1 = prop)).map (·.2)

end Element

/-! ## What is built -/

structure Pipeline where
  name : String
  elements : List Element := []
  links : List (Node × Node) := []

/-- The members of `CameraPipeline` that `build` sets. `made` and `kept` count the
elements that GStreamer has made and those that a bin took or that were released. -/
structure Built where
  pipeline_ : Option Pipeline := none
  sink_ : Option Node := none
  detect_ : Option Node := none
  /-- A reference to `camsrc`. -/
  source_ : Bool := false
  made : Nat := 0
  kept : Nat := 0

abbrev Build := Fallible Built String

namespace Built

def stop (b : Built) : Built := { b with pipeline_ := none, sink_ := none, detect_ := none, source_ := false }

def with_pipeline (b : Built) (f : Pipeline → Pipeline) : Built := { b with pipeline_ := b.pipeline_.map f }

def add (e : Element) (b : Built) : Built :=
  { b.with_pipeline fun p => { p with elements := p.elements ++ [e] } with kept := b.kept + 1 }

def link (x y : Node) (b : Built) : Built := b.with_pipeline fun p => { p with links := p.links ++ [(x, y)] }

end Built

section Build
variable (gst : Gst)

/-- `ElementFactory::create`. -/
def create (factory desc : String) : Build (Except String Element) :=
  if factory = "" then pure (.error "empty factory name")
  else if gst.make factory desc then do
    modify fun b => { b with made := b.made + 1 }
    pure (.ok { node := .element desc, factory })
  else pure (.error ("no such GStreamer element: " ++ factory))

/-- `Bin::add`. -/
def add (e : Element) : Build Bool :=
  if gst.bin_add e.node then do
    modify (Built.add e)
    pure true
  else pure false

/-- `Element::link`. -/
def link (x y : Node) : Build Bool :=
  if gst.link x y then do
    modify (Built.link x y)
    pure true
  else pure false

/-- The second call is made where the first was not refused. -/
def both (x y : Build Bool) : Build Bool := do
  if ← x then y else pure false

def add_all : List Element → Build Bool
  | [] => pure true
  | e :: es => both (add gst e) (add_all es)

def link_all : List Element → Build Bool
  | x :: y :: es => both (link gst x.node y.node) (link_all (y :: es))
  | _ => pure true

/-- `Bin::add_linked`. -/
def add_linked (es : List Element) : Build Bool := both (add_all gst es) (link_all gst es)

/-- `Tee::link_branch`, onto the static sink pad of `head`. -/
def link_branch (tee head : Element) : Build Bool :=
  if gst.request_pad head.node && (gst.static_pad head.node && gst.pad_link head.node) then do
    modify (Built.link tee.node head.node)
    pure true
  else pure false

/-- The source bin. -/
def build_source (description : String) : Build (Element × Bool) := do
  match gst.parse description with
  | (none, failure) => fail ("source: " ++ failure.getD "unknown parse error")
  | (some camsrc, failure) =>
    modify fun b => { b with made := b.made + 1 }
    match failure with
    | some message =>
      modify fun b => { b with kept := b.kept + 1 }
      fail ("source built partially: " ++ message)
    | none =>
      let source : Element := { node := .source description, factory := "bin" }
      let added ← add gst source
      require added "could not add source bin"
      pure (source, camsrc)

def encoder (spec : PipelineSpec) : String :=
  if spec.hw then (if spec.h265 then "nvv4l2h265enc" else "nvv4l2h264enc")
  else (if spec.h265 then "x265enc" else "x264enc")

/-- The encode chain: its first and its last element. -/
def build_encode (spec : PipelineSpec) : Build (Element × Element) := do
  let queue ← create gst "queue" "venc_queue"
  let enc ← create gst (encoder spec) "venc"
  let parse ← create gst (if spec.h265 then "h265parse" else "h264parse") "vparse"
  let caps ← create gst "capsfilter" "vcaps"
  let sink ← create gst "appsink" "sink"
  let queue ← value queue
  let enc ← value enc
  let parse ← value parse
  let caps ← value caps
  let sink ← value sink
  let enc :=
    if spec.hw then
      (((enc.set "bitrate" (.int spec.bitrate)).set "insert-sps-pps" (.bool true)).set "idrinterval" (.int 30)).set
        "maxperf-enable" (.bool true)
    else
      -- kbit/s, as a guint
      ((enc.set "bitrate" (.uint (spec.bitrate.tdiv 1000 % 2 ^ 32).toNat)).set "key-int-max" (.int 30)).set
        "tune" (.text "zerolatency")
  let parse := parse.set "config-interval" (.int (-1))
  let caps := caps.set_caps gst (if spec.h265 then "video/x-h265,stream-format=byte-stream"
    else "video/x-h264,stream-format=byte-stream")
  let sink := ((sink.set "sync" (.bool false)).set "max-buffers" (.uint 8)).set "drop" (.bool true)
  let linked ← add_linked gst [queue, enc, parse, caps, sink]
  require linked "encode chain did not link"
  pure (queue, sink)

/-- The converters of the detect branch. -/
def build_convert (spec : PipelineSpec) : Build (List Element) :=
  if spec.hw then do
    let conv ← create gst "nvvidconv" "detect_conv"
    let conv ← value conv
    pure [conv]
  else do
    let conv ← create gst "videoconvert" "detect_conv"
    let scale ← create gst "videoscale" "detect_scale"
    let conv ← value conv
    let scale ← value scale
    pure [conv, scale]

/-- The tee and the detect branch, between `source` and `queue`: its last element. -/
def build_detect (spec : PipelineSpec) (source queue : Element) : Build Element := do
  let tee ← create gst "tee" "vtee"
  let dqueue ← create gst "queue" "detect_queue"
  let dcaps ← create gst "capsfilter" "detect_caps"
  let dsink ← create gst "appsink" "detect"
  let tee ← value tee
  let dqueue ← value dqueue
  let dcaps ← value dcaps
  let dsink ← value dsink
  let dqueue := (dqueue.set "leaky" (.text "downstream")).set "max-size-buffers" (.uint 1)
  let dcaps := dcaps.set_caps gst ("video/x-raw,format=BGRx,width=" ++ toString spec.detect_width ++
    ",height=" ++ toString spec.detect_height)
  let dsink := (((dsink.set "sync" (.bool false)).set "async" (.bool false)).set "max-buffers" (.uint 1)).set
    "drop" (.bool false)
  let conv ← build_convert gst spec
  let teed ← both (add gst tee) (link gst source.node tee.node)
  require teed "source -> tee did not link"
  let linked ← add_linked gst (dqueue :: conv ++ [dcaps, dsink])
  require linked "detect branch did not link"
  let branched ← both (link_branch gst tee queue) (link_branch gst tee dqueue)
  require branched "tee branch did not link"
  pure dsink

/-- `CameraPipeline::build`. -/
def build (camera : Nat) (spec : PipelineSpec) : Build Unit := do
  require (spec.source != "") "no source description"
  modify fun b => { b with pipeline_ := some { name := "cam" ++ toString camera } }
  let (source, camsrc) ← build_source gst spec.source
  let (queue, sink) ← build_encode gst spec
  if 0 < spec.detect_width ∧ 0 < spec.detect_height then do
    let dsink ← build_detect gst spec source queue
    modify fun b => { b with detect_ := some dsink.node }
  else do
    let linked ← link gst source.node queue.node
    require linked "source -> encoder did not link"
  modify fun b => { b with sink_ := some sink.node, source_ := camsrc }

/-- `Pipeline::play`. -/
def play : Build Unit := do
  require gst.set_state "pipeline refused to start"
  require (gst.get_state = .playing) ("pipeline did not reach PLAYING (stuck in " ++ gst.get_state.get_name ++
    "); a branch is not prerolling")

/-- `CameraPipeline::start`, after the pipeline before was stopped and the spec was read. -/
def launch (camera : Nat) (spec : PipelineSpec) (b : Built) : Except String Unit × Built :=
  match (do build gst camera spec; play gst : Build Unit) b with
  | (.ok (), b) => (.ok (), b)
  | (.error e, b) => (.error e, b.stop)

end Build

/-! ## The graph that was asked for -/

/-- The links of a chain of elements. -/
def chain : List Element → List (Node × Node)
  | x :: y :: es => (x.node, y.node) :: chain (y :: es)
  | _ => []

section Wanted
variable (gst : Gst) (spec : PipelineSpec)

def source_bin : Element := { node := .source spec.source, factory := "bin" }

def venc_queue : Element := { node := .element "venc_queue", factory := "queue" }

def venc_sink : Element where
  node := .element "sink"
  factory := "appsink"
  props := [("sync", .bool false), ("max-buffers", .uint 8), ("drop", .bool true)]

def venc : Element where
  node := .element "venc"
  factory := encoder spec
  props :=
    if spec.hw then [("bitrate", .int spec.bitrate), ("insert-sps-pps", .bool true), ("idrinterval", .int 30),
      ("maxperf-enable", .bool true)]
    else [("bitrate", .uint (spec.bitrate.tdiv 1000 % 2 ^ 32).toNat), ("key-int-max", .int 30),
      ("tune", .text "zerolatency")]

def encode_chain : List Element := [
  venc_queue,
  venc spec,
  { node := .element "vparse"
    factory := if spec.h265 then "h265parse" else "h264parse"
    props := [("config-interval", .int (-1))] },
  Element.set_caps gst { node := .element "vcaps", factory := "capsfilter" }
    (if spec.h265 then "video/x-h265,stream-format=byte-stream" else "video/x-h264,stream-format=byte-stream"),
  venc_sink]

def vtee : Element := { node := .element "vtee", factory := "tee" }

def detect_queue : Element where
  node := .element "detect_queue"
  factory := "queue"
  props := [("leaky", .text "downstream"), ("max-size-buffers", .uint 1)]

def convert_chain : List Element :=
  if spec.hw then [{ node := .element "detect_conv", factory := "nvvidconv" }]
  else [{ node := .element "detect_conv", factory := "videoconvert" },
    { node := .element "detect_scale", factory := "videoscale" }]

def detect_sink : Element where
  node := .element "detect"
  factory := "appsink"
  props := [("sync", .bool false), ("async", .bool false), ("max-buffers", .uint 1), ("drop", .bool false)]

def detect_chain : List Element :=
  detect_queue :: convert_chain spec ++
    [Element.set_caps gst { node := .element "detect_caps", factory := "capsfilter" }
      ("video/x-raw,format=BGRx,width=" ++ toString spec.detect_width ++ ",height=" ++ toString spec.detect_height),
    detect_sink]

/-- The spec asks for a detect branch. -/
def detects : Bool := decide (0 < spec.detect_width ∧ 0 < spec.detect_height)

def wanted_elements : List Element :=
  source_bin spec :: encode_chain gst spec ++ if detects spec then vtee :: detect_chain gst spec else []

def wanted_links : List (Node × Node) :=
  chain (encode_chain gst spec) ++
    if detects spec then
      ((source_bin spec).node, vtee.node) :: chain (detect_chain gst spec) ++
        [(vtee.node, venc_queue.node), (vtee.node, detect_queue.node)]
    else [((source_bin spec).node, venc_queue.node)]

end Wanted

/-- GStreamer makes the elements, takes them into the bin and links them one after the other. -/
structure Takes (gst : Gst) (es : List Element) : Prop where
  made : ∀ e ∈ es, ∀ desc, e.node = .element desc → gst.make e.factory desc = true
  added : ∀ e ∈ es, gst.bin_add e.node = true
  linked : ∀ l ∈ chain es, gst.link l.1 l.2 = true

/-- It gives the tee a branch that starts at `head`. -/
def Branches (gst : Gst) (head : Node) : Prop :=
  gst.request_pad head = true ∧ gst.static_pad head = true ∧ gst.pad_link head = true

/-- What the tee and the detect branch of a pipeline need. -/
structure Detects (gst : Gst) (spec : PipelineSpec) (source queue : Node) : Prop where
  chain : Takes gst (detect_chain gst spec)
  tee : Takes gst [vtee]
  teed : gst.link source vtee.node = true
  video : Branches gst queue
  detect : Branches gst detect_queue.node

/-- GStreamer refuses nothing that the spec needs to be built. -/
structure Builds (gst : Gst) (spec : PipelineSpec) : Prop where
  source : spec.source ≠ ""
  parsed : ∃ camsrc, gst.parse spec.source = (some camsrc, none)
  added : gst.bin_add (source_bin spec).node = true
  encode : Takes gst (encode_chain gst spec)
  plain : detects spec = false → gst.link (source_bin spec).node venc_queue.node = true
  detect : detects spec = true → Detects gst spec (source_bin spec).node venc_queue.node

/-- Nor to be played. -/
structure Accepts (gst : Gst) (spec : PipelineSpec) : Prop extends Builds gst spec where
  set_state : gst.set_state = true
  get_state : gst.get_state = .playing

/-- The pipeline for the spec, after `b`. -/
def wanted (gst : Gst) (camera : Nat) (spec : PipelineSpec) (b : Built) : Built where
  pipeline_ := some
    { name := "cam" ++ toString camera, elements := wanted_elements gst spec, links := wanted_links gst spec }
  sink_ := some venc_sink.node
  detect_ := if detects spec then some detect_sink.node else b.detect_
  source_ := (gst.parse spec.source).1.getD false
  made := b.made + (wanted_elements gst spec).length
  kept := b.kept + (wanted_elements gst spec).length

/-! ## What a successful `build` asked and left -/

namespace Built

/-- `n` more elements made. -/
def make (b : Built) (n : Nat) : Built := { b with made := b.made + n }

/-- `es` in the pipeline, and `ls` between its elements. -/
def grow (b : Built) (es : List Element) (ls : List (Node × Node)) : Built :=
  { b.with_pipeline fun p => { p with elements := p.elements ++ es, links := p.links ++ ls } with
    kept := b.kept + es.length }

variable {b : Built} {es es' : List Element} {ls ls' : List (Node × Node)} {n m : Nat}

@[simp] theorem make_make : (b.make n).make m = b.make (n + m) := by
  simp [make, Nat.add_assoc]

@[simp] theorem grow_make : (b.grow es ls).make n = (b.make n).grow es ls := rfl

@[simp] theorem grow_grow : (b.grow es ls).grow es' ls' = b.grow (es ++ es') (ls ++ ls') := by
  obtain ⟨pipeline_, sink_, detect_, source_, made, kept⟩ := b
  cases pipeline_ <;> simp [grow, with_pipeline, Nat.add_assoc]

theorem grow_nil : b.grow [] [] = b := by
  obtain ⟨pipeline_, sink_, detect_, source_, made, kept⟩ := b
  cases pipeline_ <;> simp [grow, with_pipeline]

theorem add_eq (e : Element) : b.add e = b.grow [e] [] := by
  obtain ⟨pipeline_, sink_, detect_, source_, made, kept⟩ := b
  cases pipeline_ <;> simp [add, grow, with_pipeline]

theorem link_eq (x y : Node) : b.link x y = b.grow [] [(x, y)] := by
  obtain ⟨pipeline_, sink_, detect_, source_, made, kept⟩ := b
  cases pipeline_ <;> simp [link, grow, with_pipeline]

end Built

section Does
variable {gst : Gst} {spec : PipelineSpec} {b b' : Built} {factory desc : String} {e : Element} {es : List Element}

theorem create_made {r : Except String Element} (h : Does (create gst factory desc) b r b') (hr : r = .ok e) :
    gst.make factory desc = true ∧ e = { node := .element desc, factory } ∧ b' = b.make 1 := by
  subst hr
  unfold create at h
  split at h
  · simp at h
  · split at h
    · rename_i hm
      simp only [does_bind, does_modify, does_pure, Except.ok.injEq] at h
      obtain ⟨-, t, rfl, rfl, rfl⟩ := h
      exact ⟨hm, rfl, rfl⟩
    · simp at h

theorem create_of_made (hf : factory ≠ "") (hm : gst.make factory desc = true) :
    Does (create gst factory desc) b (.ok { node := .element desc, factory }) (b.make 1) := by
  simp [create, hf, hm, Built.make]

theorem does_add : Does (add gst e) b true b' ↔ gst.bin_add e.node = true ∧ b.grow [e] [] = b' := by
  unfold add
  split <;> simp [*, Built.add_eq]

theorem does_link {x y : Node} : Does (link gst x y) b true b' ↔ gst.link x y = true ∧ b.grow [] [(x, y)] = b' := by
  unfold link
  split <;> simp [*, Built.link_eq]

theorem does_link_branch {tee head : Element} : Does (link_branch gst tee head) b true b' ↔
    Branches gst head.node ∧ b.grow [] [(tee.node, head.node)] = b' := by
  unfold link_branch
  split <;> simp_all [Branches, Built.link_eq]

theorem does_both {x y : Build Bool} : Does (both x y) b true b' ↔ ∃ t, Does x b true t ∧ Does y t true b' := by
  simp only [both, does_bind, Bool.exists_bool]
  constructor
  · rintro (⟨t, -, h⟩ | ⟨t, hx, hy⟩)
    · simp at h
    · exact ⟨t, hx, hy⟩
  · rintro ⟨t, hx, hy⟩
    exact .inr ⟨t, hx, hy⟩

theorem does_add_all : Does (add_all gst es) b true b' ↔ (∀ e ∈ es, gst.bin_add e.node = true) ∧ b.grow es [] = b' := by
  induction es generalizing b with
  | nil => simp [add_all, Built.grow_nil]
  | cons e es ih =>
    rw [add_all, does_both]
    simp only [does_add, ih, List.forall_mem_cons]
    constructor
    · rintro ⟨_, ⟨he, rfl⟩, hes, rfl⟩
      exact ⟨⟨he, hes⟩, by simp⟩
    · rintro ⟨⟨he, hes⟩, rfl⟩
      exact ⟨_, ⟨he, rfl⟩, hes, by simp⟩

theorem does_link_all : Does (link_all gst es) b true b' ↔
    (∀ l ∈ chain es, gst.link l.1 l.2 = true) ∧ b.grow [] (chain es) = b' := by
  induction es generalizing b with
  | nil => simp [link_all, chain, Built.grow_nil]
  | cons x es ih =>
    cases es with
    | nil => simp [link_all, chain, Built.grow_nil]
    | cons y es =>
      rw [link_all, does_both]
      simp only [does_link, ih, chain, List.forall_mem_cons]
      constructor
      · rintro ⟨_, ⟨hl, rfl⟩, hls, rfl⟩
        exact ⟨⟨hl, hls⟩, by simp⟩
      · rintro ⟨⟨hl, hls⟩, rfl⟩
        exact ⟨_, ⟨hl, rfl⟩, hls, by simp⟩

theorem does_add_linked : Does (add_linked gst es) b true b' ↔
    (∀ e ∈ es, gst.bin_add e.node = true) ∧ (∀ l ∈ chain es, gst.link l.1 l.2 = true) ∧ b.grow es (chain es) = b' := by
  rw [add_linked, does_both]
  simp only [does_add_all, does_link_all]
  constructor
  · rintro ⟨_, ⟨ha, rfl⟩, hl, rfl⟩
    exact ⟨ha, hl, by simp⟩
  · rintro ⟨ha, hl, rfl⟩
    exact ⟨_, ⟨ha, rfl⟩, hl, by simp⟩

theorem does_build_source {description : String} {source : Element} {camsrc : Bool} :
    Does (build_source gst description) b (source, camsrc) b' ↔
      gst.parse description = (some camsrc, none) ∧ gst.bin_add (.source description) = true ∧
      source = { node := .source description, factory := "bin" } ∧ (b.make 1).grow [source] [] = b' := by
  unfold build_source
  split
  · simp [*]
  · rename_i camsrc' failure hp
    cases failure with
    | some message => simp [hp]
    | none =>
      simp only [hp, does_bind, does_modify, does_require, does_pure, Prod.mk.injEq]
      constructor
      · rintro ⟨-, _, rfl, added, t, hadd, -, _, ⟨rfl, rfl⟩, ⟨rfl, rfl⟩, rfl⟩
        obtain ⟨hbin, rfl⟩ := does_add.1 hadd
        exact ⟨⟨rfl, trivial⟩, hbin, rfl, rfl⟩
      · rintro ⟨⟨hc, -⟩, hadd, rfl, rfl⟩
        exact ⟨(), _, rfl, true, _, does_add.2 ⟨hadd, rfl⟩, (), _, ⟨rfl, rfl⟩, ⟨rfl, by simpa using hc⟩, rfl⟩

theorem encode_chain_eq : encode_chain gst spec = [
    { node := .element "venc_queue", factory := "queue" },
    if spec.hw then
      ((((Element.mk (.element "venc") (encoder spec) []).set "bitrate" (.int spec.bitrate)).set "insert-sps-pps"
        (.bool true)).set "idrinterval" (.int 30)).set "maxperf-enable" (.bool true)
    else
      (((Element.mk (.element "venc") (encoder spec) []).set "bitrate"
        (.uint (spec.bitrate.tdiv 1000 % 2 ^ 32).toNat)).set "key-int-max" (.int 30)).set "tune" (.text "zerolatency"),
    (Element.mk (.element "vparse") (if spec.h265 then "h265parse" else "h264parse") []).set "config-interval"
      (.int (-1)),
    (Element.mk (.element "vcaps") "capsfilter" []).set_caps gst (if spec.h265 then
      "video/x-h265,stream-format=byte-stream" else "video/x-h264,stream-format=byte-stream"),
    (((Element.mk (.element "sink") "appsink" []).set "sync" (.bool false)).set "max-buffers" (.uint 8)).set "drop"
      (.bool true)] := by
  cases hhw : spec.hw <;> simp [encode_chain, venc_queue, venc, venc_sink, Element.set, hhw]

theorem does_build_encode {queue sink : Element} : Does (build_encode gst spec) b (queue, sink) b' ↔
    Takes gst (encode_chain gst spec) ∧ queue = venc_queue ∧ sink = venc_sink ∧
    (b.make 5).grow (encode_chain gst spec) (chain (encode_chain gst spec)) = b' := by
  constructor
  · intro h
    simp only [build_encode, does_bind, does_value, does_require, does_pure, Prod.mk.injEq] at h
    obtain ⟨r1, b1, h1, r2, b2, h2, r3, b3, h3, r4, b4, h4, r5, b5, h5, queue', _, ⟨hr1, rfl⟩, enc, _, ⟨hr2, rfl⟩,
      parse, _, ⟨hr3, rfl⟩, caps, _, ⟨hr4, rfl⟩, sink', _, ⟨hr5, rfl⟩, linked, b6, hlinked, -, _, ⟨rfl, rfl⟩,
      ⟨rfl, rfl⟩, rfl⟩ := h
    obtain ⟨hm1, rfl, rfl⟩ := create_made h1 hr1
    obtain ⟨hm2, rfl, rfl⟩ := create_made h2 hr2
    obtain ⟨hm3, rfl, rfl⟩ := create_made h3 hr3
    obtain ⟨hm4, rfl, rfl⟩ := create_made h4 hr4
    obtain ⟨hm5, rfl, rfl⟩ := create_made h5 hr5
    rw [← encode_chain_eq, does_add_linked] at hlinked
    obtain ⟨hadd, hlink, rfl⟩ := hlinked
    refine ⟨⟨?_, hadd, hlink⟩, rfl, rfl, by simp⟩
    intro e he desc hdesc
    simp only [encode_chain, venc_queue, venc, venc_sink, List.mem_cons, List.not_mem_nil, or_false] at he
    rcases he with rfl | rfl | rfl | rfl | rfl <;> simp at hdesc <;> subst hdesc <;> simp [*]
  · rintro ⟨hE, rfl, rfl, rfl⟩
    have hm : ∀ e ∈ encode_chain gst spec, ∀ desc, e.node = .element desc → gst.make e.factory desc = true := hE.made
    have henc : encoder spec ≠ "" := by
      cases hhw : spec.hw <;> cases hh : spec.h265 <;> simp [encoder, hhw, hh]
    have hparse : (if spec.h265 = true then "h265parse" else "h264parse") ≠ "" := by
      cases spec.h265 <;> simp
    simp only [encode_chain, venc_queue, venc, venc_sink, List.forall_mem_cons] at hm
    refine does_bind.2 ⟨_, _, create_of_made (by simp) (hm.1 _ rfl), ?_⟩
    refine does_bind.2 ⟨_, _, create_of_made henc (hm.2.1 _ rfl), ?_⟩
    refine does_bind.2 ⟨_, _, create_of_made hparse (hm.2.2.1 _ rfl), ?_⟩
    refine does_bind.2 ⟨_, _, create_of_made (by simp) (by simpa using hm.2.2.2.1), ?_⟩
    refine does_bind.2 ⟨_, _, create_of_made (by simp) (hm.2.2.2.2.1 _ rfl), ?_⟩
    simp only [does_bind, does_value, does_require, does_pure, Prod.mk.injEq]
    refine ⟨_, _, ⟨rfl, rfl⟩, _, _, ⟨rfl, rfl⟩, _, _, ⟨rfl, rfl⟩, _, _, ⟨rfl, rfl⟩, _, _, ⟨rfl, rfl⟩, true, _, ?_,
      (), _, ⟨rfl, rfl⟩, ⟨rfl, rfl⟩, rfl⟩
    rw [← encode_chain_eq, does_add_linked]
    exact ⟨hE.added, hE.linked, by simp⟩

theorem does_build_convert {conv : List Element} : Does (build_convert gst spec) b conv b' ↔
    (∀ e ∈ convert_chain spec, ∀ desc, e.node = .element desc → gst.make e.factory desc = true) ∧
    conv = convert_chain spec ∧ b.make (convert_chain spec).length = b' := by
  unfold build_convert convert_chain
  cases spec.hw with
  | true =>
    simp only [if_true, does_bind, does_value, does_pure, List.forall_mem_cons, Node.element.injEq]
    constructor
    · rintro ⟨r, b1, h1, conv', _, ⟨hr, rfl⟩, rfl, rfl⟩
      obtain ⟨hm, rfl, rfl⟩ := create_made h1 hr
      exact ⟨⟨by rintro _ rfl; exact hm, by simp⟩, rfl, rfl⟩
    · rintro ⟨⟨hm, -⟩, rfl, rfl⟩
      exact ⟨_, _, create_of_made (by simp) (hm _ rfl), _, _, ⟨rfl, rfl⟩, rfl, rfl⟩
  | false =>
    simp only [Bool.false_eq_true, if_false, does_bind, does_value, does_pure, List.forall_mem_cons, Node.element.injEq]
    constructor
    · rintro ⟨r1, b1, h1, r2, b2, h2, conv', _, ⟨hr1, rfl⟩, scale, _, ⟨hr2, rfl⟩, rfl, rfl⟩
      obtain ⟨hm1, rfl, rfl⟩ := create_made h1 hr1
      obtain ⟨hm2, rfl, rfl⟩ := create_made h2 hr2
      exact ⟨⟨by rintro _ rfl; exact hm1, by rintro _ rfl; exact hm2, by simp⟩, rfl, by simp⟩
    · rintro ⟨⟨hm1, hm2, -⟩, rfl, rfl⟩
      exact ⟨_, _, create_of_made (by simp) (hm1 _ rfl), _, _, create_of_made (by simp) (hm2 _ rfl), _, _, ⟨rfl, rfl⟩,
        _, _, ⟨rfl, rfl⟩, rfl, by simp⟩

theorem detect_chain_eq : detect_chain gst spec =
    (((Element.mk (.element "detect_queue") "queue" []).set "leaky" (.text "downstream")).set "max-size-buffers"
      (.uint 1)) :: convert_chain spec ++
    [(Element.mk (.element "detect_caps") "capsfilter" []).set_caps gst ("video/x-raw,format=BGRx,width=" ++
      toString spec.detect_width ++ ",height=" ++ toString spec.detect_height),
    ((((Element.mk (.element "detect") "appsink" []).set "sync" (.bool false)).set "async" (.bool false)).set
      "max-buffers" (.uint 1)).set "drop" (.bool false)] := rfl

theorem does_build_detect {source queue dsink : Element} : Does (build_detect gst spec source queue) b dsink b' ↔
    Detects gst spec source.node queue.node ∧ dsink = detect_sink ∧
    (b.make (4 + (convert_chain spec).length)).grow (vtee :: detect_chain gst spec)
      ((source.node, vtee.node) :: chain (detect_chain gst spec) ++
        [(vtee.node, queue.node), (vtee.node, detect_queue.node)]) = b' := by
  constructor
  · intro h
    simp only [build_detect, does_bind, does_value, does_require, does_pure] at h
    obtain ⟨r1, b1, h1, r2, b2, h2, r3, b3, h3, r4, b4, h4, tee, _, ⟨hr1, rfl⟩, dqueue, _, ⟨hr2, rfl⟩, dcaps, _,
      ⟨hr3, rfl⟩, dsink', _, ⟨hr4, rfl⟩, conv, b5, hconv, teed, b6, hteed, -, _, ⟨rfl, rfl⟩, linked, b7, hlinked, -, _,
      ⟨rfl, rfl⟩, branched, b8, hbranched, -, _, ⟨rfl, rfl⟩, rfl, rfl⟩ := h
    obtain ⟨hm1, rfl, rfl⟩ := create_made h1 hr1
    obtain ⟨hm2, rfl, rfl⟩ := create_made h2 hr2
    obtain ⟨hm3, rfl, rfl⟩ := create_made h3 hr3
    obtain ⟨hm4, rfl, rfl⟩ := create_made h4 hr4
    obtain ⟨hmc, rfl, rfl⟩ := does_build_convert.1 hconv
    obtain ⟨_, hadded, hteed⟩ := does_both.1 hteed
    obtain ⟨hbin, rfl⟩ := does_add.1 hadded
    obtain ⟨hlink, rfl⟩ := does_link.1 hteed
    rw [← detect_chain_eq, does_add_linked] at hlinked
    obtain ⟨hadd, hlinks, rfl⟩ := hlinked
    obtain ⟨_, hvideo, hdetect⟩ := does_both.1 hbranched
    obtain ⟨hbv, rfl⟩ := does_link_branch.1 hvideo
    obtain ⟨hbd, rfl⟩ := does_link_branch.1 hdetect
    refine ⟨⟨⟨?_, hadd, hlinks⟩, ⟨?_, by simpa [vtee] using hbin, by simp [chain]⟩, hlink, hbv, hbd⟩, rfl, ?_⟩
    · intro e he desc hdesc
      simp only [detect_chain, detect_queue, detect_sink, List.cons_append, List.mem_cons, List.mem_append,
        List.not_mem_nil, or_false] at he
      rcases he with rfl | he | rfl | rfl
      · simp at hdesc; subst hdesc; exact hm2
      · exact hmc e he desc hdesc
      · simp at hdesc; subst hdesc; simpa using hm3
      · simp at hdesc; subst hdesc; exact hm4
    · intro e he desc hdesc
      simp only [List.mem_singleton] at he
      subst he
      simp only [vtee, Node.element.injEq] at hdesc
      subst hdesc
      exact hm1
    · simp [Nat.add_comm, vtee, detect_queue]
  · rintro ⟨⟨hchain, htee, hteed, hvideo, hdetect⟩, rfl, rfl⟩
    have hmt := htee.made
    have hmc : ∀ e ∈ convert_chain spec, ∀ desc, e.node = .element desc → gst.make e.factory desc = true :=
      fun e he => hchain.made e (by simp [detect_chain, he])
    have hm := hchain.made
    simp only [detect_chain, detect_queue, detect_sink, List.cons_append, List.forall_mem_cons, List.forall_mem_append]
      at hm
    refine does_bind.2 ⟨_, _, create_of_made (by simp) (hmt vtee (by simp) _ rfl), ?_⟩
    refine does_bind.2 ⟨_, _, create_of_made (by simp) (hm.1 _ rfl), ?_⟩
    refine does_bind.2 ⟨_, _, create_of_made (by simp) (by simpa using hm.2.2.1), ?_⟩
    refine does_bind.2 ⟨_, _, create_of_made (by simp) (hm.2.2.2.1 _ rfl), ?_⟩
    simp only [does_bind, does_value, does_require, does_pure]
    have hlinked (c : Built) : Does (add_linked gst (detect_chain gst spec)) c true
        (c.grow (detect_chain gst spec) (chain (detect_chain gst spec))) :=
      does_add_linked.2 ⟨hchain.added, hchain.linked, rfl⟩
    refine ⟨_, _, ⟨rfl, rfl⟩, _, _, ⟨rfl, rfl⟩, _, _, ⟨rfl, rfl⟩, _, _, ⟨rfl, rfl⟩, _, _,
      does_build_convert.2 ⟨hmc, rfl, rfl⟩, true, _,
      does_both.2 ⟨_, does_add.2 ⟨htee.added vtee (by simp), rfl⟩, does_link.2 ⟨hteed, rfl⟩⟩, (), _, ⟨rfl, rfl⟩, true,
      _, hlinked _, (), _, ⟨rfl, rfl⟩, true, _,
      does_both.2 ⟨_, does_link_branch.2 ⟨hvideo, rfl⟩, does_link_branch.2 ⟨hdetect, rfl⟩⟩, (), _, ⟨rfl, rfl⟩, rfl, ?_⟩
    simp [Nat.add_comm, vtee, detect_queue]

theorem encode_length : (encode_chain gst spec).length = 5 := rfl

theorem detect_length : (detect_chain gst spec).length = 3 + (convert_chain spec).length := by
  simp [detect_chain]
  omega

/-- The pipeline after the source bin and the encode chain. -/
def encoded (gst : Gst) (camera : Nat) (spec : PipelineSpec) (b : Built) : Built :=
  (((({ b with pipeline_ := some { name := "cam" ++ toString camera } }).make 1).grow [source_bin spec] []).make 5).grow
    (encode_chain gst spec) (chain (encode_chain gst spec))

/-- With the detect branch it is the one asked for. -/
theorem wanted_detect {camera : Nat} {camsrc : Bool} (hd : detects spec = true)
    (hparse : gst.parse spec.source = (some camsrc, none)) :
    { ((encoded gst camera spec b).make (4 + (convert_chain spec).length)).grow (vtee :: detect_chain gst spec)
        (((source_bin spec).node, vtee.node) :: chain (detect_chain gst spec) ++
          [(vtee.node, venc_queue.node), (vtee.node, detect_queue.node)]) with
      detect_ := some detect_sink.node, sink_ := some venc_sink.node, source_ := camsrc } =
      wanted gst camera spec b := by
  simp [wanted, encoded, Built.grow, Built.make, Built.with_pipeline, wanted_elements, wanted_links, hd, hparse,
    source_bin, encode_length, detect_length]
  omega

/-- And so it is without one, where the spec has none. -/
theorem wanted_plain {camera : Nat} {camsrc : Bool} (hd : detects spec = false)
    (hparse : gst.parse spec.source = (some camsrc, none)) :
    { (encoded gst camera spec b).grow [] [((source_bin spec).node, venc_queue.node)] with
      sink_ := some venc_sink.node, source_ := camsrc } = wanted gst camera spec b := by
  simp [wanted, encoded, Built.grow, Built.make, Built.with_pipeline, wanted_elements, wanted_links, hd, hparse,
    source_bin, encode_length]

theorem does_build {camera : Nat} {v : Unit} : Does (build gst camera spec) b v b' ↔
    Builds gst spec ∧ wanted gst camera spec b = b' := by
  simp only [build, does_bind, does_require, does_modify, bne_iff_ne, ne_eq, Prod.exists]
  constructor
  · rintro ⟨-, _, ⟨hs, rfl⟩, -, _, rfl, source, camsrc, b1, hsource, queue, sink, b2, hencode, h⟩
    obtain ⟨hparse, hadd, rfl, rfl⟩ := does_build_source.1 hsource
    obtain ⟨htakes, rfl, rfl, rfl⟩ := does_build_encode.1 hencode
    cases hd : detects spec with
    | true =>
      rw [if_pos (by simpa [detects] using hd)] at h
      simp only [does_bind, does_modify] at h
      obtain ⟨dsink, b3, hdetect, -, _, rfl, rfl⟩ := h
      obtain ⟨hdet, rfl, rfl⟩ := does_build_detect.1 hdetect
      exact ⟨⟨hs, ⟨camsrc, hparse⟩, hadd, htakes, by simp [hd], fun _ => hdet⟩, (wanted_detect hd hparse).symm⟩
    | false =>
      rw [if_neg (by simpa [detects] using hd)] at h
      simp only [does_bind, does_require, does_modify] at h
      obtain ⟨linked, b3, hlinked, -, _, ⟨rfl, rfl⟩, rfl⟩ := h
      obtain ⟨hlink, rfl⟩ := does_link.1 hlinked
      exact ⟨⟨hs, ⟨camsrc, hparse⟩, hadd, htakes, fun _ => hlink, by simp [hd]⟩, (wanted_plain hd hparse).symm⟩
  · rintro ⟨hB, rfl⟩
    obtain ⟨camsrc, hparse⟩ := hB.parsed
    refine ⟨(), _, ⟨hB.source, rfl⟩, (), _, rfl, _, _, _, does_build_source.2 ⟨hparse, hB.added, rfl, rfl⟩, _, _, _,
      does_build_encode.2 ⟨hB.encode, rfl, rfl, rfl⟩, ?_⟩
    cases hd : detects spec with
    | true =>
      rw [if_pos (by simpa [detects] using hd)]
      simp only [does_bind, does_modify]
      exact ⟨_, _, does_build_detect.2 ⟨hB.detect hd, rfl, rfl⟩, (), _, rfl, wanted_detect hd hparse⟩
    | false =>
      rw [if_neg (by simpa [detects] using hd)]
      simp only [does_bind, does_require, does_modify]
      exact ⟨_, _, does_link.2 ⟨hB.plain hd, rfl⟩, (), _, ⟨rfl, rfl⟩, wanted_plain hd hparse⟩

/-- `launch` succeeds just where GStreamer refuses nothing, and then leaves the pipeline for the spec. -/
theorem launch_ok {camera : Nat} {v : Unit} : launch gst camera spec b = (.ok v, b') ↔
    Accepts gst spec ∧ wanted gst camera spec b = b' := by
  have hdoes : Does (do build gst camera spec; play gst : Build Unit) b v b' ↔
      Accepts gst spec ∧ wanted gst camera spec b = b' := by
    simp only [play, does_bind, does_build, does_require, decide_eq_true_eq]
    constructor
    · rintro ⟨-, _, ⟨hB, rfl⟩, -, _, ⟨hset, rfl⟩, hget, rfl⟩
      exact ⟨⟨hB, hset, hget⟩, rfl⟩
    · rintro ⟨hA, rfl⟩
      exact ⟨(), _, ⟨hA.toBuilds, rfl⟩, (), _, ⟨hA.set_state, rfl⟩, hA.get_state, rfl⟩
  rw [← hdoes]
  unfold launch Does
  generalize (do build gst camera spec; play gst : Build Unit) b = r
  rcases r with ⟨e | u, c⟩ <;> simp

end Does

/-! ## What a failed start leaves -/

/-- Elements that GStreamer has made and that no bin took. -/
def Built.lost (b : Built) : Nat := b.made - b.kept

section Adds
variable {gst : Gst} {spec : PipelineSpec} {e x y : Element} {es : List Element}

theorem create_adds {factory desc : String} : Adds Built.lost 1 (create gst factory desc) := by
  unfold create
  split
  · exact Adds.pure
  · split
    · exact Adds.bind (Adds.modify fun b => by simp only [Built.lost]; omega) (Nat.le_refl 1) fun _ => Adds.pure
    · exact Adds.pure

theorem add_adds : Adds Built.lost 0 (add gst e) := by
  unfold add
  split
  · exact Adds.bind (Adds.modify fun b => by simp only [Built.lost, Built.add, Built.with_pipeline]; omega)
      (Nat.le_refl 0) fun _ => Adds.pure
  · exact Adds.pure

theorem link_adds {m n : Node} : Adds Built.lost 0 (link gst m n) := by
  unfold link
  split
  · exact Adds.bind (Adds.modify fun b => Nat.le_refl _) (Nat.le_refl 0) fun _ => Adds.pure
  · exact Adds.pure

theorem link_branch_adds : Adds Built.lost 0 (link_branch gst x y) := by
  unfold link_branch
  split
  · exact Adds.bind (Adds.modify fun b => Nat.le_refl _) (Nat.le_refl 0) fun _ => Adds.pure
  · exact Adds.pure

theorem both_adds {p q : Build Bool} (hp : Adds Built.lost 0 p) (hq : Adds Built.lost 0 q) :
    Adds Built.lost 0 (both p q) := by
  refine Adds.bind hp (Nat.le_refl 0) fun added => ?_
  cases added with
  | true => simpa using hq
  | false => exact Adds.pure

theorem add_all_adds : Adds Built.lost 0 (add_all gst es) := by
  induction es with
  | nil => exact Adds.pure
  | cons e es ih => exact both_adds add_adds ih

theorem link_all_adds : Adds Built.lost 0 (link_all gst es) := by
  induction es with
  | nil => exact Adds.pure
  | cons x es ih =>
    cases es with
    | nil => exact Adds.pure
    | cons y es => exact both_adds link_adds ih

theorem add_linked_adds : Adds Built.lost 0 (add_linked gst es) := both_adds add_all_adds link_all_adds

theorem build_source_adds {description : String} : Adds Built.lost 1 (build_source gst description) := by
  unfold build_source
  split
  · exact Adds.fail
  · rename_i camsrc failure hp
    have hmake : Adds Built.lost 1 (modify fun b => { b with made := b.made + 1 } : Build Unit) :=
      Adds.modify fun b => by simp only [Built.lost]; omega
    refine Adds.bind hmake (Nat.le_refl 1) fun _ => ?_
    cases failure with
    | some message =>
      exact Adds.bind (Adds.modify fun b => by simp only [Built.lost]; omega) (Nat.le_refl 0) fun _ => Adds.fail
    | none =>
      exact Adds.bind add_adds (Nat.le_refl 0) fun _ => Adds.bind Adds.require (Nat.le_refl 0) fun _ => Adds.pure

theorem build_encode_adds : Adds Built.lost 5 (build_encode gst spec) := by
  unfold build_encode
  refine Adds.bind create_adds (by decide) fun queue => Adds.bind create_adds (by decide) fun enc =>
    Adds.bind create_adds (by decide) fun parse => Adds.bind create_adds (by decide) fun caps =>
    Adds.bind create_adds (by decide) fun sink => ?_
  refine Adds.bind Adds.value (Nat.zero_le _) fun _ => Adds.bind Adds.value (Nat.zero_le _) fun _ =>
    Adds.bind Adds.value (Nat.zero_le _) fun _ => Adds.bind Adds.value (Nat.zero_le _) fun _ =>
    Adds.bind Adds.value (Nat.zero_le _) fun _ => ?_
  exact Adds.bind add_linked_adds (Nat.zero_le _) fun _ => Adds.bind Adds.require (Nat.zero_le _) fun _ => Adds.pure

theorem build_convert_adds : Adds Built.lost 2 (build_convert gst spec) := by
  unfold build_convert
  split
  · exact Adds.bind create_adds (by decide) fun _ => Adds.bind Adds.value (Nat.zero_le _) fun _ => Adds.pure
  · exact Adds.bind create_adds (by decide) fun _ => Adds.bind create_adds (by decide) fun _ =>
      Adds.bind Adds.value (Nat.zero_le _) fun _ => Adds.bind Adds.value (Nat.zero_le _) fun _ => Adds.pure

theorem build_detect_adds : Adds Built.lost 6 (build_detect gst spec x y) := by
  unfold build_detect
  refine Adds.bind create_adds (by decide) fun tee => Adds.bind create_adds (by decide) fun dqueue =>
    Adds.bind create_adds (by decide) fun dcaps => Adds.bind create_adds (by decide) fun dsink => ?_
  refine Adds.bind Adds.value (Nat.zero_le _) fun _ => Adds.bind Adds.value (Nat.zero_le _) fun _ =>
    Adds.bind Adds.value (Nat.zero_le _) fun _ => Adds.bind Adds.value (Nat.zero_le _) fun _ => ?_
  refine Adds.bind build_convert_adds (by decide) fun conv => ?_
  exact Adds.bind (both_adds add_adds link_adds) (Nat.zero_le _) fun _ =>
    Adds.bind Adds.require (Nat.zero_le _) fun _ => Adds.bind add_linked_adds (Nat.zero_le _) fun _ =>
    Adds.bind Adds.require (Nat.zero_le _) fun _ =>
    Adds.bind (both_adds link_branch_adds link_branch_adds) (Nat.zero_le _) fun _ =>
    Adds.bind Adds.require (Nat.zero_le _) fun _ => Adds.pure

@[simp] theorem make_grow_lost (b : Built) (es : List Element) (ls : List (Node × Node)) :
    ((b.make es.length).grow es ls).lost = b.lost := by
  simp only [Built.lost, Built.grow, Built.make, Built.with_pipeline]
  omega

theorem build_source_lost {b b' : Built} {description : String} {r : Element × Bool}
    (h : Does (build_source gst description) b r b') : b'.lost = b.lost := by
  obtain ⟨-, -, -, rfl⟩ := does_build_source.1 h
  exact make_grow_lost b [r.1] []

theorem build_encode_lost {b b' : Built} {r : Element × Element} (h : Does (build_encode gst spec) b r b') :
    b'.lost = b.lost := by
  obtain ⟨-, -, -, rfl⟩ := does_build_encode.1 h
  exact make_grow_lost b (encode_chain gst spec) (chain (encode_chain gst spec))

/-- What one `build` can lose: a part of it that has ended has lost nothing. -/
theorem build_lost (gst : Gst) (spec : PipelineSpec) (camera : Nat) (b : Built) :
    (build gst camera spec b).2.lost ≤ b.lost + 6 := by
  unfold build
  refine bind_le (Adds.require b) ?_
  rintro ⟨⟩ b1 h1
  obtain ⟨-, rfl⟩ := does_require.1 h1
  refine bind_le (Nat.le_add_right b.lost 6) ?_
  rintro ⟨⟩ b2 h2
  have hb2 : b2.lost = b.lost := by rw [← does_modify.1 h2]; rfl
  rw [← hb2]
  refine bind_le ((build_source_adds b2).trans (by omega)) ?_
  rintro ⟨source, camsrc⟩ b3 h3
  rw [← build_source_lost h3]
  refine bind_le ((build_encode_adds b3).trans (by omega)) ?_
  rintro ⟨queue, sink⟩ b4 h4
  rw [← build_encode_lost h4]
  have hset (f : Built → Built) (hf : ∀ b, (f b).lost = b.lost) : Adds Built.lost 0 (modify f : Build Unit) :=
    Adds.modify fun b => Nat.le_of_eq (hf b)
  revert b4
  rintro b4 -
  refine (?_ : Adds Built.lost 6 _) b4
  dsimp only
  split
  · exact Adds.bind build_detect_adds (Nat.le_refl 6) fun _ => Adds.bind (hset _ fun _ => rfl) (Nat.le_refl 0)
      fun _ => hset _ fun _ => rfl
  · exact Adds.bind link_adds (Nat.zero_le _) fun _ => Adds.bind Adds.require (Nat.zero_le _)
      fun _ => (hset _ fun _ => rfl).mono (Nat.zero_le _)

/-- A start that fails leaves nothing of the pipeline, and loses at most six elements. -/
theorem launch_error {camera : Nat} {b b' : Built} {e : String} (h : launch gst camera spec b = (.error e, b')) :
    b'.pipeline_ = none ∧ b'.sink_ = none ∧ b'.detect_ = none ∧ b'.source_ = false ∧ b'.lost ≤ b.lost + 6 := by
  have hplay (c : Built) : (play gst c).2 = c := by
    unfold play
    cases gst.set_state with
    | true => cases decide (gst.get_state = .playing) <;> simp [require] <;> rfl
    | false => rfl
  have hlost : ((do build gst camera spec; play gst : Build Unit) b).2.lost ≤ b.lost + 6 := by
    refine bind_le (build_lost gst spec camera b) ?_
    rintro ⟨⟩ c hc
    have hbuild := build_lost gst spec camera b
    rw [hc] at hbuild
    rw [hplay]
    exact hbuild
  unfold launch at h
  revert h hlost
  generalize (do build gst camera spec; play gst : Build Unit) b = r
  rcases r with ⟨e' | u, c⟩
  · simp only [Prod.mk.injEq, Except.error.injEq]
    rintro ⟨-, rfl⟩ hlost
    exact ⟨rfl, rfl, rfl, rfl, hlost⟩
  · simp

end Adds

/-! ## What the graph does with its frames -/

namespace Pipeline
variable (p : Pipeline)

def linked (x y : Node) : Prop := (x, y) ∈ p.links

/-- A queue that drops what does not fit. -/
def drops (x : Node) : Prop :=
  ∃ e ∈ p.elements, e.node = x ∧ e.factory = "queue" ∧ e.get "leaky" = some (.text "downstream")

/-- An appsink that keeps every frame until it is pulled. -/
def keeps (x : Node) : Prop := ∃ e ∈ p.elements, e.node = x ∧ e.factory = "appsink" ∧ e.get "drop" ≠ some (.bool true)

end Pipeline

/-- The bit rate that the encoder is given: x264enc and x265enc take kbit/s, as a guint. -/
def bitrate (spec : PipelineSpec) : Value :=
  if spec.hw then .int spec.bitrate else .uint (spec.bitrate.tdiv 1000 % 2 ^ 32).toNat

def stream_format (spec : PipelineSpec) : String :=
  if spec.h265 then "video/x-h265,stream-format=byte-stream" else "video/x-h264,stream-format=byte-stream"

def working_size (spec : PipelineSpec) : String :=
  "video/x-raw,format=BGRx,width=" ++ toString spec.detect_width ++ ",height=" ++ toString spec.detect_height

/-- A filter right before `x` that lets only these caps pass, if GStreamer takes the string. -/
def Pipeline.filters (p : Pipeline) (gst : Gst) (caps : String) (x : Node) : Prop :=
  ∃ e ∈ p.elements, e.factory = "capsfilter" ∧ p.linked e.node x ∧
    e.get "caps" = if gst.caps_from_string caps then some (.caps caps) else none

/-- The pipeline is a tree that grows from the source bin. Its frames come to every
element, through the spec's encoder at its bit rate to the `sink` appsink, and are
never held up, even if neither appsink is pulled. -/
structure Wired (gst : Gst) (spec : PipelineSpec) (p : Pipeline) : Prop where
  distinct : (p.elements.map (·.node)).Nodup
  between : ∀ x y, p.linked x y → x ∈ p.elements.map (·.node) ∧ y ∈ p.elements.map (·.node)
  tree : ∀ x x' y, p.linked x y → p.linked x' y → x = x'
  root : ∀ x, ¬ p.linked x (source_bin spec).node
  fed : ∀ e ∈ p.elements, Feeds p.linked (source_bin spec).node e.node
  encoded : ∃ e ∈ p.elements, e.factory = encoder spec ∧ e.get "bitrate" = some (bitrate spec) ∧
    Feeds p.linked e.node venc_sink.node
  format : p.filters gst (stream_format spec) venc_sink.node
  flowing : ¬ Stalls p.linked p.drops p.keeps (source_bin spec).node
  detect : detect_sink ∈ p.elements ↔ detects spec = true
  size : detects spec = true → p.filters gst (working_size spec) detect_sink.node
  /-- Every element with all its properties. -/
  elements : p.elements = wanted_elements gst spec

section Wired
variable {gst : Gst} {spec : PipelineSpec} {x y : Node} {es : List Element} {e : Element}

theorem chain_nodes (h : (x, y) ∈ chain es) : x ∈ es.map (·.node) ∧ y ∈ es.tail.map (·.node) := by
  induction es with
  | nil => simp [chain] at h
  | cons a es ih =>
    cases es with
    | nil => simp [chain] at h
    | cons b es =>
      simp only [chain, List.mem_cons, Prod.mk.injEq] at h
      rcases h with ⟨rfl, rfl⟩ | h
      · simp
      · obtain ⟨hx, hy⟩ := ih h
        exact ⟨List.mem_cons_of_mem _ hx, List.mem_cons_of_mem _ hy⟩

theorem chain_targets : (chain es).map (·.2) = es.tail.map (·.node) := by
  induction es with
  | nil => rfl
  | cons a es ih =>
    cases es with
    | nil => rfl
    | cons b es => simpa [chain] using ih

/-- A chain carries what comes to its head to each of its elements. -/
theorem chain_feeds {link : Node → Node → Prop} {a : Element} (hl : ∀ l ∈ chain (a :: es), link l.1 l.2)
    (he : e ∈ a :: es) : Feeds link a.node e.node := by
  induction es generalizing a with
  | nil =>
    rw [List.mem_singleton] at he
    subst he
    exact .refl
  | cons b es ih =>
    simp only [chain, List.forall_mem_cons] at hl
    rcases List.mem_cons.1 he with rfl | he
    · exact .refl
    · exact .head hl.1 (ih hl.2 he)

/-- The nodes of the pipeline for a spec. -/
theorem wanted_nodes : (wanted_elements gst spec).map (·.node) =
    .source spec.source :: ["venc_queue", "venc", "vparse", "vcaps", "sink"].map .element ++
      if detects spec then ["vtee", "detect_queue"].map .element ++ (convert_chain spec).map (·.node) ++
        ["detect_caps", "detect"].map .element
      else [] := by
  cases hd : detects spec <;>
    simp [wanted_elements, hd, source_bin, encode_chain, venc_queue, venc, venc_sink, vtee, detect_chain, detect_queue,
      detect_sink]

theorem convert_nodes : (convert_chain spec).map (·.node) =
    if spec.hw then [.element "detect_conv"] else [.element "detect_conv", .element "detect_scale"] := by
  unfold convert_chain
  split <;> rfl

theorem wanted_distinct : ((wanted_elements gst spec).map (·.node)).Nodup := by
  rw [wanted_nodes, convert_nodes]
  cases detects spec <;> cases spec.hw <;> simp

theorem wanted_targets : (wanted_links gst spec).map (·.2) =
    ["venc", "vparse", "vcaps", "sink"].map .element ++
      if detects spec then [.element "vtee"] ++ (convert_chain spec).map (·.node) ++
        ["detect_caps", "detect", "venc_queue", "detect_queue"].map .element
      else [.element "venc_queue"] := by
  cases hd : detects spec <;>
    simp [wanted_links, hd, chain_targets, encode_chain, venc_queue, venc, venc_sink, vtee, detect_chain, detect_queue,
      detect_sink]

theorem wanted_targets_distinct : ((wanted_links gst spec).map (·.2)).Nodup := by
  rw [wanted_targets, convert_nodes]
  cases detects spec <;> cases spec.hw <;> simp

theorem wanted_linked : (x, y) ∈ wanted_links gst spec ↔ (x, y) ∈ chain (encode_chain gst spec) ∨
    detects spec = false ∧ x = (source_bin spec).node ∧ y = venc_queue.node ∨
    detects spec = true ∧ (x = (source_bin spec).node ∧ y = vtee.node ∨ (x, y) ∈ chain (detect_chain gst spec) ∨
      x = vtee.node ∧ (y = venc_queue.node ∨ y = detect_queue.node)) := by
  cases hd : detects spec with
  | true =>
    simp only [wanted_links, hd, if_true, List.mem_append, List.mem_cons, List.not_mem_nil, or_false, Prod.mk.injEq]
    tauto
  | false => simp [wanted_links, hd]

theorem encode_feeds (he : e ∈ encode_chain gst spec) :
    Feeds (fun x y => (x, y) ∈ wanted_links gst spec) venc_queue.node e.node :=
  chain_feeds (fun _ hl => wanted_linked.2 (.inl hl)) he

theorem detect_feeds (hd : detects spec = true) (he : e ∈ detect_chain gst spec) :
    Feeds (fun x y => (x, y) ∈ wanted_links gst spec) detect_queue.node e.node :=
  chain_feeds (fun _ hl => wanted_linked.2 (.inr (.inr ⟨hd, .inr (.inl hl)⟩))) he

/-- The source feeds the encoder, directly or over the tee. -/
theorem source_feeds :
    Feeds (fun x y => (x, y) ∈ wanted_links gst spec) (source_bin spec).node venc_queue.node := by
  cases hd : detects spec with
  | true =>
    have htee : ((source_bin spec).node, vtee.node) ∈ wanted_links gst spec :=
      wanted_linked.2 (.inr (.inr ⟨hd, .inl ⟨rfl, rfl⟩⟩))
    have hqueue : (vtee.node, venc_queue.node) ∈ wanted_links gst spec :=
      wanted_linked.2 (.inr (.inr ⟨hd, .inr (.inr ⟨rfl, .inl rfl⟩)⟩))
    exact .head htee (.single hqueue)
  | false => exact .single (wanted_linked.2 (.inr (.inl ⟨hd, rfl, rfl⟩)))

theorem mem_wanted : e ∈ wanted_elements gst spec ↔ e = source_bin spec ∨ e ∈ encode_chain gst spec ∨
    detects spec = true ∧ (e = vtee ∨ e ∈ detect_chain gst spec) := by
  cases hd : detects spec <;> simp [wanted_elements, hd]

theorem wanted_fed (he : e ∈ wanted_elements gst spec) :
    Feeds (fun x y => (x, y) ∈ wanted_links gst spec) (source_bin spec).node e.node := by
  rcases mem_wanted.1 he with rfl | he | ⟨hd, rfl | he⟩
  · exact .refl
  · exact source_feeds.trans (encode_feeds he)
  · exact .single (wanted_linked.2 (.inr (.inr ⟨hd, .inl ⟨rfl, rfl⟩⟩)))
  · have htee : ((source_bin spec).node, vtee.node) ∈ wanted_links gst spec :=
      wanted_linked.2 (.inr (.inr ⟨hd, .inl ⟨rfl, rfl⟩⟩))
    have hqueue : (vtee.node, detect_queue.node) ∈ wanted_links gst spec :=
      wanted_linked.2 (.inr (.inr ⟨hd, .inr (.inr ⟨rfl, .inr rfl⟩)⟩))
    exact .head htee (.head hqueue (detect_feeds hd he))

theorem wanted_between (h : (x, y) ∈ wanted_links gst spec) :
    x ∈ (wanted_elements gst spec).map (·.node) ∧ y ∈ (wanted_elements gst spec).map (·.node) := by
  have hnode {e : Element} (he : e ∈ wanted_elements gst spec) : e.node ∈ (wanted_elements gst spec).map (·.node) :=
    List.mem_map_of_mem he
  have hqueue : venc_queue ∈ wanted_elements gst spec := mem_wanted.2 (.inr (.inl (by simp [encode_chain])))
  have hchain {es : List Element} (hes : ∀ e ∈ es, e ∈ wanted_elements gst spec) (hl : (x, y) ∈ chain es) :
      x ∈ (wanted_elements gst spec).map (·.node) ∧ y ∈ (wanted_elements gst spec).map (·.node) := by
    obtain ⟨hx, hy⟩ := chain_nodes hl
    exact ⟨List.map_subset _ hes hx, List.map_subset _ (fun e he => hes e (List.mem_of_mem_tail he)) hy⟩
  rcases wanted_linked.1 h with hl | ⟨hd, rfl, rfl⟩ | ⟨hd, ⟨rfl, rfl⟩ | hl | ⟨rfl, rfl | rfl⟩⟩
  · exact hchain (fun e he => mem_wanted.2 (.inr (.inl he))) hl
  · exact ⟨hnode (mem_wanted.2 (.inl rfl)), hnode hqueue⟩
  · exact ⟨hnode (mem_wanted.2 (.inl rfl)), hnode (mem_wanted.2 (.inr (.inr ⟨hd, .inl rfl⟩)))⟩
  · exact hchain (fun e he => mem_wanted.2 (.inr (.inr ⟨hd, .inr he⟩))) hl
  · exact ⟨hnode (mem_wanted.2 (.inr (.inr ⟨hd, .inl rfl⟩))), hnode hqueue⟩
  · exact ⟨hnode (mem_wanted.2 (.inr (.inr ⟨hd, .inl rfl⟩))),
      hnode (mem_wanted.2 (.inr (.inr ⟨hd, .inr (by simp [detect_chain])⟩)))⟩

/-- The nodes that frames pass on their way to `sink`, and the queue of the detect branch. -/
def on_video (gst : Gst) (spec : PipelineSpec) (x : Node) : Prop :=
  x = (source_bin spec).node ∨ x ∈ (encode_chain gst spec).map (·.node) ∨
    detects spec = true ∧ (x = vtee.node ∨ x = detect_queue.node)

/-- An appsink of the pipeline is one of the two. -/
theorem appsink_of (he : e ∈ wanted_elements gst spec) (h : e.factory = "appsink") :
    e = venc_sink ∨ e = detect_sink := by
  have hconv : ∀ e ∈ convert_chain spec, e.factory ≠ "appsink" := by
    unfold convert_chain
    split <;> simp
  have henc : encoder spec ≠ "appsink" := by
    cases hhw : spec.hw <;> cases hh : spec.h265 <;> simp [encoder, hhw, hh]
  have hparse : (if spec.h265 = true then "h265parse" else "h264parse") ≠ "appsink" := by
    cases spec.h265 <;> simp
  rcases mem_wanted.1 he with rfl | he | ⟨-, rfl | he⟩
  · simp [source_bin] at h
  · simp only [encode_chain, List.mem_cons, List.not_mem_nil, or_false] at he
    rcases he with rfl | rfl | rfl | rfl | rfl
    · simp [venc_queue] at h
    · exact absurd h henc
    · exact absurd h hparse
    · simp at h
    · exact .inl rfl
  · simp [vtee] at h
  · simp only [detect_chain, List.cons_append, List.mem_cons, List.mem_append, List.not_mem_nil, or_false] at he
    rcases he with rfl | he | rfl | rfl
    · simp [detect_queue] at h
    · exact absurd h (hconv e he)
    · simp at h
    · exact .inr rfl

/-- Of the detect branch, only the queue is on the way. -/
theorem on_video_detect (hx : on_video gst spec x) (he : x ∈ (detect_chain gst spec).map (·.node)) :
    x = detect_queue.node := by
  have hnodes : x = detect_queue.node ∨ x ∈ (convert_chain spec).map (·.node) ∨ x = .element "detect_caps" ∨
      x = .element "detect" := by
    simpa [detect_chain, detect_sink, detect_queue] using he
  rw [convert_nodes] at hnodes
  rcases hx with rfl | hx | ⟨-, rfl | rfl⟩
  · rcases hnodes with h | h | h | h
    · exact h
    · split at h <;> simp [source_bin] at h
    · simp [source_bin] at h
    · simp [source_bin] at h
  · have hvideo : x ∈ ["venc_queue", "venc", "vparse", "vcaps", "sink"].map Node.element := by
      simpa [encode_chain, venc_queue, venc, venc_sink] using hx
    simp only [List.map_cons, List.map_nil, List.mem_cons, List.not_mem_nil, or_false] at hvideo
    rcases hnodes with h | h | h | h
    · exact h
    · rcases hvideo with rfl | rfl | rfl | rfl | rfl <;> split at h <;> simp at h
    · subst h; simp at hvideo
    · subst h; simp at hvideo
  · rcases hnodes with h | h | h | h
    · exact h
    · split at h <;> simp [vtee] at h
    · simp [vtee] at h
    · simp [vtee] at h
  · rfl

/-- The detect branch starts at its queue, which drops, and the encoder's appsink does not keep its frames. -/
theorem wanted_flowing (name : String) :
    let p : Pipeline := ⟨name, wanted_elements gst spec, wanted_links gst spec⟩
    ¬ Stalls p.linked p.drops p.keeps (source_bin spec).node := by
  intro p
  refine not_stalls (on_video gst spec) ?_ ?_ (.inl rfl)
  · rintro x hx ⟨e, he, rfl, hsink, hdrop⟩
    rcases appsink_of he hsink with rfl | rfl
    · exact hdrop (by decide)
    · have h := on_video_detect hx (by simp [detect_chain])
      simp [detect_sink, detect_queue] at h
  · intro x y hx hxy
    have hqueue : on_video gst spec venc_queue.node := .inr (.inl (by simp [encode_chain]))
    rcases wanted_linked.1 hxy with hl | ⟨hd, rfl, rfl⟩ | ⟨hd, ⟨rfl, rfl⟩ | hl | ⟨rfl, rfl | rfl⟩⟩
    · exact .inr (.inr (.inl (List.mem_of_mem_tail (by simpa using (chain_nodes hl).2))))
    · exact .inr hqueue
    · exact .inr (.inr (.inr ⟨hd, .inl rfl⟩))
    · left
      rw [on_video_detect hx (chain_nodes hl).1]
      exact ⟨detect_queue, mem_wanted.2 (.inr (.inr ⟨hd, .inr (by simp [detect_chain])⟩)), rfl, rfl, by decide⟩
    · exact .inr hqueue
    · exact .inr (.inr (.inr ⟨hd, .inr rfl⟩))

/-- The queue has to drop: if nothing did, an appsink that is not pulled would hold up the source. -/
theorem undropped_stalls (hd : detects spec = true) (name : String) :
    let p : Pipeline := ⟨name, wanted_elements gst spec, wanted_links gst spec⟩
    Stalls p.linked (fun _ => False) p.keeps (source_bin spec).node := by
  intro p
  have hsink : detect_sink ∈ wanted_elements gst spec := mem_wanted.2 (.inr (.inr ⟨hd, .inr (by simp [detect_chain])⟩))
  exact stalls_of_feeds (wanted_fed hsink) ⟨detect_sink, hsink, rfl, rfl, by decide⟩ fun _ _ => id

/-- The encoder is given the spec's bit rate. -/
theorem venc_bitrate : (venc spec).get "bitrate" = some (bitrate spec) := by
  cases hhw : spec.hw <;> simp [venc, bitrate, Element.get, hhw]

theorem set_caps_get {node : Node} {factory caps : String} :
    (Element.set_caps gst { node, factory } caps).get "caps" =
      if gst.caps_from_string caps then some (.caps caps) else none := by
  unfold Element.set_caps
  split <;> simp [Element.get, Element.set]

theorem wanted_format (name : String) : Pipeline.filters
    ⟨name, wanted_elements gst spec, wanted_links gst spec⟩ gst (stream_format spec) venc_sink.node := by
  have hmem : Element.set_caps gst { node := .element "vcaps", factory := "capsfilter" } (stream_format spec) ∈
      encode_chain gst spec := by simp [encode_chain, stream_format]
  have hlink : (Node.element "vcaps", venc_sink.node) ∈ wanted_links gst spec :=
    wanted_linked.2 (.inl (by simp [encode_chain, chain]))
  refine ⟨_, mem_wanted.2 (.inr (.inl hmem)), by simp, ?_, set_caps_get⟩
  rw [Pipeline.linked, Element.set_caps_node]
  exact hlink

theorem detect_chain_split : detect_chain gst spec = detect_queue :: convert_chain spec ++
    [Element.set_caps gst { node := .element "detect_caps", factory := "capsfilter" } (working_size spec),
      detect_sink] := rfl

theorem wanted_size (hd : detects spec = true) (name : String) : Pipeline.filters
    ⟨name, wanted_elements gst spec, wanted_links gst spec⟩ gst (working_size spec) detect_sink.node := by
  have hmem : Element.set_caps gst { node := .element "detect_caps", factory := "capsfilter" } (working_size spec) ∈
      detect_chain gst spec := by
    rw [detect_chain_split]
    simp
  have hlink : (Node.element "detect_caps", detect_sink.node) ∈ wanted_links gst spec := by
    refine wanted_linked.2 (.inr (.inr ⟨hd, .inr (.inl ?_)⟩))
    cases hhw : spec.hw <;> simp [detect_chain, convert_chain, chain, hhw]
  refine ⟨_, mem_wanted.2 (.inr (.inr ⟨hd, .inr hmem⟩)), by simp, ?_, set_caps_get⟩
  rw [Pipeline.linked, Element.set_caps_node]
  exact hlink

theorem wanted_wired (gst : Gst) (spec : PipelineSpec) (camera : Nat) (b : Built) :
    ∃ p, (wanted gst camera spec b).pipeline_ = some p ∧ Wired gst spec p := by
  refine ⟨_, rfl, ?_⟩
  refine ⟨wanted_distinct, fun x y => wanted_between, ?_, ?_, fun e => wanted_fed, ?_, wanted_format _,
    wanted_flowing _, ?_, fun hd => wanted_size hd _, rfl⟩
  · intro x x' y hx hx'
    exact congrArg Prod.fst (List.inj_on_of_nodup_map wanted_targets_distinct hx hx' rfl)
  · intro x hx
    have h := List.mem_map_of_mem (f := (·.2)) hx
    rw [wanted_targets, convert_nodes] at h
    cases hd : detects spec <;> cases hhw : spec.hw <;> simp [hd, hhw, source_bin] at h
  · have hfeeds : Feeds (fun x y => (x, y) ∈ wanted_links gst spec) (venc spec).node venc_sink.node := by
      have hin : venc_sink ∈ venc spec :: (encode_chain gst spec).tail.tail := by simp [encode_chain]
      exact chain_feeds (fun l hl => wanted_linked.2 (.inl (List.mem_cons_of_mem _ hl))) hin
    exact ⟨venc spec, mem_wanted.2 (.inr (.inl (by simp [encode_chain]))), rfl, venc_bitrate, hfeeds⟩
  · constructor
    · intro h
      rcases mem_wanted.1 h with h | h | ⟨hd, -⟩
      · simp [detect_sink, source_bin] at h
      · have hnode := List.mem_map_of_mem (f := (·.node)) h
        simp [encode_chain, venc_queue, venc, venc_sink, detect_sink] at hnode
      · exact hd
    · intro hd
      exact mem_wanted.2 (.inr (.inr ⟨hd, .inr (by simp [detect_chain])⟩))

end Wired

/-! ## Starting a pipeline -/

/-- `CameraPipeline::start`, without its flag: the pipeline before is taken down. -/
def start (gst : Gst) (camera : Nat) (spec : PipelineSpec) (b : Built) : Except String Unit × Built :=
  launch gst camera spec b.stop

/-- A GStreamer that refuses nothing. -/
def obliging : Gst where
  parse := fun _ => (some true, none)
  make := fun _ _ => true
  caps_from_string := fun _ => true
  bin_add := fun _ => true
  link := fun _ _ => true
  static_pad := fun _ => true
  request_pad := fun _ => true
  pad_link := fun _ => true
  set_state := true
  get_state := .playing

example : (start obliging 0 { source := "videotestsrc name=camsrc", detect_width := 320, detect_height := 240 } {}).1 =
    .ok () := by rfl

example : (start { obliging with make := fun factory _ => factory != "nvvidconv" } 0
      { source := "videotestsrc name=camsrc", detect_width := 320, detect_height := 240 } {}).1 =
    .error "no such GStreamer element: nvvidconv" := by rfl

end CameraStreamer.Media
