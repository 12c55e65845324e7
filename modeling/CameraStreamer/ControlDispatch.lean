import CameraStreamer.Json
/-!
# Control requests

From a request line to its reply line, for either carrier. The parser and the
generator are json-glib's and parameters; the handlers are functions on a state `W`, which is
whatever they read and write: the configuration, the devices, the transports.
-/

namespace CameraStreamer.Control

open Json JsonGenerator

def kParseError : Int := -32700
def kInvalidRequest : Int := -32600
def kUnknownMethod : Int := -32601
def kInvalidParams : Int := -32602
def kFailed : Int := 1

structure ControlError where
  code : Int
  message : String
  deriving DecidableEq, Repr

/-- The result node, or an error. -/
abbrev HandlerResult (D : Type) := Except ControlError (Json D)

/-- `IControlHandler::handle`; the parameters are absent where they are no object. -/
abbrev IControlHandler (D W : Type) := Option (Members D) → W → HandlerResult D × W

/-- `ControlRegistry`, its map from method names. -/
abbrev ControlRegistry (D W : Type) := List (String × IControlHandler D W)

def ControlRegistry.find {D W : Type} (handlers_ : ControlRegistry D W) (method : String) :
    Option (IControlHandler D W) := handlers_.lookup method

/-- The bytes before the first NUL, as a `const char*` has them. -/
def c_str (s : Bytes) : Bytes := s.takeWhile (· ≠ 0)

/-- `json_parser_load_from_data`, then the root. -/
abbrev JsonParser (D : Type) := Bytes → Except String (Option (Json D))

def APP_VERSION : String := "dev"

def PingHandler {D W : Type} : IControlHandler D W := fun _ w =>
  (.ok (.object [("pong", .bool true), ("version", .string APP_VERSION)]), w)

section Dispatch
variable {D W : Type} (parse : JsonParser D) (registry : ControlRegistry D W)

/-- What `dispatch_request` puts into the envelope: the id of the request, and its outcome. -/
def outcome (line : Bytes) (w : W) : Json D × HandlerResult D × W :=
  match parse line with
  | .error message => (.null, .error ⟨kParseError, message⟩, w)
  | .ok (some (.object req)) =>
    let id := (req.lookup "id").getD .null
    let params := match req.lookup "params" with
      | some (.object p) => some p
      | _ => none
    match req.lookup "method" with
    | some (.string method) =>
      match registry.find method with
      | none => (id, .error ⟨kUnknownMethod, "unknown method '" ++ method ++ "'"⟩, w)
      | some handler => (id, handler params w)
    | _ => (id, .error ⟨kInvalidRequest, "missing method"⟩, w)
  | .ok _ => (.null, .error ⟨kInvalidRequest, "request must be a JSON object"⟩, w)

/-- `{"id": ..., "result": ...}` or `{"id": ..., "error": {...}}` -/
def envelope (id : Json D) : HandlerResult D → Json D
  | .ok res => .object [("id", id), ("result", res)]
  | .error e => .object [("id", id), ("error", .object [("code", .int e.code), ("message", .string e.message)])]

variable [JsonGenerator D]

/-- The reply to `line`, empty where there is none, and the state after it. -/
def dispatch_request (line : Bytes) (w : W) : Bytes × W :=
  match c_str line with
  | [] => ([], w)  -- blank lines get no reply
  | text =>
    let (id, res, w') := outcome parse registry text w
    (to_data (envelope id res) ++ [10], w')

/-! ## Replies -/

/-- The bytes of a reply around the id and the result, or the id, the code and the message. -/
def reply_size (id : Json D) : HandlerResult D → Nat
  | .ok res => (to_data id).length + (to_data res).length + 18
  | .error e => (to_data id).length + (to_data (.int e.code : Json D)).length +
    (to_data (.string e.message : Json D)).length + 37

theorem reply_length (id : Json D) (res : HandlerResult D) :
    (to_data (envelope id res) ++ [10]).length = reply_size id res := by
  have hname : ∀ name ∈ ["id", "result", "error", "code", "message"],
      (to_data (.string name : Json D)).length = (utf8 name).length + 2 := by
    intro name hname
    have hplain : (["id", "result", "error", "code", "message"].all fun n => n.toList.all Char.isAlphanum) = true :=
      rfl
    rw [to_data_name name (List.all_eq_true.1 hplain name hname), List.cons_append, List.length_cons, List.length_append]
    rfl
  have hid : (to_data (.string "id" : Json D)).length = 4 := hname "id" (by simp)
  cases res with
  | ok j =>
    have hresult : (to_data (.string "result" : Json D)).length = 8 := hname "result" (by simp)
    simp only [envelope, reply_size, to_data_object, List.map_cons, List.map_nil, List.intercalate_cons_cons,
      List.intercalate_singleton, List.length_append, List.length_cons, List.length_nil, hid, hresult]
    omega
  | error e =>
    have herror : (to_data (.string "error" : Json D)).length = 7 := hname "error" (by simp)
    have hcode : (to_data (.string "code" : Json D)).length = 6 := hname "code" (by simp)
    have hmessage : (to_data (.string "message" : Json D)).length = 9 := hname "message" (by simp)
    simp only [envelope, reply_size, to_data_object, List.map_cons, List.map_nil, List.intercalate_cons_cons,
      List.intercalate_singleton, List.length_append, List.length_cons, List.length_nil, hid, herror, hcode, hmessage]
    omega

/-- A line in the sense of the protocol: one newline, at its end. -/
def OneLine (b : Bytes) : Prop := ∃ text, b = text ++ [10] ∧ 10 ∉ text

theorem reply_line (id : Json D) (res : HandlerResult D) : OneLine (to_data (envelope id res) ++ [10]) :=
  ⟨_, rfl, to_data_line _⟩

theorem c_str_eq_nil {line : Bytes} : c_str line = [] ↔ line = [] ∨ line.head? = some 0 := by
  cases line with
  | nil => simp [c_str]
  | cons b line =>
    by_cases hb : b = 0
    · simp [c_str, hb]
    · simp [c_str, hb]

theorem c_str_self {line : Bytes} (h : 0 ∉ line) : c_str line = line := by
  induction line with
  | nil => rfl
  | cons b line ih =>
    have hb : b ≠ 0 := fun h0 => h (by simp [h0])
    have hline : 0 ∉ line := fun h0 => h (by simp [h0])
    simp only [c_str] at ih ⊢
    rw [List.takeWhile_cons, if_pos (by simpa using hb), ih hline]

theorem dispatch_blank {line : Bytes} (h : c_str line = []) (w : W) :
    dispatch_request parse registry line w = ([], w) := by
  rw [dispatch_request, h]

theorem dispatch_line {line : Bytes} (h : c_str line ≠ []) (w : W) :
    dispatch_request parse registry line w =
      (to_data (envelope (outcome parse registry (c_str line) w).1 (outcome parse registry (c_str line) w).2.1) ++ [10],
        (outcome parse registry (c_str line) w).2.2) := by
  rw [dispatch_request]
  split
  · rename_i hc
    exact absurd hc h
  · rfl

/-- Two lines that are one C string are one request. -/
theorem dispatch_congr {line line' : Bytes} (h : c_str line = c_str line') (w : W) :
    dispatch_request parse registry line w = dispatch_request parse registry line' w := by
  rw [dispatch_request, dispatch_request, h]

end Dispatch

end CameraStreamer.Control
