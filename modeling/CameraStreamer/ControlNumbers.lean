import Mathlib.Data.Rat.Floor
import CameraStreamer.TriggerHandlers
/-!
# Numbers in requests

set-exposure, set-trigger and set-control take integers, and `param_int` takes
any number for one. On its way to the device a number is cast three times: a
double to `int64_t`, that to `int` or `int32_t`, and an id through its text to
`uint32_t`. We say which requests survive the casts.
-/

namespace CameraStreamer.Control

open Json

variable {D K S : Type} [Doubles D]

/-! ## set-control -/

/-- A control's name, or the text of its numeric id. -/
def param_control (params : Option (Members D)) : Option String :=
  match param params "control" with
  | some (.string s) => if s = "" then none else some s
  | _ => (param_int params "control").map toString

def SetControlHandler {V : Type} (ctx : ControlContext D S V) : IControlHandler D (ControlState D S V) := fun params s =>
  match require_camera params with
  | .error e => (.error e, s)
  | .ok cam_idx =>
    match param_control params with
    | none => (.error ⟨kInvalidParams, "control must be a name or numeric id"⟩, s)
    | some control =>
      match param_int params "value" with
      | none => (.error ⟨kInvalidParams, "value must be an integer"⟩, s)
      | some value =>
        match ctx.v4l2.set_control (s.cam cam_idx).device control value s.devices with
        | (.error e, devices) => (.error ⟨kFailed, e⟩, { s with devices := devices })
        | (.ok (), devices) => (empty_result, { s with devices := devices })

/-! ## Requests with numbers -/

inductive NumberRequest (D : Type) where
  | exposure (params : Option (Members D))
  | trigger (params : Option (Members D))
  | control (params : Option (Members D))

def NumberRequest.params : NumberRequest D → Option (Members D)
  | exposure params => params
  | trigger params => params
  | control params => params

def NumberRequest.handle {V : Type} (ctx : ControlContext D S V) (r : NumberRequest D) :
    ControlState D S V → HandlerResult D × ControlState D S V :=
  match r with
  | exposure params => SetExposureHandler ctx params
  | trigger params => SetTriggerHandler ctx params
  | control params => SetControlHandler ctx params

/-- The handlers' context over a kernel, with the writes its drivers took in the state. -/
def on_kernel (kernel : V4l2.Kernel K) (stream : IStreamController D S)
    (notify_stream : Option (Fin kNumCameras → Bool → S → S)) : ControlContext D S (K × List V4l2.Write) :=
  ⟨stream, V4l2.V4l2Device kernel.logged, notify_stream⟩

/-- A state of the handlers over a kernel. -/
abbrev KernelState (D S K : Type) := ControlState D S (K × List V4l2.Write)

/-! ## Exact numbers -/

def Int32 (n : Int) : Prop := -2 ^ 31 ≤ n ∧ n < 2 ^ 31
def Int64 (n : Int) : Prop := -2 ^ 63 ≤ n ∧ n < 2 ^ 63

/-- A cast to `int64_t` gives one, and keeps an integer that fits. What it makes of
other doubles is left open, as it is in C++ where they are out of range. -/
structure Casts (value : D → Rat) : Prop where
  fits : ∀ d : D, Int64 (Doubles.toInt d)
  exact : ∀ (d : D) (n : Int), Int64 n → value d = n → Doubles.toInt d = n

/-- The integer nodes of the parser hold a `gint64`. -/
def Parsed (params : Option (Members D)) : Prop := ∀ name i, param params name = some (.int i) → Int64 i

section Exact
variable (value : D → Rat)

/-- The number that a node stands for. -/
def number : Json D → Option Rat
  | .int i => some i
  | .double d => some (value d)
  | _ => none

/-- The request's number under `name` is `n`. -/
def Given (params : Option (Members D)) (name : String) (n : Int) : Prop :=
  (param params name).bind (number value) = some (n : Rat)

/-- `v4l2_query_ext_ctrl::id` is a `__u32`. -/
def Ids (kernel : V4l2.Kernel K) : Prop := ∀ path k, ∀ q ∈ kernel.query_ext_ctrls path k, q.id < 2 ^ 32

variable (ctx : ControlContext D S (K × List V4l2.Write))

/-- The device of the camera was written once, with `n` as the value. -/
def WroteOnce (c : Fin kNumCameras) (n : Int) (s s' : KernelState D S K) : Prop :=
  ∃ id, s'.devices.2 = s.devices.2 ++ [⟨(s.cam c).device, id, n⟩]

/-- The camera's exposure became `us`: in the configuration, and on the device, or
in the live pipeline. Zero stands for the driver's default. -/
structure ExposureAt (c : Fin kNumCameras) (us : Int) (s s' : KernelState D S K) : Prop where
  config : s'.config = s.config.set_camera c { s.cam c with exposure := us }
  argus : (s.cam c).source = "argus" → s'.stream = (ArgusSource.set_exposure ctx c us s).2.stream
  v4l2 : (s.cam c).source = "v4l2" → ∃ n, WroteOnce c n s s' ∧ (us ≠ 0 → n = us)

structure TriggerAt (c : Fin kNumCameras) (mode : Int) (s s' : KernelState D S K) : Prop where
  config : s'.config = s.config.set_camera c { s.cam c with trigger := mode }
  device : WroteOnce c mode s s'

/-- The control with this id got the value. -/
structure ControlAt (c : Fin kNumCameras) (id : Nat) (n : Int) (s s' : KernelState D S K) : Prop where
  config : s'.config = s.config
  device : s'.devices.2 = s.devices.2 ++ [⟨(s.cam c).device, id, n⟩]

/-- What the request did is what its numbers say: the camera, the value, and the
control where it is given by its number. -/
def Applied (r : NumberRequest D) (s s' : KernelState D S K) : Prop :=
  ∃ c : Fin kNumCameras, Given value r.params "camera" c.val ∧
    match r with
    | .exposure params => ∃ us, Given value params "us" us ∧ ExposureAt ctx c us s s'
    | .trigger params => ∃ mode, Given value params "mode" mode ∧ TriggerAt c mode s s'
    | .control params => ∃ n id, Given value params "value" n ∧ ControlAt c id n s s' ∧
        ∀ q, (param params "control").bind (number value) = some q → q = id

/-- The text of `id` is not the name of a control that is listed before the one with this id. -/
def NotNamed (table : List V4l2.QueryExtCtrl) (id : Nat) : Prop :=
  ∀ q ∈ table.takeWhile (fun q => !(q.listed && q.id == id)), q.listed →
    V4l2.normalize q.name ≠ V4l2.normalize (toString id)

/-- The control that is picked holds 64 bits. -/
def Wide (table : List V4l2.QueryExtCtrl) (params : Option (Members D)) : Prop :=
  ∃ text q, param_control params = some text ∧ V4l2.picked table text = some q ∧ q.type = V4l2.V4L2_CTRL_TYPE_INTEGER64

/-- The numbers of the request are integers, and fit where they are kept. -/
def Fits (kernel : V4l2.Kernel K) (r : NumberRequest D) (s : KernelState D S K) : Prop :=
  ∃ c : Fin kNumCameras, Given value r.params "camera" c.val ∧
    match r with
    | .exposure params => ∃ us, Given value params "us" us ∧ 0 ≤ us ∧ us < 2 ^ 31
    | .trigger params => ∃ mode, Given value params "mode" mode ∧ 0 ≤ mode ∧ mode < 2 ^ 31
    | .control params =>
      let table := kernel.table (s.cam c).device s.devices.1
      (∃ n, Given value params "value" n ∧ (Int32 n ∨ Int64 n ∧ Wide table params)) ∧
      ∀ q, (param params "control").bind (number value) = some q → ∃ id : Nat, q = id ∧ id < 2 ^ 32 ∧ NotNamed table id

end Exact

/-! ## What an exact number comes to -/

section Casting
variable {value : D → Rat} {params : Option (Members D)} {name : String}

theorem param_int_given (hcast : Casts value) {n : Int} (h : Given value params name n) (hn : Int64 n) :
    param_int params name = some n := by
  obtain ⟨j, hj, hv⟩ := Option.bind_eq_some_iff.1 h
  rw [param_int, hj]
  cases j with
  | int i =>
    have hi : i = n := by exact_mod_cast Option.some.inj hv
    rw [hi]
  | double d =>
    have hd := hcast.exact d n hn (Option.some.inj hv)
    dsimp only
    rw [hd]
  | _ => cases hv

theorem param_camera_given (hcast : Casts value) {c c' : Fin kNumCameras}
    (h : Given value params "camera" c.val) (hc : param_camera params = some c') : c = c' := by
  have hlt := c.isLt
  simp only [kNumCameras] at hlt
  have hi := param_int_given hcast h ⟨by omega, by omega⟩
  rw [param_camera, hi, Option.bind_some, dif_pos ⟨by omega, by exact_mod_cast c.isLt⟩] at hc
  apply Fin.ext
  simpa using congrArg Fin.val (Option.some.inj hc)

theorem param_control_given (hcast : Casts value) {id : Nat} (hid : id < 2 ^ 32)
    (h : Given value params "control" id) : param_control params = some (toString id) := by
  have hi := param_int_given hcast h ⟨by omega, by omega⟩
  obtain ⟨j, hj, hv⟩ := Option.bind_eq_some_iff.1 h
  unfold param_control
  rw [hi, hj]
  cases j with
  | string s => cases hv
  | _ => rfl

omit [Doubles D] in
theorem to_int_int32 (n : Int) : Int32 (to_int n) := by
  have hlo := Int.le_bmod (x := n) (m := 2 ^ 32) (by omega)
  have hhi := Int.bmod_lt (x := n) (m := 2 ^ 32) (by omega)
  unfold Int32 to_int
  omega

theorem to_int_fits {n : Int} (h : Int32 n) : to_int n = n := by
  obtain ⟨hlo, hhi⟩ := h
  unfold to_int
  apply Int.bmod_eq_of_le <;> omega

end Casting

/-! ## What a request that succeeds has done -/

section Success
variable {kernel : V4l2.Kernel K} {stream : IStreamController D S}
  {notify_stream : Option (Fin kNumCameras → Bool → S → S)} {c : Fin kNumCameras} {s s' : KernelState D S K}
  {params : Option (Members D)} {result : Json D}

omit [Doubles D] in
theorem reply_ok {r : SourceResult D S (K × List V4l2.Write)} (h : (reply r).1 = .ok result) : r.1 = .ok () := by
  obtain ⟨e | u, s⟩ := r
  · cases h
  · rfl

theorem require_camera_ok (h : require_camera params = .ok c) : param_camera params = some c := by
  unfold require_camera at h
  split at h
  · rename_i idx hc
    rw [hc, Except.ok.inj h]
  · cases h

omit [Doubles D] in
/-- A source's write reaches the device once. -/
theorem v4l2_set_ok {control : String} {n : Option Int} {cam : CameraConfig D}
    (h : V4l2Source.set (on_kernel kernel stream notify_stream) c control n cam s = (.ok (), s')) :
    s'.config = s.config.set_camera c cam ∧ ∃ m, WroteOnce c m s s' ∧ ∀ k, n = some k → m = k ∨ m = to_int k := by
  have hset : ∀ {k : Int} {devices devices' : K × List V4l2.Write},
      V4l2.set_control kernel.logged (s.cam c).device control k devices = (.ok (), devices') →
      ∃ id m, devices'.2 = devices.2 ++ [⟨(s.cam c).device, id, m⟩] ∧ (m = k ∨ m = to_int k) := by
    intro k devices devices' hk
    obtain ⟨q, -, hw⟩ := V4l2.set_control_ok hk
    refine ⟨q.id, if q.type == V4l2.V4L2_CTRL_TYPE_INTEGER64 then k else to_int k, hw, ?_⟩
    split
    · exact .inl rfl
    · exact .inr rfl
  unfold V4l2Source.set at h
  rcases n with - | k
  · -- back to the default: what is read first writes nothing
    have hlog := V4l2.get_control_log kernel (s.cam c).device control s.devices
    simp only [on_kernel, V4l2.V4l2Device] at h
    rcases hg : V4l2.get_control kernel.logged (s.cam c).device control s.devices with ⟨e | current, devices⟩
    · simp only [hg] at h
      cases h
    · rw [hg] at hlog
      simp only [hg] at h
      rcases hk : V4l2.set_control kernel.logged (s.cam c).device control current.default_value devices with
        ⟨e | u, devices'⟩
      · simp only [hk] at h
        cases h
      · simp only [hk] at h
        cases h
        obtain ⟨id, m, hw, -⟩ := hset hk
        refine ⟨rfl, m, ⟨id, ?_⟩, by simp⟩
        rw [← hlog]
        exact hw
  · simp only [on_kernel, V4l2.V4l2Device] at h
    rcases hk : V4l2.set_control kernel.logged (s.cam c).device control k s.devices with ⟨e | u, devices⟩
    · simp only [hk] at h
      cases h
    · simp only [hk] at h
      cases h
      obtain ⟨id, m, hw, hm⟩ := hset hk
      refine ⟨rfl, m, ⟨id, hw⟩, ?_⟩
      intro k' hk'
      rw [← Option.some.inj hk']
      exact hm

theorem exposure_ok (h : (SetExposureHandler (on_kernel kernel stream notify_stream) params s).1 = .ok result) :
    ∃ c us, param_camera params = some c ∧ param_us params = some us ∧
      ExposureAt (on_kernel kernel stream notify_stream) c (to_int us) s
        (SetExposureHandler (on_kernel kernel stream notify_stream) params s).2 := by
  unfold SetExposureHandler handle_exposure_or_gain at h ⊢
  rcases hc : require_camera params with e | c
  · simp only [hc] at h
    cases h
  simp only [hc, if_true] at h ⊢
  rcases hsource : create_source (s.cam c).source with - | source
  · simp only [hsource] at h
    cases h
  simp only [hsource] at h ⊢
  rcases hus : param_us params with - | us
  · simp only [hus] at h
    cases h
  simp only [hus] at h ⊢
  refine ⟨c, us, require_camera_ok hc, rfl, ?_⟩
  have hr := reply_ok h
  rw [reply_state]
  have hfit := to_int_int32 us
  generalize to_int us = n at hr hfit ⊢
  have hname := create_source_eq_some.1 hsource
  rcases source with - | - | -
  · refine ⟨rfl, fun _ => rfl, fun hv => ?_⟩
    rw [hname] at hv
    exact absurd hv (by decide)
  · have hset : V4l2Source.set_exposure (on_kernel kernel stream notify_stream) c n s =
        (.ok (), (V4l2Source.set_exposure (on_kernel kernel stream notify_stream) c n s).2) := Prod.ext hr rfl
    obtain ⟨hconfig, m, hw, hm⟩ := v4l2_set_ok hset
    refine ⟨hconfig, fun hv => ?_, fun _ => ⟨m, hw, fun hn => ?_⟩⟩
    · rw [hname] at hv
      exact absurd hv (by decide)
    · rcases hm n (if_neg hn) with rfl | rfl
      · rfl
      · exact to_int_fits hfit
  · cases hr

theorem trigger_ok (h : (SetTriggerHandler (on_kernel kernel stream notify_stream) params s).1 = .ok result) :
    ∃ c mode, param_camera params = some c ∧ param_mode params = some mode ∧
      TriggerAt c (to_int mode) s (SetTriggerHandler (on_kernel kernel stream notify_stream) params s).2 := by
  unfold SetTriggerHandler at h ⊢
  rcases hc : require_camera params with e | c
  · simp only [hc] at h
    cases h
  simp only [hc] at h ⊢
  rcases hmode : param_mode params with - | mode
  · simp only [hmode] at h
    cases h
  simp only [hmode] at h ⊢
  rcases hsource : create_source (s.cam c).source with - | source
  · simp only [hsource] at h
    cases h
  simp only [hsource] at h ⊢
  refine ⟨c, mode, require_camera_ok hc, rfl, ?_⟩
  have hr := reply_ok h
  rw [reply_state]
  have hfit := to_int_int32 mode
  generalize to_int mode = n at hr hfit ⊢
  rcases source with - | - | -
  · cases hr
  · unfold set_trigger at hr ⊢
    simp only [on_kernel, V4l2.V4l2Device] at hr ⊢
    rcases hset : V4l2.set_trigger_mode kernel.logged (s.cam c).device n s.devices with ⟨e | u, devices⟩
    · simp only [hset] at hr
      cases hr
    · obtain ⟨id, m, hw, hm⟩ := V4l2.set_trigger_mode_ok hset
      have hmn : m = n := by
        rcases hm with rfl | rfl
        · rfl
        · exact to_int_fits hfit
      rw [hmn] at hw
      exact ⟨rfl, id, hw⟩
  · cases hr

theorem control_ok (h : (SetControlHandler (on_kernel kernel stream notify_stream) params s).1 = .ok result) :
    ∃ c text n q, param_camera params = some c ∧ param_control params = some text ∧
      param_int params "value" = some n ∧
      V4l2.picked (kernel.table (s.cam c).device s.devices.1) text = some q ∧
      ControlAt c q.id (if q.type == V4l2.V4L2_CTRL_TYPE_INTEGER64 then n else to_int n) s
        (SetControlHandler (on_kernel kernel stream notify_stream) params s).2 := by
  unfold SetControlHandler at h ⊢
  rcases hc : require_camera params with e | c
  · simp only [hc] at h
    cases h
  simp only [hc] at h ⊢
  rcases hcontrol : param_control params with - | text
  · simp only [hcontrol] at h
    cases h
  simp only [hcontrol] at h ⊢
  rcases hvalue : param_int params "value" with - | n
  · simp only [hvalue] at h
    cases h
  simp only [hvalue, on_kernel, V4l2.V4l2Device] at h ⊢
  rcases hset : V4l2.set_control kernel.logged (s.cam c).device text n s.devices with ⟨e | u, devices⟩
  · simp only [hset] at h
    cases h
  · obtain ⟨q, hq, hw⟩ := V4l2.set_control_ok hset
    exact ⟨c, text, n, q, require_camera_ok hc, rfl, rfl, hq, rfl, hw⟩

end Success

/-! ## Numeric ids in a table -/

theorem hit_id {id : Nat} (hid : id < 2 ^ 32) (q : V4l2.QueryExtCtrl) :
    q.hit (toString id) = (q.id == id || V4l2.normalize q.name == V4l2.normalize (toString id)) := by
  have hne : toString id ≠ "" := by
    intro h
    have hl := congrArg String.toList h
    rw [Nat.toString_eq_ofList_toDigits, String.toList_ofList] at hl
    exact Nat.toDigits_ne_nil hl
  rw [V4l2.QueryExtCtrl.hit, V4l2.parse_id_text hid, bne_iff_ne.2 hne, Bool.true_and]

/-- The control that is picked has the id just where the id is no earlier control's name. -/
theorem picked_id {table : List V4l2.QueryExtCtrl} {id : Nat} {q : V4l2.QueryExtCtrl} (hid : id < 2 ^ 32)
    (h : V4l2.picked table (toString id) = some q) : q.id = id ↔ NotNamed table id := by
  unfold V4l2.picked at h
  unfold NotNamed
  induction table with
  | nil => cases h
  | cons p table ih =>
    rw [List.find?_cons, hit_id hid] at h
    rw [List.takeWhile_cons]
    by_cases hl : p.listed = true
    · by_cases hi : p.id = id
      · -- the control with the id is picked
        simp only [hl, hi, beq_self_eq_true, Bool.true_or, Bool.and_self, Option.some.injEq] at h
        subst h
        simp [hl, hi]
      · have hi' : (p.id == id) = false := beq_eq_false_iff_ne.2 hi
        by_cases hn : V4l2.normalize p.name = V4l2.normalize (toString id)
        · -- one before it is picked by its name
          simp only [hl, hi', hn, beq_self_eq_true, Bool.or_true, Bool.and_self, Option.some.injEq] at h
          subst h
          simp only [hi, hl, hi', Bool.true_and, Bool.not_false, if_true, false_iff]
          exact fun hnone => hnone p (by simp) hl hn
        · have hn' : (V4l2.normalize p.name == V4l2.normalize (toString id)) = false := beq_eq_false_iff_ne.2 hn
          simp only [hl, hi', hn', Bool.or_self, Bool.and_false] at h
          have hrest := ih h
          simp only [hl, hi', Bool.true_and, Bool.not_false, if_true, List.forall_mem_cons]
          rw [hrest]
          exact ⟨fun hnone => ⟨fun _ => hn, hnone⟩, fun hnone => hnone.2⟩
    · have hl' : p.listed = false := by simpa using hl
      simp only [hl', Bool.false_and] at h
      have hrest := ih h
      simp only [hl', Bool.false_and, Bool.not_false, if_true, List.forall_mem_cons, Bool.false_eq_true, false_imp_iff,
        true_and]
      exact hrest

/-! ## Applied exactly, or not -/

section Results
variable {value : D → Rat} {kernel : V4l2.Kernel K} {stream : IStreamController D S}
  {notify_stream : Option (Fin kNumCameras → Bool → S → S)} {s : KernelState D S K} {params : Option (Members D)}
  {result : Json D}

/-- A number is itself after the cast to `int` just where it is an integer in the range of one. -/
theorem kept_iff (hcast : Casts value) {name : String} {n : Int} (hn : param_int params name = some n) (hpos : 0 ≤ n) :
    Given value params name (to_int n) ↔ ∃ k, Given value params name k ∧ 0 ≤ k ∧ k < 2 ^ 31 := by
  have hgiven : ∀ {k}, Given value params name k → Int64 k → k = n := fun hg hk =>
    Option.some.inj ((param_int_given hcast hg hk).symm.trans hn)
  constructor
  · intro hg
    obtain ⟨hlo, hhi⟩ := to_int_int32 n
    have heq := hgiven hg ⟨by omega, by omega⟩
    exact ⟨to_int n, hg, by omega, hhi⟩
  · rintro ⟨k, hg, hlo, hhi⟩
    obtain rfl := hgiven hg ⟨by omega, by omega⟩
    rw [to_int_fits ⟨by omega, hhi⟩]
    exact hg

theorem exposure_exact (hcast : Casts value)
    (h : (SetExposureHandler (on_kernel kernel stream notify_stream) params s).1 = .ok result) :
    Applied value (on_kernel kernel stream notify_stream) (.exposure params) s
        (SetExposureHandler (on_kernel kernel stream notify_stream) params s).2 ↔
      Fits value kernel (.exposure params) s := by
  obtain ⟨c, us, hc, hus, hat⟩ := exposure_ok h
  obtain ⟨hus, hpos⟩ := Option.filter_eq_some_iff.1 hus
  have hkept := kept_iff hcast hus (by simpa using hpos)
  constructor
  · rintro ⟨c', hgc, us', hgus, hat'⟩
    obtain rfl := param_camera_given hcast hgc hc
    have hcam := congrArg (fun config : Config D => (config.cameras c').exposure) (hat.config.symm.trans hat'.config)
    simp only [Config.set_camera_self] at hcam
    rw [← hcam] at hgus
    exact ⟨c', hgc, hkept.1 hgus⟩
  · rintro ⟨c', hgc, hfit⟩
    obtain rfl := param_camera_given hcast hgc hc
    exact ⟨c', hgc, to_int us, hkept.2 hfit, hat⟩

theorem trigger_exact (hcast : Casts value)
    (h : (SetTriggerHandler (on_kernel kernel stream notify_stream) params s).1 = .ok result) :
    Applied value (on_kernel kernel stream notify_stream) (.trigger params) s
        (SetTriggerHandler (on_kernel kernel stream notify_stream) params s).2 ↔
      Fits value kernel (.trigger params) s := by
  obtain ⟨c, mode, hc, hmode, hat⟩ := trigger_ok h
  obtain ⟨hmode, hpos⟩ := Option.filter_eq_some_iff.1 hmode
  have hkept := kept_iff hcast hmode (by simpa using hpos)
  constructor
  · rintro ⟨c', hgc, mode', hgmode, hat'⟩
    obtain rfl := param_camera_given hcast hgc hc
    have hcam := congrArg (fun config : Config D => (config.cameras c').trigger) (hat.config.symm.trans hat'.config)
    simp only [Config.set_camera_self] at hcam
    rw [← hcam] at hgmode
    exact ⟨c', hgc, hkept.1 hgmode⟩
  · rintro ⟨c', hgc, hfit⟩
    obtain rfl := param_camera_given hcast hgc hc
    exact ⟨c', hgc, to_int mode, hkept.2 hfit, hat⟩

/-- The value a control gets is the request's just where the number fits the control. -/
theorem written_iff (hcast : Casts value) (hparsed : Parsed params) {n : Int} {text : String} {q : V4l2.QueryExtCtrl}
    {table : List V4l2.QueryExtCtrl} (hn : param_int params "value" = some n)
    (hcontrol : param_control params = some text) (hq : V4l2.picked table text = some q) :
    Given value params "value" (if q.type == V4l2.V4L2_CTRL_TYPE_INTEGER64 then n else to_int n) ↔
      ∃ k, Given value params "value" k ∧ (Int32 k ∨ Int64 k ∧ Wide table params) := by
  have hgiven : ∀ {k}, Given value params "value" k → Int64 k → k = n := fun hg hk =>
    Option.some.inj ((param_int_given hcast hg hk).symm.trans hn)
  have h64 : Int64 n := by
    unfold param_int at hn
    split at hn
    · rename_i i hi
      rw [← Option.some.inj hn]
      exact hparsed _ i hi
    · rename_i d hd
      rw [← Option.some.inj hn]
      exact hcast.fits d
    · cases hn
  by_cases hw : q.type = V4l2.V4L2_CTRL_TYPE_INTEGER64
  · rw [if_pos (beq_iff_eq.2 hw)]
    constructor
    · exact fun hg => ⟨n, hg, .inr ⟨h64, text, q, hcontrol, hq, hw⟩⟩
    · rintro ⟨k, hg, hk⟩
      have hk64 : Int64 k := by
        rcases hk with ⟨hlo, hhi⟩ | ⟨hk, -⟩
        · exact ⟨by omega, by omega⟩
        · exact hk
      rw [← hgiven hg hk64]
      exact hg
  · rw [if_neg (by simpa using hw)]
    constructor
    · exact fun hg => ⟨to_int n, hg, .inl (to_int_int32 n)⟩
    · rintro ⟨k, hg, hk | ⟨-, text', q', hcontrol', hq', hw'⟩⟩
      · obtain rfl := hgiven hg ⟨by have := hk.1; omega, by have := hk.2; omega⟩
        rw [to_int_fits hk]
        exact hg
      · -- the same control is picked, and it is not wide
        obtain rfl := Option.some.inj (hcontrol'.symm.trans hcontrol)
        obtain rfl := Option.some.inj (hq'.symm.trans hq)
        exact absurd hw' hw

/-- The control that is addressed is the one with the request's number just where the
number is an id and no earlier control's name. -/
theorem addressed_iff (hcast : Casts value) {text : String} {q : V4l2.QueryExtCtrl} {table : List V4l2.QueryExtCtrl}
    (hid : ∀ q ∈ table, q.id < 2 ^ 32) (hcontrol : param_control params = some text)
    (hq : V4l2.picked table text = some q) (m : Rat)
    (hm : (param params "control").bind (number value) = some m) :
    m = q.id ↔ ∃ id : Nat, m = id ∧ id < 2 ^ 32 ∧ NotNamed table id := by
  have htext : ∀ {id : Nat}, id < 2 ^ 32 → m = id → text = toString id := by
    intro id hlt he
    have hg : Given value params "control" id := by
      unfold Given
      rw [hm, he]
      norm_num
    exact Option.some.inj (hcontrol.symm.trans (param_control_given hcast hlt hg))
  constructor
  · intro he
    have hlt : q.id < 2 ^ 32 := hid q (List.mem_of_find?_eq_some hq)
    rw [htext hlt he] at hq
    exact ⟨q.id, he, hlt, (picked_id hlt hq).1 rfl⟩
  · rintro ⟨id, he, hlt, hnone⟩
    rw [htext hlt he] at hq
    rw [(picked_id hlt hq).2 hnone]
    exact he

theorem control_exact (hcast : Casts value) (hparsed : Parsed params) (hids : Ids kernel)
    (h : (SetControlHandler (on_kernel kernel stream notify_stream) params s).1 = .ok result) :
    Applied value (on_kernel kernel stream notify_stream) (.control params) s
        (SetControlHandler (on_kernel kernel stream notify_stream) params s).2 ↔
      Fits value kernel (.control params) s := by
  obtain ⟨c, text, n, q, hc, hcontrol, hn, hq, hat⟩ := control_ok h
  have hwritten := written_iff hcast hparsed hn hcontrol hq
  have haddressed := addressed_iff hcast (hids _ _) hcontrol hq
  constructor
  · rintro ⟨c', hgc, n', id, hgn, hat', hnum⟩
    obtain rfl := param_camera_given hcast hgc hc
    have hlast := List.append_cancel_left (hat.device.symm.trans hat'.device)
    simp only [List.cons.injEq, V4l2.Write.mk.injEq, and_true, true_and] at hlast
    obtain ⟨hid, hvalue⟩ := hlast
    rw [← hvalue] at hgn
    refine ⟨c', hgc, hwritten.1 hgn, fun m hm => (haddressed m hm).1 ?_⟩
    rw [hnum m hm, hid]
  · rintro ⟨c', hgc, hfit, hnum⟩
    obtain rfl := param_camera_given hcast hgc hc
    exact ⟨c', hgc, _, q.id, hwritten.2 hfit, hat, fun m hm => (haddressed m hm).2 (hnum m hm)⟩

/-- A request that succeeds has been applied as its numbers say just where they are
integers that fit. -/
theorem applied_iff_fits (hcast : Casts value) (hids : Ids kernel) (r : NumberRequest D) (hparsed : Parsed r.params)
    (h : (r.handle (on_kernel kernel stream notify_stream) s).1 = .ok result) :
    Applied value (on_kernel kernel stream notify_stream) r s (r.handle (on_kernel kernel stream notify_stream) s).2 ↔
      Fits value kernel r s := by
  cases r with
  | exposure params => exact exposure_exact hcast h
  | trigger params => exact trigger_exact hcast h
  | control params => exact control_exact hcast hparsed hids h

end Results

/-! ## On a device -/

/-- A double by its exact value, with a cast that saturates. -/
structure Double where
  value : Rat

instance : Doubles Double where
  ofInt i := ⟨i⟩
  toInt d := max (-2 ^ 63) (min (2 ^ 63 - 1) (Doubles.toInt d.value))
  isInt d i := Doubles.isInt d.value i
  lt a b := Doubles.lt a.value b.value
  le a b := Doubles.le a.value b.value
  sub a b := ⟨a.value - b.value⟩
  mul a b := ⟨a.value * b.value⟩
  div a b := ⟨a.value / b.value⟩
  format d := Doubles.format d.value

theorem double_casts : Casts Double.value where
  fits d := by
    show Int64 (max (-2 ^ 63) (min (2 ^ 63 - 1) (Doubles.toInt d.value)))
    unfold Int64
    omega
  exact d n hn hv := by
    show max (-2 ^ 63) (min (2 ^ 63 - 1) (Doubles.toInt d.value)) = n
    have ht : Doubles.toInt d.value = n := by
      rw [hv]
      show (n : Rat).num.tdiv (n : Rat).den = n
      simp
    obtain ⟨hlo, hhi⟩ := hn
    rw [ht]
    omega

/-- A sensor with two controls, whose driver takes every write. -/
def two_controls : V4l2.Kernel Unit where
  open_node _ s := (.ok (), s)
  query_ext_ctrls _ _ :=
    [⟨9963776, V4l2.V4L2_CTRL_TYPE_INTEGER, "Brightness", 0, 255, 1, 128, 0⟩,
      ⟨10094850, V4l2.V4L2_CTRL_TYPE_INTEGER, "Exposure", 0, 100000, 1, 10000, 0⟩]
  g_ext_ctrls _ _ _ := some 0
  s_ext_ctrls _ _ _ s := (.ok (), s)

theorem two_controls_ids : Ids two_controls := by
  intro path k q hq
  rcases List.mem_cons.1 hq with rfl | hq
  · decide
  · rw [List.mem_singleton.1 hq]
    decide

/-- A stream controller without pipelines. -/
def no_streams : IStreamController Double Unit := ⟨fun _ _ _ s => (true, s), fun _ _ s => s⟩

/-- The default configuration. -/
def defaults : KernelState Double Unit Unit where
  config := {
    detect_score := ⟨9 / 10⟩
    cameras := fun _ => { gain := ⟨0⟩, zoom := ⟨1⟩, zoom_x := ⟨1 / 2⟩, zoom_y := ⟨1 / 2⟩ } }
  stream := ()
  devices := ((), [])

/-- `{"camera": 0, "control": 9963776, "value": 7}` -/
def brighter : NumberRequest Double :=
  .control (some [("camera", .int 0), ("control", .int 9963776), ("value", .int 7)])

/-- `{"camera": 0, "us": 4294967301}` -/
def long_exposure : NumberRequest Double := .exposure (some [("camera", .int 0), ("us", .int 4294967301)])

omit [Doubles D] in
theorem parsed_members {members : Members D} (h : ∀ q ∈ members, ∀ i, q.2 = .int i → Int64 i) :
    Parsed (some members) := by
  intro name i hi
  rw [param, Option.bind_some] at hi
  induction members with
  | nil => cases hi
  | cons q members ih =>
    rw [List.lookup_cons] at hi
    split at hi
    · exact h q (by simp) i (Option.some.inj hi)
    · exact ih (fun q hq => h q (by simp [hq])) hi

theorem brighter_parsed : Parsed brighter.params := by
  apply parsed_members
  simp [Int64]

theorem long_exposure_parsed : Parsed long_exposure.params := by
  apply parsed_members
  simp [Int64]

theorem brighter_fits : Fits Double.value two_controls brighter defaults := by
  have hvalue : Int32 7 := ⟨by decide, by decide⟩
  refine ⟨0, rfl, ⟨7, rfl, .inl hvalue⟩, fun q hq => ⟨9963776, (Option.some.inj hq).symm, by decide, ?_⟩⟩
  -- the first control listed is the one with this id
  intro q hq
  cases hq

theorem applied_iff_fits_brighter :
    Fits Double.value two_controls brighter defaults ∧
      Applied Double.value (on_kernel two_controls no_streams none) brighter defaults
        (brighter.handle (on_kernel two_controls no_streams none) defaults).2 := by
  have h : (brighter.handle (on_kernel two_controls no_streams none) defaults).1 = .ok (.object []) := rfl
  exact ⟨brighter_fits, (applied_iff_fits double_casts two_controls_ids brighter brighter_parsed h).2 brighter_fits⟩

/-- An exposure of 2³² + 5 µs is answered with success, and 5 µs are set. -/
theorem long_exposure_wraps : ¬ ∀ (kernel : V4l2.Kernel Unit) (r : NumberRequest Double)
    (s : KernelState Double Unit Unit)
    (result : Json Double), Ids kernel → Parsed r.params →
    (r.handle (on_kernel kernel no_streams none) s).1 = .ok result →
    Applied Double.value (on_kernel kernel no_streams none) r s (r.handle (on_kernel kernel no_streams none) s).2 := by
  intro h
  have happlied := h two_controls long_exposure defaults (.object []) two_controls_ids long_exposure_parsed rfl
  obtain ⟨c, -, us, hgus, hlo, hhi⟩ := (exposure_exact double_casts rfl).1 happlied
  have hus : (4294967301 : Rat) = us := Option.some.inj hgus
  have : us = 4294967301 := by exact_mod_cast hus.symm
  omega

end CameraStreamer.Control
