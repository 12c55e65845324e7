import CameraStreamer.Lib.Find
import CameraStreamer.SettingHandlers
/-!
# The V4L2 device

`V4l2Device` over the calls it makes of a device node. `Kernel.Keeps` is what
V4L2 promises about calls that fail, and the operations inherit it: one that
fails has changed no setting.
-/

namespace CameraStreamer.V4l2

/-! ## Control types and flags of videodev2.h -/

def V4L2_CTRL_TYPE_INTEGER : Nat := 1
def V4L2_CTRL_TYPE_BOOLEAN : Nat := 2
def V4L2_CTRL_TYPE_MENU : Nat := 3
def V4L2_CTRL_TYPE_BUTTON : Nat := 4
def V4L2_CTRL_TYPE_INTEGER64 : Nat := 5
def V4L2_CTRL_TYPE_CTRL_CLASS : Nat := 6
def V4L2_CTRL_TYPE_BITMASK : Nat := 8
def V4L2_CTRL_TYPE_INTEGER_MENU : Nat := 9
def V4L2_CTRL_FLAG_DISABLED : Nat := 0x0001
def V4L2_CTRL_FLAG_WRITE_ONLY : Nat := 0x0040

/-- `struct v4l2_query_ext_ctrl` -/
structure QueryExtCtrl where
  id : Nat
  type : Nat
  name : String
  minimum : Int
  maximum : Int
  step : Int
  default_value : Int
  flags : Nat

structure V4l2Control where
  id : Nat
  name : String
  type : Nat
  minimum : Int
  maximum : Int
  step : Int
  default_value : Int
  /-- 0 where it cannot be read. -/
  value : Int
  flags : Nat

/-- The calls on a device node, over what the nodes and their drivers hold. A
failure has the text of `errno`. -/
structure Kernel (K : Type) where
  open_node : String → K → Except String Unit × K
  /-- What a walk by `V4L2_CTRL_FLAG_NEXT_CTRL` and `NEXT_COMPOUND` returns. -/
  query_ext_ctrls : String → K → List QueryExtCtrl
  g_ext_ctrls : String → Nat → K → Option Int
  /-- With one control. -/
  s_ext_ctrls : String → Nat → Int → K → Except String Unit × K

/-! ## Names and ids -/

/-- Lowercase, with `_` and `-` read as a space. -/
def normalize (s : String) : String :=
  String.ofList (s.toList.map fun c => if c = '_' ∨ c = '-' then ' ' else c.toLower)

/-- `isspace` in the C locale. -/
def isspace (c : Char) : Bool := c = ' ' || (9 ≤ c.toNat && c.toNat ≤ 13)

def digit (base : Nat) (c : Char) : Option Nat :=
  let n := if '0' ≤ c ∧ c ≤ '9' then c.toNat - 48
    else if 'a' ≤ c.toLower ∧ c.toLower ≤ 'z' then c.toLower.toNat - 87
    else base
  if n < base then some n else none

/-- The digits of a number for `strtoul` with base 0, and the base they are in. -/
def number : List Char → Nat × List Char
  | '0' :: 'x' :: c :: s => if (digit 16 c).isSome then (16, c :: s) else (8, '0' :: 'x' :: c :: s)
  | '0' :: 'X' :: c :: s => if (digit 16 c).isSome then (16, c :: s) else (8, '0' :: 'X' :: c :: s)
  | '0' :: s => (8, '0' :: s)
  | s => (10, s)

/-- A numeric control id, 0 where `s` is not a number to its end. -/
def parse_id (s : String) : Nat :=
  let (negative, s) := match s.toList.dropWhile isspace with
    | '-' :: s => (true, s)
    | '+' :: s => (false, s)
    | s => (false, s)
  let (base, s) := number s
  match s, s.mapM (digit base) with
  | _ :: _, some digits =>
    let v := digits.foldl (fun v d => v * base + d) 0
    -- ULONG_MAX where it does not fit, and then the low half
    (if 2 ^ 64 ≤ v then 2 ^ 64 - 1 else if negative then (2 ^ 64 - v) % 2 ^ 64 else v) % 2 ^ 32
  | _, _ => 0

def is_scalar (type : Nat) : Bool :=
  [V4L2_CTRL_TYPE_INTEGER, V4L2_CTRL_TYPE_BOOLEAN, V4L2_CTRL_TYPE_MENU, V4L2_CTRL_TYPE_INTEGER_MENU,
    V4L2_CTRL_TYPE_BITMASK, V4L2_CTRL_TYPE_BUTTON, V4L2_CTRL_TYPE_INTEGER64].contains type

/-- A control that is listed: a scalar that is not disabled. -/
def QueryExtCtrl.listed (q : QueryExtCtrl) : Bool :=
  q.flags &&& V4L2_CTRL_FLAG_DISABLED == 0 && q.type != V4L2_CTRL_TYPE_CTRL_CLASS && is_scalar q.type

/-- `match` names the control, or has its id. -/
def QueryExtCtrl.hit (q : QueryExtCtrl) (wanted : String) : Bool :=
  wanted != "" && (q.id == parse_id wanted || normalize q.name == normalize wanted)

section Device
variable {K : Type} (kernel : Kernel K)

/-- The control with its current value. -/
def control_of (device_path_ : String) (s : K) (q : QueryExtCtrl) : V4l2Control where
  id := q.id
  name := q.name
  type := q.type
  minimum := q.minimum
  maximum := q.maximum
  step := q.step
  default_value := q.default_value
  value := if q.flags &&& V4L2_CTRL_FLAG_WRITE_ONLY == 0 then (kernel.g_ext_ctrls device_path_ q.id s).getD 0 else 0
  flags := q.flags

/-- The listed controls up to the first hit, and whether there was one. -/
def enumerate (device_path_ wanted : String) (s : K) : List V4l2Control × Bool :=
  walk (kernel.query_ext_ctrls device_path_ s)
where
  walk : List QueryExtCtrl → List V4l2Control × Bool
    | [] => ([], false)
    | q :: qs =>
      if q.listed then
        let c := control_of kernel device_path_ s q
        if q.hit wanted then ([c], true) else (c :: (walk qs).1, (walk qs).2)
      else walk qs

def find_control (device_path_ control : String) (s : K) : Except String V4l2Control :=
  match enumerate kernel device_path_ control s with
  | (ctrls, true) =>
    match ctrls.getLast? with
    | some ctrl => .ok ctrl
    | none => .error (device_path_ ++ ": no control matching '" ++ control ++ "'")
  | (_, false) => .error (device_path_ ++ ": no control matching '" ++ control ++ "'")

/-- `open_device`, then `f` where it succeeds. -/
def with_device {α : Type} (device_path_ : String) (f : K → Except String α × K) (s : K) : Except String α × K :=
  match kernel.open_node device_path_ s with
  | (.error errno, s) => (.error (device_path_ ++ ": " ++ errno), s)
  | (.ok (), s) => f s

def list_controls (device_path_ : String) : K → Except String (List V4l2Control) × K :=
  with_device kernel device_path_ fun s =>
    match (enumerate kernel device_path_ "" s).1 with
    | [] => (.error (device_path_ ++ ": no controls"), s)
    | out => (.ok out, s)

def get_control (device_path_ control : String) : K → Except String V4l2Control × K :=
  with_device kernel device_path_ fun s => (find_control kernel device_path_ control s, s)

def set_control (device_path_ control : String) (value : Int) : K → Except String Unit × K :=
  with_device kernel device_path_ fun s =>
    match find_control kernel device_path_ control s with
    | .error e => (.error e, s)
    | .ok ctrl =>
      let written := if ctrl.type == V4L2_CTRL_TYPE_INTEGER64 then value else to_int value
      match kernel.s_ext_ctrls device_path_ ctrl.id written s with
      | (.error errno, s) =>
        (.error (device_path_ ++ ": set '" ++ ctrl.name ++ "' = " ++ toString value ++ ": " ++ errno), s)
      | (.ok (), s) => (.ok (), s)

/-- `name.find(part) != npos` -/
def has_part (name part : String) : Bool := (Find.rfind part.toList name.toList).isSome

def trigger_control (ctrls : List V4l2Control) : Option V4l2Control :=
  -- the VC driver's own, and else the first that looks like one
  match ctrls.find? fun c => normalize c.name == "trigger mode" with
  | some c => some c
  | none => ctrls.find? fun c => c.type != V4L2_CTRL_TYPE_BUTTON && has_part (normalize c.name) "trigger"

def set_trigger_mode (device_path_ : String) (mode : Int) (s : K) : Except String Unit × K :=
  match list_controls kernel device_path_ s with
  | (.error e, s) => (.error e, s)
  | (.ok ctrls, s) =>
    match trigger_control ctrls with
    | none => (.error (device_path_ ++ ": no trigger control (not a VC MIPI sensor?)"), s)
    | some found => set_control kernel device_path_ (toString found.id) mode s

/-- The device as the handlers use it. -/
def V4l2Device : Control.V4l2Device K where
  get_control device control s :=
    match get_control kernel device control s with
    | (.error e, s) => (.error e, s)
    | (.ok c, s) => (.ok ⟨c.default_value⟩, s)
  set_control := set_control kernel
  set_trigger_mode := set_trigger_mode kernel

end Device

/-! ## What fails changes nothing -/

section Keeps
variable {K R : Type}

/-- Of what the devices are set to, `settings`, V4L2 promises that opening a node
changes nothing, and neither does a `VIDIOC_S_EXT_CTRLS` that fails on its one control. -/
structure Kernel.Keeps (kernel : Kernel K) (settings : K → R) : Prop where
  open_node : ∀ path s, settings (kernel.open_node path s).2 = settings s
  s_ext_ctrls : ∀ path id value s errno, (kernel.s_ext_ctrls path id value s).1 = .error errno →
    settings (kernel.s_ext_ctrls path id value s).2 = settings s

variable {kernel : Kernel K} {settings : K → R} (hk : kernel.Keeps settings)
include hk

theorem with_device_keeps {α : Type} {f : K → Except String α × K} {path : String} {s : K}
    (hf : ∀ s e, (f s).1 = .error e → settings (f s).2 = settings s) {e : String}
    (h : (with_device kernel path f s).1 = .error e) : settings (with_device kernel path f s).2 = settings s := by
  have ho := hk.open_node path s
  unfold with_device at h ⊢
  split at h
  · rename_i errno s' hs
    rw [hs] at ho
    exact ho
  · rename_i s' hs
    rw [hs] at ho
    exact (hf s' e h).trans ho

/-- What only reads changes nothing, failed or not. -/
theorem with_device_reads {α : Type} {f : K → Except String α × K} (path : String) (s : K) (hf : ∀ s, (f s).2 = s) :
    settings (with_device kernel path f s).2 = settings s := by
  have ho := hk.open_node path s
  unfold with_device
  split
  · rename_i errno s' hs
    rw [hs] at ho
    exact ho
  · rename_i s' hs
    rw [hs] at ho
    rw [hf]
    exact ho

theorem list_controls_keeps (path : String) (s : K) : settings (list_controls kernel path s).2 = settings s := by
  apply with_device_reads hk
  intro s
  split <;> rfl

theorem get_control_keeps (path control : String) (s : K) :
    settings (get_control kernel path control s).2 = settings s :=
  with_device_reads hk path s fun _ => rfl

theorem set_control_keeps {path control : String} {value : Int} {s : K} {e : String}
    (h : (set_control kernel path control value s).1 = .error e) :
    settings (set_control kernel path control value s).2 = settings s := by
  refine with_device_keeps hk (fun s e h => ?_) h
  revert h
  split
  · intro _
    rfl
  · rename_i ctrl hc
    generalize hv : (if ctrl.type == V4L2_CTRL_TYPE_INTEGER64 then value else to_int value) = written
    dsimp only
    split
    · rename_i errno s' hs
      intro _
      have hsettings := hk.s_ext_ctrls path ctrl.id written s errno (by rw [hs])
      rwa [hs] at hsettings
    · intro h
      cases h

theorem set_trigger_mode_keeps {path : String} {mode : Int} {s : K} {e : String}
    (h : (set_trigger_mode kernel path mode s).1 = .error e) :
    settings (set_trigger_mode kernel path mode s).2 = settings s := by
  have hl := list_controls_keeps hk path s
  unfold set_trigger_mode at h ⊢
  split at h
  · rename_i e' s' hs
    rw [hs] at hl
    exact hl
  · rename_i ctrls s' hs
    rw [hs] at hl
    split at h
    · exact hl
    · rename_i found ht
      exact (set_control_keeps hk h).trans hl

end Keeps

/-! ## Ids as texts -/

theorem toDigits_head {n : Nat} (hn : 0 < n) (t : List Char) : Nat.toDigits 10 n ≠ '0' :: t := by
  induction n using Nat.base_induction 10 (by omega) generalizing t with
  | single m hm =>
    rw [Nat.toDigits_of_lt_base hm]
    intro h
    have hd : m = 0 := Nat.digitChar_eq_zero.1 (List.cons.inj h).1
    omega
  | digit m k hk hm ih =>
    rw [← Nat.toDigits_append_toDigits (by omega) hm hk]
    obtain ⟨c, u, hc⟩ := List.exists_cons_of_ne_nil (Nat.toDigits_ne_nil (n := m) (b := 10))
    intro h
    rw [hc, List.cons_append] at h
    exact ih hm u (by rw [hc, (List.cons.inj h).1])

theorem digit_of_isDigit {c : Char} (h : c.isDigit = true) : digit 10 c = some (c.toNat - 48) := by
  simp only [Char.isDigit, Bool.and_eq_true, decide_eq_true_eq] at h
  have hlo : 48 ≤ c.toNat := h.1
  have hhi : c.toNat ≤ 57 := h.2
  have h0 : '0' ≤ c ∧ c ≤ '9' := h
  unfold digit
  simp only [if_pos h0]
  rw [if_pos (by omega)]

theorem digits_value {ds : List Char} (h : ∀ c ∈ ds, c.isDigit = true) (v : Nat) :
    ∃ digits, ds.mapM (digit 10) = some digits ∧ digits.foldl (fun v d => v * 10 + d) v = Nat.ofDigitChars 10 ds v := by
  induction ds generalizing v with
  | nil => exact ⟨[], rfl, rfl⟩
  | cons c ds ih =>
    obtain ⟨digits, hm, hv⟩ := ih (fun d hd => h d (by simp [hd])) (v * 10 + (c.toNat - 48))
    refine ⟨(c.toNat - 48) :: digits, ?_, ?_⟩
    · rw [List.mapM_cons, digit_of_isDigit (h c (by simp)), hm]
      rfl
    · rw [List.foldl_cons, hv, Nat.ofDigitChars_cons, Nat.mul_comm]
      rfl

/-- The text of an id is read back as the id. -/
theorem parse_id_text {n : Nat} (hn : n < 2 ^ 32) : parse_id (toString n) = n := by
  by_cases h0 : n = 0
  · subst h0
    decide +kernel
  · have hdigits : ∀ c ∈ Nat.toDigits 10 n, c.isDigit = true := fun c hc =>
      Nat.isDigit_of_mem_toDigits (by omega) (by omega) hc
    obtain ⟨c, t, hct⟩ := List.exists_cons_of_ne_nil (Nat.toDigits_ne_nil (n := n) (b := 10))
    have hc0 : c ≠ '0' := fun h => toDigits_head (Nat.pos_of_ne_zero h0) t (by rw [hct, h])
    have hc : c.isDigit = true := hdigits c (by rw [hct]; simp)
    obtain ⟨digits, hm, hv⟩ := digits_value hdigits 0
    rw [Nat.ofDigitChars_toDigits (by omega) (by omega)] at hv
    rw [hct] at hm
    have hspace : isspace c = false := by
      simp only [Char.isDigit, Bool.and_eq_true, decide_eq_true_eq] at hc
      have hlo : 48 ≤ c.toNat := hc.1
      have hne : c ≠ ' ' := by rintro rfl; simp at hlo
      simp only [isspace, hne, decide_false, Bool.false_or, Bool.and_eq_false_iff, decide_eq_false_iff_not]
      omega
    have hplus : c ≠ '+' := by rintro rfl; cases hc
    have hminus : c ≠ '-' := by rintro rfl; cases hc
    have hnumber : number (c :: t) = (10, c :: t) := by
      unfold number
      split <;> simp_all
    unfold parse_id
    rw [Nat.toString_eq_ofList_toDigits, String.toList_ofList, hct, List.dropWhile_cons, hspace]
    simp only [Bool.false_eq_true, if_false, List.cons.injEq, hminus, hplus, false_and, imp_self, implies_true,
      hnumber, hm, hv]
    rw [if_neg (by omega), Nat.mod_eq_of_lt hn]

/-! ## What reaches a device -/

/-- A write of one control that the driver took. -/
structure Write where
  device : String
  id : Nat
  value : Int
  deriving DecidableEq, Repr

section Logged
variable {K : Type} {kernel : Kernel K}

/-- The kernel, with a list of the writes its drivers took. -/
def Kernel.logged (kernel : Kernel K) : Kernel (K × List Write) where
  open_node path s := ((kernel.open_node path s.1).1, (kernel.open_node path s.1).2, s.2)
  query_ext_ctrls path s := kernel.query_ext_ctrls path s.1
  g_ext_ctrls path id s := kernel.g_ext_ctrls path id s.1
  s_ext_ctrls path id value s :=
    match kernel.s_ext_ctrls path id value s.1 with
    | (.error errno, k) => (.error errno, k, s.2)
    | (.ok (), k) => (.ok (), k, s.2 ++ [⟨path, id, value⟩])

/-- The control that `wanted` picks out of a device's table. -/
def picked (table : List QueryExtCtrl) (wanted : String) : Option QueryExtCtrl :=
  table.find? fun q => q.listed && q.hit wanted

/-- The table of a device's controls, as the operations find it once they have opened the node. -/
def Kernel.table (kernel : Kernel K) (device_path_ : String) (s : K) : List QueryExtCtrl :=
  kernel.query_ext_ctrls device_path_ (kernel.open_node device_path_ s).2

variable (kernel) in
theorem walk_picked (path wanted : String) (s : K) (table : List QueryExtCtrl) :
    match picked table wanted with
    | some q => (enumerate.walk kernel path wanted s table).2 = true ∧
        (enumerate.walk kernel path wanted s table).1.getLast? = some (control_of kernel path s q)
    | none => (enumerate.walk kernel path wanted s table).2 = false := by
  induction table with
  | nil => rfl
  | cons q table ih =>
    rw [picked, List.find?_cons, enumerate.walk]
    by_cases hl : q.listed = true
    · by_cases hh : q.hit wanted = true
      · simp [hl, hh]
      · simp only [hl, hh, Bool.true_and, if_true]
        rw [picked] at ih
        split at ih
        · rename_i q' hq
          rw [hq]
          exact ⟨ih.1, by simp [List.getLast?_cons, ih.2]⟩
        · rename_i hq
          rw [hq]
          exact ih
    · simp only [hl, Bool.false_and]
      exact ih

theorem find_control_ok {path wanted : String} {s : K} {ctrl : V4l2Control}
    (h : find_control kernel path wanted s = .ok ctrl) :
    ∃ q, picked (kernel.query_ext_ctrls path s) wanted = some q ∧ ctrl = control_of kernel path s q := by
  have hw := walk_picked kernel path wanted s (kernel.query_ext_ctrls path s)
  unfold find_control enumerate at h
  split at hw
  · rename_i q hq
    refine ⟨q, hq, ?_⟩
    split at h
    · rename_i ctrls hc
      rw [hc] at hw
      rw [hw.2] at h
      exact (Except.ok.inj h).symm
    · cases h
  · split at h
    · rename_i ctrls hc
      rw [hc] at hw
      cases hw
    · cases h

/-- A write that succeeds has given the control that was picked the value, as its type has it. -/
theorem set_control_ok {path wanted : String} {value : Int} {s s' : K × List Write}
    (h : set_control kernel.logged path wanted value s = (.ok (), s')) :
    ∃ q, picked (kernel.table path s.1) wanted = some q ∧
      s'.2 = s.2 ++ [⟨path, q.id, if q.type == V4L2_CTRL_TYPE_INTEGER64 then value else to_int value⟩] := by
  unfold set_control with_device at h
  split at h
  · cases h
  · rename_i k ho
    obtain rfl : ((kernel.open_node path s.1).2, s.2) = k := congrArg Prod.snd ho
    dsimp only at h
    split at h
    · cases h
    · rename_i ctrl hc
      obtain ⟨q, hq, rfl⟩ := find_control_ok hc
      refine ⟨q, hq, ?_⟩
      simp only [control_of, Kernel.logged] at h
      split at h
      · cases h
      · rename_i k' hs
        split at hs
        · cases hs
        · cases hs
          cases h
          rfl

variable (kernel) in
theorem get_control_log (path wanted : String) (s : K × List Write) :
    (get_control kernel.logged path wanted s).2.2 = s.2 := by
  unfold get_control with_device
  split
  · rename_i ho
    exact (congrArg (·.2.2) ho).symm
  · rename_i ho
    exact (congrArg (·.2.2) ho).symm

variable (kernel) in
theorem list_controls_log (path : String) (s : K × List Write) :
    (list_controls kernel.logged path s).2.2 = s.2 := by
  unfold list_controls with_device
  split
  · rename_i ho
    exact (congrArg (·.2.2) ho).symm
  · rename_i ho
    dsimp only
    split
    · exact (congrArg (·.2.2) ho).symm
    · exact (congrArg (·.2.2) ho).symm

/-- A trigger mode that is set has been written once, to some control. -/
theorem set_trigger_mode_ok {path : String} {mode : Int} {s s' : K × List Write}
    (h : set_trigger_mode kernel.logged path mode s = (.ok (), s')) :
    ∃ id value, s'.2 = s.2 ++ [⟨path, id, value⟩] ∧ (value = mode ∨ value = to_int mode) := by
  have hl := list_controls_log kernel path s
  unfold set_trigger_mode at h
  split at h
  · cases h
  · rename_i ctrls k hc
    rw [hc] at hl
    split at h
    · cases h
    · obtain ⟨q, -, hw⟩ := set_control_ok h
      refine ⟨q.id, if q.type == V4L2_CTRL_TYPE_INTEGER64 then mode else to_int mode, ?_, ?_⟩
      · rw [hw, ← hl]
      · split
        · exact .inl rfl
        · exact .inr rfl

end Logged

end CameraStreamer.V4l2
