import Mathlib.Tactic.ByContra
/-!
# The USB gadget around a setup that fails

`FfsGadget::create` unbinds the gadget that carries NCM and ACM, adds its own
function and binds again. The kernel's part is what the comments of the source
say: a gadget binds just when each FunctionFS function in its config has its
descriptors written and its control endpoint open.
-/

namespace CameraStreamer.Secure.FfsGadget

def EPERM : Nat := 1
def ENOENT : Nat := 2
def EBUSY : Nat := 16
def EEXIST : Nat := 17
def ENODEV : Nat := 19
def EINVAL : Nat := 22

/-! ## The kernel -/

/-- The calls that can fail. `restore` and the last write of
`release_base_gadget` are not among them. -/
inductive Call where
  | unbind
  | umount
  | mkdir
  | mkdir_function
  | mount
  | symlink
  | open_ep0
  | write_descriptors
  | write_strings
  | rebind
  | unlink
  | rmdir
  deriving DecidableEq

/-- Up to the link into the config. -/
def Call.early : Call → Bool
  | .unbind | .umount | .mkdir | .mkdir_function | .mount | .symlink => true
  | _ => false

/-- One run of the process finds one UDC, or none, and at most one call that
fails; unbinding fails with `ENODEV` only where there is nothing to unbind. -/
structure Kernel where
  first_udc : String
  /-- What `first_udc` finds the second time, if it found nothing. -/
  later_udc : String
  fault : Option (Call × Nat)
  strerror : Nat → String
  unbinds : fault ≠ some (.unbind, ENODEV)

/-- The gadget in configfs, and the FunctionFS mount. The NCM and ACM functions
are in the config all along. -/
structure Gadget where
  /-- The UDC that the gadget is bound to. -/
  udc : Option String
  /-- `/dev/ffs-secure` -/
  dir : Bool
  /-- `functions/ffs.secure` -/
  function : Bool
  mounted : Bool
  /-- `configs/c.1/ffs.secure` -/
  link : Bool
  ep0 : Bool
  descriptors : Bool
  strings : Bool

namespace Kernel
variable (k : Kernel) (s : Gadget)

def fails (c : Call) : Option Nat :=
  match k.fault with
  | some (c', e) => if c = c' then some e else none
  | none => none

/-- The call fails, or does this. -/
def attempt (c : Call) (s : Gadget) : Except Nat Gadget :=
  match k.fails c with
  | some e => .error e
  | none => .ok s

/-- A name written to `UDC`. -/
def bind (udc : String) : Except Nat Gadget :=
  if s.udc.isSome then .error EBUSY
  else if s.link && !(s.ep0 && s.descriptors && s.strings) then .error ENODEV
  else .ok { s with udc := some udc }

/-- A blank line written to `UDC`. -/
def unbind : Except Nat Gadget :=
  if s.udc.isSome then k.attempt .unbind { s with udc := none } else .error ENODEV

def umount : Except Nat Gadget :=
  if s.mounted then k.attempt .umount { s with mounted := false, descriptors := false, strings := false }
  else .error (if s.dir then EINVAL else ENOENT)

def mkdir : Except Nat Gadget := if s.dir then .error EEXIST else k.attempt .mkdir { s with dir := true }

def mkdir_function : Except Nat Gadget :=
  if s.function then .error EEXIST else k.attempt .mkdir_function { s with function := true }

def mount : Except Nat Gadget :=
  if !s.dir then .error ENOENT
  else if !s.function then .error ENODEV
  else if s.mounted then .error EBUSY
  else k.attempt .mount { s with mounted := true }

def symlink : Except Nat Gadget :=
  if s.link then .error EEXIST
  else if !s.function then .error ENOENT
  else k.attempt .symlink { s with link := true }

def open_ep0 : Except Nat Gadget := k.attempt .open_ep0 { s with ep0 := true }
def write_descriptors : Except Nat Gadget := k.attempt .write_descriptors { s with descriptors := true }
def write_strings : Except Nat Gadget := k.attempt .write_strings { s with strings := true }

/-- The bind in `create`. -/
def rebind (udc : String) : Except Nat Gadget :=
  match k.fails .rebind with
  | some e => .error e
  | none => bind s udc

def unlink : Except Nat Gadget := if s.link then k.attempt .unlink { s with link := false } else .error ENOENT

def rmdir : Except Nat Gadget :=
  if !s.function then .error ENOENT
  else if s.link then .error EBUSY
  else k.attempt .rmdir { s with function := false }

end Kernel

/-- `close(ep0)`, or the end of the process: a gadget with the function in its config is unbound. -/
def close_ep0 (s : Gadget) : Gadget :=
  { s with
    ep0 := false
    descriptors := false
    strings := false
    udc := if s.link then none else s.udc }

/-! ## The setup -/

section Code
variable (k : Kernel)

/-- A call of `prepare_functionfs`, with the errors it goes on after. -/
def check (s : Gadget) (r : Except Nat Gadget) (tolerated : List Nat) (message : Nat → String)
    (next : Gadget → Except String Unit × Gadget) : Except String Unit × Gadget :=
  match r with
  | .ok s' => next s'
  | .error e => if tolerated.contains e then next s else (.error (message e), s)

def kFfs : String := "/dev/ffs-secure"
def kFunction : String := "/sys/kernel/config/usb_gadget/vc-camera/functions/ffs.secure"

def prepare_functionfs (s : Gadget) : Except String Unit × Gadget :=
  check s (k.unbind s) [ENODEV] (fun e => "unbind USB gadget: " ++ k.strerror e) fun s =>
  check s (k.umount s) [EINVAL, ENOENT, EPERM] (fun e => "unmount stale FunctionFS: " ++ k.strerror e) fun s =>
  check s (k.mkdir s) [EEXIST] (fun e => "mkdir " ++ kFfs ++ ": " ++ k.strerror e) fun s =>
  check s (k.mkdir_function s) [EEXIST] (fun e =>
    "create FunctionFS function " ++ kFunction ++ ": " ++ k.strerror e ++
      if e = ENOENT then " (kernel registers no \"ffs\" configfs function type -- " ++
        "CONFIG_USB_CONFIGFS_F_FS is not enabled in this kernel)"
      else "") fun s =>
  check s (k.mount s) [] (fun e => "mount FunctionFS: " ++ k.strerror e) fun s =>
  check s (k.symlink s) [EEXIST] (fun e => "link FunctionFS function: " ++ k.strerror e) fun s =>
  (.ok (), s)

/-- The lambda in `create`. Whether the write succeeds is not looked at. -/
def restore (s : Gadget) : Gadget :=
  if k.first_udc = "" then s
  else match Kernel.bind s k.first_udc with
    | .ok s' => s'
    | .error _ => s

/-- `create` from the control endpoint on. -/
def publish (s : Gadget) : Except String Unit × Gadget :=
  match k.open_ep0 s with
  | .error e => (.error ("open ep0: " ++ k.strerror e), restore k s)
  | .ok s =>
    match (k.write_descriptors s).bind k.write_strings with
    | .error _ => (.error "publishing descriptors failed", restore k (close_ep0 s))
    | .ok s =>
      let udc := if k.first_udc = "" then k.later_udc else k.first_udc
      if udc = "" then (.error "rebinding UDC failed", restore k (close_ep0 s))
      else match k.rebind s udc with
        | .error _ => (.error "rebinding UDC failed", restore k (close_ep0 s))
        | .ok s => (.ok (), s)

def create (s : Gadget) : Except String Unit × Gadget :=
  match prepare_functionfs k s with
  | (.error e, s) => (.error e, restore k s)
  | (.ok (), s) => publish k s

/-- What the call leaves, whether it fails or not. -/
def done (s : Gadget) (r : Except Nat Gadget) : Gadget := r.toOption.getD s

def release_base_gadget (s : Gadget) : Gadget :=
  if !s.link && !s.function then s
  else
    let s := done s (k.unbind s)
    let s := done s (k.umount s)
    let s := done s (k.unlink s)
    let s := done s (k.rmdir s)
    if k.first_udc = "" then s else done s (Kernel.bind s k.first_udc)

/-- The destructor of `FfsGadget`. -/
def destroy (s : Gadget) : Gadget := release_base_gadget k (close_ep0 s)

end Code

/-! ## What the setup leaves -/

section Setup
variable {k : Kernel} {s s' : Gadget}

/-- The call that fails is one of those up to the link. -/
def FailsEarly (k : Kernel) : Prop := ∃ c e, k.fault = some (c, e) ∧ c.early = true

theorem attempt_error {c : Call} {e : Nat} (h : k.attempt c s = .error e) : k.fault = some (c, e) := by
  unfold Kernel.attempt Kernel.fails at h
  split at h
  · rename_i e' hf
    split at hf
    · rename_i c' e'' hfault
      split at hf
      · rename_i hc
        cases h
        cases hf
        rw [hfault, hc]
      · cases hf
    · cases hf
  · cases h

theorem attempt_ok {c : Call} (h : k.attempt c s = .ok s') : s' = s := by
  unfold Kernel.attempt at h
  split at h
  · cases h
  · exact (Except.ok.inj h).symm

theorem attempt_early {c : Call} {e : Nat} (h : k.attempt c s = .error e) (hc : c.early = true) : FailsEarly k :=
  ⟨c, e, attempt_error h, hc⟩

/-- What a call is followed by, whichever way it goes. -/
theorem check_rule {P : Except String Unit × Gadget → Prop} {r : Except Nat Gadget} {tolerated : List Nat}
    {message : Nat → String} {next : Gadget → Except String Unit × Gadget} (hok : ∀ s', r = .ok s' → P (next s'))
    (htolerated : ∀ e, r = .error e → tolerated.contains e = true → P (next s))
    (herror : ∀ e, r = .error e → tolerated.contains e ≠ true → P (.error (message e), s)) :
    P (check s r tolerated message next) := by
  unfold check
  split
  · rename_i s'
    exact hok s' rfl
  · rename_i e
    split
    · rename_i he
      exact htolerated e rfl he
    · rename_i he
      exact herror e rfl he

/-- The gadget is unbound, and the link is as it was at first. -/
structure Unbound (s₀ s : Gadget) : Prop where
  udc : s.udc = none
  link : s.link = s₀.link
  ep0 : s.ep0 = s₀.ep0

/-- After `prepare_functionfs`: an early failure leaves the link as it was, success has made it. -/
def Prepared (k : Kernel) (s₀ : Gadget) (r : Except String Unit × Gadget) : Prop :=
  match r.1 with
  | .error _ => FailsEarly k ∧ (r.2 = s₀ ∨ Unbound s₀ r.2)
  | .ok () => r.2.udc = none ∧ r.2.ep0 = s₀.ep0 ∧ (r.2.link = true ∨ FailsEarly k)

theorem symlink_prepared {s₀ : Gadget} {message : Nat → String} (h : Unbound s₀ s)
    (hf : s.function = true ∨ FailsEarly k) :
    Prepared k s₀ (check s (k.symlink s) [EEXIST] message fun s => (.ok (), s)) := by
  unfold Kernel.symlink
  apply check_rule
  · intro s' hs
    split at hs
    · cases hs
    · split at hs
      · cases hs
      · rw [attempt_ok hs]
        exact ⟨h.udc, h.ep0, .inl rfl⟩
  · intro e hs _
    split at hs
    · rename_i hlink
      exact ⟨h.udc, h.ep0, .inl hlink⟩
    · split at hs
      · rename_i hnot
        exact ⟨h.udc, h.ep0, .inr (hf.resolve_left (by simpa using hnot))⟩
      · exact ⟨h.udc, h.ep0, .inr (attempt_early hs rfl)⟩
  · intro e hs hne
    split at hs
    · cases hs
      exact absurd rfl hne
    · split at hs
      · rename_i hnot
        exact ⟨hf.resolve_left (by simpa using hnot), .inr h⟩
      · exact ⟨attempt_early hs rfl, .inr h⟩

/-- Once unbound, with nothing mounted and the directories there, unless an early call failed. -/
structure Ready (k : Kernel) (s₀ s : Gadget) (dir function : Bool) : Prop extends Unbound s₀ s where
  unmounted : s.mounted = false ∨ FailsEarly k
  has_dir : dir = true → s.dir = true ∨ FailsEarly k
  has_function : function = true → s.function = true ∨ FailsEarly k

theorem mount_prepared {s₀ : Gadget} {message message' : Nat → String} (h : Ready k s₀ s true true) :
    Prepared k s₀ (check s (k.mount s) [] message fun s => check s (k.symlink s) [EEXIST] message' fun s =>
      (.ok (), s)) := by
  have hfail : ∀ e, k.mount s = .error e → FailsEarly k := by
    intro e he
    unfold Kernel.mount at he
    split at he
    · rename_i hdir
      exact (h.has_dir rfl).resolve_left (by simpa using hdir)
    · split at he
      · rename_i hfunction
        exact (h.has_function rfl).resolve_left (by simpa using hfunction)
      · split at he
        · rename_i hmounted
          exact h.unmounted.resolve_left (by simp [hmounted])
        · exact attempt_early he rfl
  apply check_rule
  · intro s' hs
    unfold Kernel.mount at hs
    split at hs
    · cases hs
    · split at hs
      · cases hs
      · split at hs
        · cases hs
        · rw [attempt_ok hs]
          exact symlink_prepared { h with } (h.has_function rfl)
  · intro e _ he
    cases he
  · intro e he _
    exact ⟨hfail e he, .inr h.toUnbound⟩

theorem mkdir_function_ready {s₀ : Gadget} (h : Ready k s₀ s true false) :
    (∀ s', k.mkdir_function s = .ok s' → Ready k s₀ s' true true) ∧
      ∀ e, k.mkdir_function s = .error e → Ready k s₀ s true true ∧ (e = EEXIST ∨ FailsEarly k) := by
  unfold Kernel.mkdir_function
  split
  · rename_i hfunction
    refine ⟨nofun, fun e he => ?_⟩
    cases he
    exact ⟨⟨h.toUnbound, h.unmounted, h.has_dir, fun _ => .inl hfunction⟩, .inl rfl⟩
  · refine ⟨fun s' hs => ?_, fun e he => ?_⟩
    · rw [attempt_ok hs]
      exact ⟨{ h with }, h.unmounted, h.has_dir, fun _ => .inl rfl⟩
    · have hearly := attempt_early he rfl
      exact ⟨⟨h.toUnbound, h.unmounted, h.has_dir, fun _ => .inr hearly⟩, .inr hearly⟩

theorem mkdir_ready {s₀ : Gadget} (h : Ready k s₀ s false false) :
    (∀ s', k.mkdir s = .ok s' → Ready k s₀ s' true false) ∧
      ∀ e, k.mkdir s = .error e → Ready k s₀ s true false ∧ (e = EEXIST ∨ FailsEarly k) := by
  unfold Kernel.mkdir
  split
  · rename_i hdir
    refine ⟨nofun, fun e he => ?_⟩
    cases he
    exact ⟨⟨h.toUnbound, h.unmounted, fun _ => .inl hdir, h.has_function⟩, .inl rfl⟩
  · refine ⟨fun s' hs => ?_, fun e he => ?_⟩
    · rw [attempt_ok hs]
      exact ⟨{ h with }, h.unmounted, fun _ => .inl rfl, h.has_function⟩
    · have hearly := attempt_early he rfl
      exact ⟨⟨h.toUnbound, h.unmounted, fun _ => .inr hearly, h.has_function⟩, .inr hearly⟩

theorem umount_ready {s₀ : Gadget} (h : Unbound s₀ s) :
    (∀ s', k.umount s = .ok s' → Ready k s₀ s' false false) ∧
      ∀ e, k.umount s = .error e →
        Ready k s₀ s false false ∧ ([EINVAL, ENOENT, EPERM].contains e = true ∨ FailsEarly k) := by
  unfold Kernel.umount
  split
  · refine ⟨fun s' hs => ?_, fun e he => ?_⟩
    · rw [attempt_ok hs]
      exact ⟨{ h with }, .inl rfl, nofun, nofun⟩
    · have hearly := attempt_early he rfl
      exact ⟨⟨h, .inr hearly, nofun, nofun⟩, .inr hearly⟩
  · rename_i hmounted
    refine ⟨nofun, fun e he => ?_⟩
    cases he
    refine ⟨⟨h, .inl (by simpa using hmounted), nofun, nofun⟩, .inl ?_⟩
    split
    · rfl
    · rfl

theorem mkdir_function_prepared {s₀ : Gadget} {m₁ m₂ m₃ : Nat → String} (h : Ready k s₀ s true false) :
    Prepared k s₀ (check s (k.mkdir_function s) [EEXIST] m₁ fun s => check s (k.mount s) [] m₂ fun s =>
      check s (k.symlink s) [EEXIST] m₃ fun s => (.ok (), s)) := by
  obtain ⟨hok, herror⟩ := mkdir_function_ready h
  apply check_rule
  · intro s' hs
    exact mount_prepared (hok s' hs)
  · intro e he _
    exact mount_prepared (herror e he).1
  · intro e he hne
    obtain ⟨hr, rfl | hearly⟩ := herror e he
    · exact absurd rfl hne
    · exact ⟨hearly, .inr hr.toUnbound⟩

theorem mkdir_prepared {s₀ : Gadget} {m₁ m₂ m₃ m₄ : Nat → String} (h : Ready k s₀ s false false) :
    Prepared k s₀ (check s (k.mkdir s) [EEXIST] m₁ fun s => check s (k.mkdir_function s) [EEXIST] m₂ fun s =>
      check s (k.mount s) [] m₃ fun s => check s (k.symlink s) [EEXIST] m₄ fun s => (.ok (), s)) := by
  obtain ⟨hok, herror⟩ := mkdir_ready h
  apply check_rule
  · intro s' hs
    exact mkdir_function_prepared (hok s' hs)
  · intro e he _
    exact mkdir_function_prepared (herror e he).1
  · intro e he hne
    obtain ⟨hr, rfl | hearly⟩ := herror e he
    · exact absurd rfl hne
    · exact ⟨hearly, .inr hr.toUnbound⟩

theorem umount_prepared {s₀ : Gadget} {m₁ m₂ m₃ m₄ m₅ : Nat → String} (h : Unbound s₀ s) :
    Prepared k s₀ (check s (k.umount s) [EINVAL, ENOENT, EPERM] m₁ fun s => check s (k.mkdir s) [EEXIST] m₂ fun s =>
      check s (k.mkdir_function s) [EEXIST] m₃ fun s => check s (k.mount s) [] m₄ fun s =>
      check s (k.symlink s) [EEXIST] m₅ fun s => (.ok (), s)) := by
  obtain ⟨hok, herror⟩ := umount_ready h
  apply check_rule
  · intro s' hs
    exact mkdir_prepared (hok s' hs)
  · intro e he _
    exact mkdir_prepared (herror e he).1
  · intro e he hne
    obtain ⟨hr, htolerated | hearly⟩ := herror e he
    · exact absurd htolerated hne
    · exact ⟨hearly, .inr hr.toUnbound⟩

theorem unbind_unbound : (∀ s', k.unbind s = .ok s' → Unbound s s') ∧
    ∀ e, k.unbind s = .error e → e = ENODEV ∧ s.udc = none ∨ e ≠ ENODEV ∧ FailsEarly k := by
  unfold Kernel.unbind
  split
  · refine ⟨fun s' hs => ?_, fun e he => ?_⟩
    · rw [attempt_ok hs]
      exact ⟨rfl, rfl, rfl⟩
    · refine .inr ⟨?_, attempt_early he rfl⟩
      rintro rfl
      exact k.unbinds (attempt_error he)
  · rename_i hudc
    refine ⟨nofun, fun e he => ?_⟩
    cases he
    exact .inl ⟨rfl, by simpa using hudc⟩

/-- What the setup leaves to build on, or to take back. -/
theorem prepare_prepared (s : Gadget) : Prepared k s (prepare_functionfs k s) := by
  obtain ⟨hok, herror⟩ := unbind_unbound (k := k) (s := s)
  unfold prepare_functionfs
  apply check_rule
  · intro s' hs
    exact umount_prepared (hok s' hs)
  · intro e he htolerated
    rcases herror e he with ⟨-, hudc⟩ | ⟨hne, -⟩
    · exact umount_prepared ⟨hudc, rfl, rfl⟩
    · exact absurd (by simpa using htolerated) hne
  · intro e he hne
    rcases herror e he with ⟨rfl, -⟩ | ⟨-, hearly⟩
    · exact absurd rfl hne
    · exact ⟨hearly, .inl rfl⟩

/-! ## Whether `restore` binds -/

/-- Taking back binds an unbound gadget if there is a UDC and no link. -/
theorem restore_unbound (hudc : s.udc = none) (hep0 : s.ep0 = false) :
    (restore k s).udc.isSome = true ↔ k.first_udc ≠ "" ∧ s.link = false := by
  unfold restore Kernel.bind
  by_cases hu : k.first_udc = ""
  · simp [hu, hudc]
  · cases hl : s.link with
    | false => simp [hu, hudc]
    | true => simp [hu, hudc, hep0]

theorem restore_bound (hudc : s.udc.isSome = true) : restore k s = s := by
  simp [restore, Kernel.bind, hudc]

theorem restore_eq (s : Gadget) : ∃ udc, restore k s = { s with udc := udc } := by
  unfold restore Kernel.bind
  split
  · exact ⟨s.udc, rfl⟩
  · split
    · rename_i s' hs
      split at hs
      · cases hs
      · split at hs
        · cases hs
        · exact ⟨_, (Except.ok.inj hs).symm⟩
    · exact ⟨s.udc, rfl⟩

theorem not_failsEarly {c : Call} {e : Nat} (h : k.fault = some (c, e)) (hc : c.early = false) : ¬ FailsEarly k := by
  rintro ⟨c', e', h', hc'⟩
  rw [h] at h'
  cases h'
  rw [hc] at hc'
  cases hc'

theorem close_ep0_udc (hudc : s.udc = none) : (close_ep0 s).udc = none := by
  unfold close_ep0
  split
  · rfl
  · exact hudc

/-- With its descriptors written, an unbound gadget binds unless that call fails. -/
theorem rebind_error {udc : String} {e : Nat} (hudc : s.udc = none) (hep0 : s.ep0 = true)
    (hd : s.descriptors = true) (hstrings : s.strings = true) (h : k.rebind s udc = .error e) : ¬ FailsEarly k := by
  unfold Kernel.rebind at h
  split at h
  · rename_i e' hf
    have hfault : k.attempt .rebind s = .error e' := by
      unfold Kernel.attempt
      rw [hf]
    exact not_failsEarly (attempt_error hfault) rfl
  · simp [Kernel.bind, hudc, hep0, hd, hstrings] at h

/-- What `restore` starts from when the setup has failed after the link was made. -/
structure Late (k : Kernel) (s : Gadget) : Prop where
  udc : s.udc = none
  ep0 : s.ep0 = false
  link : s.link = true ∨ FailsEarly k
  late : ¬ FailsEarly k ∨ k.first_udc = ""

theorem publish_error {error : String} (hudc : s.udc = none) (hep0 : s.ep0 = false)
    (hlink : s.link = true ∨ FailsEarly k) (h : (publish k s).1 = .error error) :
    ∃ t, (publish k s).2 = restore k t ∧ Late k t := by
  unfold publish at h ⊢
  cases hopen : k.open_ep0 s with
  | error e => exact ⟨s, rfl, hudc, hep0, hlink, .inl (not_failsEarly (attempt_error hopen) rfl)⟩
  | ok s₁ =>
    have hs₁ := attempt_ok hopen
    rw [hopen] at h
    dsimp only at h ⊢
    cases hwritten : (k.write_descriptors s₁).bind k.write_strings with
    | error e =>
      have hlate : ¬ FailsEarly k := by
        cases hd : k.write_descriptors s₁ with
        | error e' => exact not_failsEarly (attempt_error hd) rfl
        | ok s' =>
          rw [hd] at hwritten
          exact not_failsEarly (attempt_error hwritten) rfl
      exact ⟨close_ep0 s₁, rfl, close_ep0_udc (by rw [hs₁]; exact hudc), rfl, by rw [hs₁]; exact hlink, .inl hlate⟩
    | ok s₂ =>
      have hs₂ : s₂ = { s₁ with descriptors := true, strings := true } := by
        cases hd : k.write_descriptors s₁ with
        | error e => rw [hd] at hwritten; cases hwritten
        | ok s' =>
          rw [hd] at hwritten
          exact (attempt_ok hwritten).trans (by rw [attempt_ok hd])
      have hclosed : ¬ FailsEarly k ∨ k.first_udc = "" → Late k (close_ep0 s₂) := fun hlate =>
        ⟨close_ep0_udc (by rw [hs₂, hs₁]; exact hudc), rfl, by rw [hs₂, hs₁]; exact hlink, hlate⟩
      rw [hwritten] at h
      obtain ⟨udc, hfound⟩ : ∃ udc, (if k.first_udc = "" then k.later_udc else k.first_udc) = udc := ⟨_, rfl⟩
      dsimp only at h ⊢
      rw [hfound] at h ⊢
      by_cases hnone : udc = ""
      · rw [if_pos hnone]
        refine ⟨_, rfl, hclosed (.inr ?_)⟩
        by_contra hu
        rw [if_neg hu] at hfound
        exact hu (hfound.trans hnone)
      · rw [if_neg hnone] at h ⊢
        cases hrebind : k.rebind s₂ udc with
        | error e =>
          exact ⟨_, rfl, hclosed (.inl (rebind_error (by rw [hs₂, hs₁]; exact hudc) (by rw [hs₂, hs₁]) (by rw [hs₂])
            (by rw [hs₂]) hrebind))⟩
        | ok s₃ =>
          rw [hrebind] at h
          cases h

/-- What `restore` starts from when `create` has failed. -/
theorem create_error {error : String} (hep0 : s.ep0 = false) (h : (create k s).1 = .error error) :
    ∃ t, (create k s).2 = restore k t ∧ (FailsEarly k ∧ (t = s ∨ Unbound s t) ∨ Late k t) := by
  have hprepared := prepare_prepared (k := k) s
  unfold create at h ⊢
  rcases hp : prepare_functionfs k s with ⟨e | u, t⟩
  · rw [hp] at hprepared
    exact ⟨t, rfl, .inl hprepared⟩
  · rw [hp] at hprepared h
    obtain ⟨hudc, hep0', hlink⟩ := hprepared
    obtain ⟨t', ht', hlate⟩ := publish_error hudc (hep0'.trans hep0) hlink h
    exact ⟨t', ht', .inr hlate⟩

end Setup

/-! ## Setups that fail -/

/-- No process owns the function, and if the gadget is bound, the function is not in its config. -/
structure Idle (s : Gadget) : Prop where
  closed : s.ep0 = false
  unlinked : s.udc.isSome = true → s.link = false

/-- From any state without an owner, a setup that fails leaves the gadget bound just
when there is a UDC to bind, no link was left in the config, and the call that
failed is one of those up to the link. -/
theorem create_restores_iff (k : Kernel) (s : Gadget) (hs : Idle s)
    (hfound : s.udc.isSome = true → k.first_udc ≠ "") (error : String) (h : (create k s).1 = .error error) :
    (create k s).2.udc.isSome = true ↔ k.first_udc ≠ "" ∧ s.link = false ∧ FailsEarly k := by
  obtain ⟨t, ht, ⟨hearly, hstate⟩ | hlate⟩ := create_error hs.closed h
  · have hunbound : Unbound s t → ((restore k t).udc.isSome = true ↔
        k.first_udc ≠ "" ∧ s.link = false ∧ FailsEarly k) := by
      intro hu
      rw [restore_unbound hu.udc (hu.ep0.trans hs.closed), hu.link]
      exact ⟨fun h => ⟨h.1, h.2, hearly⟩, fun h => ⟨h.1, h.2.1⟩⟩
    rw [ht]
    rcases hstate with rfl | hu
    · cases hudc : t.udc with
      | none => exact hunbound ⟨hudc, rfl, rfl⟩
      | some udc =>
        have hbound : t.udc.isSome = true := by rw [hudc]; rfl
        rw [restore_bound hbound]
        exact iff_of_true hbound ⟨hfound hbound, hs.unlinked hbound, hearly⟩
    · exact hunbound hu
  · rw [ht, restore_unbound hlate.udc hlate.ep0]
    rcases hlate.late with hnot | hu
    · refine iff_of_false ?_ fun h => hnot h.2.2
      rw [hlate.link.resolve_right hnot]
      rintro ⟨-, h⟩
      cases h
    · exact iff_of_false (fun h => h.1 hu) fun h => h.1 hu

/-! ## What a run of the process leaves -/

section Left
variable {k : Kernel} {s t : Gadget}

theorem Idle.restore (hs : Idle s) : Idle (restore k s) := by
  obtain ⟨udc, he⟩ := restore_eq (k := k) s
  refine ⟨by rw [he]; exact hs.closed, fun hbound => ?_⟩
  cases hudc : s.udc with
  | none =>
    rw [he]
    exact ((restore_unbound hudc hs.closed).1 hbound).2
  | some name =>
    have hb : s.udc.isSome = true := by rw [hudc]; rfl
    rw [restore_bound hb]
    exact hs.unlinked hb

theorem Idle.create {error : String} (hs : Idle s) (h : (create k s).1 = .error error) : Idle (create k s).2 := by
  obtain ⟨t, ht, hstate⟩ := create_error hs.closed h
  rw [ht]
  apply Idle.restore
  rcases hstate with ⟨-, rfl | hu⟩ | hlate
  · exact hs
  · exact ⟨hu.ep0.trans hs.closed, fun hb => by rw [hu.udc] at hb; cases hb⟩
  · exact ⟨hlate.ep0, fun hb => by rw [hlate.udc] at hb; cases hb⟩

theorem idle_close_ep0 (s : Gadget) : Idle (close_ep0 s) := by
  refine ⟨rfl, fun hb => ?_⟩
  unfold close_ep0 at hb ⊢
  cases hl : s.link with
  | false => rfl
  | true => simp [hl] at hb

/-- A call that neither binds nor links keeps it so. -/
theorem Idle.done {r : Except Nat Gadget} (hs : Idle s)
    (hr : ∀ s', r = .ok s' → s'.ep0 = s.ep0 ∧ (s'.udc = none ∨ s'.udc = s.udc) ∧ (s'.link = false ∨ s'.link = s.link)) :
    Idle (done s r) := by
  cases r with
  | error e => exact hs
  | ok s' =>
    obtain ⟨hep0, hudc, hlink⟩ := hr s' rfl
    refine ⟨hep0.trans hs.closed, fun hb => ?_⟩
    have hb' : s'.udc.isSome = true := hb
    rcases hlink with hlink | hlink
    · exact hlink
    · rcases hudc with hudc | hudc
      · rw [hudc] at hb'
        cases hb'
      · rw [hudc] at hb'
        exact hlink.trans (hs.unlinked hb')

theorem Idle.bind (hs : Idle s) (udc : String) : Idle (FfsGadget.done s (Kernel.bind s udc)) := by
  unfold Kernel.bind
  split
  · exact hs
  · split
    · exact hs
    · rename_i hready
      have hlink : s.link = false := by simpa [hs.closed] using hready
      exact ⟨hs.closed, fun _ => hlink⟩

theorem Idle.release_base_gadget (hs : Idle s) : Idle (release_base_gadget k s) := by
  unfold FfsGadget.release_base_gadget
  split
  · exact hs
  · have hunbind : Idle (FfsGadget.done s (k.unbind s)) := hs.done fun s' h => by
      unfold Kernel.unbind at h
      split at h
      · rw [attempt_ok h]
        exact ⟨rfl, .inl rfl, .inr rfl⟩
      · cases h
    have humount : ∀ {s}, Idle s → Idle (FfsGadget.done s (k.umount s)) := fun hs => hs.done fun s' h => by
      unfold Kernel.umount at h
      split at h
      · rw [attempt_ok h]
        exact ⟨rfl, .inr rfl, .inr rfl⟩
      · cases h
    have hunlink : ∀ {s}, Idle s → Idle (FfsGadget.done s (k.unlink s)) := fun hs => hs.done fun s' h => by
      unfold Kernel.unlink at h
      split at h
      · rw [attempt_ok h]
        exact ⟨rfl, .inr rfl, .inl rfl⟩
      · cases h
    have hrmdir : ∀ {s}, Idle s → Idle (FfsGadget.done s (k.rmdir s)) := fun hs => hs.done fun s' h => by
      unfold Kernel.rmdir at h
      split at h
      · cases h
      · split at h
        · cases h
        · rw [attempt_ok h]
          exact ⟨rfl, .inr rfl, .inr rfl⟩
    dsimp only
    split
    · exact hrmdir (hunlink (humount hunbind))
    · exact (hrmdir (hunlink (humount hunbind))).bind _

/-- The states that runs of the process leave, from the gadget that the boot made. -/
inductive Left : Gadget → Prop where
  | boot (udc : Option String) : Left ⟨udc, false, false, false, false, false, false, false⟩
  | failed {k : Kernel} {s : Gadget} {error : String} : Left s → (create k s).1 = .error error → Left (create k s).2
  /-- The process dies, wherever it was after `create`. -/
  | killed {k : Kernel} {s : Gadget} : Left s → Left (close_ep0 (create k s).2)
  | ended {k k' : Kernel} {s : Gadget} : Left s → (create k s).1 = .ok () → Left (destroy k' (create k s).2)
  | released {k : Kernel} {s : Gadget} : Left s → Left (release_base_gadget k s)

theorem Left.idle (h : Left s) : Idle s := by
  induction h with
  | boot udc => exact ⟨rfl, fun _ => rfl⟩
  | failed _ he ih => exact ih.create he
  | killed _ _ => exact idle_close_ep0 _
  | ended _ _ _ => exact (idle_close_ep0 _).release_base_gadget
  | released _ ih => exact ih.release_base_gadget

/-- `release_base_gadget` takes the function out of the config and binds. -/
theorem release_binds (hs : Idle s) (hf : k.fault = none) (hu : k.first_udc ≠ "")
    (h : s.link = true ∨ s.function = true) : (release_base_gadget k s).udc.isSome = true := by
  obtain ⟨udc, dir, function, mounted, link, ep0, descriptors, strings⟩ := s
  obtain rfl : ep0 = false := hs.closed
  have hattempt : ∀ c s, k.attempt c s = .ok s := fun c s => by simp [Kernel.attempt, Kernel.fails, hf]
  have hnot : (!link && !function) = false := by
    rcases h with h | h
    · obtain rfl : link = true := h
      rfl
    · obtain rfl : function = true := h
      simp
  simp only [release_base_gadget, hnot, Bool.false_eq_true, if_false, if_neg hu]
  -- unbound, unmounted, unlinked and removed, whatever of it there was
  cases udc <;> cases mounted <;> cases link <;> cases function <;>
    simp [done, Kernel.unbind, Kernel.umount, Kernel.unlink, Kernel.rmdir, Kernel.bind, hattempt, Except.toOption]

/-- What `restore` misses: after any setup that failed, `release_base_gadget` gives the gadget back. -/
theorem release_after_failure {k' : Kernel} {error : String} (hs : Idle s)
    (hfound : s.udc.isSome = true → k.first_udc ≠ "") (h : (create k s).1 = .error error) (hu : k.first_udc ≠ "")
    (hf' : k'.fault = none) (hu' : k'.first_udc ≠ "") :
    (release_base_gadget k' (create k s).2).udc.isSome = true := by
  by_cases hours : (create k s).2.link = true ∨ (create k s).2.function = true
  · exact release_binds (hs.create h) hf' hu' hours
  · simp only [not_or, Bool.not_eq_true] at hours
    have hsame : release_base_gadget k' (create k s).2 = (create k s).2 := by
      simp [release_base_gadget, hours.1, hours.2]
    rw [hsame, create_restores_iff k s hs hfound error h]
    obtain ⟨t, ht, hstate⟩ := create_error hs.closed h
    obtain ⟨udc, he⟩ := restore_eq (k := k) t
    have hlink : t.link = false := by
      rw [← hours.1, ht, he]
    rcases hstate with ⟨hearly, rfl | hunbound⟩ | hlate
    · exact ⟨hu, hlink, hearly⟩
    · exact ⟨hu, hunbound.link.symm.trans hlink, hearly⟩
    · rcases hlate.link with hl | hearly
      · rw [hlink] at hl
        cases hl
      · exact absurd hearly (hlate.late.resolve_right hu)

end Left

/-- A kernel where one call fails with `ENOENT`. -/
def failing (c : Call) : Kernel where
  first_udc := "3550000.usb"
  later_udc := ""
  fault := some (c, ENOENT)
  strerror _ := "No such file or directory"
  unbinds := by simp [ENOENT, ENODEV]

/-- The gadget that `usb-gadget.service` has bound. -/
def booted : Gadget := ⟨some "3550000.usb", false, false, false, false, false, false, false⟩

/-- It fails before the configuration is touched, and the gadget is bound again. -/
theorem create_restores_iff_booted : FailsEarly (failing .mkdir_function) ∧
    (create (failing .mkdir_function) booted).2.udc.isSome = true := by
  have hearly : FailsEarly (failing .mkdir_function) := ⟨.mkdir_function, ENOENT, rfl, rfl⟩
  exact ⟨hearly, (create_restores_iff _ booted (Left.boot _).idle (fun _ => by decide) _ rfl).2
    ⟨by decide, rfl, hearly⟩⟩

/-- The control endpoint cannot be opened: the gadget stays unbound. -/
theorem open_ep0_fails : ¬ ∀ (k : Kernel) s error, Left s → (s.udc.isSome = true → k.first_udc ≠ "") →
    (create k s).1 = .error error → k.first_udc ≠ "" → (create k s).2.udc.isSome = true := by
  intro hall
  have hbound := hall (failing .open_ep0) booted _ (.boot _) (fun _ => by decide) rfl (by decide)
  exact absurd hbound (by decide)

end CameraStreamer.Secure.FfsGadget
