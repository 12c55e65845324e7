import CameraStreamer.MountMedia
/-!
# The watchdog

`RtspServer::on_watchdog` goes through the mounts every `kWatchdogPeriodSec`,
one after the other, while clients come and go and frames are counted on other
threads. It disables a stalled mount and calls the stall handler once nothing is
mounted.
-/

namespace CameraStreamer

open Runs

namespace Watched
variable {D : Type} [Doubles D]

/-- What is not done by the watchdog. -/
def outside : MountEvent → Bool
  | .check | .disable => false
  | _ => true

/-- The loop's body on one mount, and whether it counts as mounted. The rate that
`check_stall` is given only goes into a warning. -/
def visit (s : Watched D) : Bool × Watched D :=
  if s.mount.mounted then
    let (stalled, mount) := s.mount.check_stall s.state
    let checked := { s with mount := mount, checks := s.seen :: s.checks }
    if stalled then (false, { checked with mount := checked.mount.disable }) else (true, checked)
  else (false, s)

inductive OwnEvent where
  | event (e : MountEvent)
  | visit

/-- A mount, and the watchdog on it alone. -/
def own_step (s : Watched D) : OwnEvent → Option (Watched D)
  | .event e => if outside e then s.step e else none
  | .visit => some s.visit.2

/-! ## One mount -/

variable {s s' : Watched D}

theorem step_outside {e : MountEvent} (he : outside e = true) (h : s.step e = some s') :
    s'.mount.mounted = s.mount.mounted ∧ s'.mount.dead_ = s.mount.dead_ ∧ s'.checks = s.checks := by
  cases e with
  | configure m bin =>
    obtain ⟨-, hs⟩ := Option.ite_none_left_eq_some.1 h
    cases hs
    obtain ⟨thread, hm⟩ := on_media_configure_eq s.mount m bin
    dsimp only
    rw [hm]
    exact ⟨rfl, rfl, rfl⟩
  | unprepared m =>
    obtain ⟨-, hs⟩ := Option.ite_none_right_eq_some.1 h
    cases hs
    exact ⟨rfl, rfl, rfl⟩
  | payload m buffer now =>
    obtain ⟨-, hs⟩ := Option.ite_none_right_eq_some.1 h
    obtain ⟨sequence, pts, wallclock, hm⟩ := on_payload_buffer_eq s.mount buffer now
    split at hs
    · cases hs
      dsimp only
      rw [hm]
      exact ⟨rfl, rfl, rfl⟩
    · cases hs
      dsimp only
      rw [hm]
      exact ⟨rfl, rfl, rfl⟩
  | state m state =>
    cases h
    exact ⟨rfl, rfl, rfl⟩
  | set_source_property property value =>
    cases h
    unfold set_source_property
    split
    · exact ⟨rfl, rfl, rfl⟩
    · exact ⟨rfl, rfl, rfl⟩
  | refresh_launch launch =>
    cases h
    exact ⟨by simp [LiveMount.mounted], rfl, rfl⟩
  | check => cases he
  | disable => cases he

theorem own_step_event {e : MountEvent} (h : s.own_step (.event e) = some s') :
    s'.mount.mounted = s.mount.mounted ∧ s'.mount.dead_ = s.mount.dead_ ∧ s'.checks = s.checks := by
  obtain ⟨he, hs⟩ := Option.ite_none_right_eq_some.1 h
  exact step_outside he hs

/-- A mount that is not mounted is passed over. -/
theorem visit_unmounted (h : s.mount.mounted = false) : s.visit = (false, s) := by
  unfold visit
  rw [h]
  rfl

/-- A mount counts as mounted just when it is so after its check. -/
theorem visit_mounted : s.visit.1 = s.visit.2.mount.mounted := by
  unfold visit
  split
  · rename_i hmounted
    obtain ⟨last, stalled, fps, he, -⟩ := check_stall_eq s.mount s.state
    dsimp only
    split
    · simp [LiveMount.mounted, LiveMount.disable]
    · dsimp only
      rw [he]
      exact hmounted.symm
  · rename_i hmounted
    simpa using hmounted

/-- What a visit does is a check, or a check and the disabling, or nothing. -/
theorem visit_run : ∃ as, Run step s as s.visit.2 := by
  unfold visit
  split
  · have hcheck : s.step .check =
        some { s with mount := (s.mount.check_stall s.state).2, checks := s.seen :: s.checks } := rfl
    dsimp only
    split
    · have hdisable := Run.snoc (.snoc .nil hcheck) (a := MountEvent.disable) rfl
      exact ⟨_, hdisable⟩
    · exact ⟨_, Run.snoc .nil hcheck⟩
  · exact ⟨[], .nil⟩

/-- A mount under its watchdog is a mount of which the checks are some of the events. -/
theorem own_run {mount : MountController D} {as : List OwnEvent} (h : Run own_step (installed mount) as s) :
    ∃ bs, Run step (installed mount) bs s := by
  induction h with
  | nil => exact ⟨[], .nil⟩
  | @snoc as s a s' hr ha ih =>
    obtain ⟨bs, hbs⟩ := ih
    cases a with
    | event e => exact ⟨_, hbs.snoc (Option.ite_none_right_eq_some.1 ha).2⟩
    | visit =>
      cases ha
      obtain ⟨cs, hcs⟩ := visit_run (s := s)
      exact ⟨_, hbs.trans hcs⟩

/-- A mount that is not mounted stays so, and is not checked again. -/
theorem own_step_unmounted {a : OwnEvent} (hs : s.mount.mounted = false) (h : s.own_step a = some s') :
    s'.mount.mounted = false ∧ s'.mount.dead_ = s.mount.dead_ ∧ s'.checks = s.checks := by
  cases a with
  | event e =>
    obtain ⟨hm, hrest⟩ := own_step_event h
    exact ⟨hm.trans hs, hrest⟩
  | visit =>
    cases h
    rw [visit_unmounted hs]
    exact ⟨hs, rfl, rfl⟩

theorem own_run_unmounted {as : List OwnEvent} (hs : s.mount.mounted = false) (h : Run own_step s as s') :
    s'.mount.mounted = false ∧ s'.mount.dead_ = s.mount.dead_ ∧ s'.checks = s.checks := by
  apply h.inv (fun t => t.mount.mounted = false ∧ t.mount.dead_ = s.mount.dead_ ∧ t.checks = s.checks)
  · exact ⟨hs, rfl, rfl⟩
  · intro t a t' ⟨hm, hd, hc⟩ ht
    obtain ⟨hm', hd', hc'⟩ := own_step_unmounted hm ht
    exact ⟨hm', hd'.trans hd, hc'.trans hc⟩

end Watched

/-- `RtspServer` while it serves. -/
structure LiveServer (D : Type) where
  mounts_ : Fin kNumCameras → Watched D
  /-- The paths that `GstRTSPMountPoints` has a factory for. -/
  mount_points : List String
  /-- Where `on_watchdog` is: the next mount, and `any_mounted`. -/
  at_mount : Option (Nat × Bool) := none
  /-- Calls of the stall handler, which `start_servers` sets before it starts the
  server. It ends the process; what a run does after it is more than the code can do. -/
  stalls : Nat := 0

inductive ServerEvent where
  | mount (i : Fin kNumCameras) (e : MountEvent)
  /-- The timer fires. -/
  | tick
  | visit (i : Fin kNumCameras)
  /-- The rest of `on_watchdog`, after the loop. -/
  | finish

namespace LiveServer
variable {D : Type} [Doubles D]

def mount_path (i : Fin kNumCameras) : String := "/cam" ++ toString i.val

/-- A server that has started, for the mounts that were installed. -/
def started (mounts : RtspServer.Mounts D) : LiveServer D where
  mounts_ i := Watched.installed (mounts i)
  mount_points := ((List.finRange kNumCameras).filter fun i => (mounts i).factory_.isSome).map mount_path

/-- The loop's body, with `disable_mount` where the mount has stalled. -/
def visit (s : LiveServer D) (i : Fin kNumCameras) (any_mounted : Bool) : LiveServer D :=
  let (live, mount) := (s.mounts_ i).visit
  { s with
    mounts_ := Function.update s.mounts_ i mount
    mount_points :=
      if (s.mounts_ i).mount.mounted && !live then s.mount_points.filter (· != mount_path i) else s.mount_points
    at_mount := some (i + 1, any_mounted || live) }

def step (s : LiveServer D) : ServerEvent → Option (LiveServer D)
  | .mount i e =>
    ((s.mounts_ i).own_step (.event e)).map fun mount => { s with mounts_ := Function.update s.mounts_ i mount }
  | .tick => if s.at_mount.isNone then some { s with at_mount := some (0, false) } else none
  | .visit i =>
    match s.at_mount with
    | some (next, any_mounted) => if i.val = next then some (s.visit i any_mounted) else none
    | none => none
  | .finish =>
    match s.at_mount with
    | some (next, any_mounted) =>
      if next = kNumCameras then
        some { s with at_mount := none, stalls := if any_mounted then s.stalls else s.stalls + 1 }
      else none
    | none => none

/-- What of an event concerns the mount `i`. -/
def own (i : Fin kNumCameras) : ServerEvent → Option Watched.OwnEvent
  | .mount j e => if j = i then some (.event e) else none
  | .visit j => if j = i then some .visit else none
  | .tick | .finish => none

/-! ## All the mounts -/

variable {s s' : LiveServer D}

@[simp] theorem visit_mounts (i : Fin kNumCameras) (any_mounted : Bool) :
    (s.visit i any_mounted).mounts_ = Function.update s.mounts_ i (s.mounts_ i).visit.2 := rfl

@[simp] theorem visit_at_mount (i : Fin kNumCameras) (any_mounted : Bool) :
    (s.visit i any_mounted).at_mount = some (i.val + 1, any_mounted || (s.mounts_ i).visit.1) := rfl

@[simp] theorem visit_stalls (i : Fin kNumCameras) (any_mounted : Bool) :
    (s.visit i any_mounted).stalls = s.stalls := rfl

/-- What a step does. -/
inductive Did (s : LiveServer D) : ServerEvent → LiveServer D → Prop
  | mount {i e mount} (hm : (s.mounts_ i).own_step (.event e) = some mount) :
    Did s (.mount i e) { s with mounts_ := Function.update s.mounts_ i mount }
  | tick (hat : s.at_mount = none) : Did s .tick { s with at_mount := some (0, false) }
  | visit {i any_mounted} (hat : s.at_mount = some (i.val, any_mounted)) : Did s (.visit i) (s.visit i any_mounted)
  | finish {any_mounted} (hat : s.at_mount = some (kNumCameras, any_mounted)) :
    Did s .finish { s with at_mount := none, stalls := if any_mounted then s.stalls else s.stalls + 1 }

theorem step_did {a : ServerEvent} (h : s.step a = some s') : Did s a s' := by
  cases a with
  | mount i e =>
    obtain ⟨mount, hm, rfl⟩ := Option.map_eq_some_iff.1 h
    exact .mount hm
  | tick =>
    obtain ⟨hat, hs⟩ := Option.ite_none_right_eq_some.1 h
    cases hs
    exact .tick (Option.isNone_iff_eq_none.1 hat)
  | visit i =>
    simp only [step] at h
    split at h
    · rename_i next any_mounted hat
      obtain ⟨rfl, hs⟩ := Option.ite_none_right_eq_some.1 h
      cases hs
      exact .visit hat
    · cases h
  | finish =>
    simp only [step] at h
    split at h
    · rename_i next any_mounted hat
      obtain ⟨rfl, hs⟩ := Option.ite_none_right_eq_some.1 h
      cases hs
      exact .finish hat
    · cases h

/-- A step touches a mount only by an event of that mount's own. -/
theorem step_other {i : Fin kNumCameras} {a : ServerEvent} (h : s.step a = some s') (ha : own i a = none) :
    s'.mounts_ i = s.mounts_ i := by
  cases step_did h with
  | mount =>
    apply Function.update_of_ne
    rintro rfl
    simp [own] at ha
  | visit =>
    apply Function.update_of_ne
    rintro rfl
    simp [own] at ha
  | tick => rfl
  | finish => rfl

theorem step_own {i : Fin kNumCameras} {a : ServerEvent} {b : Watched.OwnEvent} (h : s.step a = some s')
    (ha : own i a = some b) : (s.mounts_ i).own_step b = some (s'.mounts_ i) := by
  cases step_did h with
  | mount hm =>
    obtain ⟨rfl, hb⟩ := Option.ite_none_right_eq_some.1 ha
    cases hb
    dsimp only
    rw [Function.update_self]
    exact hm
  | visit =>
    obtain ⟨rfl, hb⟩ := Option.ite_none_right_eq_some.1 ha
    cases hb
    rw [visit_mounts, Function.update_self]
    rfl
  | tick => cases ha
  | finish => cases ha

/-- Each mount is what its own events and checks make of it. -/
theorem run_own {as : List ServerEvent} {t : LiveServer D} (h : Run step s as t) (i : Fin kNumCameras) :
    Run Watched.own_step (s.mounts_ i) (as.filterMap (own i)) (t.mounts_ i) := by
  apply h.project (fun s => s.mounts_ i) (own i)
  · exact fun s a s' hs ha => step_other hs ha
  · exact fun s a s' b hs ha => step_own hs ha

/-- `any_mounted` says whether one of the mounts that were visited is still mounted. -/
def Inv (s : LiveServer D) : Prop :=
  ∀ next any_mounted, s.at_mount = some (next, any_mounted) →
    (any_mounted = true ↔ ∃ i : Fin kNumCameras, i.val < next ∧ (s.mounts_ i).mount.mounted = true)

theorem Inv.step (hI : Inv s) {a : ServerEvent} (h : s.step a = some s') : Inv s' := by
  cases step_did h with
  | @mount j e mount hm =>
    have hmounted : ∀ i, (Function.update s.mounts_ j mount i).mount.mounted = (s.mounts_ i).mount.mounted := by
      intro i
      by_cases hi : i = j
      · subst hi
        rw [Function.update_self]
        exact (Watched.own_step_event hm).1
      · rw [Function.update_of_ne hi]
    intro next any_mounted hat
    simp only [hmounted]
    exact hI next any_mounted hat
  | tick =>
    intro next any_mounted hat
    cases hat
    simp
  | @visit j any_mounted hat =>
    have hbefore := hI j.val any_mounted hat
    intro next any_mounted' hat'
    rw [visit_at_mount, Option.some.injEq, Prod.mk.injEq] at hat'
    obtain ⟨rfl, rfl⟩ := hat'
    rw [Bool.or_eq_true, hbefore, Watched.visit_mounted, visit_mounts]
    constructor
    · rintro (⟨i, hi, hm⟩ | hm)
      · refine ⟨i, by omega, ?_⟩
        rw [Function.update_of_ne (by rintro rfl; omega)]
        exact hm
      · refine ⟨j, by omega, ?_⟩
        rw [Function.update_self]
        exact hm
    · rintro ⟨i, hi, hm⟩
      by_cases hij : i = j
      · subst hij
        rw [Function.update_self] at hm
        exact .inr hm
      · rw [Function.update_of_ne hij] at hm
        have : i.val ≠ j.val := fun h => hij (Fin.ext h)
        exact .inl ⟨i, by omega, hm⟩
  | finish =>
    intro next any_mounted hat
    cases hat

theorem inv_started (mounts : RtspServer.Mounts D) : Inv (started mounts) := by
  intro next any_mounted h
  cases h

/-- The stall handler is called at the end of a tick that leaves nothing mounted, and nowhere else. -/
theorem Inv.stalls_iff (hI : Inv s) {a : ServerEvent} (h : s.step a = some s') :
    s'.stalls ≠ s.stalls ↔ a = .finish ∧ ∀ i, (s'.mounts_ i).mount.mounted = false := by
  cases step_did h with
  | mount => simp
  | tick => simp
  | visit => simp
  | @finish any_mounted hat =>
    have hany := hI kNumCameras any_mounted hat
    cases any_mounted with
    | true =>
      obtain ⟨i, -, hm⟩ := hany.1 rfl
      simp only [if_true, ne_eq, not_true_eq_false, true_and, false_iff, not_forall]
      exact ⟨i, by simp [hm]⟩
    | false =>
      simp only [Bool.false_eq_true, if_false, ne_eq, Nat.succ_ne_self, not_false_eq_true, true_and, true_iff]
      intro i
      by_contra hm
      rw [Bool.not_eq_false] at hm
      exact Bool.false_ne_true (hany.2 ⟨i, i.isLt, hm⟩)

theorem mount_path_inj {i j : Fin kNumCameras} (h : mount_path i = mount_path j) : i = j := by
  revert i j
  decide

/-- A mount that stops being mounted takes its own path away and no other. -/
theorem visit_served {i j : Fin kNumCameras} {any_mounted : Bool}
    (h : mount_path i ∈ s.mount_points ↔ (s.mounts_ i).mount.mounted = true) :
    mount_path i ∈ (s.visit j any_mounted).mount_points ↔
      ((s.visit j any_mounted).mounts_ i).mount.mounted = true := by
  show mount_path i ∈ (if (s.mounts_ j).mount.mounted && !(s.mounts_ j).visit.1 then
    s.mount_points.filter (· != mount_path j) else s.mount_points) ↔ _
  rw [visit_mounts]
  by_cases hij : i = j
  · subst hij
    rw [Function.update_self, ← Watched.visit_mounted]
    cases hm : (s.mounts_ i).mount.mounted with
    | false =>
      rw [Watched.visit_unmounted hm]
      simpa [hm] using h
    | true => cases hv : (s.mounts_ i).visit.1 <;> simp [h, hm]
  · rw [Function.update_of_ne hij, ← h]
    have hne : mount_path i ≠ mount_path j := fun he => hij (mount_path_inj he)
    split
    · simp [hne]
    · rfl

/-- Clients find a path just when its mount is mounted. -/
theorem served_iff (mounts : RtspServer.Mounts D) {as : List ServerEvent} (h : Run step (started mounts) as s)
    (i : Fin kNumCameras) : mount_path i ∈ s.mount_points ↔ (s.mounts_ i).mount.mounted = true := by
  revert i
  apply h.inv (fun s => ∀ i, mount_path i ∈ s.mount_points ↔ (s.mounts_ i).mount.mounted = true)
  · intro i
    simp only [started, List.mem_map, List.mem_filter, List.mem_finRange, true_and]
    constructor
    · rintro ⟨j, hj, hp⟩
      rw [← mount_path_inj hp]
      simpa [Watched.installed, LiveMount.mounted] using hj
    · intro hm
      exact ⟨i, by simpa [Watched.installed, LiveMount.mounted] using hm, rfl⟩
  · intro s a s' hserved hs i
    cases step_did hs with
    | @mount j e mount hm =>
      by_cases hij : i = j
      · subst hij
        dsimp only
        rw [Function.update_self, (Watched.own_step_event hm).1]
        exact hserved i
      · dsimp only
        rw [Function.update_of_ne hij]
        exact hserved i
    | tick => exact hserved i
    | visit => exact visit_served (hserved i)
    | finish => exact hserved i

/-- In every run: a mount is what its own events and its own checks make of it, whatever
the others do; one that is not mounted stays as it is and is not checked again; and
the stall handler is called at the end of a tick after which nothing is mounted. -/
theorem watchdog_isolates (mounts : RtspServer.Mounts D) (as : List ServerEvent) (s : LiveServer D)
    (h : Run step (started mounts) as s) :
    (∀ i, Run Watched.own_step (Watched.installed (mounts i)) (as.filterMap (own i)) (s.mounts_ i)) ∧
      (∀ pre post t i, as = pre ++ post → Run step (started mounts) pre t → (t.mounts_ i).mount.mounted = false →
        (s.mounts_ i).mount.mounted = false ∧ (s.mounts_ i).mount.dead_ = (t.mounts_ i).mount.dead_ ∧
          (s.mounts_ i).checks = (t.mounts_ i).checks) ∧
      (∀ pre a post t t', as = pre ++ a :: post → Run step (started mounts) pre t → step t a = some t' →
        (∀ i, own i a = none → t'.mounts_ i = t.mounts_ i) ∧
          (t'.stalls ≠ t.stalls ↔ a = .finish ∧ ∀ i, (t'.mounts_ i).mount.mounted = false)) := by
  refine ⟨fun i => run_own h i, ?_, ?_⟩
  · intro pre post t i he ht hm
    subst he
    exact Watched.own_run_unmounted hm (run_own (h.rest ht) i)
  · intro pre a post t t' he ht hs
    have hI : Inv t := ht.inv Inv (inv_started mounts) fun _ _ _ hI => hI.step
    exact ⟨fun i => step_other hs, hI.stalls_iff hs⟩

/-- The mount `i` plays and delivers nothing, `j` delivers a frame before each tick. -/
def first_stalls (i j : Fin kNumCameras) : List ServerEvent :=
  let round (pts : UInt64) : List ServerEvent :=
    [.mount j (.payload 0 (some ⟨pts, GST_BUFFER_OFFSET_NONE⟩) 0), .tick, .visit i, .visit j, .finish]
  [.mount i (.configure 0 ⟨false, false⟩), .mount i (.state 0 .playing), .mount j (.configure 0 ⟨false, false⟩),
    .mount j (.state 0 .playing)] ++ round 1 ++ round 2 ++ round 3

/-- Only that mount is disabled, and the process goes on. -/
theorem watchdog_isolates_first : ∃ s : LiveServer Rat,
    Run step (started fun _ => Watched.test_mount) (first_stalls 0 1) s ∧
    (s.mounts_ 0).mount.dead_ = true ∧ (s.mounts_ 1).mount.mounted = true ∧ s.stalls = 0 ∧
      Run Watched.own_step (Watched.installed Watched.test_mount) ((first_stalls 0 1).filterMap (own 1)) (s.mounts_ 1) := by
  obtain ⟨s, hs, hdead, hmounted, hstalls⟩ : ∃ s : LiveServer Rat,
      exec step (started fun _ => Watched.test_mount) (first_stalls 0 1) = some s ∧
        (s.mounts_ 0).mount.dead_ = true ∧ (s.mounts_ 1).mount.mounted = true ∧ s.stalls = 0 := ⟨_, rfl, rfl, rfl, rfl⟩
  have hrun := run_of_exec hs
  exact ⟨s, hrun, hdead, hmounted, hstalls,
    (watchdog_isolates (fun _ => Watched.test_mount) (first_stalls 0 1) s hrun).1 1⟩

end LiveServer

end CameraStreamer
