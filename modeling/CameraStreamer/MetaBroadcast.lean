import CameraStreamer.Config
import CameraStreamer.Lib.Runs
/-!
# Detection boxes over the control connection

In network mode a detection thread hands its boxes to `ControlMetaSink::on_meta`,
which reads `control_ptr_` and queues a job that calls `broadcast` on the server
it read. The main thread meanwhile reloads: it destroys the control server, then
the RTSP server (which joins the threads), and starts new ones. `control_ptr_` is
only ever written when a server is constructed.
-/

namespace CameraStreamer.Broadcasts

open Runs

/-- A job queued by `on_meta`. Control servers go by the order in which they are constructed. -/
structure Job where
  target : Nat
  line : String

def faces_line (camera : Fin kNumCameras) (json : String) : String :=
  "\x7b\"event\":\"faces\",\"camera\":" ++ toString camera.val ++ ",\"data\":" ++ json ++ "\x7d"

/-- A mount's detection thread. -/
inductive Thread where
  | off
  | detecting
  /-- In `on_meta`, with the pointer read. -/
  | in_meta (server : Nat) (json : String)

def Thread.in_on_meta : Thread → Bool
  | .in_meta _ _ => true
  | _ => false

/-- What comes after `stop_servers`. -/
inductive Next (D : Type) where
  /-- `start_servers`, with the configuration to go back to. -/
  | start (revert : Option (Config D))
  | exit

/-- Where the main thread is. -/
inductive Main (D : Type) where
  | new
  /-- In the loop, between two callbacks. -/
  | idle
  /-- In `stop_servers`, before `control_.reset()`. -/
  | stop_control (next : Next D)
  | stop_rtsp (next : Next D)
  | start (revert : Option (Config D))
  | exited

/-- `control_` has been reset. -/
def Main.stopped {D : Type} : Main D → Prop
  | .new | .stop_rtsp _ | .start _ | .exited => True
  | .idle | .stop_control _ => False

/-- In the `stop_servers` before the exit. -/
def Main.exiting {D : Type} : Main D → Bool
  | .stop_control .exit => true
  | _ => false

/-- The process is on its way out. -/
def Main.exits {D : Type} : Main D → Prop
  | .stop_control .exit | .stop_rtsp .exit | .exited => True
  | _ => False

structure Application (D : Type) where
  main : Main D
  /-- The loop runs, so that the main thread owns the main context. -/
  in_loop : Bool
  config_ : Config D
  control_ : Option Nat
  control_ptr_ : Option Nat
  constructed : Nat
  rtsp_ : Bool
  threads : Fin kNumCameras → Thread
  jobs : List Job
  /-- The calls of `broadcast`: the server it was called on, and the one there was. -/
  calls : List (Nat × Option Nat)
  /-- The control server there was whenever `on_meta` queued a job. -/
  queued : List (Option Nat)

inductive Act (D : Type) where
  | start (file : Option (KeyFile D)) (rtsp_ok control_ok : Bool)
  | reload (file : Option (KeyFile D))
  | stop_control
  | stop_rtsp
  | start_servers (rtsp_ok control_ok : Bool)
  | quit
  /-- A client's media begins detection, or ends it. -/
  | configure (c : Fin kNumCameras)
  | unprepared (c : Fin kNumCameras)
  | on_meta (c : Fin kNumCameras) (json : String)
  /-- `g_main_context_invoke_full`, which takes the context if it can. -/
  | invoke (c : Fin kNumCameras) (acquires : Bool)
  | run_job

namespace Application
variable {D : Type}

def new [Doubles D] : Application D where
  main := .new
  in_loop := false
  config_ := FileConfigLoader.builtin
  control_ := none
  control_ptr_ := none
  constructed := 0
  rtsp_ := false
  threads _ := .off
  jobs := []
  calls := []
  queued := []

/-- `start_servers`. No client is accepted before it returns to the loop, and so no detection runs. -/
def start_servers (s : Application D) (rtsp_ok control_ok : Bool) : Bool × Application D :=
  if s.config_.transports = "usb" then (true, s)
  else if !rtsp_ok then (false, s)
  else if 0 < s.config_.control_port then
    let s := { s with
      control_ := some s.constructed
      control_ptr_ := some s.constructed
      constructed := s.constructed + 1 }
    -- a control server that does not start is destroyed, and the pointer stays
    if control_ok then (true, { s with rtsp_ := true }) else (false, { s with control_ := none })
  else (true, { s with rtsp_ := true })

/-- After `start_servers` in `reload`. -/
def reloaded (revert : Option (Config D)) : Bool × Application D → Application D
  | (true, s) => { s with main := .idle }
  | (false, s) =>
    match revert with
    | some previous => { s with config_ := previous, main := .stop_control (.start none) }
    | none => { s with in_loop := false, main := .stop_control .exit }

def step [Doubles D] (s : Application D) : Act D → Option (Application D)
  | .start file rtsp_ok control_ok =>
    match s.main with
    | .new =>
      match ({ s with config_ := FileConfigLoader.load file } : Application D).start_servers rtsp_ok control_ok with
      | (true, s) => some { s with in_loop := true, main := .idle }
      | (false, s) => some { s with main := .exited }
    | _ => none
  | .reload file =>
    match s.main with
    | .idle => some { s with
        config_ := FileConfigLoader.load file
        main := .stop_control (.start (some s.config_)) }
    | _ => none
  | .stop_control =>
    match s.main with
    | .stop_control next => some { s with control_ := none, main := .stop_rtsp next }
    | _ => none
  | .stop_rtsp =>
    match s.main with
    | .stop_rtsp next =>
      -- the threads are joined
      if ∀ c, (s.threads c).in_on_meta = false then
        some { s with
          rtsp_ := false
          threads := fun _ => .off
          main := match next with
            | .start revert => .start revert
            | .exit => .exited }
      else none
    | _ => none
  | .start_servers rtsp_ok control_ok =>
    match s.main with
    | .start revert => some (reloaded revert (s.start_servers rtsp_ok control_ok))
    | _ => none
  | .quit =>
    match s.main with
    | .idle => some { s with in_loop := false, main := .stop_control .exit }
    | _ => none
  | .configure c =>
    match s.threads c with
    | .off => if s.rtsp_ then some { s with threads := Function.update s.threads c .detecting } else none
    | _ => none
  | .unprepared c =>
    match s.threads c with
    | .detecting => some { s with threads := Function.update s.threads c .off }
    | _ => none
  | .on_meta c json =>
    match s.threads c with
    | .detecting =>
      match s.control_ptr_ with
      | none => some s
      | some server => some { s with threads := Function.update s.threads c (.in_meta server json) }
    | _ => none
  | .invoke c acquires =>
    match s.threads c with
    | .in_meta server json =>
      let s := { s with threads := Function.update s.threads c .detecting }
      if s.in_loop || !acquires then
        some { s with jobs := s.jobs ++ [⟨server, faces_line c json⟩], queued := s.queued ++ [s.control_] }
      else some { s with calls := s.calls ++ [(server, s.control_)] }
    | _ => none
  | .run_job =>
    match s.main, s.jobs with
    | .idle, job :: jobs => some { s with jobs := jobs, calls := s.calls ++ [(job.target, s.control_)] }
    | _, _ => none

/-- Every broadcast was called on the server there was, and no job was queued where there was none. -/
structure Sound (s : Application D) : Prop where
  calls : ∀ call ∈ s.calls, call.2 = some call.1
  queued : none ∉ s.queued

/-- No control server is destroyed while a broadcast to it is under way, nor read of
in `on_meta` when it is gone. Where the process exits, the jobs do not run. -/
def quiet (s : Application D) : Act D → Bool
  | .stop_control => (∀ c, (s.threads c).in_on_meta = false) && (s.main.exiting || s.jobs.isEmpty)
  | .on_meta _ _ => s.control_ptr_.isNone || s.control_.isSome
  | _ => true

theorem quiet_stop_control {s : Application D} : s.quiet .stop_control = true ↔
    (∀ c, (s.threads c).in_on_meta = false) ∧ (s.main.exiting = true ∨ s.jobs = []) := by
  simp [quiet]

theorem quiet_on_meta {s : Application D} {c : Fin kNumCameras} {json : String} :
    s.quiet (.on_meta c json) = true ↔ s.control_ptr_ = none ∨ ∃ server, s.control_ = some server := by
  simp [quiet, Option.isSome_iff_exists]

/-! ## What a step does -/

/-- What `start_servers` leaves behind: it constructs a control server at most, and the pointer is then to that one. -/
theorem start_servers_eq (s : Application D) (rtsp_ok control_ok : Bool) : ∃ ok control control_ptr constructed rtsp,
    s.start_servers rtsp_ok control_ok =
      (ok, { s with control_ := control, control_ptr_ := control_ptr, constructed := constructed, rtsp_ := rtsp }) ∧
    ((control = s.control_ ∧ control_ptr = s.control_ptr_ ∧ constructed = s.constructed) ∨
      ((control = none ∨ ok = true ∧ control = some s.constructed) ∧ control_ptr = some s.constructed ∧
        constructed = s.constructed + 1)) := by
  unfold start_servers
  split
  · exact ⟨_, _, _, _, _, rfl, .inl ⟨rfl, rfl, rfl⟩⟩
  · split
    · exact ⟨_, _, _, _, _, rfl, .inl ⟨rfl, rfl, rfl⟩⟩
    · split
      · dsimp only
        split
        · exact ⟨_, _, _, _, _, rfl, .inr ⟨.inr ⟨rfl, rfl⟩, rfl, rfl⟩⟩
        · exact ⟨_, _, _, _, _, rfl, .inr ⟨.inl rfl, rfl, rfl⟩⟩
      · exact ⟨_, _, _, _, _, rfl, .inl ⟨rfl, rfl, rfl⟩⟩

theorem start_servers_ok (s : Application D) : (s.start_servers true true).1 = true := by
  unfold start_servers
  split
  · rfl
  · simp only [Bool.not_true, Bool.false_eq_true, if_false, if_true]
    split <;> rfl

/-- Past `start_servers`, `main` is anything but on the way to it. -/
inductive Did (s : Application D) : Act D → Application D → Prop
  | started {file rtsp_ok control_ok config ok t in_loop main} (hmain : s.main = .new)
      (hstart : ({ s with config_ := config } : Application D).start_servers rtsp_ok control_ok = (ok, t))
      (hto : main = .idle ∨ main = .exited ∧ ok = false) :
    Did s (.start file rtsp_ok control_ok) { t with in_loop := in_loop, main := main }
  | reload {file config} (hmain : s.main = .idle) :
    Did s (.reload file) { s with config_ := config, main := .stop_control (.start (some s.config_)) }
  | stop_control {next} (hmain : s.main = .stop_control next) :
    Did s .stop_control { s with control_ := none, main := .stop_rtsp next }
  | stop_rtsp {next main} (hmain : s.main = .stop_rtsp next)
      (hto : next = .exit ∧ main = .exited ∨ ∃ revert, next = .start revert ∧ main = .start revert) :
    Did s .stop_rtsp { s with rtsp_ := false, threads := fun _ => .off, main := main }
  | restarted {revert rtsp_ok control_ok ok t config in_loop main} (hmain : s.main = .start revert)
      (hstart : s.start_servers rtsp_ok control_ok = (ok, t))
      (hto : main = .idle ∨ main = .stop_control (.start none) ∨ main = .stop_control .exit) :
    Did s (.start_servers rtsp_ok control_ok) { t with config_ := config, in_loop := in_loop, main := main }
  | quit (hmain : s.main = .idle) : Did s .quit { s with in_loop := false, main := .stop_control .exit }
  | detection {a c thread} (ha : a = .configure c ∨ a = .unprepared c) (hthread : thread.in_on_meta = false) :
    Did s a { s with threads := Function.update s.threads c thread }
  | no_server {c json} (hptr : s.control_ptr_ = none) : Did s (.on_meta c json) s
  | on_meta {c json server} (hptr : s.control_ptr_ = some server) :
    Did s (.on_meta c json) { s with threads := Function.update s.threads c (.in_meta server json) }
  | queue {c acquires server json} (hthread : s.threads c = .in_meta server json) :
    Did s (.invoke c acquires) { s with
      threads := Function.update s.threads c .detecting
      jobs := s.jobs ++ [⟨server, faces_line c json⟩]
      queued := s.queued ++ [s.control_] }
  | direct {c acquires server json} (hthread : s.threads c = .in_meta server json) :
    Did s (.invoke c acquires) { s with
      threads := Function.update s.threads c .detecting
      calls := s.calls ++ [(server, s.control_)] }
  | run_job {job jobs} (hmain : s.main = .idle) (hjobs : s.jobs = job :: jobs) :
    Did s .run_job { s with jobs := jobs, calls := s.calls ++ [(job.target, s.control_)] }

theorem step_did [Doubles D] {s s' : Application D} {a : Act D} (h : s.step a = some s') : Did s a s' := by
  cases a with
  | start file rtsp_ok control_ok =>
    simp only [step] at h
    split at h
    · rename_i hmain
      split at h
      · rename_i hstart
        cases h
        exact .started hmain hstart (.inl rfl)
      · rename_i hstart
        cases h
        exact .started hmain hstart (.inr ⟨rfl, rfl⟩)
    · cases h
  | reload file =>
    simp only [step] at h
    split at h
    · rename_i hmain
      cases h
      exact .reload hmain
    · cases h
  | stop_control =>
    simp only [step] at h
    split at h
    · rename_i hmain
      cases h
      exact .stop_control hmain
    · cases h
  | stop_rtsp =>
    simp only [step] at h
    split at h
    · rename_i next hmain
      obtain ⟨-, hs⟩ := Option.ite_none_right_eq_some.1 h
      cases hs
      cases next with
      | start revert => exact .stop_rtsp hmain (.inr ⟨revert, rfl, rfl⟩)
      | exit => exact .stop_rtsp hmain (.inl ⟨rfl, rfl⟩)
    · cases h
  | start_servers rtsp_ok control_ok =>
    simp only [step] at h
    split at h
    · rename_i revert hmain
      cases h
      rcases hstart : s.start_servers rtsp_ok control_ok with ⟨ok, t⟩
      cases ok with
      | true => exact .restarted hmain hstart (.inl rfl)
      | false =>
        cases revert with
        | some previous => exact .restarted hmain hstart (.inr (.inl rfl))
        | none => exact .restarted hmain hstart (.inr (.inr rfl))
    · cases h
  | quit =>
    simp only [step] at h
    split at h
    · rename_i hmain
      cases h
      exact .quit hmain
    · cases h
  | configure c =>
    simp only [step] at h
    split at h
    · obtain ⟨-, hs⟩ := Option.ite_none_right_eq_some.1 h
      cases hs
      exact .detection (.inl rfl) rfl
    · cases h
  | unprepared c =>
    simp only [step] at h
    split at h
    · cases h
      exact .detection (.inr rfl) rfl
    · cases h
  | on_meta c json =>
    simp only [step] at h
    split at h
    · split at h
      · rename_i hptr
        cases h
        exact .no_server hptr
      · rename_i hptr
        cases h
        exact .on_meta hptr
    · cases h
  | invoke c acquires =>
    simp only [step] at h
    split at h
    · rename_i hthread
      split at h
      · cases h
        exact .queue hthread
      · cases h
        exact .direct hthread
    · cases h
  | run_job =>
    simp only [step] at h
    split at h
    · rename_i hmain hjobs
      cases h
      exact .run_job hmain hjobs
    · cases h

/-- A thread is put next to the others, and what holds of every server that a thread is about to call still does. -/
theorem update_in_meta {s : Application D} {holds : Nat → Prop} {c : Fin kNumCameras} {thread : Thread}
    (hall : ∀ c server json, s.threads c = .in_meta server json → holds server)
    (hthread : ∀ server json, thread = .in_meta server json → holds server) (c' : Fin kNumCameras) (server : Nat)
    (json : String) (h : Function.update s.threads c thread c' = .in_meta server json) : holds server := by
  by_cases hc : c' = c
  · subst hc
    rw [Function.update_self] at h
    exact hthread server json h
  · rw [Function.update_of_ne hc] at h
    exact hall c' server json h

/-! ## What a quiet run keeps -/

structure Kept (s : Application D) : Prop where
  ptr : ∀ server, s.control_ = some server → s.control_ptr_ = some server
  stopped : s.main.stopped → s.control_ = none
  in_meta : ∀ c server json, s.threads c = .in_meta server json → s.control_ = some server
  jobs : ¬ s.main.exits → ∀ job ∈ s.jobs, s.control_ = some job.target
  calls : ∀ call ∈ s.calls, call.2 = some call.1
  queued : none ∉ s.queued

theorem Kept.sound {s : Application D} (hk : Kept s) : s.Sound := ⟨hk.calls, hk.queued⟩

/-- Nothing is under way where there is no server. -/
theorem Kept.quiet_of_none {s : Application D} (hk : Kept s) (h : s.control_ = none) :
    (∀ c server json, s.threads c ≠ .in_meta server json) ∧ (¬ s.main.exits → s.jobs = []) := by
  refine ⟨fun c server json hthread => ?_, fun hmain => ?_⟩
  · have := hk.in_meta c server json hthread
    rw [h] at this
    cases this
  · apply List.eq_nil_iff_forall_not_mem.2
    intro job hjob
    have := hk.jobs hmain job hjob
    rw [h] at this
    cases this

/-- The servers are started where there were none. -/
theorem Kept.started {s t : Application D} {rtsp_ok control_ok ok in_loop : Bool} {config : Config D} {main : Main D}
    (hk : Kept s) (hs : s.main.stopped) (hexits : ¬ s.main.exits)
    (hstart : s.start_servers rtsp_ok control_ok = (ok, t)) (hto : main.stopped → ok = false) :
    Kept { t with config_ := config, in_loop := in_loop, main := main } := by
  have hnone := hk.stopped hs
  obtain ⟨hmeta, hjobs⟩ := hk.quiet_of_none hnone
  obtain ⟨ok', control, control_ptr, constructed, rtsp, he, hcontrol⟩ := start_servers_eq s rtsp_ok control_ok
  obtain ⟨rfl, rfl⟩ := Prod.mk.inj (hstart.symm.trans he)
  rw [hnone] at hcontrol
  constructor
  · intro server hserver
    rcases hcontrol with ⟨rfl, -, -⟩ | ⟨rfl | ⟨-, rfl⟩, rfl, -⟩
    · cases hserver
    · cases hserver
    · exact hserver
  · intro hstopped
    rcases hcontrol with ⟨rfl, -, -⟩ | ⟨rfl | ⟨hok, -⟩, -, -⟩
    · rfl
    · rfl
    · rw [hto hstopped] at hok
      cases hok
  · exact fun c server json hthread => absurd hthread (hmeta c server json)
  · intro _ job hjob
    have hmem : job ∈ s.jobs := hjob
    rw [hjobs hexits] at hmem
    cases hmem
  · exact hk.calls
  · exact hk.queued

theorem Kept.new [Doubles D] : Kept (new : Application D) where
  ptr _ h := by cases h
  stopped _ := rfl
  in_meta _ _ _ h := by cases h
  jobs _ _ h := by cases h
  calls _ h := by cases h
  queued h := by cases h

theorem Kept.step [Doubles D] {s s' : Application D} {a : Act D} (hk : Kept s) (hg : s.quiet a = true)
    (h : s.step a = some s') : Kept s' := by
  cases step_did h with
  | @started _ _ _ config _ _ _ _ hmain hstart hto =>
    have hk' : Kept { s with config_ := config } := { hk with }
    refine hk'.started ?_ ?_ hstart ?_
    · show s.main.stopped
      rw [hmain]
      trivial
    · show ¬ s.main.exits
      rw [hmain]
      exact id
    · rintro hstopped
      rcases hto with rfl | ⟨-, hok⟩
      · exact hstopped.elim
      · exact hok
  | reload hmain =>
    refine ⟨hk.ptr, fun h => h.elim, hk.in_meta, ?_, hk.calls, hk.queued⟩
    intro _
    apply hk.jobs
    rw [hmain]
    exact id
  | @stop_control next hmain =>
    obtain ⟨hthreads, hjobs⟩ := quiet_stop_control.1 hg
    refine ⟨fun _ h => by (cases h), fun _ => rfl, ?_, ?_, hk.calls, hk.queued⟩
    · intro c server json hthread
      have hthread : s.threads c = .in_meta server json := hthread
      have := hthreads c
      rw [hthread] at this
      cases this
    · intro hexits job hjob
      have hmem : job ∈ s.jobs := hjob
      rcases hjobs with hexiting | hjobs
      · rw [hmain] at hexiting
        cases next with
        | exit => exact absurd trivial hexits
        | start revert => cases hexiting
      · rw [hjobs] at hmem
        cases hmem
  | @stop_rtsp next main hmain hto =>
    have hnone : s.control_ = none := hk.stopped (by rw [hmain]; trivial)
    refine ⟨hk.ptr, fun _ => hnone, fun _ _ _ h => by (cases h), ?_, hk.calls, hk.queued⟩
    intro hexits
    apply hk.jobs
    rw [hmain]
    rcases hto with ⟨rfl, rfl⟩ | ⟨revert, rfl, rfl⟩
    · exact absurd trivial hexits
    · exact id
  | restarted hmain hstart hto =>
    refine hk.started ?_ ?_ hstart ?_
    · rw [hmain]
      trivial
    · rw [hmain]
      exact id
    · intro hstopped
      rcases hto with rfl | rfl | rfl <;> exact hstopped.elim
  | quit hmain => exact ⟨hk.ptr, fun h => h.elim, hk.in_meta, fun h => absurd trivial h, hk.calls, hk.queued⟩
  | detection _ hthread =>
    refine ⟨hk.ptr, hk.stopped, update_in_meta hk.in_meta ?_, hk.jobs, hk.calls, hk.queued⟩
    rintro server json rfl
    cases hthread
  | no_server => exact hk
  | @on_meta c json server hptr =>
    refine ⟨hk.ptr, hk.stopped, update_in_meta hk.in_meta ?_, hk.jobs, hk.calls, hk.queued⟩
    rintro server' json' ⟨⟩
    rcases quiet_on_meta.1 hg with hnone | ⟨live, hlive⟩
    · rw [hptr] at hnone
      cases hnone
    · rw [hlive, ← hptr]
      exact (hk.ptr live hlive).symm
  | queue hthread =>
    have hserver := hk.in_meta _ _ _ hthread
    refine ⟨hk.ptr, hk.stopped, update_in_meta hk.in_meta fun _ _ => nofun, ?_, hk.calls, ?_⟩
    · intro hexits
      exact List.forall_mem_append.2 ⟨hk.jobs hexits, List.forall_mem_singleton.2 hserver⟩
    · intro hmem
      rcases List.mem_append.1 hmem with hmem | hmem
      · exact hk.queued hmem
      · have := (List.mem_singleton.1 hmem).trans hserver
        cases this
  | direct hthread =>
    have hserver := hk.in_meta _ _ _ hthread
    refine ⟨hk.ptr, hk.stopped, update_in_meta hk.in_meta fun _ _ => nofun, hk.jobs, ?_, hk.queued⟩
    exact List.forall_mem_append.2 ⟨hk.calls, List.forall_mem_singleton.2 hserver⟩
  | @run_job job jobs hmain hjobs =>
    have hexits : ¬ s.main.exits := by
      rw [hmain]
      exact id
    refine ⟨hk.ptr, hk.stopped, hk.in_meta, ?_, ?_, hk.queued⟩
    · intro _ job' hjob'
      apply hk.jobs hexits
      rw [hjobs]
      exact List.mem_cons_of_mem _ hjob'
    · have htarget := hk.jobs hexits job (by rw [hjobs]; exact List.mem_cons_self)
      exact List.forall_mem_append.2 ⟨hk.calls, List.forall_mem_singleton.2 htarget⟩

/-! ## What any other step leads to -/

/-- What is under way is for a server that has been constructed. -/
structure Old (s : Application D) : Prop where
  ptr : ∀ server, s.control_ptr_ = some server → server < s.constructed
  in_meta : ∀ c server json, s.threads c = .in_meta server json → server < s.constructed
  jobs : ∀ job ∈ s.jobs, job.target < s.constructed

theorem Old.new [Doubles D] : Old (new : Application D) where
  ptr _ h := by cases h
  in_meta _ _ _ h := by cases h
  jobs _ h := by cases h

theorem Old.started {s t : Application D} {rtsp_ok control_ok ok in_loop : Bool} {config : Config D} {main : Main D}
    (ho : Old s) (hstart : s.start_servers rtsp_ok control_ok = (ok, t)) :
    Old { t with config_ := config, in_loop := in_loop, main := main } := by
  obtain ⟨ok', control, control_ptr, constructed, rtsp, he, hcontrol⟩ := start_servers_eq s rtsp_ok control_ok
  obtain ⟨rfl, rfl⟩ := Prod.mk.inj (hstart.symm.trans he)
  rcases hcontrol with ⟨-, rfl, rfl⟩ | ⟨-, rfl, rfl⟩
  · exact { ho with }
  · refine ⟨?_, fun c server json h => ?_, fun job h => ?_⟩
    · rintro server ⟨⟩
      exact Nat.lt_succ_self _
    · exact Nat.lt_succ_of_lt (ho.in_meta c server json h)
    · exact Nat.lt_succ_of_lt (ho.jobs job h)

theorem Old.step [Doubles D] {s s' : Application D} {a : Act D} (ho : Old s) (h : s.step a = some s') : Old s' := by
  cases step_did h with
  | @started _ _ _ config _ _ _ _ _ hstart _ =>
    have ho' : Old { s with config_ := config } := { ho with }
    exact ho'.started hstart
  | reload => exact { ho with }
  | stop_control => exact { ho with }
  | stop_rtsp => exact ⟨ho.ptr, fun _ _ _ h => by (cases h), ho.jobs⟩
  | restarted _ hstart _ => exact ho.started hstart
  | quit => exact { ho with }
  | detection _ hthread =>
    refine ⟨ho.ptr, update_in_meta ho.in_meta ?_, ho.jobs⟩
    rintro server json rfl
    cases hthread
  | no_server => exact ho
  | on_meta hptr =>
    refine ⟨ho.ptr, update_in_meta ho.in_meta ?_, ho.jobs⟩
    rintro server json ⟨⟩
    exact ho.ptr _ hptr
  | queue hthread =>
    refine ⟨ho.ptr, update_in_meta ho.in_meta fun _ _ => nofun, ?_⟩
    exact List.forall_mem_append.2 ⟨ho.jobs, List.forall_mem_singleton.2 (ho.in_meta _ _ _ hthread)⟩
  | direct => exact ⟨ho.ptr, update_in_meta ho.in_meta fun _ _ => nofun, ho.jobs⟩
  | run_job _ hjobs =>
    refine ⟨ho.ptr, ho.in_meta, fun job hjob => ho.jobs job ?_⟩
    rw [hjobs]
    exact List.mem_cons_of_mem _ hjob

/-- A thread in `on_meta` where there is no server queues a job there. -/
theorem invoke_unsound [Doubles D] {s : Application D} {c : Fin kNumCameras} {server : Nat} {json : String}
    (hthread : s.threads c = .in_meta server json) (hnone : s.control_ = none) :
    ∃ t, s.step (.invoke c false) = some t ∧ ¬ t.Sound := by
  refine ⟨_, by simp only [Application.step, hthread, Bool.not_false, Bool.or_true, if_true]; rfl, ?_⟩
  intro hsound
  exact hsound.queued (by simp [hnone])

/-- A job that is queued across a reload is run on a server that is gone. -/
theorem reload_unsound [Doubles D] {s : Application D} {revert : Option (Config D)} (ho : Old s)
    (hmain : s.main = .stop_rtsp (.start revert)) (hnone : s.control_ = none)
    (hthreads : ∀ c, (s.threads c).in_on_meta = false) {job : Job} {jobs : List Job} (hjobs : s.jobs = job :: jobs) :
    ∃ t, Run step s [.stop_rtsp, .start_servers true true, .run_job] t ∧ ¬ t.Sound := by
  let stopped : Application D := { s with rtsp_ := false, threads := fun _ => .off, main := .start revert }
  have hstop : s.step .stop_rtsp = some stopped := by
    simp only [Application.step, hmain, hthreads, implies_true, if_true]
    rfl
  obtain ⟨ok, control, control_ptr, constructed, rtsp, he, hcontrol⟩ := start_servers_eq stopped true true
  have hok : ok = true := by
    have := start_servers_ok stopped
    rw [he] at this
    exact this
  subst hok
  have hstart : stopped.step (.start_servers true true) =
      some (reloaded revert (stopped.start_servers true true)) := rfl
  rw [he] at hstart
  have hrun : step (reloaded revert (true, { stopped with
      control_ := control, control_ptr_ := control_ptr, constructed := constructed, rtsp_ := rtsp })) .run_job =
      some { stopped with
        control_ := control
        control_ptr_ := control_ptr
        constructed := constructed
        rtsp_ := rtsp
        main := .idle
        jobs := jobs
        calls := s.calls ++ [(job.target, control)] } := by
    simp only [reloaded, Application.step, stopped, hjobs]
  refine ⟨_, ((Run.snoc .nil hstop).snoc hstart).snoc hrun, ?_⟩
  · intro hsound
    have hcall : control = some job.target := hsound.calls (job.target, control) (by simp)
    have htarget := ho.jobs job (by rw [hjobs]; exact List.mem_cons_self)
    rcases hcontrol with ⟨rfl, -, -⟩ | ⟨rfl | ⟨-, rfl⟩, -, -⟩
    · rw [show stopped.control_ = none from hnone] at hcall
      cases hcall
    · cases hcall
    · have : s.constructed = job.target := Option.some.inj hcall
      omega

/-- After any step that is not quiet the run can go on to break the law. -/
theorem unquiet_unsound [Doubles D] {s s' : Application D} {a : Act D} (ho : Old s) (h : s.step a = some s')
    (hq : ¬ s.quiet a = true) : ∃ bs t, Run step s (a :: bs) t ∧ ¬ t.Sound := by
  cases step_did h with
  | @stop_control next hmain =>
    by_cases hthreads : ∀ c, (s.threads c).in_on_meta = false
    · have hnext : next ≠ .exit := by
        rintro rfl
        exact hq (quiet_stop_control.2 ⟨hthreads, .inl (by rw [hmain]; rfl)⟩)
      have hjobs : s.jobs ≠ [] := fun he => hq (quiet_stop_control.2 ⟨hthreads, .inr he⟩)
      obtain ⟨job, jobs, hjobs⟩ := List.exists_cons_of_ne_nil hjobs
      cases next with
      | exit => exact absurd rfl hnext
      | start revert =>
        obtain ⟨t, ht, hbad⟩ := reload_unsound (ho.step h) rfl rfl hthreads hjobs
        exact ⟨_, t, (Run.snoc .nil h).trans ht, hbad⟩
    · obtain ⟨c, hc⟩ := not_forall.1 hthreads
      cases hthread : s.threads c with
      | in_meta server json =>
        obtain ⟨t, ht, hbad⟩ := invoke_unsound (s := { s with control_ := none, main := .stop_rtsp next }) hthread rfl
        exact ⟨_, t, (Run.snoc .nil h).snoc ht, hbad⟩
      | off =>
        rw [hthread] at hc
        exact absurd rfl hc
      | detecting =>
        rw [hthread] at hc
        exact absurd rfl hc
  | no_server hptr => exact absurd (quiet_on_meta.2 (.inl hptr)) hq
  | @on_meta c json server hptr =>
    have hnone : s.control_ = none := by
      by_contra hsome
      exact hq (quiet_on_meta.2 (.inr (Option.ne_none_iff_exists'.1 hsome)))
    have hthread : Function.update s.threads c (.in_meta server json) c = .in_meta server json :=
      Function.update_self ..
    obtain ⟨t, ht, hbad⟩ := invoke_unsound
      (s := { s with threads := Function.update s.threads c (.in_meta server json) }) hthread hnone
    exact ⟨_, t, (Run.snoc .nil h).snoc ht, hbad⟩
  | detection ha =>
    rcases ha with rfl | rfl
    · exact absurd rfl hq
    · exact absurd rfl hq
  | _ => exact absurd rfl hq

/-- In a run that never destroys a control server under a broadcast, nor reads of one
that is gone, every broadcast is called on the live control server and none is
queued without one; after any step of another kind it can go wrong. -/
theorem broadcasts_live [Doubles D] (as : List (Act D)) (t : Application D) (h : Run step new as t) :
    (Meets step (fun s a => s.quiet a = true) new as →
        ∀ pre post s, as = pre ++ post → Run step new pre s → s.Sound) ∧
      ∀ pre a post s, as = pre ++ a :: post → Run step new pre s → ¬ s.quiet a = true →
        ∃ bs u, Run step new (pre ++ a :: bs) u ∧ ¬ u.Sound := by
  constructor
  · intro hm pre post s he hs
    subst he
    exact (hs.inv_meets Kept Kept.new (fun _ _ _ hk hg ha => hk.step hg ha) hm.left).sound
  · intro pre a post s he hs hq
    subst he
    have ho : Old s := hs.inv Old Old.new fun _ _ _ ho ha => ho.step ha
    obtain ⟨s', ha⟩ := h.next hs
    obtain ⟨bs, u, hu, hbad⟩ := unquiet_unsound ho ha hq
    exact ⟨bs, u, hs.trans hu, hbad⟩

/-- A file that serves over the network. -/
def networked : KeyFile Rat where
  integer _ _ := none
  boolean _ _ := none
  double _ _ := none
  string group key := if group = "server" ∧ key = "transports" then some "network" else none
  keys _ := []

/-- A detection, its broadcast, and a reload after that. -/
def reloaded_after (c : Fin kNumCameras) : List (Act Rat) :=
  [.start (some networked) true true, .configure c, .on_meta c "[]", .invoke c false, .run_job, .reload (some networked),
    .stop_control, .stop_rtsp, .start_servers true true, .configure c, .on_meta c "[]", .invoke c false, .run_job]

theorem broadcasts_live_reloaded : ∃ t, Run step new (reloaded_after 0) t ∧ t.calls = [(0, some 0), (1, some 1)] ∧
    ∀ pre post s, reloaded_after 0 = pre ++ post → Run step new pre s → s.Sound := by
  obtain ⟨t, ht, hcalls⟩ : ∃ t, exec step new (reloaded_after 0) = some t ∧ t.calls = [(0, some 0), (1, some 1)] :=
    ⟨_, rfl, rfl⟩
  have hrun := run_of_exec ht
  exact ⟨t, hrun, hcalls, (broadcasts_live (reloaded_after 0) t hrun).1 (meets_of_checks (by decide +kernel))⟩

/-- A detection, and a reload before its broadcast is run. -/
def reloaded_before (c : Fin kNumCameras) : List (Act Rat) :=
  [.start (some networked) true true, .configure c, .on_meta c "[]", .invoke c false, .reload (some networked),
    .stop_control, .stop_rtsp, .start_servers true true, .run_job]

/-- The broadcast is called on the server that the reload has destroyed. -/
theorem broadcast_destroyed : ¬ ∀ (as : List (Act Rat)) t, Run step new as t → t.Sound := by
  intro hall
  obtain ⟨t, ht, hcalls⟩ : ∃ t, exec step new (reloaded_before 0) = some t ∧ t.calls = [(0, some 1)] := ⟨_, rfl, rfl⟩
  have hsound := (hall (reloaded_before 0) t (run_of_exec ht)).calls (0, some 1) (by
    rw [hcalls]
    exact List.mem_singleton_self _)
  cases hsound

end Application

end CameraStreamer.Broadcasts
