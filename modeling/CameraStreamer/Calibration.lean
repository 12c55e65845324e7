import CameraStreamer.Lib.Runs
import CameraStreamer.WhiteBalance
/-!
# Calibration runs

`WhiteBalanceCalibrator` measures, asks for a tuning, and goes on in the reply and in
two timers, one chained to the other. Each of these looks at `m_running` alone, which
is true again when another run has begun since.
-/

namespace CameraStreamer.Calibration
open Runs QtJson WhiteBalance

variable {D : Type}

/-- What `finish` reports. -/
inductive Message (D : Type) where
  | aborted
  | no_video_frame
  | failed (why : String)
  | already_neutral
  | calibrated (rg bg : D)
  | no_set_tuning
  /-- The device answers `kUnknownMethod`. -/
  | unsupported
  | set_tuning (message : String)

/-- What a run does, or what is done in its name. -/
inductive Effect (D : Type) where
  | step
  | request (trims : D × D)
  | trims (trims : D × D)
  | restart_panes
  | finished (message : Message D)

def Effect.is_request : Effect D → Bool
  | .request _ => true
  | _ => false

def Effect.is_finished : Effect D → Bool
  | .finished _ => true
  | _ => false

/-- An effect, the run that caused it, and the run it happened in. -/
structure Entry (D : Type) where
  effect : Effect D
  cause : Nat
  current : Nat

/-- Runs go by their number. -/
structure Calibrator (D : Type) where
  m_lastTuning : Json.Members D := []
  m_running : Bool := false
  m_pass : Nat := 0
  run : Nat := 0
  /-- Requests not answered yet, each with the run of the `step` that sent it. -/
  requests : List (Nat × (D × D)) := []
  /-- The timers of `kRestartWaitMs`, by the run that started them, and those of `kSettleWaitMs`. -/
  restarts : List Nat := []
  settles : List Nat := []
  log : List (Entry D) := []

/-- What `step` finds: the frame that cam0 shows, and whether the device is connected. -/
structure Grab where
  image : Option QImage
  connected : Bool

inductive Reply where
  | ok
  | error (unsupported : Bool) (message : String)

inductive Act (D : Type) where
  | start (grab : Grab)
  | abort
  /-- From a status reply. -/
  | setTuning (tuning : Json.Members D)
  | reply (i : Nat) (r : Reply)
  | restart (i : Nat)
  | settle (i : Nat) (grab : Grab)

section Tolerance
variable [Doubles D]

def kWbTolerance : D := Doubles.div (Doubles.ofInt 15) (Doubles.ofInt 1000)

def qAbs (d : D) : D := if Doubles.le (Doubles.ofInt 0) d then d else Doubles.sub (Doubles.ofInt 0) d

/-- A gain that asks for no correction. -/
def near_one (need : D) : Bool := Doubles.le (qAbs (Doubles.sub need (Doubles.ofInt 1))) kWbTolerance

end Tolerance

namespace Calibrator

def logged (s : Calibrator D) (cause : Nat) (effect : Effect D) : Calibrator D :=
  { s with log := s.log ++ [⟨effect, cause, s.run⟩] }

def finish (s : Calibrator D) (cause : Nat) (message : Message D) : Calibrator D :=
  { s.logged cause (.finished message) with m_running := false }

section Code
variable [Doubles D] [QtJson D]

/-- What the reply to a request does. -/
def replied (s : Calibrator D) (cause : Nat) (trims : D × D) (r : Reply) : Calibrator D :=
  if s.m_running then
    match r with
    | .ok => { s.logged cause (.trims trims) with
        m_lastTuning := remember s.m_lastTuning trims
        restarts := s.restarts ++ [cause] }
    | .error true _ => s.finish cause .unsupported
    | .error false message => s.finish cause (.set_tuning message)
  else s

/-- `sendRequest`, which answers at once where there is no connection. -/
def sendRequest (s : Calibrator D) (cause : Nat) (trims : D × D) (connected : Bool) : Calibrator D :=
  let s := s.logged cause (.request trims)
  if connected then { s with requests := s.requests ++ [(cause, trims)] }
  else s.replied cause trims (.error false "not connected")

def step (s : Calibrator D) (cause : Nat) (grab : Grab) : Calibrator D :=
  if s.m_running then
    let s := s.logged cause .step
    match grab.image with
    | none => s.finish cause .no_video_frame
    | some image => match image.measureWhiteBalance (D := D) with
      | .error why => s.finish cause (.failed why)
      | .ok (needR, needB) =>
        let neutral := near_one needR && near_one needB
        if neutral || decide (kMaxCalibrationPasses < s.m_pass) then
          s.finish cause (if neutral && s.m_pass == 1 then .already_neutral
            else .calibrated (Doubles.div (Doubles.ofInt 1) needR) (Doubles.div (Doubles.ofInt 1) needB))
        else if s.m_lastTuning.isEmpty then s.finish cause .no_set_tuning
        else s.sendRequest cause (newTrims s.m_lastTuning (needR, needB)) grab.connected
  else s

/-- What `start` sets before its `step`. -/
def begun (s : Calibrator D) : Calibrator D := { s with m_running := true, m_pass := 1, run := s.run + 1 }

/-- The first timer. -/
def restarted (s : Calibrator D) (cause : Nat) : Calibrator D :=
  if s.m_running then { s.logged cause .restart_panes with settles := s.settles ++ [cause] } else s

def passed (s : Calibrator D) : Calibrator D := { s with m_pass := s.m_pass + 1 }

/-- The second timer. -/
def settled (s : Calibrator D) (cause : Nat) (grab : Grab) : Calibrator D :=
  if s.m_running then s.passed.step cause grab else s

/-- What happens, in any order; `none` where there is no such request or timer. -/
def on (s : Calibrator D) : Act D → Option (Calibrator D)
  | .start grab => some (if s.m_running then s else s.begun.step s.begun.run grab)
  | .abort => some (if s.m_running then s.finish s.run .aborted else s)
  | .setTuning tuning => some { s with m_lastTuning := tuning }
  | .reply i r => s.requests[i]?.map fun request =>
      { s with requests := s.requests.eraseIdx i }.replied request.1 request.2 r
  | .restart i => s.restarts[i]?.map { s with restarts := s.restarts.eraseIdx i }.restarted
  | .settle i grab => s.settles[i]?.map ({ s with settles := s.settles.eraseIdx i }.settled · grab)

end Code

/-- The requests sent in a run, and the times it finished. -/
def sent (s : Calibrator D) (run : Nat) : Nat := s.log.countP fun e => e.effect.is_request && e.current == run

def finishes (s : Calibrator D) (run : Nat) : Nat := s.log.countP fun e => e.effect.is_finished && e.current == run

/-- Whatever happens in a run is caused by it, it sends no more requests than it has
passes, and finishes once at most. -/
structure Sound (s : Calibrator D) : Prop where
  own : ∀ e ∈ s.log, e.cause = e.current
  requests : ∀ run, s.sent run ≤ kMaxCalibrationPasses
  finishes : ∀ run, s.finishes run ≤ 1

/-- What comes of a request or a timer comes while its own run is current, or none. -/
def current (s : Calibrator D) (cause : Nat) : Bool := !s.m_running || cause == s.run

def own (s : Calibrator D) : Act D → Bool
  | .reply i _ => s.requests[i]?.all fun request => s.current request.1
  | .restart i => s.restarts[i]?.all s.current
  | .settle i _ => s.settles[i]?.all s.current
  | _ => true

/-! ## What is added to the log -/

/-- `s'` comes from `s` by something that `cause` did. -/
structure Adds (cause : Nat) (s s' : Calibrator D) : Prop where
  run : s'.run = s.run
  added : ∃ es, es ≠ [] ∧ s'.log = s.log ++ es ∧ ∀ e ∈ es, e.cause = cause ∧ e.current = s.run

variable {s s' s'' : Calibrator D} {cause : Nat}

theorem Adds.logged (s : Calibrator D) (cause : Nat) (effect : Effect D) : Adds cause s (s.logged cause effect) :=
  ⟨rfl, _, List.cons_ne_nil _ _, rfl, fun e he => by rw [List.mem_singleton.1 he]; exact ⟨rfl, rfl⟩⟩

theorem Adds.trans (h : Adds cause s s') (h' : Adds cause s' s'') : Adds cause s s'' := by
  obtain ⟨es, hne, hlog, hes⟩ := h.added
  obtain ⟨es', -, hlog', hes'⟩ := h'.added
  refine ⟨h'.run.trans h.run, es ++ es', by simp [hne], by rw [hlog', hlog, List.append_assoc], fun e he => ?_⟩
  rcases List.mem_append.1 he with he | he
  · exact hes e he
  · rw [← h.run]
    exact hes' e he

/-- Everything is caused by the run it happens in just when this is. -/
theorem Adds.own_iff (h : Adds cause s s') (hs : ∀ e ∈ s.log, e.cause = e.current) :
    (∀ e ∈ s'.log, e.cause = e.current) ↔ cause = s.run := by
  obtain ⟨es, hne, hlog, hes⟩ := h.added
  rw [hlog]
  constructor
  · intro hall
    obtain ⟨e, he⟩ := List.exists_mem_of_ne_nil es hne
    rw [← (hes e he).1, ← (hes e he).2]
    exact hall e (List.mem_append_right _ he)
  · rintro rfl e he
    rcases List.mem_append.1 he with he | he
    · exact hs e he
    · rw [(hes e he).1, (hes e he).2]

theorem finish_adds (s : Calibrator D) (cause : Nat) (message : Message D) : Adds cause s (s.finish cause message) :=
  ⟨rfl, (Adds.logged s cause (.finished message)).added⟩

theorem replied_adds [QtJson D] (h : s.m_running = true) (trims : D × D) (r : Reply) :
    Adds cause s (s.replied cause trims r) := by
  unfold replied
  rw [if_pos h]
  split
  · exact ⟨rfl, (Adds.logged s cause (.trims trims)).added⟩
  · exact finish_adds s cause _
  · exact finish_adds s cause _

theorem restarted_adds (h : s.m_running = true) : Adds cause s (s.restarted cause) := by
  unfold restarted
  rw [if_pos h]
  exact ⟨rfl, (Adds.logged s cause .restart_panes).added⟩

theorem sendRequest_adds [QtJson D] (h : s.m_running = true) (trims : D × D) (connected : Bool) :
    Adds cause s (s.sendRequest cause trims connected) := by
  unfold sendRequest
  have hlogged := Adds.logged s cause (.request trims)
  dsimp only
  split
  · exact ⟨rfl, hlogged.added⟩
  · refine hlogged.trans (replied_adds ?_ trims _)
    exact h

section Steps
variable [Doubles D] [QtJson D]

theorem step_adds (h : s.m_running = true) (grab : Grab) : Adds cause s (s.step cause grab) := by
  unfold step
  rw [if_pos h]
  have hlogged := Adds.logged s cause .step
  dsimp only
  split
  · exact hlogged.trans (finish_adds _ cause _)
  · split
    · exact hlogged.trans (finish_adds _ cause _)
    · split
      · exact hlogged.trans (finish_adds _ cause _)
      · split
        · exact hlogged.trans (finish_adds _ cause _)
        · refine hlogged.trans (sendRequest_adds ?_ _ _)
          exact h

theorem settled_adds (h : s.m_running = true) (grab : Grab) : Adds cause s (s.settled cause grab) := by
  have hstep : Adds cause s.passed (s.passed.step cause grab) :=
    step_adds (show s.passed.m_running = true from h) grab
  unfold settled
  rw [if_pos h]
  exact ⟨hstep.run, hstep.added⟩

end Steps

/-! ## Requests and finishes -/

/-- A run that goes on has sent no more requests than passes, and not finished; none has
finished twice. -/
structure Counted (s : Calibrator D) : Prop where
  sent_le : ∀ run, s.sent run ≤ kMaxCalibrationPasses
  sent_later : ∀ run, s.run < run → s.sent run = 0
  sent_pass : s.m_running = true → s.sent s.run ≤ s.m_pass
  finishes_le : ∀ run, s.finishes run ≤ 1
  finishes_later : ∀ run, s.run < run → s.finishes run = 0
  finishes_running : s.m_running = true → s.finishes s.run = 0

theorem Counted.congr (h : s.Counted) (hlog : s'.log = s.log) (hrun : s'.run = s.run) (hpass : s'.m_pass = s.m_pass)
    (hrunning : s'.m_running = s.m_running) : s'.Counted := by
  have hsent : s'.sent = s.sent := by unfold sent; rw [hlog]
  have hfin : s'.finishes = s.finishes := by unfold finishes; rw [hlog]
  constructor
  · rw [hsent]
    exact h.sent_le
  · rw [hsent, hrun]
    exact h.sent_later
  · rw [hsent, hrun, hpass, hrunning]
    exact h.sent_pass
  · rw [hfin]
    exact h.finishes_le
  · rw [hfin, hrun]
    exact h.finishes_later
  · rw [hfin, hrun, hrunning]
    exact h.finishes_running

theorem logged_sent (s : Calibrator D) (cause : Nat) (effect : Effect D) (run : Nat) :
    (s.logged cause effect).sent run = s.sent run + if effect.is_request && s.run == run then 1 else 0 := by
  unfold sent logged
  rw [List.countP_append, List.countP_singleton]

theorem logged_finishes (s : Calibrator D) (cause : Nat) (effect : Effect D) (run : Nat) :
    (s.logged cause effect).finishes run = s.finishes run + if effect.is_finished && s.run == run then 1 else 0 := by
  unfold finishes logged
  rw [List.countP_append, List.countP_singleton]

theorem Counted.logged (h : s.Counted) (effect : Effect D) (hr : effect.is_request = false)
    (hf : effect.is_finished = false) (cause : Nat) : (s.logged cause effect).Counted := by
  have hsent : (s.logged cause effect).sent = s.sent := funext fun run => by rw [logged_sent, hr]; rfl
  have hfin : (s.logged cause effect).finishes = s.finishes := funext fun run => by rw [logged_finishes, hf]; rfl
  constructor
  · rw [hsent]
    exact h.sent_le
  · rw [hsent]
    exact h.sent_later
  · rw [hsent]
    exact h.sent_pass
  · rw [hfin]
    exact h.finishes_le
  · rw [hfin]
    exact h.finishes_later
  · rw [hfin]
    exact h.finishes_running

theorem Counted.finish (h : s.Counted) (hrunning : s.m_running = true) (cause : Nat) (message : Message D) :
    (s.finish cause message).Counted := by
  have hsent : (s.finish cause message).sent = s.sent := funext fun run => logged_sent s cause (.finished message) run
  have hfin : ∀ run, (s.finish cause message).finishes run = s.finishes run + if s.run == run then 1 else 0 :=
    fun run => logged_finishes s cause (.finished message) run
  have hnone := h.finishes_running hrunning
  refine ⟨by rw [hsent]; exact h.sent_le, by rw [hsent]; exact h.sent_later, fun hr => ?_, fun run => ?_,
    fun run hrun => ?_, fun hr => ?_⟩
  · exact absurd hr (by simp [Calibrator.finish])
  · rw [hfin]
    have := h.finishes_le run
    by_cases he : s.run = run
    · subst he
      simp [hnone]
    · simpa [he] using this
  · rw [hfin, h.finishes_later run hrun]
    simp [(show s.run < run from hrun).ne]
  · exact absurd hr (by simp [Calibrator.finish])

theorem Counted.replied [QtJson D] (h : s.Counted) (cause : Nat) (trims : D × D) (r : Reply) :
    (s.replied cause trims r).Counted := by
  unfold Calibrator.replied
  split
  · rename_i hrunning
    split
    · exact (h.logged (.trims trims) rfl rfl cause).congr rfl rfl rfl rfl
    · exact h.finish hrunning cause _
    · exact h.finish hrunning cause _
  · exact h

theorem Counted.sendRequest [QtJson D] (h : s.Counted) (hpass : s.sent s.run < s.m_pass)
    (hmax : s.m_pass ≤ kMaxCalibrationPasses) (cause : Nat) (trims : D × D) (connected : Bool) :
    (s.sendRequest cause trims connected).Counted := by
  have hsent : ∀ run, (s.logged cause (.request trims)).sent run = s.sent run + if s.run == run then 1 else 0 :=
    logged_sent s cause (.request trims)
  have hfin : (s.logged cause (.request trims)).finishes = s.finishes :=
    funext fun run => logged_finishes s cause (.request trims) run
  have hlogged : (s.logged cause (.request trims)).Counted := by
    refine ⟨fun run => ?_, fun run hrun => ?_, fun _ => ?_, by rw [hfin]; exact h.finishes_le,
      by rw [hfin]; exact h.finishes_later, by rw [hfin]; exact h.finishes_running⟩
    · rw [hsent]
      have := h.sent_le run
      by_cases he : s.run = run
      · subst he
        simp only [BEq.rfl, if_true]
        omega
      · simpa [he] using this
    · rw [hsent, h.sent_later run hrun]
      simp [(show s.run < run from hrun).ne]
    · rw [hsent]
      show s.sent s.run + (if s.run == s.run then 1 else 0) ≤ s.m_pass
      simp only [BEq.rfl, if_true]
      omega
  unfold Calibrator.sendRequest
  dsimp only
  split
  · exact hlogged.congr rfl rfl rfl rfl
  · exact hlogged.replied cause trims _

theorem Counted.restarted (h : s.Counted) (cause : Nat) : (s.restarted cause).Counted := by
  unfold Calibrator.restarted
  split
  · exact (h.logged .restart_panes rfl rfl cause).congr rfl rfl rfl rfl
  · exact h

theorem Counted.begun (h : s.Counted) : s.begun.Counted := by
  have hnew : s.sent (s.run + 1) = 0 := h.sent_later _ (Nat.lt_succ_self _)
  refine ⟨h.sent_le, fun run hrun => ?_, fun _ => ?_, h.finishes_le, fun run hrun => ?_, fun _ => ?_⟩
  · exact h.sent_later run (Nat.lt_of_succ_lt hrun)
  · exact hnew.trans_le (Nat.zero_le _)
  · exact h.finishes_later run (Nat.lt_of_succ_lt hrun)
  · exact h.finishes_later _ (Nat.lt_succ_self _)

theorem Counted.passed (h : s.Counted) : s.passed.Counted :=
  ⟨h.sent_le, h.sent_later, fun hrunning => Nat.le_succ_of_le (h.sent_pass hrunning), h.finishes_le, h.finishes_later,
    h.finishes_running⟩

section Steps
variable [Doubles D] [QtJson D]

/-- A step may send one request more. -/
theorem Counted.step (h : s.Counted) (hpass : s.m_running = true → s.sent s.run < s.m_pass) (cause : Nat)
    (grab : Grab) : (s.step cause grab).Counted := by
  unfold Calibrator.step
  split
  · rename_i hrunning
    have hlogged := h.logged .step rfl rfl cause
    dsimp only
    split
    · exact hlogged.finish hrunning cause _
    · split
      · exact hlogged.finish hrunning cause _
      · split
        · exact hlogged.finish hrunning cause _
        · rename_i hmore
          split
          · exact hlogged.finish hrunning cause _
          · refine hlogged.sendRequest ?_ ?_ cause _ _
            · have hsame : (s.logged cause .step).sent s.run = s.sent s.run := logged_sent s cause .step s.run
              show (s.logged cause .step).sent s.run < s.m_pass
              rw [hsame]
              exact hpass hrunning
            · simp only [Bool.or_eq_true, decide_eq_true_eq, not_or, not_lt] at hmore
              exact hmore.2
  · exact h

theorem Counted.settled (h : s.Counted) (cause : Nat) (grab : Grab) : (s.settled cause grab).Counted := by
  unfold Calibrator.settled
  split
  · rename_i hrunning
    exact h.passed.step (fun _ => Nat.lt_succ_of_le (h.sent_pass hrunning)) cause grab
  · exact h

theorem on_counted {a : Act D} (h : s.Counted) (ha : s.on a = some s') : s'.Counted := by
  cases a with
  | start grab =>
    cases ha
    split
    · exact h
    · have hnew : s.begun.sent s.begun.run = 0 := h.sent_later _ (Nat.lt_succ_self _)
      exact h.begun.step (fun _ => hnew.trans_lt Nat.zero_lt_one) _ grab
  | abort =>
    cases ha
    split
    · rename_i hrunning
      exact h.finish hrunning _ _
    · exact h
  | setTuning tuning =>
    cases ha
    exact h.congr rfl rfl rfl rfl
  | reply i r =>
    obtain ⟨request, -, rfl⟩ := Option.map_eq_some_iff.1 ha
    apply Counted.replied
    exact h.congr rfl rfl rfl rfl
  | restart i =>
    obtain ⟨cause, -, rfl⟩ := Option.map_eq_some_iff.1 ha
    apply Counted.restarted
    exact h.congr rfl rfl rfl rfl
  | settle i grab =>
    obtain ⟨cause, -, rfl⟩ := Option.map_eq_some_iff.1 ha
    apply Counted.settled
    exact h.congr rfl rfl rfl rfl

omit [Doubles D] [QtJson D] in
/-- What comes of a request or a timer is owned just when its run is current, or none is. -/
theorem current_iff {t : Calibrator D} (ht : ∀ e ∈ t.log, e.cause = e.current)
    (hadds : t.m_running = true → Adds cause t s') (hnone : ¬ t.m_running = true → s' = t) :
    (∀ e ∈ s'.log, e.cause = e.current) ↔ t.current cause = true := by
  unfold current
  cases hrunning : t.m_running with
  | false =>
    rw [hnone (by simp [hrunning])]
    exact iff_of_true ht rfl
  | true =>
    rw [(hadds hrunning).own_iff ht]
    simp

theorem on_own_iff {a : Act D} (hs : ∀ e ∈ s.log, e.cause = e.current) (ha : s.on a = some s') :
    (∀ e ∈ s'.log, e.cause = e.current) ↔ s.own a = true := by
  cases a with
  | start grab =>
    refine iff_of_true ?_ rfl
    cases ha
    split
    · exact hs
    · have hadds : Adds s.begun.run s.begun (s.begun.step s.begun.run grab) := step_adds rfl grab
      exact (hadds.own_iff hs).2 rfl
  | abort =>
    refine iff_of_true ?_ rfl
    cases ha
    split
    · exact ((finish_adds s s.run .aborted).own_iff hs).2 rfl
    · exact hs
  | setTuning tuning =>
    cases ha
    exact iff_of_true hs rfl
  | reply i r =>
    obtain ⟨request, hi, rfl⟩ := Option.map_eq_some_iff.1 ha
    rw [own, hi]
    apply current_iff (t := { s with requests := s.requests.eraseIdx i }) hs
    · exact fun hrunning => replied_adds hrunning request.2 r
    · exact fun hno => if_neg hno
  | restart i =>
    obtain ⟨cause, hi, rfl⟩ := Option.map_eq_some_iff.1 ha
    rw [own, hi]
    apply current_iff (t := { s with restarts := s.restarts.eraseIdx i }) hs
    · exact fun hrunning => restarted_adds hrunning
    · exact fun hno => if_neg hno
  | settle i grab =>
    obtain ⟨cause, hi, rfl⟩ := Option.map_eq_some_iff.1 ha
    rw [own, hi]
    apply current_iff (t := { s with settles := s.settles.eraseIdx i }) hs
    · exact fun hrunning => settled_adds hrunning grab
    · exact fun hno => if_neg hno

/-- In a run of the calibrator its calibration runs do not interfere if and only if no
reply and no timer of an earlier one comes while another is going on. -/
theorem runs_apart_iff (as : List (Act D)) (t : Calibrator D) (h : Run on {} as t) :
    (∀ pre post s, as = pre ++ post → Run on {} pre s → s.Sound) ↔ Meets on (fun s a => s.own a = true) {} as := by
  have hsound : ∀ {s : Calibrator D}, s.Counted → (s.Sound ↔ ∀ e ∈ s.log, e.cause = e.current) := fun hc =>
    ⟨fun hs => hs.own, fun ho => ⟨ho, hc.sent_le, hc.finishes_le⟩⟩
  have hnew : Counted ({} : Calibrator D) :=
    ⟨fun _ => Nat.zero_le _, fun _ _ => rfl, fun _ => Nat.zero_le _, fun _ => Nat.zero_le _, fun _ _ => rfl,
      fun _ => rfl⟩
  apply h.always_iff_meets Counted Sound hnew
  · exact (hsound hnew).2 fun e he => by cases he
  · exact fun s a s' hc ha => on_counted hc ha
  · intro s a s' hc hs ha
    rw [hsound (on_counted hc ha)]
    exact on_own_iff hs.own ha

end Steps

/-- A frame that asks for a correction. -/
def reddish : Grab := ⟨some one_pixel, true⟩

def tuned : Json.Members Rat := [("wb_trim_r", .int 1), ("wb_trim_b", .int 1)]

/-- One run, with a correction, of which the second pass finds no frame. -/
def one_run : List (Act Rat) :=
  [.setTuning tuned, .start reddish, .reply 0 .ok, .restart 0, .settle 0 ⟨none, true⟩]

theorem runs_apart_one : ∃ t, Run on {} one_run t ∧ t.finishes 1 = 1 ∧ t.sent 1 = 1 ∧
    ∀ pre post s, one_run = pre ++ post → Run on {} pre s → s.Sound := by
  have hrun : ((exec on {} one_run).map fun t => (t.finishes 1, t.sent 1)) = some (1, 1) := by decide +kernel
  obtain ⟨t, ht, hcounts⟩ := Option.map_eq_some_iff.1 hrun
  obtain ⟨hfinishes, hsent⟩ := Prod.mk.inj hcounts
  refine ⟨t, run_of_exec ht, hfinishes, hsent, ?_⟩
  exact (runs_apart_iff one_run t (run_of_exec ht)).2 (meets_of_checks (by decide +kernel))

/-- A run that is aborted while the device restarts, and another. -/
def stale_timer : List (Act Rat) :=
  [.setTuning tuned, .start reddish, .reply 0 .ok, .abort, .start reddish, .restart 0]

/-- The first one's timer restarts the panes of the second. -/
theorem stale_timer_acts : ¬ ∀ (as : List (Act Rat)) t, Run on {} as t → t.Sound := by
  intro hall
  have hrun : ((exec on {} stale_timer).map fun t => t.log.all fun e => e.cause == e.current) = some false := by
    decide +kernel
  obtain ⟨t, ht, hstale⟩ := Option.map_eq_some_iff.1 hrun
  have hown := (hall stale_timer t (run_of_exec ht)).own
  have hall' : (t.log.all fun e => e.cause == e.current) = true :=
    List.all_eq_true.2 fun e he => by simpa using hown e he
  rw [hall'] at hstale
  cases hstale

end Calibrator

end CameraStreamer.Calibration
