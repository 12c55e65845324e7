import CameraStreamer.UpdateAttempts
/-!
# The published status

What `get_status` publishes is written piece by piece: from progress messages,
from the text of an answer, by `fail` and by `try_begin`. Only the percentage of
an answer is clamped, and the error of a failure is the text of an answer where
swupdate reports one. We say what swupdate has to send for the status to mean
something after every write.
-/

namespace CameraStreamer.Update

open Runs

/-- A percentage, and a text with every failure. -/
structure Meaningful (st : UpdateStatus) : Prop where
  percent : 0 ≤ st.percent ∧ st.percent ≤ 100
  failure : st.state = .Failure → st.error ≠ ""

/-- A status without anything of an earlier attempt. -/
def Fresh (st : UpdateStatus) : Prop := ∃ initial, st = { state := initial }

/-- Everything but the state. -/
def UpdateStatus.details (st : UpdateStatus) : UpdateState × Int32 × Int32 × Int32 × String × String :=
  (st.last_result, st.percent, st.step, st.total_steps, st.current_name, st.error)

theorem meaningful_fresh {initial : UpdateState} (h : initial ≠ .Failure) : Meaningful { state := initial } :=
  ⟨show (0 : Int32) ≤ 0 ∧ (0 : Int32) ≤ 100 by decide, fun hf => absurd hf h⟩

/-! ## Answers -/

/-- An answer that gives a reason. -/
def IpcStatus.explained (status : IpcStatus) : Bool := status.error ≠ 0 && status.desc ≠ ""

theorem parse_percent_range {desc : List Char} {percent : Int32} (h : parse_percent desc = some percent) :
    0 ≤ percent ∧ percent ≤ 100 := by
  unfold parse_percent at h
  split at h
  · dsimp only at h
    split at h
    · cases h
    · rw [← Option.some.inj h]
      generalize Int32.ofInt _ = n
      split
      · decide
      · rename_i hlow
        split
        · decide
        · rename_i hhigh
          exact ⟨Int32.not_lt.1 hlow, Int32.not_lt.1 hhigh⟩
  · cases h

theorem with_desc_percent (desc : String) {out : UpdateStatus} (h : 0 ≤ out.percent ∧ out.percent ≤ 100) :
    0 ≤ (with_desc desc out).percent ∧ (with_desc desc out).percent ≤ 100 := by
  unfold with_desc
  split
  · exact h
  · dsimp only
    cases hp : parse_percent desc.toList with
    | none => exact h
    | some percent => exact parse_percent_range hp

theorem with_desc_error (desc : String) (out : UpdateStatus) : (with_desc desc out).error = out.error := by
  unfold with_desc
  split <;> rfl

theorem poll_status_percent {r : StatusReply} {a : UpdateStatus} (h : poll_status r = .ok a) :
    0 ≤ a.percent ∧ a.percent ≤ 100 := by
  cases r with
  | answer status =>
    simp only [poll_status, Except.ok.injEq] at h
    rw [← h]
    have hzero : (0 : Int32) ≤ 0 ∧ (0 : Int32) ≤ 100 := by decide
    split
    · exact with_desc_percent status.desc hzero
    · exact with_desc_percent status.desc hzero
  | _ => cases h

theorem poll_status_error {status : IpcStatus} {a : UpdateStatus} (h : poll_status (.answer status) = .ok a) :
    a.error ≠ "" ↔ status.explained = true := by
  simp only [poll_status, Except.ok.injEq] at h
  rw [← h]
  split
  · rename_i he
    simp [IpcStatus.explained, he]
  · rename_i he
    simp [IpcStatus.explained, with_desc_error, not_not.1 he]

namespace UpdateAttempts

/-! ## Writes -/

/-- A write that leaves a meaningful status. -/
def Write.Sound : Write → Prop
  | .message m => m.cur_percent ≤ 100
  | .answer a => 0 ≤ a.percent ∧ a.percent ≤ 100
  | .start | .success => True
  | .fail error => error ≠ ""

theorem percent_iff (p : UInt32) : 0 ≤ p.toInt32 ∧ p.toInt32 ≤ 100 ↔ p ≤ 100 := by
  have hp := p.toNat_lt
  rw [Int32.le_iff_toInt_le, Int32.le_iff_toInt_le, UInt32.le_iff_toNat_le, ← Int32.toInt_toBitVec p.toInt32,
    UInt32.toBitVec_toInt32, BitVec.toInt_eq_toNat_cond, UInt32.toNat_toBitVec,
    show (0 : Int32).toInt = 0 from rfl, show (100 : Int32).toInt = 100 from rfl,
    show (100 : UInt32).toNat = 100 from rfl]
  split <;> omega

theorem Write.apply_meaningful {w : Write} {st : UpdateStatus} (hm : Meaningful st) (hw : w.Sound) :
    Meaningful (w.apply st) := by
  cases w with
  | message m => exact ⟨(percent_iff m.cur_percent).2 hw, hm.failure⟩
  | answer a => exact ⟨hw, hm.failure⟩
  | start =>
    refine ⟨hm.percent, ?_⟩
    simp only [Write.apply]
    split
    · intro hf
      cases hf
    · exact hm.failure
  | success => exact ⟨hm.percent, fun hf => by cases hf⟩
  | fail error => exact ⟨hm.percent, fun _ => hw⟩

theorem Write.sound_of_apply {w : Write} {st : UpdateStatus} (hm : Meaningful (w.apply st)) : w.Sound := by
  cases w with
  | message m => exact (percent_iff m.cur_percent).1 hm.percent
  | answer a => exact hm.percent
  | start => trivial
  | success => trivial
  | fail error => exact hm.failure rfl

end UpdateAttempts

/-! ## What swupdate has to send -/

/-- A message has a percentage, and an answer that `fail` is called for gives a reason. -/
def Phase.tells : Phase → Observation → Bool
  | .progress _ _, .message m => m.cur_percent ≤ 100
  | .timeout_query _, .status_reply (.answer status) =>
    !(to_state status.current = .Failure ||
      to_state status.current = .Idle && to_state status.last_result = .Failure) || status.explained
  | .closed_query, .status_reply (.answer status) => !(to_state status.last_result = .Failure) || status.explained
  | .fallback i last_logged_state, .status_reply (.answer status) =>
    !(to_state status.current = .Failure || to_state status.current = .Idle &&
        !(i < 5 && last_logged_state = .Idle) && to_state status.last_result = .Failure) || status.explained
  | _, _ => true

namespace UpdateAttempts

/-- A reaction without a write that spoils the status. -/
def Reaction.Sound (r : Reaction) : Prop := ∀ w ∈ r.1, w.Sound

theorem sound_fails {error : String} : (fails error).Sound ↔ error ≠ "" := List.forall_mem_singleton

theorem sound_succeeds : succeeds.Sound := List.forall_mem_singleton.2 trivial

theorem sound_goes_to (phase : Phase) : (goes_to phase).Sound := List.forall_mem_nil _

theorem sound_after {ws : List Write} {r : Reaction} : (after ws r).Sound ↔ (∀ w ∈ ws, w.Sound) ∧ r.Sound :=
  List.forall_mem_append

theorem timed_out_ne : SwupdateClient.timed_out ≠ "" := by decide

theorem sound_progress_top (n : Nat) (saw : Bool) : (progress_top n saw).Sound := by
  unfold progress_top
  split
  · exact sound_goes_to _
  · exact sound_fails.2 timed_out_ne

theorem sound_fallback_top (i : Nat) (last : UpdateState) : (fallback_top i last).Sound := by
  unfold fallback_top
  split
  · exact sound_goes_to _
  · exact sound_fails.2 timed_out_ne

theorem sound_message (saw : Bool) (m : ProgressMsg) : (on_message saw m).Sound ↔ m.cur_percent ≤ 100 := by
  have hone : (∀ w ∈ [Write.message m], w.Sound) ↔ m.cur_percent ≤ 100 := List.forall_mem_singleton
  have htwo : (∀ w ∈ [Write.message m, Write.start], w.Sound) ↔ m.cur_percent ≤ 100 := by simp [Write.Sound]
  unfold on_message
  split
  case h_9 => rw [sound_after, hone, sound_fails]; simp
  all_goals simp only [sound_after, hone, htwo, sound_progress_top, sound_succeeds, and_true]

theorem sound_timeout (n : Nat) (r : StatusReply) :
    (on_timeout_reply n r).Sound ↔ (Phase.timeout_query n).tells (.status_reply r) = true := by
  cases r with
  | answer status =>
    unfold on_timeout_reply
    cases ha : poll_status (.answer status) with
    | error e => cases ha
    | ok a =>
      obtain ⟨hs, hl⟩ := poll_status_states ha
      dsimp only [Phase.tells]
      rw [hs, hl]
      split
      · rename_i hwell
        simp only [sound_succeeds, true_iff]
        rcases hwell with h | h | ⟨h, hr⟩ <;> simp [*]
      split
      · rename_i hfailed
        rw [sound_fails, poll_status_error ha]
        rcases hfailed with h | ⟨h, hr⟩ <;> simp [*]
      · rename_i hother
        simp only [not_or, not_and] at hother
        have hone := Decidable.imp_iff_not_or.1 hother.2
        simp [sound_progress_top, hother.1, hone]
  | _ => exact iff_of_true (sound_progress_top _ _) rfl

theorem sound_closed (r : StatusReply) :
    (on_closed_reply r).Sound ↔ Phase.closed_query.tells (.status_reply r) = true := by
  cases r with
  | answer status =>
    unfold on_closed_reply
    cases ha : poll_status (.answer status) with
    | error e => cases ha
    | ok a =>
      obtain ⟨-, hl⟩ := poll_status_states ha
      dsimp only [Phase.tells]
      rw [hl]
      split
      · rename_i hfailed
        rw [sound_fails, poll_status_error ha]
        simp [hfailed]
      · rename_i hother
        simp [sound_succeeds, hother]
  | _ => exact iff_of_true sound_succeeds rfl

theorem sound_fallback (i : Nat) (last : UpdateState) (r : StatusReply) :
    (on_fallback_reply i last r).Sound ↔ (Phase.fallback i last).tells (.status_reply r) = true := by
  cases r with
  | answer status =>
    unfold on_fallback_reply
    cases ha : poll_status (.answer status) with
    | error e => cases ha
    | ok a =>
      obtain ⟨hs, hl⟩ := poll_status_states ha
      have hanswer : ∀ w ∈ [Write.answer a], w.Sound := List.forall_mem_singleton.2 (poll_status_percent ha)
      dsimp only [Phase.tells]
      rw [hs, hl]
      split
      · rename_i hwell
        refine iff_of_true (sound_after.2 ⟨hanswer, sound_succeeds⟩) ?_
        rcases hwell with h | h <;> simp [h]
      split
      · rename_i hfailed
        rw [sound_after, sound_fails, poll_status_error ha, and_iff_right hanswer]
        simp [hfailed]
      split
      · rename_i hidle
        split
        · rename_i hearly
          exact iff_of_true (sound_after.2 ⟨hanswer, sound_fallback_top _ _⟩) (by simp [hidle, hearly])
        split
        · rename_i hlate hfailed
          rw [sound_after, sound_fails, poll_status_error ha, and_iff_right hanswer]
          have : i < 5 → ¬ last = .Idle := fun h h' => hlate ⟨h, h'⟩
          simp only [hidle, hfailed]
          by_cases hi : i < 5 <;> simp [hi, this]
        · rename_i hresult
          exact iff_of_true (sound_after.2 ⟨hanswer, sound_succeeds⟩) (by simp [hidle, hresult])
      · rename_i hfailed hidle
        refine iff_of_true (sound_after.2 ⟨?_, sound_fallback_top _ _⟩) (by simp [hfailed, hidle])
        split
        · exact List.forall_mem_cons.2 ⟨poll_status_percent ha, List.forall_mem_singleton.2 trivial⟩
        · exact hanswer
  | _ => exact iff_of_true (sound_fallback_top _ _) rfl

theorem append_ne {s t : String} (h : s ≠ "") : s ++ t ≠ "" := by
  intro he
  exact h (String.append_eq_empty_iff.1 he).1

/-- The writes of a reaction leave a meaningful status if and only if the observation tells enough. -/
theorem observe_sound {phase : Phase} {o : Observation} {r : Reaction} (h : observe phase o = some r) :
    r.Sound ↔ phase.tells o = true := by
  unfold observe at h
  split at h
  · cases h
    exact iff_of_true (sound_goes_to _) rfl
  · split at h
    · cases h; exact iff_of_true (sound_fails.2 (append_ne (by decide))) rfl
    · cases h; exact iff_of_true (sound_fails.2 (by decide)) rfl
    · cases h; exact iff_of_true (sound_fails.2 (append_ne (by decide))) rfl
    · cases h; exact iff_of_true (sound_goes_to _) rfl
  · split at h
    · cases h; exact iff_of_true sound_succeeds rfl
    · cases h; exact iff_of_true (sound_fails.2 (append_ne (by decide))) rfl
  · split at h
    · cases h; exact iff_of_true (sound_goes_to _) rfl
    · cases h; exact iff_of_true (sound_fails.2 (by decide)) rfl
  · split at h
    · cases h; exact iff_of_true (sound_goes_to _) rfl
    · cases h; exact iff_of_true (sound_fallback_top _ _) rfl
  · split at h
    · cases h; exact iff_of_true (sound_progress_top _ _) rfl
    · cases h; exact iff_of_true (sound_fails.2 (by decide)) rfl
  · cases h; exact iff_of_true (sound_goes_to _) rfl
  · cases h; exact iff_of_true (sound_fails.2 timed_out_ne) rfl
  · split at h
    · cases h; exact iff_of_true (sound_goes_to _) rfl
    · cases h; exact iff_of_true (sound_progress_top _ _) rfl
  · split at h
    · cases h; exact iff_of_true (sound_goes_to _) rfl
    · cases h; exact iff_of_true (sound_fails.2 (by decide)) rfl
  · rename_i n saw m
    cases h
    rw [sound_message]
    simp [Phase.tells]
  · cases h; exact sound_timeout _ _
  · cases h; exact sound_closed _
  · cases h; exact sound_fallback _ _ _
  · cases h

namespace Updater

/-! ## Runs -/

/-- An attempt's thread observes what tells enough. -/
def tells (s : Updater) : Act → Bool
  | .observe k o =>
    match (s.attempts k).worker with
    | .running _ phase => phase.tells o
    | _ => true
  | _ => true

/-- The status is meaningful, and so will it be after the writes that are under way. -/
structure Kept (s : Updater) : Prop where
  status : Meaningful s.status_
  writes : ∀ k ws phase, (s.attempts k).worker = .running ws phase → ∀ w ∈ ws, w.Sound

theorem kept_new : Kept .new where
  status := meaningful_fresh (by decide)
  writes _ _ _ h := by cases h

variable {s s' : Updater}

/-- Attempt `k` becomes `x`, and the status `st`. -/
theorem Kept.put (hk : Kept s) {k : Nat} {x : Attempt} {st : UpdateStatus} (hst : Meaningful st)
    (hx : ∀ ws phase, x.worker = .running ws phase → ∀ w ∈ ws, w.Sound) :
    Kept { s.put k x with status_ := st } := by
  refine ⟨hst, fun j ws phase h => ?_⟩
  simp only [Updater.put] at h
  split at h
  · exact hx ws phase h
  · exact hk.writes j ws phase h

theorem Kept.attempt_step (hk : Kept s) {k : Nat} {a : Act} (ha : a.attempt = some k) (hg : s.tells a = true)
    (h : s.attempt_step k (s.attempts k) a = some s') : Kept s' := by
  unfold Updater.attempt_step at h
  split at h
  · split at h
    · cases h
      refine hk.put hk.status ?_
      rintro _ _ ⟨⟩
      exact List.forall_mem_nil _
    · cases h
      refine hk.put hk.status ?_
      rintro _ _ ⟨⟩
      exact List.forall_mem_nil _
    · cases h
  · obtain ⟨-, hs⟩ := Option.ite_none_right_eq_some.1 h
    cases hs
    exact hk.put hk.status (hk.writes k)
  · obtain ⟨-, hs⟩ := Option.ite_none_right_eq_some.1 h
    cases hs
    refine hk.put (Write.apply_meaningful hk.status ?_) (hk.writes k)
    exact (show "cannot connect to swupdate IPC" ≠ "" by decide)
  · obtain ⟨-, hs⟩ := Option.ite_none_right_eq_some.1 h
    cases hs
    exact hk.put (Write.apply_meaningful (w := .start) hk.status trivial) (hk.writes k)
  · rename_i j o
    cases ha
    split at h
    · rename_i phase hw
      obtain ⟨r, hr, rfl⟩ := Option.map_eq_some_iff.1 h
      simp only [Updater.tells, hw] at hg
      refine hk.put hk.status ?_
      rintro _ _ ⟨⟩
      exact (observe_sound hr).2 hg
    · cases h
  · split at h
    · rename_i w ws phase hw
      cases h
      obtain ⟨hsound, hrest⟩ := List.forall_mem_cons.1 (hk.writes k _ _ hw)
      refine hk.put (Write.apply_meaningful hk.status hsound) ?_
      intro ws' phase' hw'
      dsimp only at hw'
      split at hw'
      · cases hw'
      · cases hw'
        exact hrest
    · cases h
  · cases h

theorem Kept.try_begin (hk : Kept s) (initial : UpdateState) (caller : Caller) (hi : initial ≠ .Failure) :
    Kept (s.try_begin initial caller) := by
  unfold Updater.try_begin
  split
  · exact hk
  · refine ⟨meaningful_fresh hi, fun j ws phase h => ?_⟩
    simp only [Updater.put] at h
    split at h
    · cases h
    · exact hk.writes j ws phase h

theorem Kept.step (hk : Kept s) {a : Act} (hg : s.tells a = true) (h : s.step a = some s') : Kept s' := by
  unfold Updater.step at h
  split at h
  · rename_i k ha
    obtain ⟨-, hs⟩ := Option.ite_none_right_eq_some.1 h
    exact hk.attempt_step ha hg hs
  · split at h
    · cases h
      split
      · exact hk.try_begin _ _ (by decide)
      · exact hk
    · cases h
      exact hk.try_begin _ _ (by decide)
    · cases h

theorem step_write {k : Nat} {w : Write} {ws : List Write} {phase : Phase} (hk : k < s.count)
    (h : (s.attempts k).worker = .running (w :: ws) phase) :
    ∃ s', s.step (.write k) = some s' ∧ s'.status_ = w.apply s.status_ ∧ s'.count = s.count ∧
      (ws ≠ [] → (s'.attempts k).worker = .running ws phase) := by
  have hstep : s.step (.write k) = _ := if_pos hk
  simp only [Updater.attempt_step, h] at hstep
  refine ⟨_, hstep, rfl, rfl, fun hws => ?_⟩
  simp [Updater.put, hws]

/-- A thread can make its writes one after the other. -/
theorem writes_out {k : Nat} {ws rest : List Write} {w : Write} {phase : Phase} (hk : k < s.count)
    (h : (s.attempts k).worker = .running (ws ++ w :: rest) phase) :
    ∃ as t st, Run step s as t ∧ t.status_ = w.apply st := by
  induction ws generalizing s with
  | nil =>
    obtain ⟨s', hs, hst, -, -⟩ := step_write hk h
    exact ⟨[.write k], s', s.status_, .snoc .nil hs, hst⟩
  | cons v ws ih =>
    obtain ⟨s', hs, -, hcount, hw⟩ := step_write hk h
    obtain ⟨as, t, st, hrun, hst⟩ := ih (by rw [hcount]; exact hk) (hw (by simp))
    exact ⟨_, t, st, (Run.snoc .nil hs).trans hrun, hst⟩

/-- After an observation that does not tell enough the thread's writes spoil the status. -/
theorem untold_spoils {a : Act} (h : s.step a = some s') (hg : ¬ s.tells a = true) :
    ∃ bs t, Run step s (a :: bs) t ∧ ¬ Meaningful t.status_ := by
  cases a with
  | observe k o =>
    unfold Updater.step at h
    obtain ⟨hk, hs⟩ := Option.ite_none_right_eq_some.1 h
    simp only [Updater.attempt_step] at hs
    split at hs
    · rename_i phase hw
      obtain ⟨r, hr, rfl⟩ := Option.map_eq_some_iff.1 hs
      simp only [Updater.tells, hw] at hg
      -- one of the writes is not sound, and the thread gets to it
      rw [← observe_sound hr] at hg
      obtain ⟨w, hmem, hbad⟩ := not_forall₂.1 hg
      obtain ⟨ws, rest, hws⟩ := List.append_of_mem hmem
      have hworker : ((s.put k { s.attempts k with worker := .running r.1 r.2 }).attempts k).worker =
          .running (ws ++ w :: rest) r.2 := by simp only [Updater.put, if_true, hws]
      obtain ⟨as, t, st, hrun, hst⟩ := writes_out (s := s.put k _) hk hworker
      refine ⟨as, t, (Run.snoc .nil h).trans hrun, fun hm => hbad ?_⟩
      rw [hst] at hm
      exact Write.sound_of_apply hm
    · cases hs
  | _ => exact absurd rfl hg

theorem begins_fresh {a : Act} (hI : Inv s) (h : s.step a = some s') (hc : s'.count ≠ s.count) : Fresh s'.status_ := by
  have hbegin : ∀ initial caller, (s.try_begin initial caller).count ≠ s.count →
      Fresh (s.try_begin initial caller).status_ := by
    intro initial caller hn
    unfold Updater.try_begin at hn ⊢
    split
    · rename_i hb
      rw [if_pos hb] at hn
      exact absurd rfl hn
    · exact ⟨initial, rfl⟩
  rcases step_cases hI h with ⟨ha, -, -⟩ | ⟨k, -, -, hm⟩
  · unfold Updater.step at h
    rw [ha] at h
    dsimp only at h
    split at h
    · cases h
      split at hc
      · rename_i hstat
        rw [if_pos hstat]
        exact hbegin _ _ hc
      · exact absurd rfl hc
    · cases h
      exact hbegin _ _ hc
    · cases h
  · exact absurd hm.count hc

/-- Apart from the state, only the attempt that began last writes the status. -/
theorem details_own {a : Act} (hI : Inv s) (h : s.step a = some s') (hd : s'.status_.details ≠ s.status_.details) :
    s'.count ≠ s.count ∨ ∃ k, a.attempt = some k ∧ k + 1 = s.count := by
  rcases step_cases hI h with ⟨-, -, rfl | ⟨-, hc⟩⟩ | ⟨k, ha, hk, hm⟩
  · exact absurd rfl hd
  · exact .inl (by omega)
  · cases hm with
    | quiet => exact absurd rfl hd
    | writes w hold => exact .inr ⟨k, ha, hI.last hk hold⟩
    | ends_stream => exact absurd rfl hd

/-- Where swupdate's messages have percentages and its failures reasons the status
is meaningful throughout, and anything else can spoil it. A new attempt begins with
a fresh status, and only its own writes give it details again. -/
theorem status_meaningful (as : List Act) (s : Updater) (h : Run step .new as s) :
    (Meets step (fun t a => t.tells a = true) .new as →
        ∀ pre post t, as = pre ++ post → Run step .new pre t → Meaningful t.status_) ∧
      (∀ pre a post t, as = pre ++ a :: post → Run step .new pre t → ¬ t.tells a = true →
        ∃ bs u, Run step .new (pre ++ a :: bs) u ∧ ¬ Meaningful u.status_) ∧
      ∀ pre a post t t', as = pre ++ a :: post → Run step .new pre t → t.step a = some t' →
        (t'.count ≠ t.count → Fresh t'.status_) ∧ (t'.status_.details ≠ t.status_.details →
          t'.count ≠ t.count ∨ ∃ k, a.attempt = some k ∧ k + 1 = t.count) := by
  refine ⟨?_, ?_, ?_⟩
  · intro hm pre post t he ht
    subst he
    exact (ht.inv_meets Kept kept_new (fun _ _ _ hk hg ha => hk.step hg ha) hm.left).status
  · intro pre a post t he ht hg
    subst he
    obtain ⟨t', ha⟩ := h.next ht
    obtain ⟨bs, u, hu, hbad⟩ := untold_spoils ha hg
    exact ⟨bs, u, ht.trans hu, hbad⟩
  · intro pre a post t t' _ ht ha
    have hI := run_inv ht
    exact ⟨begins_fresh hI ha, details_own hI ha⟩

/-- An install that swupdate starts, and its progress socket closed after that. -/
def closed_after_start (status : IpcStatus) : List Act :=
  [.begin_stream_install, .install_reply 0 (.response 1), .spawn 0, .observe 0 (.progress_connect true),
    .observe 0 (.progress_ack true), .observe 0 (.message ⟨2, 3, 1, 40, "rootfs.ext4"⟩), .write 0, .write 0,
    .observe 0 .closed, .observe 0 (.status_reply (.answer status)), .write 0]

def no_space : IpcStatus := ⟨0, 4, 1, "No space left on device"⟩

theorem status_meaningful_explained : ∃ s, Run step .new (closed_after_start no_space) s ∧
    s.status_.error = "No space left on device" ∧ Meaningful s.status_ := by
  obtain ⟨s, hs, he⟩ : ∃ s, exec step .new (closed_after_start no_space) = some s ∧
      s.status_.error = "No space left on device" := ⟨_, rfl, rfl⟩
  have hrun := run_of_exec hs
  have hm : Meets step (fun t a => t.tells a = true) .new (closed_after_start no_space) :=
    meets_of_checks (by decide +kernel)
  exact ⟨s, hrun, he, (status_meaningful _ s hrun).1 hm _ [] s (List.append_nil _).symm hrun⟩

/-- swupdate is idle again, and says that the install failed but not why. -/
theorem failure_unexplained : ¬ ∀ as s, Run step .new as s → Meaningful s.status_ := by
  intro hall
  obtain ⟨s, hs, hstate, he⟩ : ∃ s, exec step .new (closed_after_start ⟨0, 4, 0, ""⟩) = some s ∧
      s.status_.state = .Failure ∧ s.status_.error = "" := ⟨_, rfl, rfl, rfl⟩
  exact (hall _ s (run_of_exec hs)).failure hstate he

/-- A percentage is taken as it is sent. -/
example : ((exec step .new [.begin_stream_install, .install_reply 0 (.response 1), .spawn 0,
    .observe 0 (.progress_connect true), .observe 0 (.progress_ack true), .observe 0 (.message ⟨2, 3, 1, 200, ""⟩),
    .write 0]).map fun s => s.status_.percent) = some 200 := by rfl

end Updater

end UpdateAttempts

end CameraStreamer.Update
