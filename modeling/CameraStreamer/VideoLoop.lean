import CameraStreamer.SessionThreads
import CameraStreamer.Pipeline
/-!
# A camera's video loop

`video_loop` of one camera, session after session, next to the calls of
`refresh_launch` for that camera. The two share the description in
`video_launch_` and the `relaunch` flag: the loop reads the description and then
clears the flag, a refresh replaces the description and then sets it.
-/

namespace CameraStreamer.Secure.VideoLoops

open Runs Media SessionThreads

/-- Where the inner loop is. -/
inductive Pull where
  | test_dead
  | test_enabled
  | test_relaunch
  | pump
  | after_pump
  deriving DecidableEq

inductive Place where
  /-- At `while (!session.dead)`. -/
  | outer
  | test_enabled
  /-- Asleep, the stream being disabled. -/
  | disabled
  | describing
  /-- Before `relaunch = false`. -/
  | clearing (description : PipelineSpec)
  | starting (description : PipelineSpec)
  /-- In the inner loop, over a pipeline built from `description`. -/
  | pulling (description : PipelineSpec) (point : Pull)
  /-- The pipeline is down. -/
  | down
  | delaying (waited : Nat)
  /-- No loop runs: no session yet, or the loop has returned. -/
  | returned
  deriving DecidableEq

def kBarrenLimit : Nat := 3

structure VideoLoop where
  place : Place
  barren : Nat
  produced : Bool
  dead : Bool
  enabled : Bool
  relaunch : Bool
  video_launch_ : List PipelineSpec
  /-- Calls of `refresh_launch` that have stored their description and not yet set the flag. -/
  in_refresh : Nat

def VideoLoop.new (video_launch_ : List PipelineSpec) : VideoLoop :=
  ⟨.returned, 0, false, false, true, false, video_launch_, 0⟩

inductive Act where
  /-- A session starts its video loop. -/
  | start_session
  | die
  | set_stream_enabled (enabled : Bool)
  /-- `refresh_launch`, up to the store. -/
  | store (launch : PipelineSpec)
  /-- The rest of it. -/
  | set_relaunch
  /-- The loop makes its next test, or sleeps. -/
  | go
  | describe
  | clear
  | start (ok : Bool)
  /-- `pump` delivers a sample; `frame` says whether the sink saw it. -/
  | sample (frame : Bool)
  | no_sample (eos : Bool)
  deriving DecidableEq

/-- `video_spec`: the description, or an empty one. -/
def video_spec (video_launch_ : List PipelineSpec) (camera : Nat) : PipelineSpec :=
  match video_launch_[camera]? with
  | some launch => if launch.source ≠ "" then launch else {}
  | none => {}

namespace VideoLoop

/-- After the pipeline is down. -/
def settle (s : VideoLoop) : VideoLoop :=
  let barren := if s.produced then 0 else s.barren + 1
  { s with barren := barren, place := if kBarrenLimit ≤ barren then .returned else .delaying 0 }

/-- The tests of the loop. -/
def go (s : VideoLoop) : Option VideoLoop :=
  match s.place with
  | .outer => some { s with place := if s.dead then .returned else .test_enabled }
  | .test_enabled =>
    if s.enabled then some { s with place := .describing } else some { s with place := .disabled, barren := 0 }
  | .disabled => some { s with place := .outer }
  | .pulling description .test_dead =>
    some { s with place := if s.dead then .down else .pulling description .test_enabled }
  | .pulling description .test_enabled =>
    some { s with place := if s.enabled then .pulling description .test_relaunch else .down }
  | .pulling description .test_relaunch =>
    some { s with place := if s.relaunch then .down else .pulling description .pump }
  | .pulling description .after_pump =>
    some { s with place := if s.dead then .down else .pulling description .test_dead }
  | .down => if s.dead then some { s with place := .returned } else some s.settle
  | .delaying waited =>
    some { s with place := if waited < 3000 * s.barren ∧ s.dead = false then .delaying (waited + 100) else .outer }
  | _ => none

def step (camera : Nat) (s : VideoLoop) (a : Act) : Option VideoLoop :=
  match s.place, a with
  | .returned, .start_session => some { s with place := .outer, barren := 0, dead := false }
  | _, .die => some { s with dead := true }
  | _, .set_stream_enabled enabled =>
    if camera < kCameras then some { s with enabled := enabled } else some s
  | _, .store launch =>
    if kCameras ≤ camera ∨ launch.source = "" then some s
    else some { s with video_launch_ := s.video_launch_.set camera launch, in_refresh := s.in_refresh + 1 }
  | _, .set_relaunch =>
    if s.in_refresh = 0 then none else some { s with relaunch := true, in_refresh := s.in_refresh - 1 }
  | _, .go => s.go
  | .describing, .describe => some { s with place := .clearing (video_spec s.video_launch_ camera) }
  | .clearing description, .clear => some { s with relaunch := false, place := .starting description }
  | .starting description, .start ok =>
    -- a pipeline is not built from an empty description
    if ok then
      if description.source = "" then none
      else some { s with produced := false, place := .pulling description .test_dead }
    else some { s with produced := false, place := .down }
  | .pulling description .pump, .sample frame =>
    some { s with produced := s.produced || frame, place := .pulling description .after_pump }
  | .pulling description .pump, .no_sample eos =>
    some { s with place := if eos then .down else .pulling description .test_dead }
  | _, _ => none

/-! ## Updates -/

/-- The pipeline in use was built from the description installed last, or a rebuild is due. -/
def Current (camera : Nat) (s : VideoLoop) : Prop :=
  ∀ description point, s.place = .pulling description point → s.in_refresh = 0 → s.relaunch = false →
    s.video_launch_[camera]? = some description

/-- The flag is only cleared for the description that is installed, or while a
`refresh_launch` is yet to set it. -/
def clears (camera : Nat) (s : VideoLoop) : Act → Bool
  | .clear =>
    match s.place with
    | .clearing description => description = video_spec s.video_launch_ camera ∨ 0 < s.in_refresh
    | _ => true
  | _ => true

/-- What the flag was cleared for last. -/
def built : Place → Option PipelineSpec
  | .starting description | .pulling description _ => some description
  | _ => none

/-- Past the clearing, a description that is no longer installed has its rebuild coming. -/
structure Inv (camera : Nat) (s : VideoLoop) : Prop where
  due : ∀ description, built s.place = some description →
    description = video_spec s.video_launch_ camera ∨ 0 < s.in_refresh ∨ s.relaunch = true
  full : ∀ description point, s.place = .pulling description point → description.source ≠ ""

variable {camera : Nat} {s s' : VideoLoop}

theorem inv_new (video_launch_ : List PipelineSpec) : Inv camera (.new video_launch_) where
  due description h := by cases h
  full description point h := by cases h

/-- A loop that goes on, over the same pipeline or without one. -/
theorem Inv.move (hI : Inv camera s) (hv : s'.video_launch_ = s.video_launch_) (hr : s'.relaunch = s.relaunch)
    (hi : s'.in_refresh = s.in_refresh)
    (hp : built s'.place = none ∨ built s'.place = built s.place)
    (hf : ∀ description point, s'.place = .pulling description point →
      ∃ point', s.place = .pulling description point') :
    Inv camera s' where
  due description hb := by
    rw [hv, hr, hi]
    rcases hp with hp | hp
    · rw [hp] at hb
      cases hb
    · exact hI.due description (hp ▸ hb)
  full description point h := by
    obtain ⟨point', h'⟩ := hf description point h
    exact hI.full description point' h'

/-- Not in the inner loop, nor on the way to it. -/
theorem Inv.away (hI : Inv camera s) (hv : s'.video_launch_ = s.video_launch_) (hr : s'.relaunch = s.relaunch)
    (hi : s'.in_refresh = s.in_refresh) (hp : built s'.place = none) : Inv camera s' := by
  refine hI.move hv hr hi (.inl hp) fun description point h => ?_
  rw [h] at hp
  cases hp

theorem go_inv (hI : Inv camera s) (h : s.go = some s') : Inv camera s' := by
  unfold go at h
  split at h
  · cases h
    refine hI.away rfl rfl rfl ?_
    dsimp only
    split <;> rfl
  · split at h
    · cases h
      exact hI.away rfl rfl rfl rfl
    · cases h
      exact hI.away rfl rfl rfl rfl
  · cases h
    exact hI.away rfl rfl rfl rfl
  · rename_i description hp
    cases h
    split
    · exact hI.away rfl rfl rfl rfl
    · exact hI.move rfl rfl rfl (.inr (by rw [hp]; rfl)) fun d p h => by cases h; exact ⟨_, hp⟩
  · rename_i description hp
    cases h
    split
    · exact hI.move rfl rfl rfl (.inr (by rw [hp]; rfl)) fun d p h => by cases h; exact ⟨_, hp⟩
    · exact hI.away rfl rfl rfl rfl
  · rename_i description hp
    cases h
    split
    · exact hI.away rfl rfl rfl rfl
    · exact hI.move rfl rfl rfl (.inr (by rw [hp]; rfl)) fun d p h => by cases h; exact ⟨_, hp⟩
  · rename_i description hp
    cases h
    split
    · exact hI.away rfl rfl rfl rfl
    · exact hI.move rfl rfl rfl (.inr (by rw [hp]; rfl)) fun d p h => by cases h; exact ⟨_, hp⟩
  · split at h
    · cases h
      exact hI.away rfl rfl rfl rfl
    · cases h
      refine hI.away rfl rfl rfl ?_
      simp only [settle]
      generalize (if s.produced = true then 0 else s.barren + 1) = barren
      split <;> rfl
  · cases h
    refine hI.away rfl rfl rfl ?_
    dsimp only
    split <;> rfl
  · cases h

/-- A refresh stores a description: the flag is yet to be set. -/
theorem Inv.store (hI : Inv camera s) (video_launch_ : List PipelineSpec) :
    Inv camera { s with video_launch_ := video_launch_, in_refresh := s.in_refresh + 1 } where
  due _ _ := .inr (.inl (Nat.succ_pos _))
  full := hI.full

theorem Inv.set_relaunch (hI : Inv camera s) (n : Nat) :
    Inv camera { s with relaunch := true, in_refresh := n } where
  due _ _ := .inr (.inr rfl)
  full := hI.full

theorem step_inv {a : Act} (hI : Inv camera s) (hc : s.clears camera a = true) (h : s.step camera a = some s') :
    Inv camera s' := by
  unfold step at h
  split at h
  · cases h
    exact hI.away rfl rfl rfl rfl
  · cases h
    exact hI.move rfl rfl rfl (.inr rfl) fun d p h => ⟨p, h⟩
  · split at h
    · cases h
      exact hI.move rfl rfl rfl (.inr rfl) fun d p h => ⟨p, h⟩
    · cases h
      exact hI
  · split at h
    · cases h
      exact hI
    · cases h
      exact hI.store _
  · split at h
    · cases h
    · cases h
      exact hI.set_relaunch _
  · exact go_inv hI h
  · cases h
    exact hI.away rfl rfl rfl rfl
  · -- the flag is cleared
    rename_i description hp
    cases h
    constructor
    · intro d hd
      cases hd
      simp only [clears, hp, decide_eq_true_eq] at hc
      rcases hc with hc | hc
      · exact .inl hc
      · exact .inr (.inl hc)
    · intro d point hd
      cases hd
  · rename_i description ok hp
    split at h
    · split at h
      · cases h
      · rename_i hne
        cases h
        constructor
        · intro d hd
          cases hd
          exact hI.due description (by rw [hp]; rfl)
        · intro d point hd
          cases hd
          exact hne
    · cases h
      exact hI.away rfl rfl rfl rfl
  · rename_i description frame hp
    cases h
    exact hI.move rfl rfl rfl (.inr (by rw [hp]; rfl)) fun d p h => by cases h; exact ⟨_, hp⟩
  · rename_i description eos hp
    cases h
    split
    · exact hI.away rfl rfl rfl rfl
    · exact hI.move rfl rfl rfl (.inr (by rw [hp]; rfl)) fun d p h => by cases h; exact ⟨_, hp⟩
  · cases h

theorem video_spec_eq {video_launch_ : List PipelineSpec} (h : (video_spec video_launch_ camera).source ≠ "") :
    video_launch_[camera]? = some (video_spec video_launch_ camera) := by
  unfold video_spec at h ⊢
  cases hl : video_launch_[camera]? with
  | none => simp [hl] at h
  | some launch =>
    simp only [hl] at h ⊢
    split at h
    · rename_i hne
      rw [if_pos hne]
    · simp at h

theorem Inv.current (hI : Inv camera s) : s.Current camera := by
  intro description point hp hi hr
  have hfull := hI.full description point hp
  rcases hI.due description (by rw [hp]; rfl) with h | h | h
  · rw [h] at hfull ⊢
    exact video_spec_eq hfull
  · omega
  · rw [hr] at h
    cases h

/-- In every run that never clears the flag for a description replaced by a
completed refresh, the pipeline in use is the one installed last, or about to be
rebuilt. -/
theorem no_lost_relaunch (camera : Nat) (video_launch_ : List PipelineSpec) (as : List Act) (s : VideoLoop)
    (h : Run (step camera) (.new video_launch_) as s)
    (hm : Meets (step camera) (fun t a => t.clears camera a = true) (.new video_launch_) as) : s.Current camera :=
  (h.inv_meets (Inv camera) (inv_new video_launch_) (fun _ _ _ => step_inv) hm).current

def old_launch : PipelineSpec := { source := "videotestsrc name=camsrc" }
def new_launch : PipelineSpec := { source := "videotestsrc name=camsrc pattern=ball" }

/-- A session whose pipeline is rebuilt for a new description. -/
def rebuilt : List Act :=
  [.start_session, .go, .go, .describe, .clear, .start true, .go, .go, .go, .sample true, .store new_launch,
    .set_relaunch, .go, .go, .go, .go, .go, .go, .go, .go, .describe, .clear, .start true]

theorem no_lost_relaunch_rebuilt :
    ∃ s, Run (step 0) (.new [old_launch]) rebuilt s ∧ s.place = .pulling new_launch .test_dead ∧ s.Current 0 := by
  obtain ⟨s, hs, hp⟩ : ∃ s, exec (step 0) (.new [old_launch]) rebuilt = some s ∧
      s.place = .pulling new_launch .test_dead := ⟨_, rfl, rfl⟩
  exact ⟨s, run_of_exec hs, hp, no_lost_relaunch 0 [old_launch] rebuilt s (run_of_exec hs)
    (meets_of_checks (by decide))⟩

/-- Any other clearing leaves the next pipeline without the update. -/
theorem stale_pipeline {description : PipelineSpec} (hp : s.place = .clearing description)
    (hne : description.source ≠ "") (hc : s.clears camera .clear = false) :
    ∃ t, Run (step camera) s [.clear, .start true] t ∧ ¬ t.Current camera := by
  have h1 : s.step camera .clear = some { s with relaunch := false, place := .starting description } := by
    simp only [step, hp]
  have h2 : step camera { s with relaunch := false, place := .starting description } (.start true) =
      some { s with relaunch := false, produced := false, place := .pulling description .test_dead } := by
    simp only [step, if_true, hne, if_false]
  refine ⟨_, (Run.snoc .nil h1).snoc h2, fun hcur => ?_⟩
  simp only [clears, hp, decide_eq_false_iff_not, not_or] at hc
  obtain ⟨hd, hi⟩ := hc
  have hl : s.video_launch_[camera]? = some description :=
    hcur description .test_dead rfl (Nat.eq_zero_of_not_pos hi) rfl
  apply hd
  simp only [video_spec, hl, if_pos hne]

/-- A refresh that completes after the description was read and before the flag
is cleared is lost. -/
theorem refresh_lost :
    ¬ ∀ camera video_launch_ as s, Run (step camera) (.new video_launch_) as s → s.Current camera := by
  intro hall
  obtain ⟨s, hs, hp, hc⟩ : ∃ s,
      exec (step 0) (.new [old_launch]) [.start_session, .go, .go, .describe, .store new_launch, .set_relaunch] =
        some s ∧ s.place = .clearing old_launch ∧ s.clears 0 .clear = false := ⟨_, rfl, rfl, by decide⟩
  obtain ⟨t, ht, hstale⟩ := stale_pipeline hp (by decide) hc
  exact hstale (hall 0 [old_launch] _ t ((run_of_exec hs).trans ht))

end VideoLoop

end CameraStreamer.Secure.VideoLoops
