import Mathlib.Data.List.DropRight
import CameraStreamer.VideoLoop
/-!
# Giving up a camera

`video_loop` counts the pipelines that produced no frame and leaves a camera
alone after `kBarrenLimit` of them. We keep, beside the loop, how each pipeline
of the session ended, and say when the count is of cameras that are not there.
-/

namespace CameraStreamer.Secure.VideoLoops

open Runs Media SessionThreads

/-! ## How a pipeline ended -/

/-- Why the pull loop was left, or not entered. -/
inductive Why where
  | failed
  | eos
  | disabled
  | relaunched
  | dead
  deriving DecidableEq

structure Incarnation where
  why : Why
  produced : Bool
  deriving DecidableEq

/-- No frame came, and none was to come. -/
def Incarnation.barren (i : Incarnation) : Bool := !i.produced && (i.why = .failed || i.why = .eos)

/-- Taken down for another reason before a frame came. -/
def Incarnation.slipped (i : Incarnation) : Bool := !i.produced && !i.barren

/-- A loop, and the incarnations of its camera's pipeline in the session that are over. -/
structure Counted where
  loop : VideoLoop
  endings : List Incarnation

namespace Counted

def new (video_launch_ : List PipelineSpec) : Counted := ⟨.new video_launch_, []⟩

def why (s : VideoLoop) : Act → Why
  | .start _ => .failed
  | .no_sample _ => .eos
  | _ =>
    match s.place with
    | .pulling _ .test_enabled => .disabled
    | .pulling _ .test_relaunch => .relaunched
    | _ => .dead

/-- The endings after an action that leads to `s'`. -/
def record (t : Counted) (a : Act) (s' : VideoLoop) : List Incarnation :=
  if a = .start_session then []
  else if s'.place = .down ∧ t.loop.place ≠ .down then t.endings ++ [⟨why t.loop a, s'.produced⟩]
  else t.endings

def step (camera : Nat) (t : Counted) (a : Act) : Option Counted :=
  (t.loop.step camera a).map fun s' => ⟨s', t.record a s'⟩

/-- The number of barren incarnations since the last other one. -/
def streak (l : List Incarnation) : Nat := (l.rtakeWhile Incarnation.barren).length

/-- The loop has returned with the session alive. -/
def GaveUp (t : Counted) : Prop := t.loop.place = .returned ∧ t.loop.dead = false ∧ t.endings ≠ []

/-- A camera is given up only when its last `kBarrenLimit` incarnations were barren,
and what has been counted when the next one is built are barren incarnations in a row. -/
structure Law (t : Counted) : Prop where
  given_up : t.GaveUp → ∃ early last, t.endings = early ++ last ∧ last.length = kBarrenLimit ∧ ∀ i ∈ last, i.barren
  counted : t.loop.place = .describing → t.loop.dead = false → t.loop.barren ≤ streak t.endings

/-- A pipeline taken down before its first frame for a setting is not the last that
is counted before the loop gives up, nor still counted when the next is built. -/
def settled (t : Counted) : Act → Bool
  | .go =>
    match t.loop.place with
    | .down => t.loop.dead || t.endings.getLast?.all (!·.slipped) || t.loop.barren + 1 < kBarrenLimit
    | .test_enabled => t.loop.dead || !t.loop.enabled || t.loop.barren = 0 || t.endings.getLast?.all (!·.slipped)
    | _ => true
  | _ => true

/-! ## What a step can do -/

/-- Between two incarnations. -/
def Waits : Place → Prop
  | .outer | .test_enabled | .disabled | .delaying _ => True
  | _ => False

/-- On the way to an incarnation, or in it. -/
def Builds : Place → Prop
  | .describing | .clearing _ | .starting _ | .pulling _ _ => True
  | _ => False

inductive Progress (s : VideoLoop) (a : Act) (s' : VideoLoop) : Prop
  | session (ha : a = .start_session) (hplace : s'.place = .outer) (hbarren : s'.barren = 0)
  /-- From outside the loop. -/
  | beside (ha : a ≠ .start_session ∧ a ≠ .go) (hplace : s'.place = s.place) (hbarren : s'.barren = s.barren)
    (hproduced : s'.produced = s.produced) (hdead : s'.dead = s.dead ∨ s'.dead = true)
  | waits (hfrom : Waits s.place) (hto : Waits s'.place) (hbarren : s'.barren = s.barren ∨ s'.barren = 0)
    (hdead : s'.dead = s.dead) (ha : a ≠ .start_session) (hgo : s.place = .test_enabled → s.enabled = false)
  | build (ha : a = .go) (hfrom : s.place = .test_enabled) (henabled : s.enabled = true) (hto : s'.place = .describing)
    (hbarren : s'.barren = s.barren) (hdead : s'.dead = s.dead)
  | builds (hfrom : Builds s.place) (hto : Builds s'.place) (hbarren : s'.barren = s.barren)
    (hdead : s'.dead = s.dead) (ha : a ≠ .start_session) (hnot : s'.place ≠ .describing)
  | ends (hfrom : Builds s.place) (hto : s'.place = .down) (hbarren : s'.barren = s.barren)
    (hdead : s'.dead = s.dead) (ha : a ≠ .start_session)
  | settles (ha : a = .go) (hfrom : s.place = .down) (hdead : s.dead = false) (hs : s' = s.settle)
  | leaves (hdead : s.dead = true) (hsame : s'.dead = s.dead) (hto : s'.place = .returned)

theorem go_progress {s s' : VideoLoop} (h : s.go = some s') : Progress s .go s' := by
  unfold VideoLoop.go at h
  split at h
  · rename_i hp
    cases h
    by_cases hd : s.dead = true
    · exact .leaves hd rfl (by simp [hd])
    · exact .waits (by rw [hp]; trivial) (by simp [hd, Waits]) (.inl rfl) rfl (by simp) (by simp [hp])
  · rename_i hp
    split at h
    · rename_i he
      cases h
      exact .build rfl hp he rfl rfl rfl
    · rename_i he
      cases h
      exact .waits (by rw [hp]; trivial) trivial (.inr rfl) rfl (by simp) fun _ => by simpa using he
  · rename_i hp
    cases h
    exact .waits (by rw [hp]; trivial) trivial (.inl rfl) rfl (by simp) (by simp [hp])
  · rename_i description hp
    cases h
    by_cases hd : s.dead = true
    · exact .ends (by rw [hp]; trivial) (by simp [hd]) rfl rfl (by simp)
    · exact .builds (by rw [hp]; trivial) (by simp [hd, Builds]) rfl rfl (by simp) (by simp [hd])
  · rename_i description hp
    cases h
    by_cases he : s.enabled = true
    · exact .builds (by rw [hp]; trivial) (by simp [he, Builds]) rfl rfl (by simp) (by simp [he])
    · exact .ends (by rw [hp]; trivial) (by simp [he]) rfl rfl (by simp)
  · rename_i description hp
    cases h
    by_cases hr : s.relaunch = true
    · exact .ends (by rw [hp]; trivial) (by simp [hr]) rfl rfl (by simp)
    · exact .builds (by rw [hp]; trivial) (by simp [hr, Builds]) rfl rfl (by simp) (by simp [hr])
  · rename_i description hp
    cases h
    by_cases hd : s.dead = true
    · exact .ends (by rw [hp]; trivial) (by simp [hd]) rfl rfl (by simp)
    · exact .builds (by rw [hp]; trivial) (by simp [hd, Builds]) rfl rfl (by simp) (by simp [hd])
  · rename_i hp
    split at h
    · rename_i hd
      cases h
      exact .leaves hd rfl rfl
    · rename_i hd
      cases h
      exact .settles rfl hp (by simpa using hd) rfl
  · rename_i waited hp
    cases h
    refine .waits (by rw [hp]; trivial) ?_ (.inl rfl) rfl (by simp) (by simp [hp])
    dsimp only
    split <;> trivial
  · cases h

theorem step_progress {camera : Nat} {s s' : VideoLoop} {a : Act} (h : s.step camera a = some s') :
    Progress s a s' := by
  unfold VideoLoop.step at h
  split at h
  · cases h
    exact .session rfl rfl rfl
  · cases h
    exact .beside (by simp) rfl rfl rfl (.inr rfl)
  · split at h
    · cases h
      exact .beside (by simp) rfl rfl rfl (.inl rfl)
    · cases h
      exact .beside (by simp) rfl rfl rfl (.inl rfl)
  · split at h
    · cases h
      exact .beside (by simp) rfl rfl rfl (.inl rfl)
    · cases h
      exact .beside (by simp) rfl rfl rfl (.inl rfl)
  · split at h
    · cases h
    · cases h
      exact .beside (by simp) rfl rfl rfl (.inl rfl)
  · exact go_progress h
  · rename_i hp
    cases h
    exact .builds (by rw [hp]; trivial) trivial rfl rfl (by simp) (by simp)
  · rename_i description hp
    cases h
    exact .builds (by rw [hp]; trivial) trivial rfl rfl (by simp) (by simp)
  · rename_i description ok hp
    split at h
    · split at h
      · cases h
      · cases h
        exact .builds (by rw [hp]; trivial) trivial rfl rfl (by simp) (by simp)
    · cases h
      exact .ends (by rw [hp]; trivial) rfl rfl rfl (by simp)
  · rename_i description frame hp
    cases h
    exact .builds (by rw [hp]; trivial) trivial rfl rfl (by simp) (by simp)
  · rename_i description eos hp
    cases h
    by_cases he : eos = true
    · exact .ends (by rw [hp]; trivial) (by simp [he]) rfl rfl (by simp)
    · exact .builds (by rw [hp]; trivial) (by simp [he, Builds]) rfl rfl (by simp) (by simp [he])
  · cases h

/-! ## The streak -/

theorem streak_snoc_barren {l : List Incarnation} {i : Incarnation} (h : i.barren = true) :
    streak (l ++ [i]) = streak l + 1 := by
  rw [streak, List.rtakeWhile_concat_pos _ _ _ h, List.length_append]
  rfl

theorem streak_slipped {l : List Incarnation} {i : Incarnation} (h : l.getLast? = some i) (hi : i.slipped = true) :
    streak l = 0 := by
  obtain ⟨l, rfl⟩ := List.getLast?_eq_some_iff.1 h
  simp only [Incarnation.slipped, Bool.and_eq_true, Bool.not_eq_true'] at hi
  rw [streak, List.rtakeWhile_concat_neg _ _ _ (by simp [hi.2])]
  rfl

/-- A streak of the limit is the limit's number of barren incarnations at the end. -/
theorem streak_last {l : List Incarnation} (h : kBarrenLimit ≤ streak l) :
    ∃ early last, l = early ++ last ∧ last.length = kBarrenLimit ∧ ∀ i ∈ last, i.barren := by
  obtain ⟨early, hl⟩ : l.rtakeWhile Incarnation.barren <:+ l := List.rtakeWhile_suffix _ _
  have hsplit := List.take_append_drop (streak l - kBarrenLimit) (l.rtakeWhile Incarnation.barren)
  refine ⟨early ++ (l.rtakeWhile Incarnation.barren).take (streak l - kBarrenLimit),
    (l.rtakeWhile Incarnation.barren).drop (streak l - kBarrenLimit), ?_, ?_, ?_⟩
  · rw [List.append_assoc, hsplit, hl]
  · rw [List.length_drop]
    show streak l - (streak l - kBarrenLimit) = kBarrenLimit
    omega
  · intro i hi
    exact List.mem_rtakeWhile_imp (List.mem_of_mem_drop hi)

/-! ## What the law keeps -/

/-- The count is of barren incarnations in a row, or the last one slipped and will not be the last counted. -/
structure Kept (t : Counted) : Prop where
  waits : Waits t.loop.place → t.loop.dead = false → t.loop.barren ≤ streak t.endings ∨
    t.loop.barren < kBarrenLimit ∧ ∃ i, t.endings.getLast? = some i ∧ i.slipped
  builds : Builds t.loop.place → t.loop.dead = false → t.loop.barren ≤ streak t.endings
  down : t.loop.place = .down → ∃ i before, t.endings = before ++ [i] ∧ i.produced = t.loop.produced ∧
    (t.loop.dead = false → t.loop.barren ≤ streak before)
  gave_up : t.GaveUp → kBarrenLimit ≤ streak t.endings

theorem Kept.law {t : Counted} (hk : Kept t) : Law t where
  given_up h := streak_last (hk.gave_up h)
  counted hp hd := hk.builds (by rw [hp]; trivial) hd

theorem step_some {camera : Nat} {t t' : Counted} {a : Act} (h : step camera t a = some t') :
    Progress t.loop a t'.loop ∧ t'.endings = t.record a t'.loop := by
  obtain ⟨s', hs, rfl⟩ := Option.map_eq_some_iff.1 h
  exact ⟨step_progress hs, rfl⟩

/-- What is not in the loop's four kinds of places is none of its business. -/
theorem Kept.of_waits {t : Counted} (hp : Waits t.loop.place)
    (h : t.loop.dead = false → t.loop.barren ≤ streak t.endings ∨
      t.loop.barren < kBarrenLimit ∧ ∃ i, t.endings.getLast? = some i ∧ i.slipped) : Kept t where
  waits _ := h
  builds hb := by
    cases hplace : t.loop.place <;> simp [hplace, Waits, Builds] at hp hb
  down hd := by
    rw [hd] at hp
    exact hp.elim
  gave_up hg := by
    rw [hg.1] at hp
    exact hp.elim

theorem Kept.of_builds {t : Counted} (hp : Builds t.loop.place)
    (h : t.loop.dead = false → t.loop.barren ≤ streak t.endings) : Kept t where
  waits hw := by
    cases hplace : t.loop.place <;> simp [hplace, Waits, Builds] at hp hw
  builds _ := h
  down hd := by
    rw [hd] at hp
    exact hp.elim
  gave_up hg := by
    rw [hg.1] at hp
    exact hp.elim

theorem Kept.of_down {t : Counted} (hp : t.loop.place = .down)
    (h : ∃ i before, t.endings = before ++ [i] ∧ i.produced = t.loop.produced ∧
      (t.loop.dead = false → t.loop.barren ≤ streak before)) : Kept t where
  waits hw := by
    rw [hp] at hw
    exact hw.elim
  builds hb := by
    rw [hp] at hb
    exact hb.elim
  down _ := h
  gave_up hg := by
    have := hp.symm.trans hg.1
    cases this

theorem Kept.of_returned {t : Counted} (hp : t.loop.place = .returned)
    (h : t.GaveUp → kBarrenLimit ≤ streak t.endings) : Kept t where
  waits hw := by
    rw [hp] at hw
    exact hw.elim
  builds hb := by
    rw [hp] at hb
    exact hb.elim
  down hd := by
    have := hp.symm.trans hd
    cases this
  gave_up := h

theorem record_same {t : Counted} {a : Act} {s' : VideoLoop} (ha : a ≠ .start_session)
    (h : s'.place = .down → t.loop.place = .down) : t.record a s' = t.endings := by
  rw [record, if_neg ha, if_neg fun hd => hd.2 (h hd.1)]

theorem Waits.not_down {p : Place} (h : Waits p) : p ≠ .down := by
  rintro rfl
  exact h

theorem Builds.not_down {p : Place} (h : Builds p) : p ≠ .down := by
  rintro rfl
  exact h

/-- A loop that only something outside has touched. -/
theorem Kept.beside {t t' : Counted} (hk : Kept t) (hplace : t'.loop.place = t.loop.place)
    (hbarren : t'.loop.barren = t.loop.barren) (hproduced : t'.loop.produced = t.loop.produced)
    (hdead : t'.loop.dead = t.loop.dead ∨ t'.loop.dead = true) (he : t'.endings = t.endings) : Kept t' := by
  have halive : t'.loop.dead = false → t.loop.dead = false := by
    intro h
    rcases hdead with hd | hd
    · rw [← hd]
      exact h
    · rw [h] at hd
      cases hd
  constructor
  · rw [hplace, hbarren, he]
    exact fun hp hd => hk.waits hp (halive hd)
  · rw [hplace, hbarren, he]
    exact fun hp hd => hk.builds hp (halive hd)
  · rw [hplace, hbarren, hproduced, he]
    intro hp
    obtain ⟨i, before, hi, hprod, hb⟩ := hk.down hp
    exact ⟨i, before, hi, hprod, fun hd => hb (halive hd)⟩
  · intro ⟨hp, hd, hne⟩
    rw [hplace] at hp
    rw [he] at hne ⊢
    exact hk.gave_up ⟨hp, halive hd, hne⟩

/-- The count after a pipeline that ended with the session alive. -/
theorem Kept.settle {t t' : Counted} (hk : Kept t) (hg : t.settled .go = true) (hp : t.loop.place = .down)
    (hdead : t.loop.dead = false) (hs : t'.loop = t.loop.settle) (he : t'.endings = t.endings) : Kept t' := by
  obtain ⟨i, before, hi, hprod, hb⟩ := hk.down hp
  have hb := hb hdead
  have hlast : t.endings.getLast? = some i := by rw [hi, List.getLast?_concat]
  simp only [settled, hp, hdead, hlast, Bool.false_or, Option.all_some, Bool.or_eq_true, Bool.not_eq_true',
    decide_eq_true_eq] at hg
  cases hpr : t.loop.produced with
  | true =>
    have hplace : t'.loop.place = .delaying 0 := by
      rw [hs, VideoLoop.settle, hpr]
      rfl
    have hbarren : t'.loop.barren = 0 := by rw [hs, VideoLoop.settle, hpr]; rfl
    apply Kept.of_waits
    · rw [hplace]
      trivial
    · intro _
      left
      omega
  | false =>
    rw [hpr] at hprod
    have hbarren : t'.loop.barren = t.loop.barren + 1 := by rw [hs, VideoLoop.settle, hpr]; rfl
    have hslip : i.slipped = false → streak t'.endings = streak before + 1 := by
      intro h
      rw [he, hi]
      apply streak_snoc_barren
      simpa [Incarnation.slipped, hprod] using h
    by_cases hlimit : kBarrenLimit ≤ t.loop.barren + 1
    · have hplace : t'.loop.place = .returned := by
        rw [hs, VideoLoop.settle, hpr]
        exact if_pos hlimit
      apply Kept.of_returned hplace
      intro _
      have := hslip (hg.resolve_right (by omega))
      omega
    · have hplace : t'.loop.place = .delaying 0 := by
        rw [hs, VideoLoop.settle, hpr]
        exact if_neg hlimit
      apply Kept.of_waits
      · rw [hplace]
        trivial
      · intro _
        cases h : i.slipped with
        | false =>
          left
          have := hslip h
          omega
        | true =>
          right
          exact ⟨by omega, i, by rw [he, hlast], h⟩

theorem Kept.step {camera : Nat} {t t' : Counted} {a : Act} (hk : Kept t) (hg : t.settled a = true)
    (h : Counted.step camera t a = some t') : Kept t' := by
  obtain ⟨hprogress, he⟩ := step_some h
  cases hprogress with
  | session ha hplace hbarren =>
    apply Kept.of_waits
    · rw [hplace]
      trivial
    · intro _
      left
      omega
  | beside ha hplace hbarren hproduced hdead =>
    rw [record_same ha.1 fun h => hplace.symm.trans h] at he
    exact hk.beside hplace hbarren hproduced hdead he
  | waits hfrom hto hbarren hdead ha =>
    rw [record_same ha fun h => absurd h (Waits.not_down hto)] at he
    apply Kept.of_waits hto
    intro hd
    rw [hdead] at hd
    rw [he]
    rcases hbarren with hb | hb
    · rw [hb]
      exact hk.waits hfrom hd
    · left
      omega
  | build ha hfrom henabled hto hbarren hdead =>
    subst ha
    rw [record_same (by simp) fun h => by rw [hto] at h; cases h] at he
    apply Kept.of_builds
    · rw [hto]
      trivial
    · intro hd
      rw [hdead] at hd
      rw [he, hbarren]
      simp only [settled, hfrom, hd, henabled, Bool.false_or, Bool.not_true, Bool.or_eq_true, decide_eq_true_eq] at hg
      rcases hk.waits (by rw [hfrom]; trivial) hd with hle | ⟨-, i, hi, hslip⟩
      · exact hle
      · -- the last one slipped, so nothing is counted
        simp only [hi, Option.all_some, hslip, Bool.not_true, Bool.false_eq_true, or_false] at hg
        omega
  | builds hfrom hto hbarren hdead ha =>
    rw [record_same ha fun h => absurd h (Builds.not_down hto)] at he
    apply Kept.of_builds hto
    intro hd
    rw [hdead] at hd
    rw [he, hbarren]
    exact hk.builds hfrom hd
  | ends hfrom hto hbarren hdead ha =>
    rw [record, if_neg ha, if_pos ⟨hto, Builds.not_down hfrom⟩] at he
    apply Kept.of_down hto
    refine ⟨_, t.endings, he, rfl, fun hd => ?_⟩
    rw [hdead] at hd
    rw [hbarren]
    exact hk.builds hfrom hd
  | settles ha hfrom hdead hs =>
    subst ha
    rw [record_same (by simp) fun _ => hfrom] at he
    exact hk.settle hg hfrom hdead hs he
  | leaves hdead hsame hto =>
    apply Kept.of_returned hto
    intro hgave
    have halive := hgave.2.1
    rw [hsame, hdead] at halive
    cases halive

/-! ## What the law needs -/

theorem Incarnation.slipped_iff {i : Incarnation} : i.slipped = true ↔ i.produced = false ∧ i.barren = false := by
  simp [Incarnation.slipped]

/-- A count that is lawful where the next pipeline is described is of no slipped one. -/
theorem settled_of_counted {t t' : Counted} (hl : Law t') (hp : t.loop.place = .test_enabled)
    (hto : t'.loop.place = .describing) (hbarren : t'.loop.barren = t.loop.barren) (hdead : t'.loop.dead = t.loop.dead)
    (he : t'.endings = t.endings) : t.settled .go = true := by
  rw [settled, hp]
  dsimp only
  cases hd : t.loop.dead with
  | true => rfl
  | false =>
    have hcounted := hl.counted hto (hdead.trans hd)
    rw [hbarren, he] at hcounted
    cases hlast : t.endings.getLast? with
    | none => simp
    | some i =>
      cases hslip : i.slipped with
      | false => simp [hslip]
      | true =>
        have := streak_slipped hlast hslip
        simp [show t.loop.barren = 0 by omega]

/-- A lawful return is not on the count of a slipped pipeline. -/
theorem settled_of_given_up {t t' : Counted} (hk : Kept t) (hl : Law t') (hp : t.loop.place = .down)
    (hdead : t.loop.dead = false) (hs : t'.loop = t.loop.settle) (he : t'.endings = t.endings) :
    t.settled .go = true := by
  obtain ⟨i, before, hi, hprod, -⟩ := hk.down hp
  have hlast : t.endings.getLast? = some i := by rw [hi, List.getLast?_concat]
  simp only [settled, hp, hdead, hlast, Bool.false_or, Option.all_some, Bool.or_eq_true, Bool.not_eq_true',
    decide_eq_true_eq]
  by_contra hnot
  obtain ⟨hslip, hlimit⟩ := not_or.1 hnot
  rw [Bool.not_eq_false, Incarnation.slipped_iff] at hslip
  have hpr : t.loop.produced = false := hprod ▸ hslip.1
  have hgave : t'.GaveUp := by
    refine ⟨?_, ?_, ?_⟩
    · rw [hs, VideoLoop.settle, hpr]
      exact if_pos (Nat.not_lt.1 hlimit)
    · rw [hs]
      exact hdead
    · simp [he, hi]
  obtain ⟨early, last, hsplit, hlen, hall⟩ := hl.given_up hgave
  -- the last of them is the one that slipped
  have hne : last ≠ [] := by
    rintro rfl
    cases hlen
  have hsame : last.getLast? = some i := by
    rw [← hlast, ← he, hsplit, List.getLast?_append_of_ne_nil _ hne]
  have hbarren := hall i (List.mem_of_getLast? hsame)
  rw [hslip.2] at hbarren
  cases hbarren

/-- From what is kept, only a settled step leads where the law holds. -/
theorem settled_of_law {camera : Nat} {t t' : Counted} {a : Act} (hk : Kept t) (hl : Law t')
    (h : step camera t a = some t') : t.settled a = true := by
  obtain ⟨hprogress, he⟩ := step_some h
  by_cases ha : a = .go
  · subst ha
    cases hprogress with
    | session ha => cases ha
    | beside ha => exact absurd rfl ha.2
    | waits hfrom hto hbarren hdead ha hgo =>
      cases hp : t.loop.place <;> simp only [settled, hp]
      · simp [hgo hp]
      · rw [hp] at hfrom
        exact hfrom.elim
    | build _ hfrom _ hto hbarren hdead =>
      rw [record_same (by simp) fun h => by rw [hto] at h; cases h] at he
      exact settled_of_counted hl hfrom hto hbarren hdead he
    | builds hfrom =>
      cases hp : t.loop.place <;> simp only [settled, hp] <;> (rw [hp] at hfrom; exact hfrom.elim)
    | ends hfrom =>
      cases hp : t.loop.place <;> simp only [settled, hp] <;> (rw [hp] at hfrom; exact hfrom.elim)
    | settles _ hfrom hdead hs =>
      rw [record_same (by simp) fun _ => hfrom] at he
      exact settled_of_given_up hk hl hfrom hdead hs he
    | leaves hdead =>
      cases hp : t.loop.place <;> simp [settled, hp, hdead]
  · cases a <;> first | rfl | exact absurd rfl ha

theorem Kept.new (video_launch_ : List PipelineSpec) : Kept (.new video_launch_) := by
  apply Kept.of_returned rfl
  intro h
  exact absurd rfl h.2.2

/-- In a run the law holds all along exactly when the loop neither gives up on a
pipeline that was taken down before its first frame for another reason than an end
of stream, nor builds the next one with such a pipeline counted. -/
theorem given_up_barren_iff (camera : Nat) (video_launch_ : List PipelineSpec) (as : List Act) (t : Counted)
    (h : Run (step camera) (.new video_launch_) as t) :
    (∀ pre post s, as = pre ++ post → Run (step camera) (.new video_launch_) pre s → Law s) ↔
      Meets (step camera) (fun s a => s.settled a = true) (.new video_launch_) as := by
  apply h.always_iff_meets_of Kept Law (Kept.new video_launch_)
  · exact fun s hk => hk.law
  · exact fun s a s' hk hg hs => hk.step hg hs
  · exact fun s a s' hk hl hs => settled_of_law hk hl hs

/-- How a run ended. -/
def outcome (t : Counted) : Place × Bool × List Incarnation := (t.loop.place, t.loop.dead, t.endings)

theorem outcome_eq {t : Counted} {p : Place} {dead : Bool} {endings : List Incarnation} :
    t.outcome = (p, dead, endings) ↔ t.loop.place = p ∧ t.loop.dead = dead ∧ t.endings = endings := by
  simp [outcome]

/-- A pipeline that does not start, and the wait for the next one. -/
def fails (barren : Nat) : List Act :=
  [.go, .go, .describe, .clear, .start false, .go] ++ List.replicate (30 * barren + 1) .go

/-- A session of a camera that is not there. -/
def absent : List Act := [.start_session] ++ fails 1 ++ fails 2 ++ [.go, .go, .describe, .clear, .start false, .go]

theorem given_up_barren_iff_absent :
    ∃ t, Run (step 0) (.new [VideoLoop.old_launch]) absent t ∧ t.GaveUp ∧
      ∀ pre post s, absent = pre ++ post → Run (step 0) (.new [VideoLoop.old_launch]) pre s → Law s := by
  have hexec : (exec (step 0) (.new [VideoLoop.old_launch]) absent).map outcome =
      some (.returned, false, List.replicate 3 ⟨.failed, false⟩) := by decide +kernel
  obtain ⟨t, ht, hout⟩ := Option.map_eq_some_iff.1 hexec
  obtain ⟨hp, hd, he⟩ := outcome_eq.1 hout
  have hrun := run_of_exec ht
  refine ⟨t, hrun, ⟨hp, hd, by simp [he]⟩, ?_⟩
  exact (given_up_barren_iff 0 [VideoLoop.old_launch] absent t hrun).2 (meets_of_checks (by decide +kernel))

/-- A pipeline that starts, is taken down for a new launch before its first frame,
and the wait for the next one. -/
def relaunches (barren : Nat) : List Act :=
  [.go, .go, .describe, .clear, .start true, .store VideoLoop.new_launch, .set_relaunch, .go, .go, .go, .go] ++
    List.replicate (30 * barren + 1) .go

/-- Three changes of the zoom, each while the pipeline for the one before is starting. -/
def zooming : List Act := [.start_session] ++ relaunches 1 ++ relaunches 2 ++
  [.go, .go, .describe, .clear, .start true, .store VideoLoop.new_launch, .set_relaunch, .go, .go, .go, .go]

/-- Changes of a setting alone give a camera up. -/
theorem given_up_zooming :
    ¬ ∀ camera video_launch_ as t, Run (step camera) (.new video_launch_) as t → Law t := by
  intro hall
  have hexec : (exec (step 0) (.new [VideoLoop.old_launch]) zooming).map outcome =
      some (.returned, false, List.replicate 3 ⟨.relaunched, false⟩) := by decide +kernel
  obtain ⟨t, ht, hout⟩ := Option.map_eq_some_iff.1 hexec
  obtain ⟨hp, hd, he⟩ := outcome_eq.1 hout
  obtain ⟨early, last, hsplit, hlen, hbarren⟩ := (hall 0 [VideoLoop.old_launch] zooming t (run_of_exec ht)).given_up
    ⟨hp, hd, by simp [he]⟩
  obtain ⟨i, hi⟩ := List.exists_mem_of_length_pos (by rw [hlen]; decide : 0 < last.length)
  have hmem : i ∈ t.endings := by
    rw [hsplit]
    exact List.mem_append_right early hi
  rw [he] at hmem
  have hnot := hbarren i hi
  rw [List.eq_of_mem_replicate hmem] at hnot
  cases hnot

end Counted

end CameraStreamer.Secure.VideoLoops
