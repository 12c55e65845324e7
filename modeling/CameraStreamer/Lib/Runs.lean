import Mathlib.Tactic.Ring
/-!
# Runs of a state machine

A machine is a function `step` that says what an action does to a state, or
`none` where the action cannot happen. A theorem about every `Run` holds for
every order of the actions, which is how interleavings of threads are stated.
-/

namespace CameraStreamer.Runs

variable {σ α : Type} (step : σ → α → Option σ)

/-- The actions `as`, each possible where it happens, lead from `init` to the state. -/
inductive Run (init : σ) : List α → σ → Prop
  | nil : Run init [] init
  | snoc {as s a s'} : Run init as s → step s a = some s' → Run init (as ++ [a]) s'

/-- The run, computed. -/
def exec : σ → List α → Option σ
  | s, [] => some s
  | s, a :: as => (step s a).bind fun s' => exec s' as

/-- Every action of `as` satisfies `G` in the state it happens in. -/
def Meets (G : σ → α → Prop) (init : σ) (as : List α) : Prop :=
  ∀ pre a post s, as = pre ++ a :: post → Run step init pre s → G s a

/-- `Meets` for a test `g`, computed along the run. -/
def checks (g : σ → α → Bool) : σ → List α → Bool
  | _, [] => true
  | s, a :: as => g s a && ((step s a).elim true fun s' => checks g s' as)

variable {step}

theorem exec_append (s : σ) (as bs : List α) : exec step s (as ++ bs) = (exec step s as).bind (exec step · bs) := by
  induction as generalizing s with
  | nil => rfl
  | cons a as ih =>
    simp only [List.cons_append, exec]
    cases step s a with
    | none => rfl
    | some s' => exact ih s'

theorem Run.exec {init : σ} {as : List α} {s : σ} (h : Run step init as s) : exec step init as = some s := by
  induction h with
  | nil => rfl
  | snoc _ hs ih => rw [exec_append, ih]; simp [Runs.exec, hs]

theorem Run.trans {s t u : σ} {as bs : List α} (h : Run step s as t) (h' : Run step t bs u) :
    Run step s (as ++ bs) u := by
  induction h' with
  | nil => simpa using h
  | snoc _ hs ih => rw [← List.append_assoc]; exact .snoc ih hs

theorem run_of_exec {s t : σ} {as : List α} (h : Runs.exec step s as = some t) : Run step s as t := by
  induction as generalizing s with
  | nil => simp only [Runs.exec, Option.some.injEq] at h; subst h; exact .nil
  | cons a as ih =>
    obtain ⟨u, hu, hrest⟩ := Option.bind_eq_some_iff.1 h
    exact (Run.snoc .nil hu).trans (ih hrest)

/-- A run takes its actions to one state only. -/
theorem Run.unique {init s t : σ} {as : List α} (h : Run step init as s) (h' : Run step init as t) : s = t :=
  Option.some.inj (h.exec.symm.trans h'.exec)

/-- In a run, the action after a first part is possible where that part ends. -/
theorem Run.next {init s t : σ} {pre post : List α} {a : α} (h : Run step init (pre ++ a :: post) s)
    (ht : Run step init pre t) : ∃ t', step t a = some t' := by
  have he := h.exec
  rw [exec_append, ht.exec, Option.bind_some, Runs.exec] at he
  obtain ⟨t', ht', -⟩ := Option.bind_eq_some_iff.1 he
  exact ⟨t', ht'⟩

/-- The rest of a run starts where its first part ends. -/
theorem Run.rest {init s t : σ} {pre post : List α} (h : Run step init (pre ++ post) s) (ht : Run step init pre t) :
    Run step t post s := by
  have he := h.exec
  rw [exec_append, ht.exec] at he
  exact run_of_exec he

/-- A part of the state that only some actions touch takes a run of its own, over those actions. -/
theorem Run.project {τ β : Type} {step' : τ → β → Option τ} {init s : σ} {as : List α} (h : Run step init as s)
    (view : σ → τ) (own : α → Option β)
    (hother : ∀ s a s', step s a = some s' → own a = none → view s' = view s)
    (hown : ∀ s a s' b, step s a = some s' → own a = some b → step' (view s) b = some (view s')) :
    Run step' (view init) (as.filterMap own) (view s) := by
  induction h with
  | nil => exact .nil
  | @snoc as s a s' hr hs ih =>
    rw [List.filterMap_append]
    cases ha : own a with
    | none => simpa [ha, hother s a s' hs ha] using ih
    | some b => simpa [ha] using ih.snoc (hown s a s' b hs ha)

/-- What every action keeps holds after every run, whatever the actions before it. -/
theorem Run.inv_trace {init : σ} (I : List α → σ → Prop) (h0 : I [] init)
    (hs : ∀ as s a s', Run step init as s → I as s → step s a = some s' → I (as ++ [a]) s')
    {as : List α} {s : σ} (h : Run step init as s) : I as s := by
  induction h with
  | nil => exact h0
  | snoc hr ha ih => exact hs _ _ _ _ hr ih ha

/-- The same for runs whose actions all satisfy `P`. -/
theorem Run.inv_trace_of {init : σ} {P : α → Prop} (I : List α → σ → Prop) (h0 : I [] init)
    (hs : ∀ as s a s', Run step init as s → (∀ b ∈ as, P b) → I as s → P a → step s a = some s' → I (as ++ [a]) s')
    {as : List α} {s : σ} (h : Run step init as s) (hP : ∀ a ∈ as, P a) : I as s := by
  refine h.inv_trace (fun as s => (∀ a ∈ as, P a) → I as s) (fun _ => h0) ?_ hP
  intro as s a s' hr hI ha hP
  obtain ⟨hP, hPa⟩ := List.forall_mem_append.1 hP
  exact hs as s a s' hr hP (hI hP) (hPa a (List.mem_singleton_self a)) ha

theorem Run.inv {init : σ} (I : σ → Prop) (h0 : I init) (hs : ∀ s a s', I s → step s a = some s' → I s')
    {as : List α} {s : σ} (h : Run step init as s) : I s :=
  h.inv_trace (fun _ => I) h0 fun _ s a s' _ => hs s a s'

theorem Meets.left {G : σ → α → Prop} {init : σ} {as bs : List α} (h : Meets step G init (as ++ bs)) :
    Meets step G init as := fun pre a post s he hr =>
  h pre a (post ++ bs) s (by rw [he, List.append_assoc, List.cons_append]) hr

theorem Meets.last {G : σ → α → Prop} {init s : σ} {as : List α} {a : α} (h : Meets step G init (as ++ [a]))
    (hr : Run step init as s) : G s a := h as a [] s rfl hr

theorem Meets.nil {G : σ → α → Prop} {init : σ} : Meets step G init [] := by
  intro pre a post s he
  cases pre <;> cases he

theorem Meets.snoc {G : σ → α → Prop} {init s : σ} {as : List α} {a : α} (h : Meets step G init as)
    (hr : Run step init as s) (ha : G s a) : Meets step G init (as ++ [a]) := by
  intro pre b post t he ht
  rcases List.eq_nil_or_concat post with rfl | ⟨post', c, rfl⟩
  · obtain ⟨rfl, rfl⟩ := List.append_singleton_inj.1 he
    rw [ht.unique hr]
    exact ha
  · rw [List.concat_eq_append, ← List.cons_append, ← List.append_assoc] at he
    obtain ⟨rfl, -⟩ := List.append_singleton_inj.1 he
    exact h pre b post' t rfl ht

theorem meets_of_forall {P : α → Prop} {init : σ} {as : List α} (h : ∀ a ∈ as, P a) :
    Meets step (fun _ => P) init as := fun pre a post s he _ => h a (by simp [he])

theorem Meets.and {G H : σ → α → Prop} {init : σ} {as : List α} (h : Meets step G init as)
    (h' : Meets step H init as) : Meets step (fun s a => G s a ∧ H s a) init as := fun pre a post s he hr =>
  ⟨h pre a post s he hr, h' pre a post s he hr⟩

/-- What every action that satisfies `G` keeps holds after every run whose
actions all satisfy `G`. -/
theorem Run.inv_meets {init : σ} {G : σ → α → Prop} (I : σ → Prop) (h0 : I init)
    (hs : ∀ s a s', I s → G s a → step s a = some s' → I s')
    {as : List α} {s : σ} (h : Run step init as s) (hm : Meets step G init as) : I s := by
  induction h with
  | nil => exact h0
  | snoc hr ha ih => exact hs _ _ _ (ih hm.left) (hm.last hr) ha

/-- A run is in `A` all along if and only if every action of it satisfies `G`, where
such actions keep some `K` within `A`, and from `K` no other action leads to `A`. -/
theorem Run.always_iff_meets_of {init t : σ} {G : σ → α → Prop} {as : List α} (h : Run step init as t) (K A : σ → Prop)
    (h0 : K init) (hKA : ∀ s, K s → A s) (hK : ∀ s a s', K s → G s a → step s a = some s' → K s')
    (hG : ∀ s a s', K s → A s' → step s a = some s' → G s a) :
    (∀ pre post s, as = pre ++ post → Run step init pre s → A s) ↔ Meets step G init as := by
  constructor
  · intro hall
    have hkept : ∀ {pre s}, Run step init pre s → ∀ post, as = pre ++ post → K s := by
      intro pre s hr
      induction hr with
      | nil => exact fun _ _ => h0
      | @snoc pre s a s' hr hs ih =>
        intro post he
        have hk := ih (a :: post) (by rw [he, List.append_assoc, List.singleton_append])
        exact hK s a s' hk (hG s a s' hk (hall _ post s' he (hr.snoc hs)) hs) hs
    intro pre a post s he hr
    subst he
    -- the state after the action is on the way too, and says that the action was good
    obtain ⟨s', hs'⟩ := h.next hr
    have hpost : pre ++ a :: post = (pre ++ [a]) ++ post := by simp
    exact hG s a s' (hkept hr (a :: post) rfl) (hall _ post s' hpost (hr.snoc hs')) hs'
  · intro hm pre post s he hr
    subst he
    exact hKA s (hr.inv_meets K h0 hK hm.left)

/-- The same where an action keeps `A` just when it satisfies `G`. -/
theorem Run.always_iff_meets {init t : σ} {G : σ → α → Prop} {as : List α} (h : Run step init as t) (I A : σ → Prop)
    (hI0 : I init) (hA0 : A init) (hI : ∀ s a s', I s → step s a = some s' → I s')
    (hA : ∀ s a s', I s → A s → step s a = some s' → (A s' ↔ G s a)) :
    (∀ pre post s, as = pre ++ post → Run step init pre s → A s) ↔ Meets step G init as := by
  apply h.always_iff_meets_of (fun s => I s ∧ A s) A ⟨hI0, hA0⟩
  · exact fun s hk => hk.2
  · exact fun s a s' hk hg hs => ⟨hI s a s' hk.1 hs, (hA s a s' hk.1 hk.2 hs).2 hg⟩
  · exact fun s a s' hk ha hs => (hA s a s' hk.1 hk.2 hs).1 ha

/-- A machine that never stops can take any actions. -/
theorem exists_run (hstep : ∀ s a, ∃ s', step s a = some s') (init : σ) (as : List α) : ∃ t, Run step init as t := by
  induction as generalizing init with
  | nil => exact ⟨init, .nil⟩
  | cons a as ih =>
    obtain ⟨s, hs⟩ := hstep init a
    obtain ⟨t, ht⟩ := ih s
    exact ⟨t, (Run.snoc .nil hs).trans ht⟩

/-- The same for any actions, where the machine never stops. -/
theorem always_iff_meets {init : σ} {G : σ → α → Prop} (I A : σ → Prop) (hstep : ∀ s a, ∃ s', step s a = some s')
    (hI0 : I init) (hA0 : A init) (hI : ∀ s a s', I s → step s a = some s' → I s')
    (hA : ∀ s a s', I s → A s → step s a = some s' → (A s' ↔ G s a)) (as : List α) :
    (∀ pre post s, as = pre ++ post → Run step init pre s → A s) ↔ Meets step G init as := by
  obtain ⟨t, ht⟩ := exists_run hstep init as
  exact ht.always_iff_meets I A hI0 hA0 hI hA

theorem meets_of_checks {g : σ → α → Bool} {init : σ} {as : List α} (h : checks step g init as = true) :
    Meets step (fun s a => g s a = true) init as := by
  induction as generalizing init with
  | nil =>
    intro pre a post s he
    cases pre <;> cases he
  | cons b bs ih =>
    simp only [checks, Bool.and_eq_true] at h
    intro pre a post s he hr
    cases pre with
    | nil =>
      cases he
      rw [hr.unique .nil]
      exact h.1
    | cons c pre =>
      cases he
      obtain ⟨t, ht, hpre⟩ := Option.bind_eq_some_iff.1 hr.exec
      rw [ht] at h
      exact ih h.2 pre a post s rfl (run_of_exec hpre)

end CameraStreamer.Runs
