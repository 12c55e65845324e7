import Mathlib.Tactic.Ring
/-!
# Parse loops over a chunked input

A reader appends each chunk it receives to a buffer and then runs a parse loop
over the buffer until the loop needs more input. A `Parser` is one turn of such
a loop, `drain` the loop and `feed` the reader.

Two ways to show that the cuts between the chunks do not matter. A `Stable`
parser takes the same turn when more input follows, so `feed` equals `drain` on
the whole input. A parser that is only well behaved on some inputs has `Frames`:
an input made of frames is read frame by frame, whatever the chunks are.
-/

namespace CameraStreamer.Incremental

/-- What one turn of a parse loop does with the buffered input. -/
inductive Turn (α σ ε : Type) where
  /-- Input was taken off the buffer and the loop goes round again. -/
  | more (evs : List ε) (s : σ) (rest : List α)
  /-- The loop leaves off until more input is appended to `rest`. -/
  | wait (evs : List ε) (s : σ) (rest : List α)
  /-- The loop ends for good. -/
  | stop (evs : List ε)

/-- One turn of a parse loop with state `σ` over input symbols `α`. -/
structure Parser (α σ ε : Type) where
  turn : σ → List α → Turn α σ ε
  /-- A turn that goes round again has consumed input. -/
  shrinks : ∀ {s b evs s' rest}, turn s b = .more evs s' rest → rest.length < b.length

namespace Parser
variable {α σ ε δ : Type} (P : Parser α σ ε)

/-- At most `n` turns. The place is `none` once the loop has ended for good. -/
def loop : Nat → σ → List α → List ε × Option (σ × List α)
  | 0, s, b => ([], some (s, b))
  | n + 1, s, b =>
    match P.turn s b with
    | .more evs s' rest => (evs ++ (loop n s' rest).1, (loop n s' rest).2)
    | .wait evs s' rest => (evs, some (s', rest))
    | .stop evs => (evs, none)

/-- The parse loop; `b.length + 1` turns always reach its end. -/
def drain (s : σ) (b : List α) : List ε × Option (σ × List α) := P.loop (b.length + 1) s b

/-- The reader: append a chunk, drain, and so on. -/
def feed : Option (σ × List α) → List (List α) → List ε × Option (σ × List α)
  | place, [] => ([], place)
  | none, _ :: _ => ([], none)
  | some (s, b), c :: cs =>
    ((P.drain s (b ++ c)).1 ++ (feed (P.drain s (b ++ c)).2 cs).1, (feed (P.drain s (b ++ c)).2 cs).2)

/-! ## The loop -/

theorem loop_enough (n m : Nat) (s : σ) (b : List α) (hn : b.length < n) (hm : b.length < m) :
    P.loop n s b = P.loop m s b := by
  induction n generalizing m s b with
  | zero => omega
  | succ n ih =>
    obtain ⟨m, rfl⟩ : ∃ k, m = k + 1 := ⟨m - 1, by omega⟩
    simp only [loop]
    cases h : P.turn s b with
    | more evs s' rest =>
      have hlt := P.shrinks h
      simp only [ih m s' rest (by omega) (by omega)]
    | wait evs s' rest => rfl
    | stop evs => rfl

theorem drain_more {s s' : σ} {b rest : List α} {evs : List ε} (h : P.turn s b = .more evs s' rest) :
    P.drain s b = (evs ++ (P.drain s' rest).1, (P.drain s' rest).2) := by
  have hlt := P.shrinks h
  unfold drain
  rw [loop, h]
  simp only [P.loop_enough b.length (rest.length + 1) s' rest hlt (by omega)]

theorem drain_wait {s s' : σ} {b rest : List α} {evs : List ε} (h : P.turn s b = .wait evs s' rest) :
    P.drain s b = (evs, some (s', rest)) := by
  unfold drain; rw [loop, h]

theorem drain_stop {s : σ} {b : List α} {evs : List ε} (h : P.turn s b = .stop evs) :
    P.drain s b = (evs, none) := by
  unfold drain; rw [loop, h]

/-- Buffers that agree on the next turn drain alike. -/
theorem drain_congr {s : σ} {b b' : List α} (h : P.turn s b = P.turn s b') : P.drain s b = P.drain s b' := by
  cases ht : P.turn s b' with
  | more evs s' rest => rw [P.drain_more (h.trans ht), P.drain_more ht]
  | wait evs s' rest => rw [P.drain_wait (h.trans ht), P.drain_wait ht]
  | stop evs => rw [P.drain_stop (h.trans ht), P.drain_stop ht]

theorem feed_none (cs : List (List α)) : P.feed none cs = ([], none) := by
  cases cs <;> rfl

/-! ## Invariants -/

/-- What holds of the events so far and the state, and is kept by every turn,
holds after the loop; `J` is what is left of it once the loop has ended. -/
theorem drain_inv (I : List ε → σ → Prop) (J : List ε → Prop)
    (hmore : ∀ {es s b evs s' rest}, I es s → P.turn s b = .more evs s' rest → I (es ++ evs) s')
    (hwait : ∀ {es s b evs s' rest}, I es s → P.turn s b = .wait evs s' rest → I (es ++ evs) s')
    (hstop : ∀ {es s b evs}, I es s → P.turn s b = .stop evs → J (es ++ evs))
    (es : List ε) (s : σ) (b : List α) (h : I es s) :
    match (P.drain s b).2 with
    | some (s', _) => I (es ++ (P.drain s b).1) s'
    | none => J (es ++ (P.drain s b).1) := by
  induction hn : b.length using Nat.strongRecOn generalizing es s b with
  | ind n ih =>
    cases ht : P.turn s b with
    | more evs s' rest =>
      have hlt := P.shrinks ht
      have := ih rest.length (by omega) (es ++ evs) s' rest (hmore h ht) rfl
      rw [P.drain_more ht]
      simpa only [List.append_assoc] using this
    | wait evs s' rest => rw [P.drain_wait ht]; exact hwait h ht
    | stop evs => rw [P.drain_stop ht]; exact hstop h ht

/-- The same over every chunk of an input. -/
theorem feed_inv (I : List ε → σ → Prop) (J : List ε → Prop)
    (hmore : ∀ {es s b evs s' rest}, I es s → P.turn s b = .more evs s' rest → I (es ++ evs) s')
    (hwait : ∀ {es s b evs s' rest}, I es s → P.turn s b = .wait evs s' rest → I (es ++ evs) s')
    (hstop : ∀ {es s b evs}, I es s → P.turn s b = .stop evs → J (es ++ evs))
    (cs : List (List α)) (es : List ε) (s : σ) (b : List α) (h : I es s) :
    match (P.feed (some (s, b)) cs).2 with
    | some (s', _) => I (es ++ (P.feed (some (s, b)) cs).1) s'
    | none => J (es ++ (P.feed (some (s, b)) cs).1) := by
  induction cs generalizing es s b with
  | nil => simpa [feed] using h
  | cons c cs ih =>
    have hd := P.drain_inv I J hmore hwait hstop es s (b ++ c) h
    simp only [feed]
    cases hp : (P.drain s (b ++ c)).2 with
    | none =>
      rw [hp] at hd
      simpa [feed_none] using hd
    | some q =>
      rw [hp] at hd
      have := ih (es ++ (P.drain s (b ++ c)).1) q.1 q.2 hd
      simpa only [List.append_assoc] using this

/-! ## Stable parsers -/

/-- More input after the buffer does not change the turn: a turn that consumes
is the same, one that ends ends too, with the same events as far as `obs` sees
them, and one that waits left a buffer that stands for the old. -/
def Stable (obs : ε → Option δ) : Prop := ∀ s b x,
  match P.turn s b with
  | .more evs s' rest => P.turn s (b ++ x) = .more evs s' (rest ++ x)
  | .wait evs s' rest => evs = [] ∧ s' = s ∧ P.turn s (rest ++ x) = P.turn s (b ++ x)
  | .stop evs => ∃ evs', P.turn s (b ++ x) = .stop evs' ∧ evs'.filterMap obs = evs.filterMap obs

/-- The observed events of a result, and its place. -/
def view (obs : ε → Option δ) (r : List ε × Option (σ × List α)) : List δ × Option (σ × List α) :=
  (r.1.filterMap obs, r.2)

variable {P} {obs : ε → Option δ}

/-- Draining in two goes is draining once. -/
theorem Stable.drain_append (hP : P.Stable obs) (s : σ) (b x : List α) :
    view obs (P.drain s (b ++ x)) =
      match (P.drain s b).2 with
      | some (s', b') => view obs ((P.drain s b).1 ++ (P.drain s' (b' ++ x)).1, (P.drain s' (b' ++ x)).2)
      | none => view obs (P.drain s b) := by
  induction hn : b.length using Nat.strongRecOn generalizing s b with
  | ind n ih =>
    have hs := hP s b x
    cases ht : P.turn s b with
    | more evs s' rest =>
      rw [ht] at hs
      have hlt := P.shrinks ht
      have := ih rest.length (by omega) s' rest rfl
      simp only [view] at this ⊢
      rw [P.drain_more hs, P.drain_more ht]
      cases hq : (P.drain s' rest).2 with
      | none => rw [hq] at this; simp_all [view]
      | some q => rw [hq] at this; simp_all [view]
    | wait evs s' rest =>
      rw [ht] at hs
      obtain ⟨rfl, rfl, he⟩ := hs
      rw [P.drain_wait ht]
      simp [P.drain_congr he]
    | stop evs =>
      rw [ht] at hs
      obtain ⟨evs', he, hobs⟩ := hs
      rw [P.drain_stop ht, P.drain_stop he]
      simp only [view, hobs]

/-- The cuts between the chunks do not matter. -/
theorem Stable.feed_eq_drain (hP : P.Stable obs) (s : σ) (b c : List α) (cs : List (List α)) :
    view obs (P.feed (some (s, b)) (c :: cs)) = view obs (P.drain s (b ++ (c :: cs).flatten)) := by
  induction cs generalizing s b c with
  | nil => simp [feed]
  | cons d ds ih =>
    have hsplit : b ++ (c :: d :: ds).flatten = b ++ c ++ (d :: ds).flatten := by simp
    rw [feed, hsplit, hP.drain_append s (b ++ c) (d :: ds).flatten]
    cases hp : (P.drain s (b ++ c)).2 with
    | none => simp only [feed_none, List.append_nil, view]; rw [← hp]
    | some q =>
      have := ih q.1 q.2 d
      simp only [view, Prod.mk.injEq] at this ⊢
      simp [this.1, this.2]

/-! ## Inputs made of frames -/

variable (P) in
/-- From state `s` the input `u` is one frame: it is taken whole, whatever
follows, and the loop waits at each of its proper initial parts of at least
`least` symbols, leaving `norm` of that part in the buffer. -/
structure Frame (norm : List α → List α) (least : Nat) (s : σ) (u : List α) (evs : List ε) (s' : σ) : Prop where
  whole : ∀ x, P.turn s (u ++ x) = .more evs s' x
  part : ∀ p, p <+: u → p ≠ u → least ≤ p.length → P.turn s p = .wait [] s (norm p)

variable (P) in
/-- The input `w` is a list of frames, then a `tail` at every initial part of
which the loop waits. `least` restricts the first frame only. -/
inductive Frames (norm : List α → List α) : Nat → σ → List α → List ε → σ → List α → Prop
  | tail {least s t} : (∀ p, p <+: t → least ≤ p.length → P.turn s p = .wait [] s (norm p)) →
      Frames norm least s t [] s t
  | cons {least s u evs s' w evs' s'' t} : P.Frame norm least s u evs s' → Frames norm 0 s' w evs' s'' t →
      Frames norm least s (u ++ w) (evs ++ evs') s'' t

/-- Draining an initial part `b` of framed input leaves framed input. -/
theorem Frames.drain {norm : List α → List α} {least : Nat} {s s' : σ} {w t : List α} {evs : List ε}
    (h : P.Frames norm least s w evs s' t) (b y : List α) (hb : b ++ y = w) (hl : least ≤ b.length) :
    ∃ e₁ e₂ s₁ p least', P.drain s b = (e₁, some (s₁, norm p)) ∧ evs = e₁ ++ e₂ ∧ least' ≤ p.length ∧
      P.turn s₁ p = .wait [] s₁ (norm p) ∧ P.Frames norm least' s₁ (p ++ y) e₂ s' t := by
  induction h generalizing b with
  | @tail least s t hw =>
    have ht := hw b ⟨y, hb⟩ hl
    exact ⟨[], [], s, b, least, P.drain_wait ht, rfl, hl, ht, by rw [hb]; exact .tail hw⟩
  | @cons least s u evs s' w evs' s'' t hf hrest ih =>
    rcases List.append_eq_append_iff.1 hb with ⟨a, rfl, rfl⟩ | ⟨a, rfl, rfl⟩
    · by_cases ha : a = []
      · subst ha
        obtain ⟨e₁, e₂, s₁, p, l, hd, he, hp, ht, hfr⟩ := ih [] rfl (by simp)
        have hw := hf.whole []
        rw [List.append_nil, List.append_nil] at hw
        exact ⟨evs ++ e₁, e₂, s₁, p, l, by rw [P.drain_more hw, hd], by rw [he, List.append_assoc], hp, ht, hfr⟩
      · have ht := hf.part b ⟨a, rfl⟩ (by simpa using ha) hl
        exact ⟨[], evs ++ evs', s, b, least, P.drain_wait ht, rfl, hl, ht,
          by rw [← List.append_assoc]; exact .cons hf hrest⟩
    · obtain ⟨e₁, e₂, s₁, p, l, hd, he, hp, ht, hfr⟩ := ih a rfl (by simp)
      exact ⟨evs ++ e₁, e₂, s₁, p, l, by rw [P.drain_more (hf.whole a), hd],
        by rw [he, List.append_assoc], hp, ht, hfr⟩

/-- Framed input is read frame by frame, however it is cut into chunks. -/
theorem Frames.feed {norm : List α → List α} (hn : ∀ s b x, P.turn s (norm b ++ x) = P.turn s (b ++ x))
    {least : Nat} {s s' : σ} {w t : List α} {evs : List ε} (h : P.Frames norm least s w evs s' t)
    (p : List α) (cs : List (List α)) (hp : P.turn s p = .wait [] s (norm p)) (hw : p ++ cs.flatten = w)
    (hl : ∀ c ∈ cs.head?, least ≤ (p ++ c).length) :
    P.feed (some (s, norm p)) cs = (evs, some (s', norm t)) := by
  induction cs generalizing least s p w evs with
  | nil =>
    simp only [List.flatten_nil, List.append_nil] at hw
    subst hw
    cases h with
    | tail => rfl
    | cons hf hrest => rw [hf.whole] at hp; cases hp
  | cons c cs ih =>
    have hb : (p ++ c) ++ cs.flatten = w := by simpa using hw
    obtain ⟨e₁, e₂, s₁, q, l, hd, rfl, hq, ht, hfr⟩ := h.drain (p ++ c) cs.flatten hb (hl c rfl)
    have hd' : P.drain s (norm p ++ c) = (e₁, some (s₁, norm q)) := by rw [P.drain_congr (hn s p c), hd]
    have := ih hfr q ht rfl (fun d _ => by simp; omega)
    simp only [Parser.feed, hd', this]

/-- A stable parser waits inside every frame it takes whole. -/
theorem Stable.frame (hP : P.Stable obs) (norm : List α → List α)
    (hnorm : ∀ {s b evs s' rest}, P.turn s b = .wait evs s' rest → rest = norm b)
    {s s' : σ} {u : List α} {evs : List ε} (hu : ∀ x, P.turn s (u ++ x) = .more evs s' x) :
    P.Frame norm 0 s u evs s' where
  whole := hu
  part p hp hne _ := by
    obtain ⟨y, rfl⟩ := hp
    have hs := hP s p y
    have hw := hu []
    rw [List.append_nil] at hw
    cases ht : P.turn s p with
    | more e s₁ rest =>
      rw [ht] at hs
      rw [hs] at hw
      simp only [Turn.more.injEq, List.append_eq_nil_iff] at hw
      simp [hw.2.2.2] at hne
    | wait e s₁ rest =>
      rw [ht] at hs
      obtain ⟨rfl, rfl, -⟩ := hs
      rw [hnorm ht]
    | stop e =>
      rw [ht] at hs
      obtain ⟨e', he, -⟩ := hs
      rw [he] at hw; cases hw

/-! ## Acting on the events -/

section Through
variable {τ β : Type}

/-- Each event in turn is acted on by `h`, which has a state of its own. -/
def handle (h : τ → ε → List β × τ) : τ → List ε → List β × τ
  | t, [] => ([], t)
  | t, e :: es => ((h t e).1 ++ (handle h (h t e).2 es).1, (handle h (h t e).2 es).2)

theorem handle_append (h : τ → ε → List β × τ) (t : τ) (es es' : List ε) :
    handle h t (es ++ es') =
      ((handle h t es).1 ++ (handle h (handle h t es).2 es').1, (handle h (handle h t es).2 es').2) := by
  induction es generalizing t with
  | nil => rfl
  | cons e es ih => simp only [List.cons_append, handle, ih, List.append_assoc]

variable (P) in
/-- The loop that acts on each event before its next turn. -/
def through (h : τ → ε → List β × τ) : Parser α (σ × τ) β where
  turn st b :=
    match P.turn st.1 b with
    | .more evs s' rest => .more (handle h st.2 evs).1 (s', (handle h st.2 evs).2) rest
    | .wait evs s' rest => .wait (handle h st.2 evs).1 (s', (handle h st.2 evs).2) rest
    | .stop evs => .stop (handle h st.2 evs).1
  shrinks := by
    intro st b evs s' rest ht
    cases hp : P.turn st.1 b with
    | more evs' s'' rest' =>
      rw [hp] at ht
      cases ht
      exact P.shrinks hp
    | wait evs' s'' rest' => rw [hp] at ht; cases ht
    | stop evs' => rw [hp] at ht; cases ht

/-- Acting during the loop is acting on its events after it. -/
theorem through_drain (h : τ → ε → List β × τ) (s : σ) (t : τ) (b : List α) :
    (P.through h).drain (s, t) b =
      ((handle h t (P.drain s b).1).1,
        (P.drain s b).2.map fun q => ((q.1, (handle h t (P.drain s b).1).2), q.2)) := by
  induction hn : b.length using Nat.strongRecOn generalizing s t b with
  | ind n ih =>
    cases hp : P.turn s b with
    | more evs s' rest =>
      have hlt := P.shrinks hp
      have hthrough : (P.through h).turn (s, t) b = .more (handle h t evs).1 (s', (handle h t evs).2) rest := by
        simp only [through, hp]
      have hrest := ih rest.length (by omega) s' (handle h t evs).2 rest rfl
      rw [Parser.drain_more _ hthrough, P.drain_more hp, hrest, handle_append]
    | wait evs s' rest =>
      have hthrough : (P.through h).turn (s, t) b = .wait (handle h t evs).1 (s', (handle h t evs).2) rest := by
        simp only [through, hp]
      rw [Parser.drain_wait _ hthrough, P.drain_wait hp]
      rfl
    | stop evs =>
      have hthrough : (P.through h).turn (s, t) b = .stop (handle h t evs).1 := by simp only [through, hp]
      rw [Parser.drain_stop _ hthrough, P.drain_stop hp]
      rfl

theorem through_feed (h : τ → ε → List β × τ) (s : σ) (t : τ) (b : List α) (cs : List (List α)) :
    (P.through h).feed (some ((s, t), b)) cs =
      ((handle h t (P.feed (some (s, b)) cs).1).1,
        (P.feed (some (s, b)) cs).2.map fun q => ((q.1, (handle h t (P.feed (some (s, b)) cs).1).2), q.2)) := by
  induction cs generalizing s t b with
  | nil => rfl
  | cons c cs ih =>
    simp only [feed, through_drain]
    cases hd : (P.drain s (b ++ c)).2 with
    | none => simp [feed_none]
    | some q =>
      obtain ⟨s', b'⟩ := q
      simp only [Option.map_some, ih s' _ b', handle_append]

end Through

end Parser

end CameraStreamer.Incremental
