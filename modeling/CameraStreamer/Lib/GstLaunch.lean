import Mathlib.Tactic.ByContra
import Mathlib.Data.List.Basic
/-!
# Reading launch strings

The grammar of gst-launch, as far as elements and their properties go: elements
stand between `!`, a property is a name, `=` and a value. A quoted value goes to
the next `"` that no backslash escapes. `assignments_iff` says which
properties a text of quoted assignments gives back as they were written.
-/

namespace CameraStreamer.GstLaunch

abbrev Property := List Char × List Char

/-- The first word of an element, its factory or its caps, and the properties. -/
structure Element where
  head : List Char
  properties : List Property
  deriving DecidableEq

/-- Where a reader stands, with what it has of an unfinished word. -/
inductive Place where
  | start
  | head (word : List Char)
  | between
  | name (word : List Char)
  | bare (name value : List Char)
  | bare_escape (name value : List Char)
  | quoted (name value : List Char)
  | quoted_escape (name value : List Char)

structure Reader where
  done : List Element
  element : Element
  place : Place

def is_space (c : Char) : Bool := c = ' ' || (9 ≤ c.toNat && c.toNat ≤ 13)

namespace Reader

def put (r : Reader) (name value : List Char) : Reader where
  done := r.done
  element := { r.element with properties := r.element.properties ++ [(name, value)] }
  place := .between

def close (r : Reader) : Reader := ⟨r.done ++ [r.element], ⟨[], []⟩, .start⟩

def enter (r : Reader) (word : List Char) : Reader := ⟨r.done, ⟨word, []⟩, .between⟩

def at_place (r : Reader) (place : Place) : Reader := { r with place := place }

def step (r : Reader) (c : Char) : Option Reader :=
  match r.place with
  | .start => if is_space c then some r else if c = '!' then none else some (r.at_place (.head [c]))
  | .head w =>
    if is_space c then some (r.enter w)
    else if c = '!' then some (r.enter w).close
    else some (r.at_place (.head (w ++ [c])))
  | .between =>
    if is_space c then some r
    else if c = '!' then some r.close
    else if c = '=' then none
    else some (r.at_place (.name [c]))
  | .name w =>
    -- a word without a value is another element
    if is_space c then some (r.close.enter w)
    else if c = '!' then some (r.close.enter w).close
    else if c = '=' then some (r.at_place (.bare w []))
    else some (r.at_place (.name (w ++ [c])))
  | .bare n v =>
    if v = [] ∧ c = '"' then some (r.at_place (.quoted n []))
    else if is_space c then if v = [] then none else some (r.put n v)
    else if c = '!' then if v = [] then none else some (r.put n v).close
    else if c = '\\' then some (r.at_place (.bare_escape n v))
    else some (r.at_place (.bare n (v ++ [c])))
  | .bare_escape n v => some (r.at_place (.bare n (v ++ [c])))
  | .quoted n v =>
    if c = '"' then some (r.put n v)
    else if c = '\\' then some (r.at_place (.quoted_escape n v))
    else some (r.at_place (.quoted n (v ++ [c])))
  | .quoted_escape n v => some (r.at_place (.quoted n (v ++ [c])))

/-- The elements, if the text may end here. -/
def finish (r : Reader) : Option (List Element) :=
  match r.place with
  | .head w => some (r.done ++ [⟨w, []⟩])
  | .between => some (r.done ++ [r.element])
  | .name w => some (r.done ++ [r.element, ⟨w, []⟩])
  | .bare n v => if v = [] then none else some (r.done ++ [(r.put n v).element])
  | _ => none

def read : Reader → List Char → Option (List Element)
  | r, [] => r.finish
  | r, c :: s => (r.step c).bind fun r => read r s

end Reader

open Reader

/-- The elements of a launch string. -/
def elements (s : List Char) : Option (List Element) := read ⟨[], ⟨[], []⟩, .start⟩ s

/-! ## Words and values -/

/-- Goes into a word as it is. -/
def Plain (c : Char) : Prop := is_space c = false ∧ c ≠ '!' ∧ c ≠ '=' ∧ c ≠ '"' ∧ c ≠ '\\'

/-- Is read as one word. -/
def Word (w : List Char) : Prop := ∀ c ∈ w, is_space c = false ∧ c ≠ '!'

/-- Is read as the name of a property. -/
def Proper (name : List Char) : Prop := name ≠ [] ∧ ∀ c ∈ name, is_space c = false ∧ c ≠ '!' ∧ c ≠ '='

/-- Needs no quotes. -/
def Bare (value : List Char) : Prop := value ≠ [] ∧ ∀ c ∈ value, Plain c

/-- Stays within its quotes. -/
def Clean (value : List Char) : Prop := ∀ c ∈ value, c ≠ '"' ∧ c ≠ '\\'

instance (c : Char) : Decidable (Plain c) :=
  decidable_of_iff ((!is_space c && c != '!' && c != '=' && c != '"' && c != '\\') = true) (by
    simp [Plain, and_assoc])

instance (w : List Char) : Decidable (Word w) :=
  decidable_of_iff ((w.all fun c => !is_space c && c != '!') = true) (by simp [Word])

instance (name : List Char) : Decidable (Proper name) :=
  decidable_of_iff ((name != [] && name.all fun c => !is_space c && c != '!' && c != '=') = true) (by
    simp [Proper, and_assoc])

instance (value : List Char) : Decidable (Bare value) :=
  decidable_of_iff ((value != [] && value.all fun c => decide (Plain c)) = true) (by simp [Bare])

instance (value : List Char) : Decidable (Clean value) :=
  decidable_of_iff ((value.all fun c => c != '"' && c != '\\') = true) (by simp [Clean])

/-- A quoted value up to its end, and what follows. -/
def unquote : List Char → Option (List Char × List Char)
  | [] => none
  | '"' :: s => some ([], s)
  | '\\' :: [] => none
  | '\\' :: c :: s => (unquote s).map fun (v, rest) => (c :: v, rest)
  | c :: s => (unquote s).map fun (v, rest) => (c :: v, rest)

theorem unquote_plain {c : Char} (s : List Char) (hq : c ≠ '"') (he : c ≠ '\\') :
    unquote (c :: s) = (unquote s).map fun (v, rest) => (c :: v, rest) := by
  rw [unquote]
  · exact hq
  · intro h _; exact he h
  · intro c' s' h _; exact he h

/-- Where the output of `unquote` runs ahead of its input by backslashes only, it never meets it again. -/
theorem unquote_ahead (v rest r : List Char) (k : Nat) :
    unquote (v ++ '"' :: rest) ≠ some (List.replicate (k + 1) '\\' ++ v, r) := by
  induction hn : v.length using Nat.strongRecOn generalizing v k with
  | ind n ih =>
  subst hn
  intro h
  match v with
  | [] => simp [unquote, List.replicate_succ] at h
  | c :: v =>
    by_cases hq : c = '"'
    · subst hq
      simp [unquote, List.replicate_succ] at h
    by_cases he : c = '\\'
    swap
    · rw [List.cons_append, unquote_plain _ hq he, Option.map_eq_some_iff] at h
      obtain ⟨⟨w, t⟩, -, hw⟩ := h
      rw [List.replicate_succ, List.cons_append] at hw
      exact he (List.cons.inj (Prod.mk.inj hw).1).1
    subst he
    match v with
    | [] =>
      -- the quote after the value is escaped, and read for a backslash
      simp only [List.cons_append, List.nil_append, unquote, Option.map_eq_some_iff, List.replicate_succ] at h
      obtain ⟨⟨w, t⟩, -, hw⟩ := h
      exact absurd (List.cons.inj (Prod.mk.inj hw).1).1 (by decide)
    | d :: v =>
      simp only [List.cons_append, unquote, Option.map_eq_some_iff, List.replicate_succ] at h
      obtain ⟨⟨w, t⟩, hw, heq⟩ := h
      obtain ⟨hd, hv⟩ := List.cons.inj (Prod.mk.inj heq).1
      subst hd
      refine ih v.length (by simp only [List.length_cons]; omega) v (k + 1) rfl ?_
      have hrep : List.replicate k '\\' ++ '\\' :: '\\' :: v = List.replicate (k + 2) '\\' ++ v := by
        rw [List.replicate_add, List.append_assoc]
        rfl
      have hw' : w = List.replicate (k + 2) '\\' ++ v := hv.trans hrep
      have ht : t = r := (Prod.mk.inj heq).2
      rw [hw, hw', ht]

/-- A value comes back from its quotes just when it stays within them. -/
theorem unquote_iff {v rest r : List Char} : unquote (v ++ '"' :: rest) = some (v, r) ↔ Clean v ∧ r = rest := by
  induction v with
  | nil => simp [unquote, Clean, eq_comm]
  | cons c v ih =>
    by_cases hq : c = '"'
    · subst hq
      simp [unquote, Clean]
    by_cases he : c = '\\'
    · subst he
      have hnot : ¬ Clean ('\\' :: v) := fun h => (h '\\' (by simp)).2 rfl
      simp only [hnot, false_and, iff_false]
      intro h
      match v with
      | [] =>
        simp only [List.cons_append, List.nil_append, unquote, Option.map_eq_some_iff] at h
        obtain ⟨⟨w, t⟩, -, hw⟩ := h
        exact absurd (List.cons.inj (Prod.mk.inj hw).1).1 (by decide)
      | d :: v =>
        simp only [List.cons_append, unquote, Option.map_eq_some_iff] at h
        obtain ⟨⟨w, t⟩, hw, heq⟩ := h
        obtain ⟨hd, hv⟩ := List.cons.inj (Prod.mk.inj heq).1
        subst hd
        have hw' : w = List.replicate (0 + 1) '\\' ++ v := hv
        exact unquote_ahead v rest t 0 (by rw [hw, hw'])
    · have hclean : Clean (c :: v) ↔ Clean v := by simp [Clean, hq, he]
      rw [List.cons_append, unquote_plain _ hq he, hclean, ← ih, Option.map_eq_some_iff]
      constructor
      · rintro ⟨⟨w, t⟩, hw, heq⟩
        cases heq
        exact hw
      · intro h
        exact ⟨_, h, rfl⟩

/-! ## Reading on -/

namespace Reader
variable {r r' : Reader} {es : List Element} {s : List Char} {c : Char}

/-- `es` has the elements that `r` has read, and the properties of the one it is in. -/
def Within (r : Reader) (es : List Element) : Prop :=
  match r.place with
  | .start | .head _ => ∃ rest, es = r.done ++ rest
  | _ => ∃ q rest, es = r.done ++ ⟨r.element.head, r.element.properties ++ q⟩ :: rest

theorem Within.done (h : r.Within es) : ∃ rest, es = r.done ++ rest := by
  unfold Within at h
  split at h
  · exact h
  · exact h
  · obtain ⟨q, rest, rfl⟩ := h
    exact ⟨_, rfl⟩

theorem Within.of_put {n v : List Char} (h : (r.put n v).Within es) :
    ∃ q rest, es = r.done ++ ⟨r.element.head, r.element.properties ++ (n, v) :: q⟩ :: rest := by
  obtain ⟨q, rest, rfl⟩ := h
  exact ⟨q, rest, by simp [put]⟩

theorem Within.of_close (h : r.close.Within es) : ∃ rest, es = r.done ++ r.element :: rest := by
  obtain ⟨rest, rfl⟩ := h
  exact ⟨rest, by simp [close]⟩

theorem Within.of_element (h : ∃ rest, es = r.done ++ r.element :: rest) :
    ∃ q rest, es = r.done ++ ⟨r.element.head, r.element.properties ++ q⟩ :: rest := by
  obtain ⟨rest, rfl⟩ := h
  exact ⟨[], rest, by simp⟩

theorem within_step (hs : r.step c = some r') (h : r'.Within es) : r.Within es := by
  obtain ⟨done, element, place⟩ := r
  have hdone := h.done
  cases place with
  | start =>
    simp only [step] at hs
    split at hs
    · cases hs; exact hdone
    · split at hs
      · cases hs
      · cases hs; exact hdone
  | head w =>
    simp only [step] at hs
    split at hs
    · cases hs; exact hdone
    · split at hs
      · cases hs
        obtain ⟨rest, rfl⟩ := hdone
        exact ⟨⟨w, []⟩ :: rest, by simp [close, enter]⟩
      · cases hs; exact hdone
  | between =>
    simp only [step] at hs
    split at hs
    · cases hs; exact h
    · split at hs
      · cases hs
        exact Within.of_element h.of_close
      · split at hs
        · cases hs
        · cases hs; exact h
  | name w =>
    simp only [step] at hs
    split at hs
    · cases hs
      obtain ⟨rest, rfl⟩ := hdone
      exact ⟨[], rest, by simp [enter, close]⟩
    · split at hs
      · cases hs
        obtain ⟨rest, rfl⟩ := hdone
        exact ⟨[], ⟨w, []⟩ :: rest, by simp [enter, close]⟩
      · split at hs
        · cases hs; exact h
        · cases hs; exact h
  | bare n v =>
    simp only [step] at hs
    split at hs
    · cases hs; exact h
    · split at hs
      · split at hs
        · cases hs
        · cases hs
          obtain ⟨q, rest, rfl⟩ := h.of_put
          exact ⟨_, rest, rfl⟩
      · split at hs
        · split at hs
          · cases hs
          · cases hs
            obtain ⟨rest, rfl⟩ := h.of_close
            exact ⟨_, rest, rfl⟩
        · split at hs
          · cases hs; exact h
          · cases hs; exact h
  | bare_escape n v => cases hs; exact h
  | quoted n v =>
    simp only [step] at hs
    split at hs
    · cases hs
      obtain ⟨q, rest, rfl⟩ := h.of_put
      exact ⟨_, rest, rfl⟩
    · split at hs
      · cases hs; exact h
      · cases hs; exact h
  | quoted_escape n v => cases hs; exact h

theorem within_finish (h : r.finish = some es) : r.Within es := by
  obtain ⟨done, element, place⟩ := r
  cases place with
  | start => cases h
  | head w =>
    cases h
    exact ⟨_, rfl⟩
  | between =>
    cases h
    exact ⟨[], [], by simp⟩
  | name w =>
    cases h
    exact ⟨[], [⟨w, []⟩], by simp⟩
  | bare n v =>
    simp only [finish] at h
    split at h
    · cases h
    · cases h
      exact ⟨_, [], rfl⟩
  | bare_escape n v => cases h
  | quoted n v => cases h
  | quoted_escape n v => cases h

/-- Reading on adds, it takes nothing back. -/
theorem within_read (h : read r s = some es) : r.Within es := by
  induction s generalizing r with
  | nil => exact within_finish h
  | cons c s ih =>
    obtain ⟨r', hs, hr⟩ := Option.bind_eq_some_iff.1 h
    exact within_step hs (ih hr)

/-- Every property that `r` has read, or is reading, has a name. -/
def Names (r : Reader) : Prop :=
  (∀ e ∈ r.done, ∀ p ∈ e.properties, Proper p.1) ∧ (∀ p ∈ r.element.properties, Proper p.1) ∧
    match r.place with
    | .name w => Proper w
    | .bare n _ | .bare_escape n _ | .quoted n _ | .quoted_escape n _ => Proper n
    | _ => True

theorem Names.put {n v : List Char} (h : r.Names) (hn : Proper n) : (r.put n v).Names := by
  refine ⟨h.1, fun p hp => ?_, trivial⟩
  rcases List.mem_append.1 hp with hp | hp
  · exact h.2.1 p hp
  · rw [List.mem_singleton.1 hp]
    exact hn

theorem Names.close (h : r.Names) : r.close.Names := by
  refine ⟨fun e he p hp => ?_, by simp [Reader.close], trivial⟩
  rcases List.mem_append.1 he with he | he
  · exact h.1 e he p hp
  · rw [List.mem_singleton.1 he] at hp
    exact h.2.1 p hp

theorem Names.enter (h : r.Names) (w : List Char) : (r.enter w).Names := ⟨h.1, by simp [Reader.enter], trivial⟩

theorem names_step (hs : r.step c = some r') (h : r.Names) : r'.Names := by
  obtain ⟨done, element, place⟩ := r
  cases place with
  | start =>
    simp only [step] at hs
    split at hs
    · cases hs; exact h
    · split at hs
      · cases hs
      · cases hs; exact ⟨h.1, h.2.1, trivial⟩
  | head w =>
    simp only [step] at hs
    split at hs
    · cases hs; exact h.enter w
    · split at hs
      · cases hs; exact (h.enter w).close
      · cases hs; exact ⟨h.1, h.2.1, trivial⟩
  | between =>
    simp only [step] at hs
    split at hs
    · cases hs; exact h
    · rename_i hspace
      split at hs
      · cases hs; exact h.close
      · rename_i hbang
        split at hs
        · cases hs
        · rename_i heq
          cases hs
          refine ⟨h.1, h.2.1, List.cons_ne_nil c [], fun d hd => ?_⟩
          rw [List.mem_singleton.1 hd]
          exact ⟨Bool.eq_false_iff.2 hspace, hbang, heq⟩
  | name w =>
    simp only [step] at hs
    split at hs
    · cases hs; exact h.close.enter w
    · rename_i hspace
      split at hs
      · cases hs; exact (h.close.enter w).close
      · rename_i hbang
        split at hs
        · cases hs; exact h
        · rename_i heq
          cases hs
          refine ⟨h.1, h.2.1, by simp, fun d hd => ?_⟩
          rcases List.mem_append.1 hd with hd | hd
          · exact h.2.2.2 d hd
          · rw [List.mem_singleton.1 hd]
            exact ⟨Bool.eq_false_iff.2 hspace, hbang, heq⟩
  | bare n v =>
    simp only [step] at hs
    split at hs
    · cases hs; exact h
    · split at hs
      · split at hs
        · cases hs
        · cases hs; exact h.put h.2.2
      · split at hs
        · split at hs
          · cases hs
          · cases hs; exact (h.put h.2.2).close
        · split at hs
          · cases hs; exact h
          · cases hs; exact h
  | bare_escape n v => cases hs; exact h
  | quoted n v =>
    simp only [step] at hs
    split at hs
    · cases hs; exact h.put h.2.2
    · split at hs
      · cases hs; exact h
      · cases hs; exact h
  | quoted_escape n v => cases hs; exact h

theorem names_finish (hs : r.finish = some es) (h : r.Names) : ∀ e ∈ es, ∀ p ∈ e.properties, Proper p.1 := by
  obtain ⟨done, element, place⟩ := r
  cases place with
  | start => cases hs
  | head w =>
    cases hs
    exact ((h.enter w).close).1
  | between =>
    cases hs
    exact h.close.1
  | name w =>
    cases hs
    have hc := ((h.close.enter w).close).1
    simpa [Reader.close, Reader.enter] using hc
  | bare n v =>
    simp only [finish] at hs
    split at hs
    · cases hs
    · cases hs
      exact (h.put h.2.2).close.1
  | bare_escape n v => cases hs
  | quoted n v => cases hs
  | quoted_escape n v => cases hs

/-- Only what can be the name of a property is read as one. -/
theorem names_read (hs : read r s = some es) (h : r.Names) : ∀ e ∈ es, ∀ p ∈ e.properties, Proper p.1 := by
  induction s generalizing r with
  | nil => exact names_finish hs h
  | cons c s ih =>
    obtain ⟨r', hstep, hr⟩ := Option.bind_eq_some_iff.1 hs
    exact ih hr (names_step hstep h)

/-! ## Reading what was written -/

theorem read_head {w : List Char} (x s : List Char) (h : Word x) :
    read (r.at_place (.head w)) (x ++ s) = read (r.at_place (.head (w ++ x))) s := by
  induction x generalizing w with
  | nil => rw [List.append_nil, List.nil_append]
  | cons c x ih =>
    obtain ⟨hspace, hbang⟩ := h c (by simp)
    have hstep : (r.at_place (.head w)).step c = some (r.at_place (.head (w ++ [c]))) := by
      simp [step, at_place, hspace, hbang]
    rw [List.cons_append, read, hstep, Option.bind_some, ih fun d hd => h d (by simp [hd]), List.append_assoc,
      List.singleton_append]

theorem read_name {w : List Char} (x s : List Char) (h : ∀ c ∈ x, is_space c = false ∧ c ≠ '!' ∧ c ≠ '=') :
    read (r.at_place (.name w)) (x ++ s) = read (r.at_place (.name (w ++ x))) s := by
  induction x generalizing w with
  | nil => rw [List.append_nil, List.nil_append]
  | cons c x ih =>
    obtain ⟨hspace, hbang, heq⟩ := h c (by simp)
    have hstep : (r.at_place (.name w)).step c = some (r.at_place (.name (w ++ [c]))) := by
      simp [step, at_place, hspace, hbang, heq]
    rw [List.cons_append, read, hstep, Option.bind_some, ih fun d hd => h d (by simp [hd]), List.append_assoc,
      List.singleton_append]

theorem read_bare {n v : List Char} (x s : List Char) (h : ∀ c ∈ x, Plain c) :
    read (r.at_place (.bare n v)) (x ++ s) = read (r.at_place (.bare n (v ++ x))) s := by
  induction x generalizing v with
  | nil => rw [List.append_nil, List.nil_append]
  | cons c x ih =>
    obtain ⟨hspace, hbang, heq, hquote, hescape⟩ := h c (by simp)
    have hstep : (r.at_place (.bare n v)).step c = some (r.at_place (.bare n (v ++ [c]))) := by
      simp [step, at_place, hspace, hbang, hquote, hescape]
    rw [List.cons_append, read, hstep, Option.bind_some, ih fun d hd => h d (by simp [hd]), List.append_assoc,
      List.singleton_append]

theorem read_quoted {n : List Char} (v s : List Char) :
    read (r.at_place (.quoted n v)) s = (unquote s).bind fun x => read (r.put n (v ++ x.1)) x.2 := by
  induction s using unquote.induct generalizing v with
  | case1 => rfl
  | case2 s =>
    have hstep : (r.at_place (.quoted n v)).step '"' = some (r.put n v) := by simp [step, at_place, put]
    rw [read, hstep, unquote, Option.bind_some, Option.bind_some, List.append_nil]
  | case3 => rfl
  | case4 c s ih =>
    have h1 : (r.at_place (.quoted n v)).step '\\' = some (r.at_place (.quoted_escape n v)) := by simp [step, at_place]
    have h2 : (r.at_place (.quoted_escape n v)).step c = some (r.at_place (.quoted n (v ++ [c]))) := by
      simp [step, at_place]
    rw [read, h1, Option.bind_some, read, h2, Option.bind_some, ih, unquote, Option.bind_map]
    refine congrArg _ (funext fun x => ?_)
    rw [Function.comp_apply, List.append_assoc, List.singleton_append]
  | case5 c s hq he hc ih =>
    have hescape : c ≠ '\\' := by
      rintro rfl
      match s with
      | [] => exact he rfl rfl
      | d :: s => exact hc d s rfl rfl
    have hstep : (r.at_place (.quoted n v)).step c = some (r.at_place (.quoted n (v ++ [c]))) := by
      simp [step, at_place, show c ≠ '"' from hq, hescape]
    rw [read, hstep, Option.bind_some, ih, unquote_plain s hq hescape, Option.bind_map]
    refine congrArg _ (funext fun x => ?_)
    rw [Function.comp_apply, List.append_assoc, List.singleton_append]

/-- A space ends a bare value. -/
theorem read_bare_space {n v : List Char} (s : List Char) (hv : v ≠ []) :
    read (r.at_place (.bare n v)) (' ' :: s) = read (r.put n v) (' ' :: s) := by
  have h1 : (r.at_place (.bare n v)).step ' ' = some (r.put n v) := by simp [step, at_place, hv, put, is_space]
  have h2 : (r.put n v).step ' ' = some (r.put n v) := by simp [step, put, is_space]
  rw [read, h1, read, h2]

/-- A name and its `=`, where a property may begin. -/
theorem read_property {n : List Char} (s : List Char) (hb : r.place = .between) (hn : Proper n) :
    read r (' ' :: n ++ '=' :: s) = read (r.at_place (.bare n [])) s := by
  match n, hn with
  | [], hn => exact absurd rfl hn.1
  | c :: n, hn =>
    obtain ⟨hspace, hbang, heq⟩ := hn.2 c (by simp)
    have h1 : r.step ' ' = some r := by simp [step, hb, is_space]
    have h2 : r.step c = some (r.at_place (.name [c])) := by simp [step, hb, hspace, hbang, heq]
    have h3 : (r.at_place (.name (c :: n))).step '=' = some (r.at_place (.bare (c :: n) [])) := by
      simp [step, at_place, is_space]
    rw [List.cons_append, List.cons_append, read, h1, Option.bind_some, read, h2, Option.bind_some,
      read_name n _ fun d hd => hn.2 d (by simp [hd]), List.singleton_append, read, h3, Option.bind_some]

/-- The first word of an element. -/
theorem read_start {w : List Char} (s : List Char) (hb : r.place = .start) (hw : w ≠ [])
    (h : Word w) : read r (w ++ s) = read (r.at_place (.head w)) s := by
  match w, hw with
  | c :: w, _ =>
    obtain ⟨hspace, hbang⟩ := h c (by simp)
    have hstep : r.step c = some (r.at_place (.head [c])) := by simp [step, hb, hspace, hbang]
    rw [List.cons_append, read, hstep, Option.bind_some, read_head w s fun d hd => h d (by simp [hd])]
    rfl

/-- The next element, up to its first word. -/
theorem read_next {w : List Char} (s : List Char) (hb : r.place = .between) (hw : w ≠ [])
    (h : Word w) :
    read r (" ! ".toList ++ (w ++ s)) = read (r.close.at_place (.head w)) s := by
  have h1 : r.step ' ' = some r := by simp [step, hb, is_space]
  have h2 : r.step '!' = some r.close := by simp [step, hb, is_space]
  have h3 : r.close.step ' ' = some r.close := by simp [step, close, is_space]
  have hlist : " ! ".toList ++ (w ++ s) = ' ' :: '!' :: ' ' :: (w ++ s) := rfl
  rw [hlist, read, h1, Option.bind_some, read, h2, Option.bind_some, read, h3, Option.bind_some,
    read_start s rfl hw h]

/-- A space ends the first word. -/
theorem read_head_space {w : List Char} (s : List Char) :
    read (r.at_place (.head w)) (' ' :: s) = read (r.enter w) (' ' :: s) := by
  have h1 : (r.at_place (.head w)).step ' ' = some (r.enter w) := by simp [step, at_place, enter, is_space]
  have h2 : (r.enter w).step ' ' = some (r.enter w) := by simp [step, enter, is_space]
  rw [read, h1, read, h2]

/-- So does the `!` of the next element. -/
theorem read_head_next {w w' : List Char} (s : List Char) (hw : w' ≠ []) (h : Word w') :
    read (r.at_place (.head w)) (" ! ".toList ++ (w' ++ s)) = read ((r.enter w).close.at_place (.head w')) s := by
  have hspace :
      read (r.at_place (.head w)) (" ! ".toList ++ (w' ++ s)) = read (r.enter w) (" ! ".toList ++ (w' ++ s)) :=
    read_head_space _
  rw [hspace, read_next s rfl hw h]

end Reader

/-! ## Assignments -/

/-- ` name=value` -/
def bare_assignment (p : Property) : List Char := ' ' :: p.1 ++ '=' :: p.2

/-- ` name="value"` -/
def assignment (p : Property) : List Char := ' ' :: p.1 ++ '=' :: '"' :: p.2 ++ ['"']

/-- `r` after the properties `ps` of its element. -/
def Reader.puts (r : Reader) (ps : List Property) : Reader where
  done := r.done
  element := { r.element with properties := r.element.properties ++ ps }
  place := .between

@[simp] theorem Reader.puts_nil {r : Reader} (hb : r.place = .between) : r.puts [] = r := by
  obtain ⟨done, element, place⟩ := r
  cases hb
  simp [Reader.puts]

@[simp] theorem Reader.puts_cons (r : Reader) (p : Property) (ps : List Property) :
    r.puts (p :: ps) = (r.put p.1 p.2).puts ps := by
  simp [Reader.puts, put]

/-- Values of plain characters need no quotes. -/
theorem read_bare_assignments {r : Reader} (hb : r.place = .between) (ps : List Property) (s : List Char)
    (h : ∀ p ∈ ps, Proper p.1 ∧ Bare p.2) :
    Reader.read r (ps.flatMap bare_assignment ++ ' ' :: s) = Reader.read (r.puts ps) (' ' :: s) := by
  induction ps generalizing r with
  | nil => rw [Reader.puts_nil hb, List.flatMap_nil, List.nil_append]
  | cons p ps ih =>
    obtain ⟨hn, hv, hplain⟩ := h p (by simp)
    -- another assignment or the end, a space comes next
    obtain ⟨t, ht⟩ : ∃ t, ps.flatMap bare_assignment ++ ' ' :: s = ' ' :: t := by
      cases ps with
      | nil => exact ⟨s, rfl⟩
      | cons p' ps => exact ⟨_, rfl⟩
    have hlist : (p :: ps).flatMap bare_assignment ++ ' ' :: s = ' ' :: p.1 ++ '=' :: (p.2 ++ ' ' :: t) := by
      rw [← ht]
      simp [bare_assignment]
    have hvalue := read_bare (r := r) (n := p.1) (v := []) p.2 (' ' :: t) hplain
    rw [List.nil_append] at hvalue
    rw [hlist, read_property _ hb hn, hvalue, read_bare_space t hv, ← ht,
      ih rfl fun p' hp' => h p' (by simp [hp']), Reader.puts_cons]

theorem read_assignment {r : Reader} {p : Property} (s : List Char) (hb : r.place = .between) (hn : Proper p.1) :
    read r (assignment p ++ s) = (unquote (p.2 ++ '"' :: s)).bind fun x => read (r.put p.1 x.1) x.2 := by
  have hq : (r.at_place (.bare p.1 [])).step '"' = some (r.at_place (.quoted p.1 [])) := by simp [step, at_place]
  have hlist : assignment p ++ s = ' ' :: p.1 ++ '=' :: ('"' :: (p.2 ++ '"' :: s)) := by simp [assignment]
  rw [hlist, read_property _ hb hn, Reader.read, hq, Option.bind_some, read_quoted]
  rfl

/-- Quoted assignments are read back as they were written, and the rest after
them, if and only if every name is one and every value stays in its quotes. -/
theorem assignments_iff {r : Reader} (hb : r.place = .between) (hr : r.Names) (ps q : List Property) (s : List Char)
    (rest : List Element) :
    read r (ps.flatMap assignment ++ s) =
        some (r.done ++ ⟨r.element.head, r.element.properties ++ (ps ++ q)⟩ :: rest) ↔
      (∀ p ∈ ps, Proper p.1 ∧ Clean p.2) ∧
        read (r.puts ps) s = some (r.done ++ ⟨r.element.head, r.element.properties ++ (ps ++ q)⟩ :: rest) := by
  induction ps generalizing r with
  | nil =>
    simp [hb]
  | cons p ps ih =>
    have hstart : r.element.properties ++ (p :: ps ++ q) = (r.put p.1 p.2).element.properties ++ (ps ++ q) := by
      simp [put]
    rw [List.flatMap_cons, List.append_assoc, hstart, Reader.puts_cons]
    by_cases hn : Proper p.1
    swap
    · -- no reader has a property of this name
      refine ⟨fun h => ?_, fun h => absurd (h.1 p (by simp)).1 hn⟩
      have hmem := names_read h hr ⟨r.element.head, (r.put p.1 p.2).element.properties ++ (ps ++ q)⟩ (by simp)
      exact absurd (hmem p (by simp [put])) hn
    rw [read_assignment _ hb hn]
    constructor
    · intro h
      obtain ⟨⟨x, t⟩, hx, ht⟩ := Option.bind_eq_some_iff.1 h
      -- the value that is read is the first property after those of `r`
      obtain ⟨q', rest', he⟩ := (within_read ht).of_put
      have hvalue : x = p.2 := by
        have hel := (List.cons.inj (List.append_cancel_left he)).1
        have hprops := congrArg Element.properties hel
        simp only [put, List.append_assoc, List.append_cancel_left_eq, List.singleton_append] at hprops
        exact (congrArg Prod.snd (List.cons.inj hprops).1).symm
      subst hvalue
      obtain ⟨hclean, rfl⟩ := unquote_iff.1 hx
      obtain ⟨hps, hread⟩ := (ih rfl (hr.put hn)).1 ht
      refine ⟨fun p' hp' => ?_, hread⟩
      rcases List.mem_cons.1 hp' with rfl | hp'
      · exact ⟨hn, hclean⟩
      · exact hps p' hp'
    · rintro ⟨hps, hread⟩
      rw [unquote_iff.2 ⟨(hps p (by simp)).2, rfl⟩, Option.bind_some]
      exact (ih rfl (hr.put hn)).2 ⟨fun p' hp' => hps p' (by simp [hp']), hread⟩

end CameraStreamer.GstLaunch
