import Mathlib.Data.List.Chain
/-!
# The last occurrence of a list in another

`rfind` is the place where it starts, and `replace` puts another list there. A
text put together from pieces has its last piece where it was put, as long as no
later piece holds the end of it.
-/

namespace CameraStreamer.Find

variable {α : Type} [DecidableEq α]

/-- Where the last occurrence of `p` starts. -/
def rfind (p : List α) : List α → Option Nat
  | [] => if p = [] then some 0 else none
  | x :: l =>
    match rfind p l with
    | some i => some (i + 1)
    | none => if p <+: x :: l then some 0 else none

omit [DecidableEq α] in
/-- The list with the `n` elements from `i` on replaced by `r`. -/
def replace (i n : Nat) (r l : List α) : List α := l.take i ++ r ++ l.drop (i + n)

theorem rfind_eq_none {p l : List α} : rfind p l = none ↔ ¬ p <:+: l := by
  induction l with
  | nil =>
    rw [rfind, List.infix_nil]
    split <;> simp_all
  | cons x l ih =>
    rw [rfind, List.infix_cons_iff]
    cases h : rfind p l with
    | some i =>
      have hl : p <:+: l := by
        by_contra hn
        rw [ih.2 hn] at h
        cases h
      simp [hl]
    | none =>
      have hl := ih.1 h
      split <;> simp_all

omit [DecidableEq α] in
/-- An occurrence of `p` past its own start ends behind it. -/
theorem not_infix_tail {q post : List α} {y : α} (hy : y ∉ post) : ¬ q ++ [y] <:+: (q ++ [y] ++ post).tail := by
  rintro ⟨a, b, h⟩
  apply hy
  -- the place of the later occurrence's last element lies in `post`
  have hl := congrArg (·[a.length + q.length]?) h
  simp only [List.getElem?_tail] at hl
  rw [List.append_assoc, List.append_assoc, List.getElem?_append_right (by omega), Nat.add_sub_cancel_left,
    List.getElem?_append_right (Nat.le_refl _), Nat.sub_self, List.singleton_append, List.getElem?_cons_zero,
    List.getElem?_append_right (by simp)] at hl
  exact List.mem_of_getElem? hl.symm

/-- A piece is found where it was put when its last element does not come again. -/
theorem rfind_append {pre q post : List α} {y : α} (hy : y ∉ post) :
    rfind (q ++ [y]) (pre ++ (q ++ [y]) ++ post) = some pre.length := by
  induction pre with
  | nil =>
    -- nothing further on, so the search settles for the start
    have ht := rfind_eq_none.2 (not_infix_tail (q := q) hy)
    obtain ⟨x, l, he⟩ : ∃ x l, q ++ [y] ++ post = x :: l := List.exists_cons_of_ne_nil (by simp)
    rw [he, List.tail_cons] at ht
    rw [List.nil_append, he, rfind, ht]
    exact if_pos ⟨post, he⟩
  | cons x pre ih =>
    rw [List.cons_append, List.cons_append, rfind, ih]
    rfl

omit [DecidableEq α] in
theorem replace_append (pre p r post : List α) :
    replace pre.length p.length r (pre ++ p ++ post) = pre ++ r ++ post := by
  have htake : (pre ++ p ++ post).take pre.length = pre := by
    rw [List.append_assoc, List.take_left]
  have hdrop : (pre ++ p ++ post).drop (pre.length + p.length) = post := by
    rw [← List.length_append, List.drop_left]
  rw [replace, htake, hdrop]

end CameraStreamer.Find
