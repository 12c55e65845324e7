import CameraStreamer.Lib.Incremental
/-!
# Line readers

A line ends at a symbol that `stops` it. Where `joins t x`, an `x` directly after
the terminator `t` belongs to it, as a newline does after a carriage return.
`reader` is the parse loop over a buffer and `read` what it comes to, symbol by
symbol; `feed_read` says that they agree on every cut of the input into chunks.
-/

namespace CameraStreamer.Lines

open Incremental

variable {α : Type} (stops : α → Bool) (joins : α → α → Bool)

/-- The first line, its terminator and what follows, if a line ends here. -/
def cut : List α → Option (List α × α × List α)
  | [] => none
  | x :: xs => if stops x then some ([], x, xs) else (cut xs).map fun (line, t, rest) => (x :: line, t, rest)

/-- Take a line off the buffer; `last` is the terminator of the line before. -/
def turn (last : Option α) : List α → Turn α (Option α) (List α)
  | [] => .wait [] last []
  | x :: xs =>
    if last.any (joins · x) then .more [] none xs
    else
      match cut stops (x :: xs) with
      | none => .wait [] last (x :: xs)
      | some (line, t, rest) => .more [line] (some t) rest

/-- The lines that end among the input, and what is left: the last terminator and
the unfinished line. `cur` is the line so far. -/
def read : Option α → List α → List α → List (List α) × (Option α × List α)
  | last, cur, [] => ([], (last, cur))
  | last, cur, x :: xs =>
    if cur.isEmpty ∧ last.any (joins · x) then read none [] xs
    else if stops x then (cur :: (read (some x) [] xs).1, (read (some x) [] xs).2)
    else read last (cur ++ [x]) xs

variable {stops} {joins}

theorem cut_some {b line rest : List α} {t : α} (h : cut stops b = some (line, t, rest)) :
    b = line ++ t :: rest ∧ stops t = true ∧ ∀ x ∈ line, stops x = false := by
  induction b generalizing line with
  | nil => cases h
  | cons x xs ih =>
    rw [cut] at h
    split at h
    · rename_i hx
      cases h
      exact ⟨rfl, hx, by simp⟩
    · rename_i hx
      obtain ⟨⟨l, u, r⟩, hc, he⟩ := Option.map_eq_some_iff.1 h
      cases he
      obtain ⟨rfl, ht, hl⟩ := ih hc
      exact ⟨rfl, ht, List.forall_mem_cons.2 ⟨by simpa using hx, hl⟩⟩

theorem cut_none {b : List α} (h : cut stops b = none) : ∀ x ∈ b, stops x = false := by
  induction b with
  | nil => simp
  | cons x xs ih =>
    rw [cut] at h
    split at h
    · cases h
    · rename_i hx
      exact List.forall_mem_cons.2 ⟨by simpa using hx, ih (Option.map_eq_none_iff.1 h)⟩

/-- More input does not move the first cut. -/
theorem cut_append {b line rest : List α} {t : α} (h : cut stops b = some (line, t, rest)) (y : List α) :
    cut stops (b ++ y) = some (line, t, rest ++ y) := by
  induction b generalizing line with
  | nil => cases h
  | cons x xs ih =>
    rw [List.cons_append, cut]
    rw [cut] at h
    split at h
    · rename_i hx
      cases h
      rw [if_pos hx]
    · rename_i hx
      obtain ⟨⟨l, u, r⟩, hc, he⟩ := Option.map_eq_some_iff.1 h
      cases he
      rw [if_neg hx, ih hc, Option.map_some]

/-- Symbols that do not stop a line only lengthen the first one. -/
theorem cut_line (cur b : List α) (h : ∀ x ∈ cur, stops x = false) :
    cut stops (cur ++ b) = (cut stops b).map fun (line, t, rest) => (cur ++ line, t, rest) := by
  induction cur with
  | nil => simp
  | cons x cur ih =>
    rw [List.cons_append, cut, if_neg (by simp [h x (by simp)]), ih fun z hz => h z (by simp [hz]), Option.map_map]
    rfl

theorem turn_shrinks {last last' : Option α} {b rest : List α} {evs : List (List α)}
    (h : turn stops joins last b = .more evs last' rest) : rest.length < b.length := by
  cases b with
  | nil => cases h
  | cons x xs =>
    rw [turn] at h
    split at h
    · cases h; simp
    · split at h
      · cases h
      · rename_i line t after hc
        cases h
        rw [(cut_some hc).1, List.length_append, List.length_cons]
        omega

variable (stops joins) in
def reader : Parser α (Option α) (List α) where
  turn := turn stops joins
  shrinks := turn_shrinks

theorem reader_stable : (reader stops joins).Stable some := by
  intro last b y
  cases b with
  | nil => exact ⟨rfl, rfl, rfl⟩
  | cons x xs =>
    simp only [reader, List.cons_append]
    by_cases hj : last.any (joins · x) = true
    · simp [turn, hj]
    · cases hc : cut stops (x :: xs) with
      | none => simp [turn, hj, hc]
      | some r =>
        obtain ⟨line, t, rest⟩ := r
        have ha := cut_append hc y
        rw [List.cons_append] at ha
        simp [turn, hj, hc, ha]

/-- The turn at a buffer whose head does not belong to the last terminator. -/
theorem turn_cut {last : Option α} {b : List α} (hj : ∀ x ∈ b.head?, last.any (joins · x) = false) :
    turn stops joins last b =
      match cut stops b with
      | none => .wait [] last b
      | some (line, t, rest) => .more [line] (some t) rest := by
  cases b with
  | nil => rfl
  | cons x xs => rw [turn, if_neg (by simp [hj x rfl])]

/-- The loop over a buffer that starts with the unfinished line `cur`. -/
theorem drain_read (last : Option α) (cur b : List α) (hcur : ∀ x ∈ cur, stops x = false)
    (hj : ∀ x ∈ cur.head?, last.any (joins · x) = false) :
    (reader stops joins).drain last (cur ++ b) =
      ((read stops joins last cur b).1, some (read stops joins last cur b).2) := by
  induction b generalizing last cur with
  | nil =>
    have hcut : cut stops cur = none := by simpa [cut] using cut_line cur [] hcur
    have ht : turn stops joins last cur = .wait [] last cur := by rw [turn_cut hj, hcut]
    rw [List.append_nil, read]
    exact Parser.drain_wait (reader stops joins) ht
  | cons x b ih =>
    rw [read]
    by_cases hjoin : cur.isEmpty ∧ last.any (joins · x) = true
    · rw [if_pos hjoin]
      obtain rfl := List.isEmpty_iff.1 hjoin.1
      have ht : (reader stops joins).turn last ([] ++ x :: b) = .more [] none b := if_pos hjoin.2
      have hr := ih none [] (by simp) (by simp)
      rw [List.nil_append] at hr
      rw [Parser.drain_more (reader stops joins) ht, hr]
      rfl
    · rw [if_neg hjoin]
      have hhead : ∀ z ∈ (cur ++ x :: b).head?, last.any (joins · z) = false := by
        intro z hz
        cases cur with
        | nil =>
          cases hz
          simpa using hjoin
        | cons w ws => exact hj z hz
      by_cases hx : stops x = true
      · rw [if_pos hx]
        have hcut : cut stops (cur ++ x :: b) = some (cur, x, b) := by
          rw [cut_line cur _ hcur, cut, if_pos hx, Option.map_some]
          simp
        have ht : (reader stops joins).turn last (cur ++ x :: b) = .more [cur] (some x) b :=
          (turn_cut hhead).trans (by rw [hcut])
        have hr := ih (some x) [] (by simp) (by simp)
        rw [List.nil_append] at hr
        rw [Parser.drain_more (reader stops joins) ht, hr]
        rfl
      · rw [if_neg hx]
        have hr := ih last (cur ++ [x]) (fun z hz => by
          rcases List.mem_append.1 hz with hz | hz
          · exact hcur z hz
          · rw [List.mem_singleton.1 hz]; simpa using hx) (fun z hz => hhead z (by cases cur <;> exact hz))
        rwa [List.append_assoc] at hr

/-- However the input is cut into chunks, the reader takes the same lines and is
left in the same state. -/
theorem feed_read (chunks : List (List α)) :
    (reader stops joins).feed (some (none, [])) chunks =
      ((read stops joins none [] chunks.flatten).1, some (read stops joins none [] chunks.flatten).2) := by
  cases chunks with
  | nil => rfl
  | cons c cs =>
    have hf := reader_stable.feed_eq_drain (P := reader stops joins) none [] c cs
    have hd : (reader stops joins).drain none ([] ++ (c :: cs).flatten) = _ :=
      drain_read none [] (c :: cs).flatten (by simp) (by simp)
    rw [List.nil_append] at hf hd
    rw [hd] at hf
    simp only [Parser.view, List.filterMap_some, Prod.mk.injEq] at hf
    exact Prod.ext hf.1 hf.2

/-- Where one symbol `t` ends a line, the lines with their terminators and the
unfinished one are the input. -/
theorem read_terminated {t : α} (hstops : ∀ x, stops x = true ↔ x = t) (hjoins : ∀ x y, joins x y = false)
    (last : Option α) (cur b : List α) (hcur : t ∉ cur) :
    cur ++ b = ((read stops joins last cur b).1.map (· ++ [t])).flatten ++ (read stops joins last cur b).2.2 ∧
      (∀ line ∈ (read stops joins last cur b).1, t ∉ line) ∧ t ∉ (read stops joins last cur b).2.2 := by
  induction b generalizing last cur with
  | nil => exact ⟨by simp [read], by simp [read], hcur⟩
  | cons x b ih =>
    have hj : ¬ (cur.isEmpty ∧ last.any (joins · x) = true) := by
      cases last <;> simp [hjoins]
    rw [read, if_neg hj]
    by_cases hx : stops x = true
    · obtain ⟨heq, hlines, hrest⟩ := ih (some x) [] (by simp)
      rw [if_pos hx, List.map_cons, List.flatten_cons, List.append_assoc, List.append_assoc]
      refine ⟨?_, List.forall_mem_cons.2 ⟨hcur, hlines⟩, hrest⟩
      rw [List.nil_append] at heq
      rw [← heq, (hstops x).1 hx]
      rfl
    · obtain ⟨heq, hlines, hrest⟩ := ih last (cur ++ [x]) fun ht => by
        rcases List.mem_append.1 ht with ht | ht
        · exact hcur ht
        · exact hx ((hstops x).2 (List.mem_singleton.1 ht).symm)
      rw [if_neg hx, ← heq]
      exact ⟨by simp, hlines, hrest⟩

end CameraStreamer.Lines
