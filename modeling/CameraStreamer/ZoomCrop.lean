import Mathlib.Data.Rat.Floor
import Mathlib.Tactic.Linarith
import CameraStreamer.Pipeline
/-!
# The zoom crop

`zoom_crop` over exact numbers. The size and the start of the crop are rounded
down to even numbers, and the start is then clamped into the frame. The far end
of the clamp is odd where the frame is, so the last step can undo the rounding;
we say for which frames and centres it does.
-/

namespace CameraStreamer.PipelineBuilder

/-! ## Casts and low bits -/

theorem toInt_of_nonneg {q : Rat} (h : 0 ≤ q) : Doubles.toInt q = ⌊q⌋ := by
  show q.num.tdiv q.den = ⌊q⌋
  rw [Rat.floor_def', Int.tdiv_eq_ediv_of_nonneg (Rat.num_nonneg.2 h)]

theorem toInt_of_neg {q : Rat} (h : q < 0) : Doubles.toInt q ≤ 0 := by
  show q.num.tdiv q.den ≤ 0
  have hn : 0 ≤ -q.num := by have := Rat.num_neg.2 h; omega
  have ht := Int.tdiv_nonneg hn (Int.natCast_nonneg q.den)
  rw [Int.neg_tdiv] at ht
  omega

/-- A positive bound is reached by the cast exactly when it is by the number. -/
theorem le_toInt {n : Int} {q : Rat} (hn : 0 < n) : n ≤ Doubles.toInt q ↔ (n : Rat) ≤ q := by
  have hn' : (0 : Rat) < n := by exact_mod_cast hn
  by_cases hq : 0 ≤ q
  · rw [toInt_of_nonneg hq]
    exact Int.le_floor
  · have ht := toInt_of_neg (not_le.1 hq)
    constructor
    · intro h
      omega
    · intro h
      exact absurd (hn'.le.trans h) hq

theorem clear_low_bit_even (x : Int) : clear_low_bit x % 2 = 0 := by
  unfold clear_low_bit
  omega

theorem le_clear_low_bit {n x : Int} (hn : n % 2 = 0) : n ≤ clear_low_bit x ↔ n ≤ x := by
  unfold clear_low_bit
  omega

/-! ## One side of the crop -/

section Side
variable {side : Int} {zoom : Rat}

/-- The size of the crop: the zoomed size rounded down to an even number, and at least 2. -/
def even_size (side : Int) (zoom : Rat) : Int := max 2 (2 * (⌊(side : Rat) / zoom⌋ / 2))

/-- The start of the crop survives the clamp even: the frame is even, or the centre
is more than half a crop but one pixel away from the frame's far end. -/
def Roomy (side : Int) (zoom centre : Rat) : Prop :=
  side % 2 = 0 ∨ (even_size side zoom : Rat) / 2 - 1 < (1 - centre) * side

theorem crop_size (hs : 2 ≤ side) (hz : 1 < zoom) (centre : Rat) : (crop side zoom centre).2 = even_size side zoom := by
  have hside : (0 : Rat) ≤ side := by exact_mod_cast (by omega : (0 : Int) ≤ side)
  have hq : (0 : Rat) ≤ (side : Rat) / zoom := div_nonneg hside (by linarith)
  show max 2 (clear_low_bit (Doubles.toInt ((side : Rat) / zoom))) = even_size side zoom
  rw [toInt_of_nonneg hq, even_size, clear_low_bit]
  congr 1
  omega

theorem even_size_even (side : Int) (zoom : Rat) : even_size side zoom % 2 = 0 := by
  unfold even_size
  omega

theorem even_size_le (hs : 2 ≤ side) (hz : 1 < zoom) : even_size side zoom ≤ side := by
  have hside : (0 : Rat) < side := by exact_mod_cast (by omega : (0 : Int) < side)
  have hlt : (side : Rat) / zoom < side := by
    rw [div_lt_iff₀ (by linarith)]
    exact lt_mul_of_one_lt_right hside hz
  have hfloor : ⌊(side : Rat) / zoom⌋ < side := Int.floor_lt.2 hlt
  unfold even_size
  omega

/-- The clamp keeps the crop inside the frame. -/
theorem crop_inside (hs : 2 ≤ side) (hz : 1 < zoom) (centre : Rat) :
    0 ≤ (crop side zoom centre).1 ∧ (crop side zoom centre).1 + (crop side zoom centre).2 ≤ side := by
  have hle := even_size_le hs hz
  rw [← crop_size hs hz centre] at hle
  unfold crop at hle ⊢
  dsimp only at hle ⊢
  split
  · omega
  · split <;> omega

theorem crop_start_even_iff (hs : 2 ≤ side) (hz : 1 < zoom) (centre : Rat) :
    (crop side zoom centre).1 % 2 = 0 ↔ Roomy side zoom centre := by
  have hc := crop_size hs hz centre
  have hle := even_size_le hs hz
  have heven := even_size_even side zoom
  have hstart : (crop side zoom centre).1 =
      let start := clear_low_bit (Doubles.toInt (centre * side - (even_size side zoom : Rat) / 2))
      if side - even_size side zoom < start then side - even_size side zoom else if start < 0 then 0 else start := by
    rw [← hc]
    rfl
  generalize hq : centre * side - (even_size side zoom : Rat) / 2 = q at hstart
  dsimp only at hstart
  have hlow := clear_low_bit_even (Doubles.toInt q)
  by_cases hside : side % 2 = 0
  · -- both ends of the clamp are even
    have hl : (crop side zoom centre).1 % 2 = 0 := by
      rw [hstart]
      split
      · omega
      · split <;> omega
    exact ⟨fun _ => .inl hside, fun _ => hl⟩
  · -- the far end is odd, and the start is even unless it is clamped to it
    have hfar : (crop side zoom centre).1 % 2 = 0 ↔
        ¬ side - even_size side zoom + 1 ≤ clear_low_bit (Doubles.toInt q) := by
      rw [hstart]
      split
      · omega
      · split <;> omega
    have hreach : (((side - even_size side zoom + 1 : Int)) : Rat) ≤ q ↔
        (1 - centre) * side ≤ (even_size side zoom : Rat) / 2 - 1 := by
      rw [← hq]
      push_cast
      constructor <;> intro h <;> linarith
    rw [hfar, le_clear_low_bit (by omega), le_toInt (by omega), hreach, not_le, Roomy]
    exact ⟨.inr, fun h => h.resolve_left hside⟩

end Side

/-! ## The rectangle as it is printed -/

def rectangle (left right top bottom : Int) : String :=
  " left=" ++ toString left ++ " right=" ++ toString right ++ " top=" ++ toString top ++ " bottom=" ++ toString bottom

theorem nat_text_inj {m n : Nat} (h : (toString m).toList = (toString n).toList) : m = n := by
  rw [Nat.toString_eq_ofList_toDigits, Nat.toString_eq_ofList_toDigits, String.toList_ofList, String.toList_ofList] at h
  rw [← Nat.ofDigitChars_toDigits (b := 10) (n := m) (by omega) (by omega), h,
    Nat.ofDigitChars_toDigits (by omega) (by omega)]

theorem nat_text_digits (n : Nat) : ∀ c ∈ (toString n).toList, c ≠ '-' := by
  intro c hc
  rw [Nat.toString_eq_ofList_toDigits, String.toList_ofList] at hc
  have hd := Nat.isDigit_of_mem_toDigits (by omega) (by omega) hc
  rintro rfl
  cases hd

theorem int_text_neg (n : Nat) : (toString (Int.negSucc n)).toList = '-' :: (toString (n + 1)).toList := by
  show ("-" ++ toString (n + 1)).toList = _
  rw [String.toList_append]
  rfl

theorem int_text_inj {i j : Int} (h : (toString i).toList = (toString j).toList) : i = j := by
  have hsign : ∀ m n : Nat, (toString m).toList ≠ '-' :: (toString n).toList := fun m n he =>
    nat_text_digits m '-' (by rw [he]; simp) rfl
  rcases i with m | m <;> rcases j with n | n
  · exact congrArg Int.ofNat (nat_text_inj h)
  · rw [int_text_neg] at h
    exact absurd h (hsign m (n + 1))
  · rw [int_text_neg] at h
    exact absurd h.symm (hsign n (m + 1))
  · rw [int_text_neg, int_text_neg, List.cons.injEq] at h
    have := nat_text_inj h.2
    rw [Nat.succ.inj this]

/-- A number ends where the next coordinate's name starts. -/
theorem int_text_then {i j : Int} {x y : List Char}
    (h : (toString i).toList ++ ' ' :: x = (toString j).toList ++ ' ' :: y) :
    i = j ∧ x = y := by
  have hno : ∀ i : Int, ' ' ∉ (toString i).toList := by
    intro i hi
    rcases int_chars i ' ' hi with h | h <;> cases h
  have hs := congrArg (·.splitOn ' ') h
  rw [List.splitOn_append_cons_self_of_not_mem (hno i), List.splitOn_append_cons_self_of_not_mem (hno j),
    List.cons.injEq] at hs
  rw [hs.1] at h
  exact ⟨int_text_inj hs.1, (List.cons.inj (List.append_cancel_left h)).2⟩

theorem rectangle_inj {left right top bottom left' right' top' bottom' : Int}
    (h : rectangle left right top bottom = rectangle left' right' top' bottom') :
    left = left' ∧ right = right' ∧ top = top' ∧ bottom = bottom' := by
  have hl := congrArg String.toList h
  simp only [rectangle, String.toList_append, List.append_assoc] at hl
  obtain ⟨hleft, hl⟩ := int_text_then (List.append_cancel_left hl)
  obtain ⟨hright, hl⟩ := int_text_then (@List.append_cancel_left _ "right=".toList _ _ hl)
  obtain ⟨htop, hl⟩ := int_text_then (@List.append_cancel_left _ "top=".toList _ _ hl)
  exact ⟨hleft, hright, htop, int_text_inj (@List.append_cancel_left _ "bottom=".toList _ _ hl)⟩

/-! ## Valid, chroma-aligned rectangles -/

/-- What is printed is a rectangle inside the frame, of the zoomed size, that starts at even coordinates. -/
structure Aligned (cam : CameraConfig Rat) (left right top bottom : Int) : Prop where
  printed : zoom_crop cam = rectangle left right top bottom
  horizontal : 0 ≤ left ∧ left < right ∧ right ≤ cam.width
  vertical : 0 ≤ top ∧ top < bottom ∧ bottom ≤ cam.height
  size : right - left = even_size cam.width cam.zoom ∧ bottom - top = even_size cam.height cam.zoom
  even : left % 2 = 0 ∧ top % 2 = 0

theorem zoom_crop_printed {cam : CameraConfig Rat} (hw : 2 ≤ cam.width) (hh : 2 ≤ cam.height) (hz : 1 < cam.zoom) :
    zoom_crop cam = rectangle (crop cam.width cam.zoom cam.zoom_x).1
      ((crop cam.width cam.zoom cam.zoom_x).1 + even_size cam.width cam.zoom)
      (crop cam.height cam.zoom cam.zoom_y).1
      ((crop cam.height cam.zoom cam.zoom_y).1 + even_size cam.height cam.zoom) := by
  have hle : Doubles.le cam.zoom (Doubles.ofInt 1 : Rat) = false := decide_eq_false (not_le.2 (by exact_mod_cast hz))
  unfold zoom_crop
  rw [hle, ← crop_size hw hz cam.zoom_x, ← crop_size hh hz cam.zoom_y]
  rfl

/-- The crop is a valid, chroma-aligned rectangle exactly where both sides have
room for it; all but its alignment holds of every crop. -/
theorem zoom_crop_aligned_iff (cam : CameraConfig Rat) (hw : 2 ≤ cam.width) (hh : 2 ≤ cam.height) (hz : 1 < cam.zoom) :
    (∃ left right top bottom, Aligned cam left right top bottom) ↔
      Roomy cam.width cam.zoom cam.zoom_x ∧ Roomy cam.height cam.zoom cam.zoom_y := by
  have hp := zoom_crop_printed hw hh hz
  have hx := crop_start_even_iff hw hz cam.zoom_x
  have hy := crop_start_even_iff hh hz cam.zoom_y
  constructor
  · rintro ⟨left, right, top, bottom, ha⟩
    obtain ⟨hleft, -, htop, -⟩ := rectangle_inj (hp.symm.trans ha.printed)
    rw [hleft] at hx
    rw [htop] at hy
    exact ⟨hx.1 ha.even.1, hy.1 ha.even.2⟩
  · rintro ⟨hrx, hry⟩
    have hix := crop_inside hw hz cam.zoom_x
    have hiy := crop_inside hh hz cam.zoom_y
    rw [crop_size hw hz] at hix
    rw [crop_size hh hz] at hiy
    have hpw : 0 < even_size cam.width cam.zoom := by unfold even_size; omega
    have hph : 0 < even_size cam.height cam.zoom := by unfold even_size; omega
    refine ⟨_, _, _, _, hp, ⟨hix.1, ?_, hix.2⟩, ⟨hiy.1, ?_, hiy.2⟩, ⟨?_, ?_⟩, hx.2 hrx, hy.2 hry⟩
    · omega
    · omega
    · omega
    · omega

/-- Twice the size of a 1920×1080 frame's right half. -/
def right_half : CameraConfig Rat :=
  { width := 1920, height := 1080, gain := 0, zoom := 2, zoom_x := 1, zoom_y := 1 / 2 }

theorem zoom_crop_right_half : (∃ left right top bottom, Aligned right_half left right top bottom) ↔
    Roomy right_half.width right_half.zoom right_half.zoom_x ∧ Roomy right_half.height right_half.zoom right_half.zoom_y :=
  zoom_crop_aligned_iff right_half (by decide) (by decide) (by norm_num [right_half])

/-- One column more, and the crop starts at 961. -/
theorem zoom_crop_odd : ¬ ∀ cam : CameraConfig Rat, 2 ≤ cam.width → 2 ≤ cam.height → 1 < cam.zoom → cam.zoom ≤ 8 →
    0 ≤ cam.zoom_x → cam.zoom_x ≤ 1 → 0 ≤ cam.zoom_y → cam.zoom_y ≤ 1 →
    ∃ left right top bottom, Aligned cam left right top bottom := by
  intro h
  obtain ⟨left, right, top, bottom, ha⟩ := h { right_half with width := 1921 } (by decide) (by decide)
    (by norm_num [right_half]) (by norm_num [right_half]) (by norm_num [right_half]) (by norm_num [right_half])
    (by norm_num [right_half]) (by norm_num [right_half])
  have hprinted : zoom_crop { right_half with width := 1921 } = rectangle 961 1921 270 810 := by decide +kernel
  obtain ⟨rfl, -⟩ := rectangle_inj (hprinted.symm.trans ha.printed)
  exact absurd ha.even.1 (by decide)

end CameraStreamer.PipelineBuilder
