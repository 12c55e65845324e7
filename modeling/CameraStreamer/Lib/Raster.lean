import CameraStreamer.Lib.Bytes
/-!
# Drawing on a raster

Three bytes a pixel, row by row, and writes that fail outside the buffer. What a
loop draws is put together from what its steps draw, so that a program over the
buffer is described pixel by pixel.
-/

namespace CameraStreamer.Raster

abbrev Rgb := UInt8 × UInt8 × UInt8

/-- A write, or nothing where it would leave the buffer. -/
def store (buffer : Bytes) (i : Nat) (b : UInt8) : Option Bytes :=
  if i < buffer.length then some (buffer.set i b) else none

/-- The three bytes from `i` on. -/
def get_rgb (buffer : Bytes) (i : Nat) : Option Rgb :=
  match buffer[i]?, buffer[i + 1]?, buffer[i + 2]? with
  | some r, some g, some b => some (r, g, b)
  | _, _, _ => none

def set_rgb (buffer : Bytes) (i : Nat) (c : Rgb) : Option Bytes := do
  let buffer ← store buffer (i + 0) c.1
  let buffer ← store buffer (i + 1) c.2.1
  store buffer (i + 2) c.2.2

/-- The bytes of the pixel `x`, `y`. -/
def pixel (width : Nat) (buffer : Bytes) (x y : Nat) : Option Rgb := get_rgb buffer ((y * width + x) * 3)

theorem store_eq {buffer : Bytes} {i : Nat} (b : UInt8) (h : i < buffer.length) :
    store buffer i b = some (buffer.set i b) := if_pos h

theorem set_rgb_eq {buffer : Bytes} {i : Nat} (c : Rgb) (h : i + 2 < buffer.length) :
    set_rgb buffer i c = some (((buffer.set i c.1).set (i + 1) c.2.1).set (i + 2) c.2.2) := by
  unfold set_rgb
  rw [store_eq _ (by omega), Option.bind_eq_bind, Option.bind_some, store_eq _ (by rw [List.length_set]; omega),
    Option.bind_some, store_eq _ (by rw [List.length_set, List.length_set]; omega)]
  rfl

theorem get_rgb_set {buffer : Bytes} {i : Nat} (c : Rgb) (h : i + 2 < buffer.length) :
    get_rgb (((buffer.set i c.1).set (i + 1) c.2.1).set (i + 2) c.2.2) i = some c := by
  unfold get_rgb
  have h0 : i < buffer.length := by omega
  have h1 : i + 1 < buffer.length := by omega
  simp [h, h0, h1]

theorem get_rgb_set_other {buffer : Bytes} {i j : Nat} (c : Rgb) (h : j + 2 < i ∨ i + 2 < j) :
    get_rgb (((buffer.set i c.1).set (i + 1) c.2.1).set (i + 2) c.2.2) j = get_rgb buffer j := by
  have hkeep : ∀ k < 3, (((buffer.set i c.1).set (i + 1) c.2.1).set (i + 2) c.2.2)[j + k]? = buffer[j + k]? := by
    intro k hk
    rw [List.getElem?_set_ne (by omega), List.getElem?_set_ne (by omega), List.getElem?_set_ne (by omega)]
  unfold get_rgb
  rw [show j = j + 0 from rfl, hkeep 0 (by decide), hkeep 1 (by decide), hkeep 2 (by decide)]

/-- Two pixels of a raster are the same or do not overlap. -/
theorem index_ne {width x y x' y' : Nat} (hx : x < width) (hx' : x' < width) (h : ¬ (x = x' ∧ y = y')) :
    (y * width + x) * 3 + 2 < (y' * width + x') * 3 ∨ (y' * width + x') * 3 + 2 < (y * width + x) * 3 := by
  rcases Nat.lt_trichotomy y y' with hy | rfl | hy
  · have hrow : (y + 1) * width ≤ y' * width := Nat.mul_le_mul_right _ hy
    rw [Nat.succ_mul] at hrow
    omega
  · omega
  · have hrow : (y' + 1) * width ≤ y * width := Nat.mul_le_mul_right _ hy
    rw [Nat.succ_mul] at hrow
    omega

theorem index_lt {width height x y : Nat} (hx : x < width) (hy : y < height) :
    (y * width + x) * 3 + 2 < width * height * 3 := by
  have hrow : (y + 1) * width ≤ height * width := Nat.mul_le_mul_right _ hy
  rw [Nat.succ_mul, Nat.mul_comm height width] at hrow
  omega

/-! ## Drawing -/

variable (width height : Nat) (v : Nat → Nat → Rgb)

/-- `f` stays inside the buffer, gives each pixel of `S` its colour in `v`, and leaves the others. -/
def Draws (f : Bytes → Option Bytes) (S : Nat → Nat → Prop) : Prop :=
  ∀ buffer : Bytes, buffer.length = width * height * 3 →
    ∃ buffer', f buffer = some buffer' ∧ buffer'.length = width * height * 3 ∧
      ∀ x y, x < width → y < height → (S x y → pixel width buffer' x y = some (v x y)) ∧
        (¬ S x y → pixel width buffer' x y = pixel width buffer x y)

variable {width height v} {f g : Bytes → Option Bytes} {S T : Nat → Nat → Prop}

theorem Draws.nothing : Draws width height v some fun _ _ => False := fun buffer hlen =>
  ⟨buffer, rfl, hlen, fun _ _ _ _ => ⟨False.elim, fun _ => rfl⟩⟩

theorem Draws.congr (h : Draws width height v f S) (hST : ∀ x y, x < width → y < height → (S x y ↔ T x y)) :
    Draws width height v f T := by
  intro buffer hlen
  obtain ⟨buffer', hf, hlen', hpixel⟩ := h buffer hlen
  refine ⟨buffer', hf, hlen', fun x y hx hy => ?_⟩
  rw [← hST x y hx hy]
  exact hpixel x y hx hy

theorem Draws.point {x₀ y₀ : Nat} (hx₀ : x₀ < width) (hy₀ : y₀ < height) :
    Draws width height v (fun buffer => set_rgb buffer ((y₀ * width + x₀) * 3) (v x₀ y₀))
      fun x y => x = x₀ ∧ y = y₀ := by
  intro buffer hlen
  have hin : (y₀ * width + x₀) * 3 + 2 < buffer.length := by
    rw [hlen]
    exact index_lt hx₀ hy₀
  refine ⟨_, set_rgb_eq _ hin, by simp only [List.length_set, hlen], fun x y hx hy => ⟨?_, fun hne => ?_⟩⟩
  · rintro ⟨rfl, rfl⟩
    exact get_rgb_set _ hin
  · exact get_rgb_set_other _ (index_ne hx hx₀ hne)

theorem Draws.seq (hf : Draws width height v f S) (hg : Draws width height v g T) :
    Draws width height v (fun buffer => f buffer >>= g) fun x y => S x y ∨ T x y := by
  intro buffer hlen
  obtain ⟨buffer', hfeq, hlen', hf'⟩ := hf buffer hlen
  obtain ⟨buffer'', hgeq, hlen'', hg'⟩ := hg buffer' hlen'
  refine ⟨buffer'', by simp only [hfeq, Option.bind_eq_bind, Option.bind_some, hgeq], hlen'', fun x y hx hy => ?_⟩
  refine ⟨fun h => ?_, fun h => ?_⟩
  · by_cases hT : T x y
    · exact (hg' x y hx hy).1 hT
    · rw [(hg' x y hx hy).2 hT, (hf' x y hx hy).1 (h.resolve_right hT)]
  · rw [(hg' x y hx hy).2 fun hT => h (.inr hT), (hf' x y hx hy).2 fun hS => h (.inl hS)]

/-- A loop draws what its turns draw. -/
theorem Draws.loop {α : Type} {f : Bytes → α → Option Bytes} {S : α → Nat → Nat → Prop} {l : List α}
    (h : ∀ a ∈ l, Draws width height v (f · a) (S a)) :
    Draws width height v (fun buffer => l.foldlM f buffer) fun x y => ∃ a ∈ l, S a x y := by
  induction l with
  | nil => exact Draws.nothing.congr fun x y _ _ => by simp
  | cons a l ih =>
    have hrest := ih fun b hb => h b (List.mem_cons_of_mem _ hb)
    refine ((h a List.mem_cons_self).seq hrest).congr fun x y _ _ => ?_
    simp only [List.mem_cons, exists_eq_or_imp]

end CameraStreamer.Raster
