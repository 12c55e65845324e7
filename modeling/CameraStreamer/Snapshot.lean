import CameraStreamer.Lib.Raster
/-!
# Snapshots

A frame written as a binary PPM, with the detected boxes outlined. The outline of
a box is its border, except that a box less than two pixels wide or high is
outlined beside it too.
-/

namespace CameraStreamer.Snapshot
open Raster

structure FaceBox where
  x : Int := 0
  y : Int := 0
  w : Int := 0
  h : Int := 0

/-- `for (int i = first; i < last; ++i)` -/
def ints (first last : Int) : List Int := (List.range (last - first).toNat).map fun (i : Nat) => first + i

/-- Reads outside of the buffer of the frame fail, as do writes outside of the raster. -/
def bgr_to_rgb (bgr : Bytes) (width height stride bytes_per_pixel : Nat) : Option Bytes :=
  (List.range height).foldlM (fun rgb y =>
    (List.range width).foldlM (fun rgb x => do
      let p := y * stride + x * bytes_per_pixel
      let dst := y * width * 3
      let rgb ← store rgb (dst + x * 3 + 0) (← bgr[p + 2]?)
      let rgb ← store rgb (dst + x * 3 + 1) (← bgr[p + 1]?)
      store rgb (dst + x * 3 + 2) (← bgr[p + 0]?)) rgb) (List.replicate (width * height * 3) 0)

def green : Rgb := (0, 255, 0)

def put (width height : Int) (x y : Int) (rgb : Bytes) : Option Bytes :=
  if x < 0 ∨ y < 0 ∨ x ≥ width ∨ y ≥ height then some rgb
  else set_rgb rgb ((y.toNat * width.toNat + x.toNat) * 3) green

/-- One of the two pixels that the outline of a box is wide. -/
def outline (width height : Int) (b : FaceBox) (rgb : Bytes) (t : Int) : Option Bytes := do
  let rgb ← (ints b.x (b.x + b.w)).foldlM (fun rgb x => do
    let rgb ← put width height x (b.y + t) rgb
    put width height x (b.y + b.h - 1 - t) rgb) rgb
  (ints b.y (b.y + b.h)).foldlM (fun rgb y => do
    let rgb ← put width height (b.x + t) y rgb
    put width height (b.x + b.w - 1 - t) y rgb) rgb

def bgr_raster (bgr : Bytes) (width height stride bytes_per_pixel : Int) (boxes : List FaceBox) : Option Bytes := do
  let rgb ← bgr_to_rgb bgr width.toNat height.toNat stride.toNat bytes_per_pixel.toNat
  boxes.foldlM (fun rgb b => (ints 0 2).foldlM (outline width height b) rgb) rgb

/-- Whether the file can be opened, and how many bytes of the raster go into it. -/
structure PpmFile where
  opens : Bool
  room : Nat

def ppm_header (width height : Int) : Bytes := (s!"P6\n{width} {height}\n255\n").toUTF8.toList

/-- The error and the file; none where an access leaves a buffer. -/
def write_bgr_ppm (path : String) (bgr : Option Bytes) (width height stride bytes_per_pixel : Int)
    (boxes : List FaceBox) (f : PpmFile) : Option (String × Option Bytes) :=
  match bgr with
  | none => some ("no frame to write", none)
  | some bgr =>
    if width ≤ 0 ∨ height ≤ 0 then some ("no frame to write", none)
    else if bytes_per_pixel ≠ 3 ∧ bytes_per_pixel ≠ 4 then some ("unsupported pixel size", none)
    else do
      let rgb ← bgr_raster bgr width height stride bytes_per_pixel boxes
      if !f.opens then some ("cannot open " ++ path, none)
      else
        let written := min rgb.length f.room
        let file := ppm_header width height ++ rgb.take written
        some (if written = rgb.length then "" else "short write to " ++ path, some file)

/-- A frame as `on_raw` gets it. -/
structure RawFrame where
  bgr : Bytes
  width : Nat
  height : Nat
  stride : Nat
  bytes_per_pixel : Nat
  width_pos : 0 < width
  height_pos : 0 < height
  pixel_size : bytes_per_pixel = 3 ∨ bytes_per_pixel = 4
  stride_ge : width * bytes_per_pixel ≤ stride
  length_eq : bgr.length = stride * height

namespace RawFrame
variable (f : RawFrame)

/-- Byte `c` of a pixel. -/
def channel (x y c : Nat) : UInt8 := f.bgr.getD (y * f.stride + x * f.bytes_per_pixel + c) 0

/-- R, G and B of a pixel. -/
def source (x y : Nat) : Rgb := (f.channel x y 2, f.channel x y 1, f.channel x y 0)

def raster (boxes : List FaceBox) : Option Bytes :=
  bgr_raster f.bgr f.width f.height f.stride f.bytes_per_pixel boxes

/-- The same pixels, whatever the other bytes are. -/
def SamePixels (f : RawFrame) (bgr : Bytes) : Prop :=
  bgr.length = f.bgr.length ∧ ∀ x y c, x < f.width → y < f.height → c < 3 →
    bgr[y * f.stride + x * f.bytes_per_pixel + c]? = f.bgr[y * f.stride + x * f.bytes_per_pixel + c]?

end RawFrame

namespace FaceBox
variable (b : FaceBox) (x y : Int)

def Inside : Prop := (b.x ≤ x ∧ x < b.x + b.w) ∧ b.y ≤ y ∧ y < b.y + b.h

/-- Less than two pixels from an edge of the box. -/
def Border : Prop :=
  b.Inside x y ∧ (x < b.x + 2 ∨ b.x + b.w - 2 ≤ x ∨ y < b.y + 2 ∨ b.y + b.h - 2 ≤ y)

/-- Beside a span from `first` of length `len` that is too short for a border. -/
def Beside (first len i : Int) : Prop :=
  len = 1 ∧ (i = first - 1 ∨ i = first + 1) ∨
    len ≤ 0 ∧ (i = first ∨ i = first + 1 ∨ i = first + len - 1 ∨ i = first + len - 2)

/-- In the rows of the box but beside its columns, where these are less than two, or the other way round. -/
def Stray : Prop :=
  (b.y ≤ y ∧ y < b.y + b.h) ∧ Beside b.x b.w x ∨ (b.x ≤ x ∧ x < b.x + b.w) ∧ Beside b.y b.h y

end FaceBox

/-! ## What is drawn -/

theorem mem_ints {first last i : Int} : i ∈ ints first last ↔ first ≤ i ∧ i < last := by
  unfold ints
  rw [List.mem_map]
  constructor
  · rintro ⟨n, hn, rfl⟩
    have := List.mem_range.1 hn
    omega
  · rintro ⟨hlo, hhi⟩
    exact ⟨(i - first).toNat, List.mem_range.2 (by omega), by omega⟩

section Draws
variable {f : RawFrame} {b : FaceBox}

theorem RawFrame.read {x y c : Nat} (hx : x < f.width) (hy : y < f.height) (hc : c < 3) :
    f.bgr[y * f.stride + x * f.bytes_per_pixel + c]? = some (f.channel x y c) := by
  have hrow : (y + 1) * f.stride ≤ f.height * f.stride := Nat.mul_le_mul_right _ hy
  have hcol : (x + 1) * f.bytes_per_pixel ≤ f.width * f.bytes_per_pixel := Nat.mul_le_mul_right _ hx
  have hstride := f.stride_ge
  have hsize := f.pixel_size
  rw [Nat.succ_mul] at hrow hcol
  have hin : y * f.stride + x * f.bytes_per_pixel + c < f.bgr.length := by
    rw [f.length_eq, Nat.mul_comm f.stride]
    omega
  unfold channel
  rw [List.getD_eq_getElem?_getD, List.getElem?_eq_getElem hin]
  rfl

/-- The frame is copied. -/
theorem copy_draws (f : RawFrame) :
    ∃ rgb, bgr_to_rgb f.bgr f.width f.height f.stride f.bytes_per_pixel = some rgb ∧
      rgb.length = f.width * f.height * 3 ∧
      ∀ x y, x < f.width → y < f.height → pixel f.width rgb x y = some (f.source x y) := by
  have hpoint : ∀ y < f.height, ∀ x < f.width, Draws f.width f.height f.source (fun rgb => do
      let p := y * f.stride + x * f.bytes_per_pixel
      let dst := y * f.width * 3
      let rgb ← store rgb (dst + x * 3 + 0) (← f.bgr[p + 2]?)
      let rgb ← store rgb (dst + x * 3 + 1) (← f.bgr[p + 1]?)
      store rgb (dst + x * 3 + 2) (← f.bgr[p + 0]?)) fun x' y' => x' = x ∧ y' = y := by
    intro y hy x hx
    have hindex : y * f.width * 3 + x * 3 = (y * f.width + x) * 3 := by rw [Nat.add_mul]
    simp only [RawFrame.read hx hy (by decide : 0 < 3), RawFrame.read hx hy (by decide : 1 < 3),
      RawFrame.read hx hy (by decide : 2 < 3), hindex]
    exact Draws.point hx hy
  have hall := Draws.loop fun y hy => Draws.loop fun x hx => hpoint y (List.mem_range.1 hy) x (List.mem_range.1 hx)
  obtain ⟨rgb, hcopy, hlen, hpixel⟩ := hall (List.replicate (f.width * f.height * 3) 0) List.length_replicate
  refine ⟨rgb, hcopy, hlen, fun x y hx hy => (hpixel x y hx hy).1 ?_⟩
  exact ⟨y, List.mem_range.2 hy, x, List.mem_range.2 hx, rfl, rfl⟩

variable {width height : Nat}

theorem put_draws (x₀ y₀ : Int) :
    Draws width height (fun _ _ => green) (put width height x₀ y₀) fun x y => x = x₀ ∧ y = y₀ := by
  unfold put
  by_cases hout : x₀ < 0 ∨ y₀ < 0 ∨ x₀ ≥ width ∨ y₀ ≥ height
  · simp only [if_pos hout]
    exact Draws.nothing.congr fun x y hx hy => ⟨False.elim, by omega⟩
  · simp only [if_neg hout, Int.toNat_natCast]
    have hpoint := Draws.point (v := fun _ _ => green)
      (show x₀.toNat < width by omega) (show y₀.toNat < height by omega)
    exact hpoint.congr fun x y _ _ => by omega

/-- Two pixels put in each turn of a loop. -/
theorem puts_draw (first last : Int) (p q : Int → Int × Int) :
    Draws width height (fun _ _ => green) (fun rgb => (ints first last).foldlM (fun rgb i => do
      let rgb ← put width height (p i).1 (p i).2 rgb
      put width height (q i).1 (q i).2 rgb) rgb)
      fun x y => ∃ i ∈ ints first last,
        ((x : Int) = (p i).1 ∧ (y : Int) = (p i).2) ∨ (x : Int) = (q i).1 ∧ (y : Int) = (q i).2 :=
  Draws.loop fun i _ => (put_draws (p i).1 (p i).2).seq (put_draws (q i).1 (q i).2)

/-- The rows or columns of an outline along a span. -/
def Edge (first len i : Int) : Prop := ∃ t ∈ ints 0 2, i = first + t ∨ i = first + len - 1 - t

theorem edge_iff {first len i : Int} : Edge first len i ↔
    ((first ≤ i ∧ i < first + len) ∧ (i < first + 2 ∨ first + len - 2 ≤ i)) ∨ FaceBox.Beside first len i := by
  have hfour : Edge first len i ↔ i = first ∨ i = first + 1 ∨ i = first + len - 1 ∨ i = first + len - 2 := by
    constructor
    · rintro ⟨t, ht, h⟩
      rw [mem_ints] at ht
      omega
    · rintro (h | h | h | h)
      · exact ⟨0, by decide, .inl (by omega)⟩
      · exact ⟨1, by decide, .inl (by omega)⟩
      · exact ⟨0, by decide, .inr (by omega)⟩
      · exact ⟨1, by decide, .inr (by omega)⟩
  rw [hfour]
  unfold FaceBox.Beside
  omega

theorem edges_iff (b : FaceBox) (x y : Int) :
    ((b.x ≤ x ∧ x < b.x + b.w) ∧ Edge b.y b.h y ∨ (b.y ≤ y ∧ y < b.y + b.h) ∧ Edge b.x b.w x) ↔
      b.Border x y ∨ b.Stray x y := by
  rw [edge_iff, edge_iff]
  constructor
  · rintro (⟨hx, ⟨hy, he⟩ | hb⟩ | ⟨hy, ⟨hx, he⟩ | hb⟩)
    · exact .inl ⟨⟨hx, hy⟩, .inr (.inr he)⟩
    · exact .inr (.inr ⟨hx, hb⟩)
    · exact .inl ⟨⟨hx, hy⟩, he.imp_right .inl⟩
    · exact .inr (.inl ⟨hy, hb⟩)
  · rintro (⟨⟨hx, hy⟩, he | he | he⟩ | ⟨hy, hb⟩ | ⟨hx, hb⟩)
    · exact .inr ⟨hy, .inl ⟨hx, .inl he⟩⟩
    · exact .inr ⟨hy, .inl ⟨hx, .inr he⟩⟩
    · exact .inl ⟨hx, .inl ⟨hy, he⟩⟩
    · exact .inr ⟨hy, .inr hb⟩
    · exact .inl ⟨hx, .inr hb⟩

/-- The outline of a box is its border, and what is beside a narrow or a low box. -/
theorem box_draws (width height : Nat) (b : FaceBox) :
    Draws width height (fun _ _ => green) (fun rgb => (ints 0 2).foldlM (outline width height b) rgb)
      fun x y => b.Border x y ∨ b.Stray x y := by
  have hturn : ∀ t ∈ ints 0 2, Draws width height (fun _ _ => green) (outline width height b · t) _ := fun t _ =>
    (puts_draw b.x (b.x + b.w) (fun x => (x, b.y + t)) fun x => (x, b.y + b.h - 1 - t)).seq
      (puts_draw b.y (b.y + b.h) (fun y => (b.x + t, y)) fun y => (b.x + b.w - 1 - t, y))
  refine (Draws.loop hturn).congr fun x y _ _ => ?_
  rw [← edges_iff, ← mem_ints, ← mem_ints]
  constructor
  · rintro ⟨t, ht, ⟨i, hi, h⟩ | ⟨i, hi, h⟩⟩
    · obtain rfl : (x : Int) = i := by omega
      exact .inl ⟨hi, t, ht, h.imp And.right And.right⟩
    · obtain rfl : (y : Int) = i := by omega
      exact .inr ⟨hi, t, ht, h.imp And.left And.left⟩
  · rintro (⟨hi, t, ht, h⟩ | ⟨hi, t, ht, h⟩)
    · exact ⟨t, ht, .inl ⟨x, hi, h.imp (⟨rfl, ·⟩) (⟨rfl, ·⟩)⟩⟩
    · exact ⟨t, ht, .inr ⟨y, hi, h.imp (⟨·, rfl⟩) (⟨·, rfl⟩)⟩⟩

end Draws

/-! ## Exactly -/

namespace RawFrame
variable (f : RawFrame)

/-- In the frame, the borders of the boxes are green and nothing else is changed, and
only the pixels matter. -/
structure Exact (boxes : List FaceBox) (rgb : Bytes) : Prop where
  written : ∀ path room, rgb.length ≤ room →
    write_bgr_ppm path (some f.bgr) f.width f.height f.stride f.bytes_per_pixel boxes ⟨true, room⟩ =
      some ("", some (ppm_header f.width f.height ++ rgb))
  length : rgb.length = 3 * f.width * f.height
  border : ∀ x y : Nat, x < f.width → y < f.height → (∃ b ∈ boxes, b.Border x y) → pixel f.width rgb x y = some green
  interior : ∀ x y : Nat, x < f.width → y < f.height → (∃ b ∈ boxes, b.Inside x y) → (∀ b ∈ boxes, ¬ b.Border x y) →
    pixel f.width rgb x y = some (f.source x y)
  outside : ∀ x y : Nat, x < f.width → y < f.height → (∀ b ∈ boxes, ¬ b.Inside x y) →
    pixel f.width rgb x y = some (f.source x y)
  pixels : ∀ bgr, f.SamePixels bgr → bgr_raster bgr f.width f.height f.stride f.bytes_per_pixel boxes = some rgb

/-- What is drawn of a frame, at each pixel. -/
theorem raster_eq (boxes : List FaceBox) : ∃ rgb, f.raster boxes = some rgb ∧ rgb.length = 3 * f.width * f.height ∧
    ∀ x y : Nat, x < f.width → y < f.height →
      ((∃ b ∈ boxes, b.Border x y ∨ b.Stray x y) → pixel f.width rgb x y = some green) ∧
      ((∀ b ∈ boxes, ¬ (b.Border x y ∨ b.Stray x y)) → pixel f.width rgb x y = some (f.source x y)) := by
  obtain ⟨copied, hcopy, hlen, hsource⟩ := copy_draws f
  obtain ⟨rgb, hdraw, hlen', hpixel⟩ :=
    Draws.loop (fun b (_ : b ∈ boxes) => box_draws f.width f.height b) copied hlen
  refine ⟨rgb, ?_, by rw [hlen', Nat.mul_comm, Nat.mul_assoc], fun x y hx hy => ⟨(hpixel x y hx hy).1, fun h => ?_⟩⟩
  · unfold raster bgr_raster
    simp only [Int.toNat_natCast, hcopy]
    exact hdraw
  · rw [(hpixel x y hx hy).2 (by simpa using h), hsource x y hx hy]

/-- A file that takes it all holds the raster. -/
theorem written_of_raster {boxes : List FaceBox} {rgb : Bytes} (h : f.raster boxes = some rgb) (path : String)
    {room : Nat} (hroom : rgb.length ≤ room) :
    write_bgr_ppm path (some f.bgr) f.width f.height f.stride f.bytes_per_pixel boxes ⟨true, room⟩ =
      some ("", some (ppm_header f.width f.height ++ rgb)) := by
  have hsize : ¬ ((f.width : Int) ≤ 0 ∨ (f.height : Int) ≤ 0) := by
    have := f.width_pos
    have := f.height_pos
    omega
  have hpixel : ¬ ((f.bytes_per_pixel : Int) ≠ 3 ∧ (f.bytes_per_pixel : Int) ≠ 4) := by
    have := f.pixel_size
    omega
  unfold raster at h
  unfold write_bgr_ppm
  simp only [if_neg hsize, if_neg hpixel, h, Option.bind_eq_bind, Option.bind_some, Nat.min_eq_left hroom]
  simp

theorem foldlM_congr {α σ : Type} {g h : σ → α → Option σ} {l : List α} (hgh : ∀ a ∈ l, ∀ s, g s a = h s a) (s : σ) :
    l.foldlM g s = l.foldlM h s := by
  induction l generalizing s with
  | nil => rfl
  | cons a l ih =>
    rw [List.foldlM_cons, List.foldlM_cons, hgh a List.mem_cons_self]
    exact congrArg _ (funext fun s' => ih (fun b hb => hgh b (List.mem_cons_of_mem _ hb)) s')

theorem raster_same {bgr : Bytes} (h : f.SamePixels bgr) (boxes : List FaceBox) :
    bgr_raster bgr f.width f.height f.stride f.bytes_per_pixel boxes = f.raster boxes := by
  have hcopy : bgr_to_rgb bgr f.width f.height f.stride f.bytes_per_pixel =
      bgr_to_rgb f.bgr f.width f.height f.stride f.bytes_per_pixel := by
    apply foldlM_congr
    intro y hy rgb
    apply foldlM_congr
    intro x hx rgb
    have hread := h.2 x y
    simp only [hread _ (List.mem_range.1 hx) (List.mem_range.1 hy) (by decide : 0 < 3),
      hread _ (List.mem_range.1 hx) (List.mem_range.1 hy) (by decide : 1 < 3),
      hread _ (List.mem_range.1 hx) (List.mem_range.1 hy) (by decide : 2 < 3)]
  unfold raster bgr_raster
  simp only [Int.toNat_natCast, hcopy]

/-- What is beside a narrow or a low box is in a border, or green already. -/
def Unmarked (boxes : List FaceBox) : Prop :=
  ∀ x y : Nat, x < f.width → y < f.height → (∃ b ∈ boxes, b.Stray x y) →
    (∃ b ∈ boxes, b.Border x y) ∨ f.source x y = green

/-- A snapshot is exact if and only if no pixel in the frame is beside a narrow or a low
box, other than in a border or green already. -/
theorem snapshot_exact_iff (boxes : List FaceBox) :
    (∃ rgb, f.raster boxes = some rgb ∧ f.Exact boxes rgb) ↔ f.Unmarked boxes := by
  obtain ⟨rgb, hraster, hlen, hpixel⟩ := f.raster_eq boxes
  constructor
  · rintro ⟨rgb', hraster', hexact⟩ x y hx hy ⟨b, hb, hstray⟩
    obtain rfl : rgb = rgb' := Option.some.inj (hraster.symm.trans hraster')
    by_cases hborder : ∃ b ∈ boxes, b.Border x y
    · exact .inl hborder
    · -- it is painted all the same
      have hgreen := (hpixel x y hx hy).1 ⟨b, hb, .inr hstray⟩
      right
      by_cases hinside : ∃ b ∈ boxes, b.Inside x y
      · have hsource := hexact.interior x y hx hy hinside (by simpa using hborder)
        exact Option.some.inj (hsource.symm.trans hgreen)
      · have hsource := hexact.outside x y hx hy (by simpa using hinside)
        exact Option.some.inj (hsource.symm.trans hgreen)
  · intro hunmarked
    have hunchanged : ∀ x y : Nat, x < f.width → y < f.height → (∀ b ∈ boxes, ¬ b.Border x y) →
        pixel f.width rgb x y = some (f.source x y) := by
      intro x y hx hy hborder
      by_cases hstray : ∃ b ∈ boxes, b.Stray x y
      · obtain ⟨b, hb, hb'⟩ := hstray
        rw [(hpixel x y hx hy).1 ⟨b, hb, .inr hb'⟩]
        rcases hunmarked x y hx hy ⟨b, hb, hb'⟩ with ⟨c, hc, hc'⟩ | hgreen
        · exact absurd hc' (hborder c hc)
        · rw [hgreen]
      · refine (hpixel x y hx hy).2 fun b hb => not_or.2 ⟨hborder b hb, fun h => hstray ⟨b, hb, h⟩⟩
    refine ⟨rgb, hraster, fun path room => f.written_of_raster hraster path, hlen, ?_, ?_, ?_,
      fun bgr hsame => (f.raster_same hsame boxes).trans hraster⟩
    · rintro x y hx hy ⟨b, hb, hborder⟩
      exact (hpixel x y hx hy).1 ⟨b, hb, .inl hborder⟩
    · exact fun x y hx hy _ => hunchanged x y hx hy
    · exact fun x y hx hy h => hunchanged x y hx hy fun b hb hborder => h b hb hborder.1

/-- Three black pixels. -/
def black : RawFrame where
  bgr := List.replicate 9 0
  width := 3
  height := 1
  stride := 9
  bytes_per_pixel := 3
  width_pos := by decide
  height_pos := by decide
  pixel_size := .inl rfl
  stride_ge := by decide
  length_eq := rfl

/-- A box around the pixel in the middle is outlined on the other two. -/
theorem narrow_box_beside :
    ¬ ∀ (f : RawFrame) (boxes : List FaceBox), ∃ rgb, f.raster boxes = some rgb ∧ f.Exact boxes rgb := by
  intro h
  obtain ⟨rgb, hraster, hexact⟩ := h black [⟨1, 0, 1, 1⟩]
  have hrgb : black.raster [⟨1, 0, 1, 1⟩] = some [0, 255, 0, 0, 255, 0, 0, 255, 0] := by decide
  obtain rfl := Option.some.inj (hrgb.symm.trans hraster)
  have hleft := hexact.outside 0 0 (by decide) (by decide) fun b hb => by
    obtain rfl := List.mem_singleton.1 hb
    rintro ⟨⟨hx, -⟩, -⟩
    exact absurd hx (by decide)
  exact absurd hleft (by decide)

end RawFrame

end CameraStreamer.Snapshot
