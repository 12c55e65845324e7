import Mathlib.Algebra.BigOperators.Ring.List
import Mathlib.Algebra.Group.Action.Defs
import Mathlib.Algebra.Order.BigOperators.Group.List
import Mathlib.Data.List.Induction
import Mathlib.Tactic.Linarith
import Mathlib.Tactic.NormNum
import CameraStreamer.QtJson
/-!
# White balance

What `WhiteBalanceCalibrator` measures in an image, and the correction that a
pass composes on the trims. The filter keeps near-neutral bright pixels, so the
ratio of two channels is bounded in every pixel that counts, and so in the sums.
-/

namespace CameraStreamer.WhiteBalance
open QtJson

abbrev QRgb := UInt32

def qRed (rgb : QRgb) : Nat := ((rgb >>> 16) &&& 0xff).toNat

def qGreen (rgb : QRgb) : Nat := ((rgb >>> 8) &&& 0xff).toNat

def qBlue (rgb : QRgb) : Nat := (rgb &&& 0xff).toNat

def INT_MAX : Nat := 2 ^ 31 - 1

/-- An image in `Format_RGB32`, by rows. Qt makes no image of which the bits of a row
do not fit into an `int`. -/
structure QImage where
  width : Nat
  height : Nat
  pixel : Nat → Nat → QRgb
  width_le : width * 32 + 31 ≤ INT_MAX
  height_le : height ≤ INT_MAX

structure Sums where
  sumR : UInt64 := 0
  sumG : UInt64 := 0
  sumB : UInt64 := 0
  count : UInt64 := 0
  sampled : UInt64 := 0

/-- The pixels that are lit but not clipped, and roughly gray. -/
def qualifies (pixel : QRgb) : Bool :=
  let hi := max (qRed pixel) (max (qGreen pixel) (qBlue pixel))
  let lo := min (qRed pixel) (min (qGreen pixel) (qBlue pixel))
  !(decide (hi ≤ 150) || decide (250 ≤ hi) || decide (45 ≤ hi - lo))

def Sums.sample (s : Sums) (pixel : QRgb) : Sums :=
  let s := { s with sampled := s.sampled + 1 }
  if qualifies pixel then
    { s with
      sumR := s.sumR + UInt64.ofNat (qRed pixel)
      sumG := s.sumG + UInt64.ofNat (qGreen pixel)
      sumB := s.sumB + UInt64.ofNat (qBlue pixel)
      count := s.count + 1 }
  else s

/-- `for (int i = 0; i < n; i += 2)` -/
def everySecond (n : Nat) : List Nat := List.range' 0 ((n + 1) / 2) 2

namespace QImage
variable (rgb : QImage)

def isNull : Bool := rgb.width = 0 || rgb.height = 0

def sums : Sums :=
  (everySecond rgb.height).foldl (fun s y =>
    (everySecond rgb.width).foldl (fun s x => s.sample (rgb.pixel y x)) s) {}

variable {D : Type} [Doubles D]

/-- The gains of red and blue, or why there are none. -/
def measureWhiteBalance : Except String (D × D) :=
  if rgb.isNull then .error "no video frame"
  else
    let s := rgb.sums
    if s.sampled = 0 ∨ s.count * 100 < s.sampled then .error "not enough white/gray in view"
    else
      let double (n : UInt64) : D := Doubles.ofInt n.toNat
      .ok (Doubles.div (double s.sumG) (double s.sumR), Doubles.div (double s.sumG) (double s.sumB))

end QImage

/-! ## Corrections -/

def kMaxCalibrationPasses : Nat := 2

section Corrections
variable {D : Type} [Doubles D] [QtJson D]

def qMin (a b : D) : D := if Doubles.lt a b then a else b

def qMax (a b : D) : D := if Doubles.lt a b then b else a

def qBound (lo val hi : D) : D := qMax lo (qMin hi val)

/-- The trim a tuning has for a channel. -/
def trim (tuning : Json.Members D) (name : String) : D := toDouble (value tuning name) (Doubles.ofInt 1)

/-- The correction composed on a trim, as `step` bounds it. -/
def composed (trim need : D) : D :=
  qBound (Doubles.div (Doubles.ofInt 1) (Doubles.ofInt 2)) (Doubles.mul trim need) (Doubles.ofInt 2)

/-- What a pass asks the device for. -/
def newTrims (tuning : Json.Members D) (need : D × D) : D × D :=
  (composed (trim tuning "wb_trim_r") need.1, composed (trim tuning "wb_trim_b") need.2)

/-- What a pass remembers when the device has it. -/
def remember (tuning : Json.Members D) (trims : D × D) : Json.Members D :=
  insert (insert tuning "wb_trim_r" (.double trims.1)) "wb_trim_b" (.double trims.2)

/-- One pass after another. -/
def corrected (tuning : Json.Members D) (needs : List (D × D)) : Json.Members D :=
  needs.foldl (fun tuning need => remember tuning (newTrims tuning need)) tuning

end Corrections

/-! ## Pixels -/

theorem qualifies_iff {pixel : QRgb} (h : qualifies pixel = true) {f g : QRgb → Nat}
    (hf : f = qRed ∨ f = qGreen ∨ f = qBlue) (hg : g = qRed ∨ g = qGreen ∨ g = qBlue) :
    107 ≤ f pixel ∧ f pixel ≤ 249 ∧ f pixel ≤ g pixel + 44 := by
  simp only [qualifies, Bool.not_eq_true', Bool.or_eq_false_iff, decide_eq_false_iff_not] at h
  rcases hf with rfl | rfl | rfl <;> rcases hg with rfl | rfl | rfl <;> omega

/-- No channel of a pixel that qualifies is more than 151/107 of another. -/
theorem pixel_ratio {pixel : QRgb} (h : qualifies pixel = true) {f g : QRgb → Nat}
    (hf : f = qRed ∨ f = qGreen ∨ f = qBlue) (hg : g = qRed ∨ g = qGreen ∨ g = qBlue) :
    107 * f pixel ≤ 151 * g pixel := by
  have hlo := (qualifies_iff h hg hf).1
  have hspan := (qualifies_iff h hf hg).2.2
  omega

/-- The sum of a channel over the pixels that qualify. -/
def total (f : QRgb → Nat) (pixels : List QRgb) : Nat := ((pixels.filter qualifies).map f).sum

theorem total_ratio {f g : QRgb → Nat} (hf : f = qRed ∨ f = qGreen ∨ f = qBlue)
    (hg : g = qRed ∨ g = qGreen ∨ g = qBlue) (pixels : List QRgb) : 107 * total f pixels ≤ 151 * total g pixels := by
  unfold total
  rw [← List.sum_map_mul_left, ← List.sum_map_mul_left]
  exact List.sum_le_sum fun p hp => pixel_ratio (List.mem_filter.1 hp).2 hf hg

theorem total_le {f : QRgb → Nat} (hf : f = qRed ∨ f = qGreen ∨ f = qBlue) (pixels : List QRgb) :
    total f pixels ≤ pixels.length * 249 := by
  have hle : total f pixels ≤ (pixels.filter qualifies).length * 249 := by
    have := List.sum_le_card_nsmul ((pixels.filter qualifies).map f) 249 fun n hn => by
      obtain ⟨p, hp, rfl⟩ := List.mem_map.1 hn
      exact (qualifies_iff (List.mem_filter.1 hp).2 hf hf).2.1
    rwa [List.length_map, smul_eq_mul] at this
  exact hle.trans (Nat.mul_le_mul_right _ (List.length_filter_le _ _))

theorem le_total {f : QRgb → Nat} (hf : f = qRed ∨ f = qGreen ∨ f = qBlue) (pixels : List QRgb) :
    (pixels.filter qualifies).length ≤ total f pixels := by
  have := List.card_nsmul_le_sum ((pixels.filter qualifies).map f) 1 fun n hn => by
    obtain ⟨p, hp, rfl⟩ := List.mem_map.1 hn
    have := (qualifies_iff (List.mem_filter.1 hp).2 hf hf).1
    omega
  rwa [List.length_map, smul_eq_mul, Nat.mul_one] at this

/-! ## Sums -/

theorem everySecond_length (n : Nat) : (everySecond n).length = (n + 1) / 2 := List.length_range'

/-- The counters hold the sums, modulo 2 ^ 64. -/
theorem sample_all (pixels : List QRgb) (s : Sums) : pixels.foldl Sums.sample s =
    { sumR := s.sumR + UInt64.ofNat (total qRed pixels)
      sumG := s.sumG + UInt64.ofNat (total qGreen pixels)
      sumB := s.sumB + UInt64.ofNat (total qBlue pixels)
      count := s.count + UInt64.ofNat (pixels.filter qualifies).length
      sampled := s.sampled + UInt64.ofNat pixels.length } := by
  induction pixels generalizing s with
  | nil => simp [total]
  | cons p pixels ih =>
    rw [List.foldl_cons, ih]
    unfold Sums.sample total
    by_cases hq : qualifies p = true
    · simp [hq, UInt64.ofNat_add, UInt64.add_assoc, UInt64.add_comm 1]
    · simp [hq, UInt64.add_assoc, UInt64.add_comm 1]

namespace QImage
variable (rgb : QImage)

/-- Every second pixel in both directions. -/
def samples : List QRgb := (everySecond rgb.height).flatMap fun y => (everySecond rgb.width).map (rgb.pixel y)

theorem sums_eq : rgb.sums = rgb.samples.foldl Sums.sample {} := by
  unfold sums samples
  rw [List.foldl_flatMap]
  simp only [List.foldl_map]

theorem samples_length : rgb.samples.length = (rgb.height + 1) / 2 * ((rgb.width + 1) / 2) := by
  unfold samples
  simp [List.length_flatMap, everySecond_length]

/-- No image has so many samples that a sum leaves 64 bits. -/
theorem samples_length_le : rgb.samples.length ≤ 2 ^ 55 := by
  have hw := rgb.width_le
  have hh := rgb.height_le
  unfold INT_MAX at hw hh
  rw [samples_length]
  calc (rgb.height + 1) / 2 * ((rgb.width + 1) / 2) ≤ 2 ^ 30 * 2 ^ 25 := Nat.mul_le_mul (by omega) (by omega)
    _ = 2 ^ 55 := by norm_num

theorem sum_toNat {f : QRgb → Nat} (hf : f = qRed ∨ f = qGreen ∨ f = qBlue) :
    ((0 : UInt64) + UInt64.ofNat (total f rgb.samples)).toNat = total f rgb.samples := by
  have hle := total_le hf rgb.samples
  have hlen := rgb.samples_length_le
  rw [UInt64.zero_add, UInt64.toNat_ofNat']
  exact Nat.mod_eq_of_lt (by omega)

/-- The five counters are what they count. -/
theorem sums_toNat : rgb.sums.sumR.toNat = total qRed rgb.samples ∧ rgb.sums.sumG.toNat = total qGreen rgb.samples ∧
    rgb.sums.sumB.toNat = total qBlue rgb.samples ∧
    rgb.sums.count.toNat = (rgb.samples.filter qualifies).length ∧ rgb.sums.sampled.toNat = rgb.samples.length := by
  have hlen := rgb.samples_length_le
  have hcount : (rgb.samples.filter qualifies).length ≤ rgb.samples.length := List.length_filter_le _ _
  have hsmall : ∀ n, n ≤ 2 ^ 55 → ((0 : UInt64) + UInt64.ofNat n).toNat = n := by
    intro n hn
    rw [UInt64.zero_add, UInt64.toNat_ofNat']
    exact Nat.mod_eq_of_lt (by omega)
  rw [sums_eq, sample_all]
  exact ⟨rgb.sum_toNat (.inl rfl), rgb.sum_toNat (.inr (.inl rfl)), rgb.sum_toNat (.inr (.inr rfl)),
    hsmall _ (hcount.trans hlen), hsmall _ hlen⟩

/-- What a measurement that succeeds says of the image. -/
structure Measured (rgb : QImage) (needR needB : Rat) : Prop where
  sumR_pos : 0 < total qRed rgb.samples
  sumB_pos : 0 < total qBlue rgb.samples
  sampled : rgb.samples ≠ []
  qualified : rgb.samples.length ≤ (rgb.samples.filter qualifies).length * 100
  needR_eq : needR = total qGreen rgb.samples / total qRed rgb.samples
  needB_eq : needB = total qGreen rgb.samples / total qBlue rgb.samples

theorem measured_of_ok {rgb : QImage} {needR needB : Rat} (h : rgb.measureWhiteBalance = .ok (needR, needB)) :
    rgb.Measured needR needB := by
  obtain ⟨hR, hG, hB, hcount, hsampled⟩ := rgb.sums_toNat
  have hlen := rgb.samples_length_le
  have hfilter : (rgb.samples.filter qualifies).length ≤ rgb.samples.length := List.length_filter_le _ _
  unfold measureWhiteBalance at h
  split at h
  · cases h
  · dsimp only at h
    split at h
    · cases h
    · rename_i henough
      rw [not_or, UInt64.not_lt, UInt64.le_iff_toNat_le, UInt64.toNat_mul, hcount, hsampled] at henough
      obtain ⟨hne, hshare⟩ := henough
      rw [show (100 : UInt64).toNat = 100 from rfl, Nat.mod_eq_of_lt (by omega)] at hshare
      have hne' : rgb.samples.length ≠ 0 := fun h0 => hne (UInt64.toNat_inj.1 (hsampled.trans h0))
      have hpos : 0 < (rgb.samples.filter qualifies).length := by omega
      cases h
      refine ⟨hpos.trans_le (le_total (.inl rfl) _), hpos.trans_le (le_total (.inr (.inr rfl)) _), ?_, hshare, ?_, ?_⟩
      · exact fun h0 => hne' (by rw [h0]; rfl)
      · rw [← hR, ← hG]
        rfl
      · rw [← hB, ← hG]
        rfl

end QImage

/-! ## Gains -/

/-- The gains that a pixel which qualifies can ask for. -/
def Gain (need : Rat) : Prop := 107 / 151 ≤ need ∧ need ≤ 151 / 107

theorem gain_of_total {f g : QRgb → Nat} (hf : f = qRed ∨ f = qGreen ∨ f = qBlue)
    (hg : g = qRed ∨ g = qGreen ∨ g = qBlue) {pixels : List QRgb} (hpos : 0 < total g pixels) :
    Gain (total f pixels / total g pixels) := by
  have hpos' : (0 : Rat) < total g pixels := by exact_mod_cast hpos
  have hup : (107 * total f pixels : Rat) ≤ 151 * total g pixels := by exact_mod_cast total_ratio hf hg pixels
  have hdown : (107 * total g pixels : Rat) ≤ 151 * total f pixels := by exact_mod_cast total_ratio hg hf pixels
  constructor
  · rw [le_div_iff₀ hpos']
    linarith
  · rw [div_le_iff₀ hpos']
    linarith

theorem QImage.Measured.gains {rgb : QImage} {needR needB : Rat} (h : rgb.Measured needR needB) :
    Gain needR ∧ Gain needB := by
  rw [h.needR_eq, h.needB_eq]
  exact ⟨gain_of_total (.inr (.inl rfl)) (.inl rfl) h.sumR_pos,
    gain_of_total (.inr (.inl rfl)) (.inr (.inr rfl)) h.sumB_pos⟩

/-! ## The clamp -/

/-- Inside the clamp range a correction is the product. -/
theorem composed_inside {t need : Rat} (hlo : 1 / 2 < t * need) (hhi : t * need < 2) : composed t need = t * need := by
  have hmin : qMin (2 : Rat) (t * need) = t * need := if_neg (by simpa [Doubles.lt] using hhi.le)
  have hmax : qMax (1 / 2 : Rat) (t * need) = t * need := if_pos (by simpa [Doubles.lt] using hlo)
  show qMax ((1 : Int) / (2 : Int) : Rat) (qMin ((2 : Int) : Rat) (t * need)) = t * need
  rw [Int.cast_one, Int.cast_ofNat, hmin, hmax]

theorem trim_remember [QtJson Rat] (tuning : Json.Members Rat) (trims : Rat × Rat) :
    trim (remember tuning trims) "wb_trim_r" = trims.1 ∧ trim (remember tuning trims) "wb_trim_b" = trims.2 := by
  unfold trim remember
  rw [value_insert_other _ _ (by decide), value_insert, value_insert, toDouble_double, toDouble_double]
  exact ⟨rfl, rfl⟩

/-- As many gains as a run has passes compose to less than the clamp range. -/
theorem gains_inside {k : Nat} (hk : k ≤ kMaxCalibrationPasses) {t : Rat} (hlo : (107 / 151) ^ k ≤ t)
    (hhi : t ≤ (151 / 107) ^ k) : 1 / 2 < t ∧ t < 2 := by
  have hdown : (1 / 2 : Rat) < (107 / 151) ^ kMaxCalibrationPasses := by norm_num [kMaxCalibrationPasses]
  have hup : (151 / 107 : Rat) ^ kMaxCalibrationPasses < 2 := by norm_num [kMaxCalibrationPasses]
  constructor
  · exact hdown.trans_le ((pow_le_pow_of_le_one (by norm_num) (by norm_num) hk).trans hlo)
  · exact (hhi.trans (pow_le_pow_right₀ (by norm_num) hk)).trans_lt hup

/-- The trim is the product of the gains so far. -/
structure Composed (t : Rat) (needs : List Rat) : Prop where
  eq_prod : t = needs.prod
  lo : (107 / 151) ^ needs.length ≤ t
  hi : t ≤ (151 / 107) ^ needs.length

theorem Composed.nil : Composed 1 [] := ⟨List.prod_nil.symm, (pow_zero _).le, (pow_zero _).ge⟩

theorem Composed.snoc {t need : Rat} {needs : List Rat} (h : Composed t needs) (hg : Gain need)
    (hlen : needs.length + 1 ≤ kMaxCalibrationPasses) : Composed (composed t need) (needs ++ [need]) := by
  obtain ⟨hlo, hhi⟩ := hg
  have hpos : (0 : Rat) < (107 / 151) ^ needs.length := by positivity
  have hdown : (107 / 151) ^ (needs.length + 1) ≤ t * need := by
    rw [pow_succ]
    exact mul_le_mul h.lo hlo (by norm_num) (hpos.le.trans h.lo)
  have hup : t * need ≤ (151 / 107) ^ (needs.length + 1) := by
    rw [pow_succ]
    exact mul_le_mul h.hi hhi (le_trans (by norm_num) hlo) (by positivity)
  obtain ⟨hclamp, hclamp'⟩ := gains_inside hlen hdown hup
  rw [composed_inside hclamp hclamp']
  refine ⟨?_, ?_, ?_⟩
  · rw [List.prod_append, List.prod_singleton, h.eq_prod]
  · rwa [List.length_append, List.length_singleton]
  · rwa [List.length_append, List.length_singleton]

theorem corrected_composed [QtJson Rat] {tuning : Json.Members Rat} (hr : trim tuning "wb_trim_r" = 1)
    (hb : trim tuning "wb_trim_b" = 1) (needs : List (Rat × Rat)) (hlen : needs.length ≤ kMaxCalibrationPasses)
    (hg : ∀ need ∈ needs, Gain need.1 ∧ Gain need.2) :
    Composed (trim (corrected tuning needs) "wb_trim_r") (needs.map (·.1)) ∧
      Composed (trim (corrected tuning needs) "wb_trim_b") (needs.map (·.2)) := by
  induction needs using List.reverseRecOn with
  | nil =>
    show Composed (trim tuning "wb_trim_r") [] ∧ Composed (trim tuning "wb_trim_b") []
    rw [hr, hb]
    exact ⟨.nil, .nil⟩
  | append_singleton needs need ih =>
    rw [List.length_append, List.length_singleton] at hlen
    obtain ⟨ihr, ihb⟩ := ih (by omega) fun n hn => hg n (List.mem_append_left _ hn)
    obtain ⟨hgr, hgb⟩ := hg need (List.mem_append_right _ (List.mem_singleton_self _))
    have hstep : corrected tuning (needs ++ [need]) =
        remember (corrected tuning needs) (newTrims (corrected tuning needs) need) := by
      unfold corrected
      rw [List.foldl_append]
      rfl
    rw [hstep, (trim_remember _ _).1, (trim_remember _ _).2, List.map_append, List.map_append]
    exact ⟨ihr.snoc hgr (by rwa [List.length_map]), ihb.snoc hgb (by rwa [List.length_map])⟩

/-- A measurement that succeeds divides by no zero and is of enough pixels, and its gains are
bounded, so that the corrections of a run that starts from trims of 1 never meet the clamp. -/
theorem white_balance_bounded [QtJson Rat] :
    (∀ (rgb : QImage) (needR needB : Rat), rgb.measureWhiteBalance = .ok (needR, needB) →
      rgb.Measured needR needB ∧ Gain needR ∧ Gain needB) ∧
    ∀ (tuning : Json.Members Rat) (needs : List (Rat × Rat)),
      trim tuning "wb_trim_r" = 1 → trim tuning "wb_trim_b" = 1 → needs.length ≤ kMaxCalibrationPasses →
      (∀ need ∈ needs, ∃ rgb : QImage, rgb.measureWhiteBalance = .ok need) →
      let trim_r : Rat := trim (corrected tuning needs) "wb_trim_r"
      let trim_b : Rat := trim (corrected tuning needs) "wb_trim_b"
      trim_r = (needs.map (·.1)).prod ∧ 1 / 2 < trim_r ∧ trim_r < 2 ∧
        trim_b = (needs.map (·.2)).prod ∧ 1 / 2 < trim_b ∧ trim_b < 2 := by
  refine ⟨fun rgb needR needB h => ⟨QImage.measured_of_ok h, (QImage.measured_of_ok h).gains⟩, ?_⟩
  intro tuning needs hr hb hlen hmeasured
  have hgains : ∀ need ∈ needs, Gain need.1 ∧ Gain need.2 := fun need hneed => by
    obtain ⟨rgb, hrgb⟩ := hmeasured need hneed
    exact (QImage.measured_of_ok hrgb).gains
  obtain ⟨hcr, hcb⟩ := corrected_composed hr hb needs hlen hgains
  obtain ⟨hrlo, hrhi⟩ := gains_inside (by rwa [List.length_map]) hcr.lo hcr.hi
  obtain ⟨hblo, hbhi⟩ := gains_inside (by rwa [List.length_map]) hcb.lo hcb.hi
  exact ⟨hcr.eq_prod, hrlo, hrhi, hcb.eq_prod, hblo, hbhi⟩

/-- One pixel of R 200, G 180 and B 160. -/
def one_pixel : QImage := ⟨1, 1, fun _ _ => 0xffc8b4a0, by decide, by decide⟩

theorem one_pixel_measured : one_pixel.measureWhiteBalance = .ok ((9 / 10 : Rat), (9 / 8 : Rat)) := by
  show Except.ok (((180 : Int) : Rat) / ((200 : Int) : Rat), ((180 : Int) : Rat) / ((160 : Int) : Rat)) = _
  norm_num

/-- Two passes that measure it leave a red trim of 81/100. -/
theorem white_balance_one_pixel :
    (one_pixel.measureWhiteBalance = .ok ((9 / 10 : Rat), (9 / 8 : Rat)) ∧
      one_pixel.Measured (9 / 10) (9 / 8) ∧ Gain (9 / 10) ∧ Gain (9 / 8)) ∧
      trim (corrected [] [((9 / 10 : Rat), (9 / 8 : Rat)), (9 / 10, 9 / 8)]) "wb_trim_r" = 81 / 100 := by
  have hmeasured : ∀ need ∈ [((9 / 10 : Rat), (9 / 8 : Rat)), (9 / 10, 9 / 8)],
      ∃ rgb : QImage, rgb.measureWhiteBalance = .ok need := by
    intro need hneed
    obtain rfl : need = (9 / 10, 9 / 8) := by simpa using hneed
    exact ⟨one_pixel, one_pixel_measured⟩
  have hrun := white_balance_bounded.2 [] _ rfl rfl (by decide) hmeasured
  refine ⟨⟨one_pixel_measured, white_balance_bounded.1 one_pixel _ _ one_pixel_measured⟩, hrun.1.trans ?_⟩
  norm_num

end CameraStreamer.WhiteBalance
