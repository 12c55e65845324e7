import Mathlib.Data.List.Induction
import Mathlib.Tactic.FieldSimp
import Mathlib.Tactic.Linarith
import CameraStreamer.Json
/-!
# Resource percentages

`ResourceMonitor` takes differences of the counters in `/proc/stat` and
`/proc/self/stat`. The two files are read, and saved, independently, but the
interval is that since the last sample, whatever was read then.
-/

namespace CameraStreamer.ResourceMonitor

/-! ## Reading the counters -/

/-- At most what the buffer takes, and nothing of a file that cannot be opened. -/
def read_file (content : Option Bytes) : Bytes := (content.getD []).take 511

def isspace (b : UInt8) : Bool := b == 32 || (9 ≤ b && b ≤ 13)

def isdigit (b : UInt8) : Bool := 48 ≤ b && b ≤ 57

/-- A number, for any of `%d`, `%u` and `%lu`: its sign and digits, and what comes after them. -/
def scan_number (s : Bytes) : Option ((Bool × Nat) × Bytes) :=
  let s := s.dropWhile isspace
  let minus := s.head? == some 45
  let s := if minus || s.head? == some 43 then s.tail else s
  let digits := s.takeWhile isdigit
  if digits.isEmpty then none
  else some ((minus, digits.foldl (fun n d => n * 10 + (d.toNat - 48)) 0), s.dropWhile isdigit)

/-- What `%lu` makes of it. -/
def to_lu (number : Bool × Nat) : UInt64 :=
  if 2 ^ 64 ≤ number.2 then UInt64.ofNat (2 ^ 64 - 1)
  else if number.1 then -UInt64.ofNat number.2 else UInt64.ofNat number.2

/-- `n` conversions of `%lu`, or those before the first that fails. -/
def scan_lus : Nat → Bytes → List UInt64
  | 0, _ => []
  | n + 1, s => match scan_number s with
    | some (number, rest) => to_lu number :: scan_lus n rest
    | none => []

/-- `n` conversions that are not stored. -/
def skip_numbers : Nat → Bytes → Option Bytes
  | 0, s => some s
  | n + 1, s => (scan_number s).bind fun scanned => skip_numbers n scanned.2

/-- The total, and idle and iowait. -/
def read_cpu (file : Option Bytes) : Option (UInt64 × UInt64) :=
  let stat := read_file file
  if stat.take 4 ≠ utf8 "cpu " then none
  else
    let v := scan_lus 10 (stat.drop 4)
    if v.length < 5 then none else some (v.foldl (· + ·) 0, v.getD 3 0 + v.getD 4 0)

/-- utime and stime. -/
def read_process (file : Option Bytes) : Option UInt64 :=
  let stat := read_file file
  if 41 ∉ stat then none
  else
    let close := stat.length - 1 - stat.reverse.idxOf 41
    match stat.drop (close + 2) with
    | [] => none
    | _ :: s => match (skip_numbers 10 s).map (scan_lus 2) with
      | some [utime, stime] => some (utime + stime)
      | _ => none

/-- What a sample finds: the two files, the clock, and the CPU time of the process at
that time, which is what the second file says if it can be read. -/
structure Reading where
  stat : Option Bytes
  self_stat : Option Bytes
  now : UInt64
  cpu_time : UInt64
  process_eq : ∀ process, read_process self_stat = some process → process = cpu_time

/-! ## Sampling -/

structure ResourceSample (D : Type) where
  cpu_percent : D
  process_cpu_percent : D
  interval_seconds : D

structure Monitor where
  total_ : UInt64 := 0
  idle_ : UInt64 := 0
  process_ : UInt64 := 0
  last_ns_ : UInt64 := 0
  primed_ : Bool := false

section Sample
variable {D : Type} [Doubles D]

def ResourceSample.empty : ResourceSample D := ⟨Doubles.ofInt (-1), Doubles.ofInt (-1), Doubles.ofInt 0⟩

/-- The percentages, where both readings of the total exist. -/
def Monitor.deltas (m : Monitor) (hz : Int) (total idle : UInt64) (process : Option UInt64) (now : UInt64) :
    ResourceSample D :=
  let double (n : UInt64) : D := Doubles.ofInt n.toNat
  let d_total := total - m.total_
  let d_idle := idle - m.idle_
  let interval := Doubles.div (double (now - m.last_ns_)) (Doubles.ofInt 1000000000)
  { cpu_percent :=
      if d_total > 0 then Doubles.div (Doubles.mul (Doubles.ofInt 100) (double (d_total - d_idle))) (double d_total)
      else Doubles.ofInt (-1)
    interval_seconds := interval
    process_cpu_percent := match process with
      | some process =>
        if Doubles.lt (Doubles.ofInt 0) interval then
          let seconds :=
            if hz > 0 then Doubles.div (double (process - m.process_)) (Doubles.ofInt hz) else Doubles.ofInt 0
          Doubles.div (Doubles.mul (Doubles.ofInt 100) seconds) interval
        else Doubles.ofInt (-1)
      | none => Doubles.ofInt (-1) }

/-- What a sample leaves for the next. -/
def Monitor.save (m : Monitor) (r : Reading) : Monitor where
  total_ := ((read_cpu r.stat).map (·.1)).getD m.total_
  idle_ := ((read_cpu r.stat).map (·.2)).getD m.idle_
  process_ := (read_process r.self_stat).getD m.process_
  last_ns_ := r.now
  primed_ := (read_cpu r.stat).isSome

def Monitor.sample (m : Monitor) (hz : Int) (r : Reading) : ResourceSample D × Monitor :=
  let out := match m.primed_, read_cpu r.stat with
    | true, some (total, idle) => m.deltas hz total idle (read_process r.self_stat) r.now
    | _, _ => .empty
  (out, m.save r)

end Sample

/-- The monitor after a history of readings. -/
def after (rs : List Reading) : Monitor := rs.foldl Monitor.save {}

/-- What the sample that follows a history reports. -/
def reported (hz : Int) (pre : List Reading) (r : Reading) : ResourceSample Rat := ((after pre).sample hz r).1

/-- The last reading of the process's counter. -/
def last_process (pre : List Reading) : Option UInt64 := pre.reverse.findSome? fun r => read_process r.self_stat

theorem after_snoc (pre : List Reading) (r : Reading) : after (pre ++ [r]) = (after pre).save r := List.foldl_append

theorem after_process (pre : List Reading) : (after pre).process_ = (last_process pre).getD 0 := by
  induction pre using List.reverseRecOn with
  | nil => rfl
  | append_singleton pre r ih =>
    rw [after_snoc]
    unfold last_process
    rw [List.reverse_append, List.reverse_singleton, List.singleton_append, List.findSome?_cons]
    show (read_process r.self_stat).getD (after pre).process_ = _
    cases read_process r.self_stat with
    | none => exact ih
    | some process => rfl

/-! ## Soundness -/

/-- What is reported of a reading after the history `pre` is sound. -/
structure Sound (hz : Int) (pre : List Reading) (r : Reading) (out : ResourceSample Rat) : Prop where
  cpu : out.cpu_percent = -1 ∨ 0 ≤ out.cpu_percent ∧ out.cpu_percent ≤ 100
  process : out.process_cpu_percent ≠ -1 → ∃ prev, pre.getLast? = some prev ∧
    out.interval_seconds = ((r.now.toNat - prev.now.toNat : Int) : Rat) / 1000000000 ∧
    out.process_cpu_percent =
      100 * (((r.cpu_time.toNat - prev.cpu_time.toNat : Int) : Rat) / hz) / out.interval_seconds
  cpu_before : out.cpu_percent ≠ -1 → ∃ q ∈ pre, (read_cpu q.stat).isSome
  process_before : out.process_cpu_percent ≠ -1 → ∃ q ∈ pre, (read_process q.self_stat).isSome

/-- Between two readings of the total, idle and iowait have not grown by more than it, all
modulo 2 ^ 64; and where the process's time is reported, its last reading is what it was at
the previous sample. -/
structure Steady (pre : List Reading) (r : Reading) : Prop where
  idle : ∀ prev cpu cpu', pre.getLast? = some prev → read_cpu prev.stat = some cpu → read_cpu r.stat = some cpu' →
    cpu'.1 = cpu.1 ∨ cpu'.2 - cpu.2 ≤ cpu'.1 - cpu.1
  process : ∀ prev, pre.getLast? = some prev → (read_cpu prev.stat).isSome → (read_cpu r.stat).isSome →
    (read_process r.self_stat).isSome → last_process pre = some prev.cpu_time

theorem sub_le_iff {a b : UInt64} (h : 0 < a) : a - b ≤ a ↔ b ≤ a := by
  rw [UInt64.lt_iff_toNat_lt, UInt64.toNat_zero] at h
  rw [UInt64.le_iff_toNat_le, UInt64.le_iff_toNat_le, UInt64.toNat_sub]
  have := a.toNat_lt
  have := b.toNat_lt
  omega

/-- The share that is not idle is a percentage unless idle has grown by more than the total. -/
theorem percent_iff {d_total d_idle : UInt64} (h : 0 < d_total) :
    let percent : Rat := 100 * (((d_total - d_idle).toNat : Int) : Rat) / ((d_total.toNat : Int) : Rat)
    (percent = -1 ∨ 0 ≤ percent ∧ percent ≤ 100) ↔ d_idle ≤ d_total := by
  have hpos : (0 : Rat) < ((d_total.toNat : Int) : Rat) := by
    rw [UInt64.lt_iff_toNat_lt, UInt64.toNat_zero] at h
    exact_mod_cast h
  have hbusy : (0 : Rat) ≤ (((d_total - d_idle).toNat : Int) : Rat) := by exact_mod_cast Nat.zero_le _
  intro percent
  have hnonneg : 0 ≤ percent := div_nonneg (mul_nonneg (by norm_num) hbusy) hpos.le
  have hle : percent ≤ 100 ↔ d_idle ≤ d_total := by
    rw [← sub_le_iff h, UInt64.le_iff_toNat_le, div_le_iff₀ hpos, mul_le_mul_iff_right₀ (by norm_num)]
    exact_mod_cast Iff.rfl
  constructor
  · rintro (hminus | ⟨-, hhi⟩)
    · linarith
    · exact hle.1 hhi
  · exact fun hidle => .inr ⟨hnonneg, hle.2 hidle⟩

section OneSample
variable {hz : Int} {pre : List Reading} {prev r : Reading}

theorem reported_nothing (h : ¬ ((after pre).primed_ = true ∧ (read_cpu r.stat).isSome)) :
    reported hz pre r = .empty := by
  unfold reported Monitor.sample
  cases hp : (after pre).primed_ with
  | false => rfl
  | true =>
    cases hc : read_cpu r.stat with
    | none => rfl
    | some cpu => exact absurd ⟨hp, by rw [hc]; rfl⟩ h

theorem reported_deltas {cpu : UInt64 × UInt64} (hp : (after pre).primed_ = true) (hc : read_cpu r.stat = some cpu) :
    reported hz pre r = (after pre).deltas hz cpu.1 cpu.2 (read_process r.self_stat) r.now := by
  unfold reported Monitor.sample
  rw [hp, hc]

/-- Nothing reported is sound. -/
theorem Sound.empty : Sound hz pre r .empty :=
  ⟨.inl rfl, fun h => absurd rfl h, fun h => absurd rfl h, fun h => absurd rfl h⟩

/-- The first reading of a history is steady. -/
theorem Steady.nil : Steady [] r :=
  ⟨fun _ _ _ h => (Option.some_ne_none _ h.symm).elim, fun _ h => (Option.some_ne_none _ h.symm).elim⟩

theorem last_process_isSome : (last_process pre).isSome ↔ ∃ q ∈ pre, (read_process q.self_stat).isSome := by
  unfold last_process
  rw [List.findSome?_isSome_iff]
  simp only [List.mem_reverse]

/-- A later time is that much later. -/
theorem toNat_sub_of_le {a b : UInt64} (h : a ≤ b) : ((b - a).toNat : Int) = b.toNat - a.toNat := by
  rw [UInt64.toNat_sub_of_le _ _ h]
  exact Int.ofNat_sub (UInt64.le_iff_toNat_le.1 h)

theorem interval_pos (htime : prev.now < r.now) :
    (0 : Rat) < ((r.now.toNat - prev.now.toNat : Int) : Rat) / 1000000000 := by
  have hlt : (prev.now.toNat : Int) < r.now.toNat := by exact_mod_cast UInt64.lt_iff_toNat_lt.1 htime
  have hpos : (0 : Rat) < ((r.now.toNat - prev.now.toNat : Int) : Rat) := by exact_mod_cast Int.sub_pos.2 hlt
  exact div_pos hpos (by norm_num)

/-- The process's percentage is what it consumed since the previous sample just when the
reading it is taken from is of that sample. -/
theorem consumed_iff (hpos : 0 < hz) (htime : prev.now < r.now) (hcpu : prev.cpu_time ≤ r.cpu_time) {saved : UInt64} :
    let interval : Rat := ((r.now.toNat - prev.now.toNat : Int) : Rat) / 1000000000
    100 * ((((r.cpu_time - saved).toNat : Int) : Rat) / hz) / interval =
      100 * (((r.cpu_time.toNat - prev.cpu_time.toNat : Int) : Rat) / hz) / interval ↔ saved = prev.cpu_time := by
  intro interval
  have hhz : (hz : Rat) ≠ 0 := by exact_mod_cast hpos.ne'
  have hinterval : interval ≠ 0 := (interval_pos htime).ne'
  rw [div_left_inj' hinterval, mul_right_inj' (by norm_num), div_left_inj' hhz, Int.cast_inj, ← toNat_sub_of_le hcpu,
    Nat.cast_inj, UInt64.toNat_inj]
  exact ⟨fun h => by simpa using h, fun h => by rw [h]⟩

variable (pre) in
/-- What is reported after a sample that read the total too. -/
theorem reported_of_cpu {cpu cpu' : UInt64 × UInt64} (hpos : 0 < hz) (htime : prev.now < r.now)
    (hprev : read_cpu prev.stat = some cpu) (hr : read_cpu r.stat = some cpu') :
    let interval : Rat := ((r.now.toNat - prev.now.toNat : Int) : Rat) / 1000000000
    reported hz (pre ++ [prev]) r =
      { cpu_percent :=
          if cpu'.1 - cpu.1 > 0 then
            100 * (((cpu'.1 - cpu.1 - (cpu'.2 - cpu.2)).toNat : Int) : Rat) / (((cpu'.1 - cpu.1).toNat : Int) : Rat)
          else -1
        interval_seconds := interval
        process_cpu_percent := match read_process r.self_stat with
          | some process =>
            100 * ((((process - (last_process (pre ++ [prev])).getD 0).toNat : Int) : Rat) / hz) / interval
          | none => -1 } := by
  intro interval
  have hprimed : (after (pre ++ [prev])).primed_ = true := by
    rw [after_snoc]
    exact Option.isSome_iff_exists.2 ⟨cpu, hprev⟩
  have htotal : (after (pre ++ [prev])).total_ = cpu.1 := by
    rw [after_snoc]
    unfold Monitor.save
    rw [hprev]
    rfl
  have hidle : (after (pre ++ [prev])).idle_ = cpu.2 := by
    rw [after_snoc]
    unfold Monitor.save
    rw [hprev]
    rfl
  have hinterval : Doubles.div (Doubles.ofInt (r.now - (after (pre ++ [prev])).last_ns_).toNat)
      (Doubles.ofInt 1000000000) = interval := by
    rw [after_snoc]
    show (((r.now - prev.now).toNat : Int) : Rat) / ((1000000000 : Int) : Rat) = interval
    rw [toNat_sub_of_le (UInt64.le_of_lt htime), Int.cast_ofNat]
  have hlt : Doubles.lt (Doubles.ofInt 0) interval = true := decide_eq_true (interval_pos htime)
  rw [reported_deltas hprimed hr]
  unfold Monitor.deltas
  simp only [hinterval, htotal, hidle, ← after_process, hlt, if_true, if_pos hpos]
  rfl

theorem cpu_iff {cpu cpu' : UInt64 × UInt64} (hpos : 0 < hz) (htime : prev.now < r.now)
    (hprev : read_cpu prev.stat = some cpu) (hr : read_cpu r.stat = some cpu') :
    let percent := (reported hz (pre ++ [prev]) r).cpu_percent
    (percent = -1 ∨ 0 ≤ percent ∧ percent ≤ 100) ↔ cpu'.1 = cpu.1 ∨ cpu'.2 - cpu.2 ≤ cpu'.1 - cpu.1 := by
  rw [reported_of_cpu pre hpos htime hprev hr]
  dsimp only
  by_cases htotal : cpu'.1 - cpu.1 > 0
  · rw [if_pos htotal]
    refine (percent_iff htotal).trans ⟨.inr, fun h => h.resolve_left fun heq => ?_⟩
    rw [heq, UInt64.sub_self] at htotal
    exact absurd htotal (UInt64.lt_irrefl _)
  · rw [if_neg htotal]
    refine iff_of_true (.inl rfl) (.inl ?_)
    have hzero : cpu'.1 - cpu.1 = 0 := by
      by_contra hne
      exact htotal (UInt64.pos_iff_ne_zero.2 hne)
    have hsum := UInt64.sub_add_cancel cpu'.1 cpu.1
    rw [hzero, UInt64.zero_add] at hsum
    exact hsum.symm

theorem process_percent_ne {n : Nat} (hpos : 0 < hz) (htime : prev.now < r.now) :
    100 * (((n : Int) : Rat) / hz) / (((r.now.toNat - prev.now.toNat : Int) : Rat) / 1000000000) ≠ -1 := by
  have hhz : (0 : Rat) < hz := by exact_mod_cast hpos
  have hn : (0 : Rat) ≤ ((n : Int) : Rat) := by exact_mod_cast Nat.zero_le n
  have hnonneg :=
    div_nonneg (mul_nonneg (show (0 : Rat) ≤ 100 by norm_num) (div_nonneg hn hhz.le)) (interval_pos htime).le
  intro h
  rw [h] at hnonneg
  exact absurd hnonneg (by norm_num)

/-- A sample after another, where both read the total. -/
theorem sound_iff_of_cpu {cpu cpu' : UInt64 × UInt64} (hpos : 0 < hz) (htime : prev.now < r.now)
    (hconsumed : prev.cpu_time ≤ r.cpu_time) (hprev : read_cpu prev.stat = some cpu)
    (hr : read_cpu r.stat = some cpu') :
    Sound hz (pre ++ [prev]) r (reported hz (pre ++ [prev]) r) ↔
      (cpu'.1 = cpu.1 ∨ cpu'.2 - cpu.2 ≤ cpu'.1 - cpu.1) ∧
        ((read_process r.self_stat).isSome → last_process (pre ++ [prev]) = some prev.cpu_time) := by
  have hout := reported_of_cpu pre hpos htime hprev hr
  have hbefore : ∃ q ∈ pre ++ [prev], (read_cpu q.stat).isSome :=
    ⟨prev, List.mem_append_right _ (List.mem_singleton_self _), by rw [hprev]; rfl⟩
  have hlast : (pre ++ [prev]).getLast? = some prev := List.getLast?_concat
  constructor
  · refine fun hsound => ⟨(cpu_iff hpos htime hprev hr).1 hsound.cpu, fun hread => ?_⟩
    obtain ⟨process, hprocess⟩ := Option.isSome_iff_exists.1 hread
    obtain rfl := r.process_eq process hprocess
    rw [hprocess] at hout
    have hne : (reported hz (pre ++ [prev]) r).process_cpu_percent ≠ -1 := by
      rw [hout]
      exact process_percent_ne hpos htime
    obtain ⟨q, hq, -, hpercent⟩ := hsound.process hne
    obtain rfl : prev = q := Option.some.inj (hlast.symm.trans hq)
    rw [hout] at hpercent
    have hsaved := (consumed_iff hpos htime hconsumed).1 hpercent
    obtain ⟨saved, hsome⟩ := Option.isSome_iff_exists.1 (last_process_isSome.2 (hsound.process_before hne))
    rw [hsome] at hsaved ⊢
    exact congrArg some hsaved
  · rintro ⟨hcpu, hprocess⟩
    have hread : (reported hz (pre ++ [prev]) r).process_cpu_percent ≠ -1 →
        read_process r.self_stat = some r.cpu_time ∧ last_process (pre ++ [prev]) = some prev.cpu_time := by
      intro hne
      cases hread : read_process r.self_stat with
      | none =>
        rw [hout, hread] at hne
        exact absurd rfl hne
      | some process =>
        obtain rfl := r.process_eq process hread
        exact ⟨rfl, hprocess (by rw [hread]; rfl)⟩
    refine ⟨(cpu_iff hpos htime hprev hr).2 hcpu, fun hne => ⟨prev, hlast, by rw [hout], ?_⟩, fun _ => hbefore,
      fun hne => ?_⟩
    · obtain ⟨hr', hsaved⟩ := hread hne
      rw [hout, hr', hsaved]
      exact (consumed_iff hpos htime hconsumed).2 rfl
    · exact last_process_isSome.1 (by rw [(hread hne).2]; rfl)

theorem sound_iff (hpos : 0 < hz)
    (hlater : ∀ prev, pre.getLast? = some prev → prev.now < r.now ∧ prev.cpu_time ≤ r.cpu_time) :
    Sound hz pre r (reported hz pre r) ↔ Steady pre r := by
  induction pre using List.reverseRecOn with
  | nil =>
    have hnone : reported hz [] r = .empty := reported_nothing fun h => Bool.false_ne_true h.1
    rw [hnone]
    exact iff_of_true .empty .nil
  | append_singleton pre prev =>
    have hlast : (pre ++ [prev]).getLast? = some prev := List.getLast?_concat
    have hprimed : (after (pre ++ [prev])).primed_ = (read_cpu prev.stat).isSome := by rw [after_snoc]; rfl
    by_cases hboth : (read_cpu prev.stat).isSome ∧ (read_cpu r.stat).isSome
    · obtain ⟨cpu, hcpu⟩ := Option.isSome_iff_exists.1 hboth.1
      obtain ⟨cpu', hcpu'⟩ := Option.isSome_iff_exists.1 hboth.2
      obtain ⟨htime, hconsumed⟩ := hlater prev hlast
      rw [sound_iff_of_cpu hpos htime hconsumed hcpu hcpu']
      constructor
      · rintro ⟨hidle, hprocess⟩
        refine ⟨?_, ?_⟩
        · intro q c c' hq hc hc'
          obtain rfl : prev = q := Option.some.inj (hlast.symm.trans hq)
          obtain rfl : cpu = c := Option.some.inj (hcpu.symm.trans hc)
          obtain rfl : cpu' = c' := Option.some.inj (hcpu'.symm.trans hc')
          exact hidle
        · intro q hq _ _ hread
          obtain rfl : prev = q := Option.some.inj (hlast.symm.trans hq)
          exact hprocess hread
      · exact fun h => ⟨h.idle prev cpu cpu' hlast hcpu hcpu', h.process prev hlast hboth.1 hboth.2⟩
    · rw [reported_nothing (by rwa [hprimed])]
      refine iff_of_true .empty ⟨?_, ?_⟩
      · intro q c c' hq hc hc'
        obtain rfl : prev = q := Option.some.inj (hlast.symm.trans hq)
        exact absurd ⟨by rw [hc]; rfl, by rw [hc']; rfl⟩ hboth
      · intro q hq hc hc'
        obtain rfl : prev = q := Option.some.inj (hlast.symm.trans hq)
        exact absurd ⟨hc, hc'⟩ hboth

end OneSample

/-- Readings one after another, in which the clock advances and no CPU time is given back. -/
structure History where
  readings : List Reading
  later : readings.Pairwise fun q r => q.now < r.now ∧ q.cpu_time ≤ r.cpu_time

/-- Every sample of a history is sound if and only if every reading of it is steady. -/
theorem samples_sound_iff {hz : Int} (hpos : 0 < hz) (h : History) :
    (∀ pre r post, h.readings = pre ++ r :: post → Sound hz pre r (reported hz pre r)) ↔
      ∀ pre r post, h.readings = pre ++ r :: post → Steady pre r := by
  have hiff : ∀ pre r post, h.readings = pre ++ r :: post → (Sound hz pre r (reported hz pre r) ↔ Steady pre r) := by
    intro pre r post he
    apply sound_iff hpos
    intro prev hprev
    have hlater := h.later
    rw [he, List.pairwise_append] at hlater
    exact hlater.2.2 prev (List.mem_of_getLast? hprev) r List.mem_cons_self
  exact ⟨fun hs pre r post he => (hiff pre r post he).1 (hs pre r post he),
    fun hs pre r post he => (hiff pre r post he).2 (hs pre r post he)⟩

theorem used_of_all {stat : Option Bytes} {time : UInt64} (h : (read_process stat).all (· == time) = true) :
    ∀ process, read_process stat = some process → process = time := by
  intro process hp
  rw [hp] at h
  exact eq_of_beq h

/-- A process that has used 9 ticks, and then 12. -/
def busy : History where
  readings :=
    [⟨some (utf8 "cpu  100 0 0 50 10\n"), some (utf8 "1 (a b) S 1 1 1 0 -1 4 0 0 0 0 7 2 0\n"), 1000, 9,
        used_of_all (by decide)⟩,
      ⟨some (utf8 "cpu  110 0 0 60 10\n"), some (utf8 "1 (a b) S 1 1 1 0 -1 4 0 0 0 0 8 4 0\n"), 2000, 12,
        used_of_all (by decide)⟩]
  later := by decide

theorem busy_steady (pre : List Reading) (r : Reading) (post : List Reading) (he : busy.readings = pre ++ r :: post) :
    Steady pre r := by
  match pre, he with
  | [], _ => exact .nil
  | [_], he =>
    cases he
    refine ⟨fun prev cpu cpu' hprev hc hc' => ?_, fun prev hprev _ _ _ => ?_⟩
    · cases hprev
      obtain rfl : (160, 60) = cpu := Option.some.inj (.trans (by decide) hc)
      obtain rfl : (180, 70) = cpu' := Option.some.inj (.trans (by decide) hc')
      decide
    · cases hprev
      decide
  | _ :: _ :: pre, he =>
    simp only [busy, List.cons_append, List.cons.injEq] at he
    exact absurd he.2.2 (by simp)

/-- Both its samples are sound; the second says that half of the CPU time was idle. -/
theorem samples_sound_busy :
    (busy.readings.drop 1).map (fun r => (reported 100 (busy.readings.take 1) r).cpu_percent) = [50] ∧
      ∀ pre r post, busy.readings = pre ++ r :: post → Sound 100 pre r (reported 100 pre r) :=
  ⟨by decide +kernel, (samples_sound_iff (by decide) busy).2 busy_steady⟩

def before_io : Reading := ⟨some (utf8 "cpu  100 0 0 50 10\n"), none, 1000, 0, used_of_all (by decide)⟩

def after_io : Reading := ⟨some (utf8 "cpu  110 0 0 50 5\n"), none, 2000, 0, used_of_all (by decide)⟩

/-- Time spent on I/O that the kernel takes back: 5 ticks of iowait less, after 10 more of work. -/
def iowait_back : History := ⟨[before_io, after_io], by decide⟩

/-- It makes 200 percent. -/
theorem iowait_back_unsound :
    ¬ ∀ (h : History) pre r post, h.readings = pre ++ r :: post → Sound 100 pre r (reported 100 pre r) := by
  intro h
  have hsound := h iowait_back [before_io] after_io [] rfl
  have hbefore : read_cpu before_io.stat = some (160, 60) := by decide
  have hafter : read_cpu after_io.stat = some (165, 55) := by decide
  have hpercent := @cpu_iff 100 [] before_io after_io _ _ (by decide) (by decide) hbefore hafter
  exact absurd (hpercent.1 hsound.cpu) (by decide)

end CameraStreamer.ResourceMonitor
