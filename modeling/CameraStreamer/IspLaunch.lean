import CameraStreamer.Lib.GstLaunch
import CameraStreamer.Lib.Runs
import CameraStreamer.TriggerHandlers
/-!
# ISP values in the launch string

What gst-launch makes of the argus source's fragment. The fragment puts the ISP
overrides between quotes and escapes nothing: `fragment_elements_iff` says which
overrides come back as they are, and `quotes_hold_iff` which key files and which
requests keep every camera's so.
-/

namespace CameraStreamer

open GstLaunch

/-! ## The elements of a fragment -/

namespace ArgusSource
variable {D : Type} [Doubles D]

def property (name value : String) : Property := (name.toList, value.toList)

/-- The ranges that are set. -/
def range_properties (cam : CameraConfig D) : List Property :=
  (if 0 < cam.exposure then
    let ns := toString (cam.exposure * 1000)
    [property "exposuretimerange" (ns ++ " " ++ ns)]
  else []) ++
  (if Doubles.lt (Doubles.ofInt 0) cam.gain then
    let buf := Doubles.format cam.gain
    [property "gainrange" (buf ++ " " ++ buf)]
  else [])

def isp_properties (isp : StringMap) : List Property := isp.map fun (name, value) => property name value

def crop_properties (cam : CameraConfig D) : List Property :=
  if Doubles.le cam.zoom (Doubles.ofInt 1) then []
  else
    let (left, cw) := PipelineBuilder.crop cam.width cam.zoom cam.zoom_x
    let (top, ch) := PipelineBuilder.crop cam.height cam.zoom cam.zoom_y
    [property "left" (toString left), property "right" (toString (left + cw)), property "top" (toString top),
      property "bottom" (toString (top + ch))]

/-- Which element it is, and of which sensor. -/
def fixed_properties (cam : CameraConfig D) : List Property :=
  [property "name" "camsrc", property "sensor-id" (toString cam.sensor_id)]

def source_element (cam : CameraConfig D) : Element where
  head := "nvarguscamerasrc".toList
  properties := fixed_properties cam ++ (range_properties cam ++ isp_properties cam.isp)

def caps (cam : CameraConfig D) : String := "video/x-raw(memory:NVMM)," ++ PipelineBuilder.caps_tail cam

def zoom_caps (cam : CameraConfig D) : String :=
  "video/x-raw(memory:NVMM),format=NV12,width=" ++ toString cam.width ++ ",height=" ++ toString cam.height

/-- The caps and the zoom parts. -/
def tail_elements (cam : CameraConfig D) : List Element :=
  ⟨(caps cam).toList, []⟩ ::
    if Doubles.lt (Doubles.ofInt 1) cam.zoom then
      [⟨"nvvidconv".toList, property "name" "zoomer" :: crop_properties cam⟩, ⟨(zoom_caps cam).toList, []⟩]
    else []

/-- The elements that the fragment is meant to describe. -/
def fragment_elements (cam : CameraConfig D) : List Element := source_element cam :: tail_elements cam

end ArgusSource

/-! ## Reading the fragment -/

theorem int_plain (i : Int) : ∀ c ∈ (toString i).toList, Plain c := by
  intro c h
  rcases int_chars i c h with rfl | hd
  · decide
  · simp only [Char.isDigit, Bool.and_eq_true, decide_eq_true_eq] at hd
    have hlow : 48 ≤ c.toNat := hd.1
    have hhigh : c.toNat ≤ 57 := hd.2
    refine ⟨?_, ?_, ?_, ?_, ?_⟩
    · simp only [is_space, Bool.or_eq_false_iff, decide_eq_false_iff_not, Bool.and_eq_false_iff, decide_eq_false_iff_not]
      constructor
      · rintro rfl
        revert hlow
        decide
      · right
        omega
    all_goals
      rintro rfl
      revert hlow hhigh
      decide

theorem int_ne_nil (i : Int) : (toString i).toList ≠ [] := by
  have hdigits : ∀ n : Nat, (toString n).toList ≠ [] := by
    intro n
    rw [Nat.toString_eq_ofList_toDigits, String.toList_ofList]
    exact Nat.toDigits_ne_nil
  rcases i with n | n
  · exact hdigits n
  · show ("-" ++ toString (n + 1)).toList ≠ []
    rw [String.toList_append]
    simp

theorem word_append {s t : String} (hs : Word s.toList) (ht : Word t.toList) : Word (s ++ t).toList := by
  rw [String.toList_append]
  exact List.forall_mem_append.2 ⟨hs, ht⟩

theorem word_int (i : Int) : Word (toString i).toList := fun c h => ⟨(int_plain i c h).1, (int_plain i c h).2.1⟩

theorem bare_int (i : Int) : Bare (toString i).toList := ⟨int_ne_nil i, int_plain i⟩

theorem clean_int (i : Int) : Clean (toString i).toList := fun c h =>
  ⟨(int_plain i c h).2.2.2.1, (int_plain i c h).2.2.2.2⟩

namespace ArgusSource
variable {D : Type} [Doubles D] (cam : CameraConfig D)

omit [Doubles D] in
theorem word_caps : Word (caps cam).toList := by
  have hcaps : Word "video/x-raw(memory:NVMM),".toList := by decide
  have hwidth : Word "width=".toList := by decide
  have hheight : Word ",height=".toList := by decide
  have hframerate : Word ",framerate=".toList := by decide
  have hend : Word "/1".toList := by decide
  have hsize : Word ("width=" ++ toString cam.width ++ ",height=" ++ toString cam.height).toList :=
    word_append (word_append (word_append hwidth (word_int _)) hheight) (word_int _)
  exact word_append hcaps (word_append (word_append (word_append hsize hframerate) (word_int _)) hend)

omit [Doubles D] in
theorem word_zoom_caps : Word (zoom_caps cam).toList := by
  have hformat : Word "video/x-raw(memory:NVMM),format=NV12,width=".toList := by decide
  have hheight : Word ",height=".toList := by decide
  exact word_append (word_append (word_append hformat (word_int _)) hheight) (word_int _)

theorem argus_ranges_text :
    (PipelineBuilder.argus_ranges cam).toList = (range_properties cam ++ isp_properties cam.isp).flatMap assignment := by
  have hisp : (String.join (cam.isp.map fun (property, value) => " " ++ property ++ "=\"" ++ value ++ "\"")).toList =
      (isp_properties cam.isp).flatMap assignment := by
    rw [String.toList_join, isp_properties, List.flatMap_map, List.flatMap_map]
    congr 1
    funext p
    simp [assignment, property]
  rw [PipelineBuilder.argus_ranges, String.toList_append, String.toList_append, hisp, List.flatMap_append]
  congr 1
  rw [range_properties, List.flatMap_append]
  congr 1
  · split
    · simp [assignment, property]
    · rfl
  · split
    · simp [assignment, property]
    · rfl

theorem crop_text : (PipelineBuilder.zoom_crop cam).toList = (crop_properties cam).flatMap bare_assignment := by
  unfold PipelineBuilder.zoom_crop crop_properties
  split
  · rfl
  · simp [bare_assignment, property]

def zoom_text : List Char :=
  if Doubles.lt (Doubles.ofInt 1) cam.zoom then
    " ! ".toList ++ ("nvvidconv".toList ++ ((property "name" "zoomer" :: crop_properties cam).flatMap bare_assignment ++
      (" ! ".toList ++ ((zoom_caps cam).toList ++ []))))
  else []

theorem zoom_tail_text : (PipelineBuilder.zoom_tail cam).toList =
    " ! ".toList ++ ("nvvidconv".toList ++ ((property "name" "zoomer" :: crop_properties cam).flatMap bare_assignment ++
      (" ! ".toList ++ (zoom_caps cam).toList))) := by
  have hname : " ! nvvidconv name=zoomer".toList =
      " ! ".toList ++ ("nvvidconv".toList ++ bare_assignment (property "name" "zoomer")) := by decide
  have hout : " ! video/x-raw(memory:NVMM),format=NV12,width=".toList =
      " ! ".toList ++ "video/x-raw(memory:NVMM),format=NV12,width=".toList := by decide
  unfold PipelineBuilder.zoom_tail zoom_caps
  simp only [String.toList_append, crop_text, hname, hout, List.flatMap_cons, List.append_assoc]

theorem fragment_text :
    (build_source_fragment cam).toList = "nvarguscamerasrc".toList ++
      ((fixed_properties cam).flatMap bare_assignment ++
        ((range_properties cam ++ isp_properties cam.isp).flatMap assignment ++
          (" ! ".toList ++ ((caps cam).toList ++ zoom_text cam)))) := by
  have hsource : "nvarguscamerasrc name=camsrc sensor-id=".toList =
      "nvarguscamerasrc".toList ++ (bare_assignment (property "name" "camsrc") ++ " sensor-id=".toList) := by decide
  have hid (x : String) : bare_assignment (property "sensor-id" x) = " sensor-id=".toList ++ x.toList := rfl
  have hcaps : " ! video/x-raw(memory:NVMM),".toList = " ! ".toList ++ "video/x-raw(memory:NVMM),".toList := by decide
  have htail : (if Doubles.lt (Doubles.ofInt 1) cam.zoom then PipelineBuilder.zoom_tail cam else "").toList =
      zoom_text cam := by
    unfold zoom_text
    split
    · rw [zoom_tail_text, List.append_nil]
    · exact String.toList_empty
  unfold build_source_fragment caps fixed_properties
  simp only [String.toList_append, htail, argus_ranges_text, hsource, hid, hcaps, List.flatMap_cons, List.flatMap_nil,
    List.append_assoc, List.append_nil]

theorem crop_plain : ∀ p ∈ crop_properties cam, Proper p.1 ∧ Bare p.2 := by
  have hint (name : String) (i : Int) (hn : Proper name.toList) :
      Proper (property name (toString i)).1 ∧ Bare (property name (toString i)).2 := ⟨hn, bare_int i⟩
  unfold crop_properties
  split
  · simp
  · intro p hp
    simp only [List.mem_cons, List.not_mem_nil, or_false] at hp
    rcases hp with rfl | rfl | rfl | rfl
    · exact hint "left" _ (by decide)
    · exact hint "right" _ (by decide)
    · exact hint "top" _ (by decide)
    · exact hint "bottom" _ (by decide)

/-- What comes after the source element says what it should, whatever the configuration. -/
theorem read_tail {r : Reader} (hb : r.place = .between) :
    r.read (" ! ".toList ++ ((caps cam).toList ++ zoom_text cam)) = some (r.done ++ r.element :: tail_elements cam) := by
  have hne {s t : String} (h : s.toList ≠ []) : (s ++ t).toList ≠ [] := by
    rw [String.toList_append]
    exact List.append_ne_nil_of_left_ne_nil h _
  have hcaps : (caps cam).toList ≠ [] := hne (by decide)
  have hzoom : (zoom_caps cam).toList ≠ [] := hne (hne (hne (by decide)))
  rw [Reader.read_next _ hb hcaps (word_caps cam)]
  unfold zoom_text tail_elements
  split
  · have hword : Word "nvvidconv".toList := by decide
    have hname : Proper (property "name" "zoomer").1 ∧ Bare (property "name" "zoomer").2 := by decide
    have hplain : ∀ p ∈ property "name" "zoomer" :: crop_properties cam, Proper p.1 ∧ Bare p.2 := by
      intro p hp
      rcases List.mem_cons.1 hp with rfl | hp
      · exact hname
      · exact crop_plain cam p hp
    rw [Reader.read_head_next _ (by decide) hword]
    obtain ⟨t, ht⟩ : ∃ t, (property "name" "zoomer" :: crop_properties cam).flatMap bare_assignment ++
        (" ! ".toList ++ ((zoom_caps cam).toList ++ [])) = ' ' :: t := ⟨_, rfl⟩
    rw [ht, Reader.read_head_space, ← ht]
    have hbare := read_bare_assignments (r := ((r.close.enter (caps cam).toList).close).enter "nvvidconv".toList) rfl _
      ('!' :: ' ' :: ((zoom_caps cam).toList ++ [])) hplain
    refine hbare.trans ?_
    refine (Reader.read_next (r := Reader.puts _ _) [] rfl hzoom (word_zoom_caps cam)).trans ?_
    simp [Reader.read, Reader.finish, Reader.at_place, Reader.close, Reader.enter, Reader.puts]
  · simp [Reader.read, Reader.finish, Reader.at_place, Reader.close]

/-- `%g` writes neither a quote nor a backslash. -/
def FormatClean (D : Type) [Doubles D] : Prop := ∀ d : D, Clean (Doubles.format d).toList

theorem range_clean (hformat : FormatClean D) : ∀ p ∈ range_properties cam, Proper p.1 ∧ Clean p.2 := by
  have htwice {s : String} (h : Clean s.toList) : Clean (s ++ " " ++ s).toList := by
    intro c hc
    simp only [String.toList_append, List.mem_append] at hc
    rcases hc with (hc | hc) | hc
    · exact h c hc
    · have hspace : Clean " ".toList := by decide
      exact hspace c hc
    · exact h c hc
  intro p hp
  rcases List.mem_append.1 hp with hp | hp
  · split at hp
    · rw [List.mem_singleton.1 hp]
      exact ⟨show Proper "exposuretimerange".toList by decide, htwice (clean_int _)⟩
    · cases hp
  · split at hp
    · rw [List.mem_singleton.1 hp]
      exact ⟨show Proper "gainrange".toList by decide, htwice (hformat cam.gain)⟩
    · cases hp

/-- An override that the launch string gives back. -/
def Holds (p : String × String) : Prop := Proper p.1.toList ∧ Clean p.2.toList

/-- A reader past the fixed part of the source element. -/
def fixed_reader : Reader := ⟨[], ⟨"nvarguscamerasrc".toList, fixed_properties cam⟩, .between⟩

omit [Doubles D] in
theorem fixed_plain : ∀ p ∈ fixed_properties cam, Proper p.1 ∧ Bare p.2 := by
  intro p hp
  simp only [fixed_properties, List.mem_cons, List.not_mem_nil, or_false] at hp
  rcases hp with rfl | rfl
  · decide
  · exact ⟨show Proper "sensor-id".toList by decide, bare_int _⟩

omit [Doubles D] in
theorem fixed_names : (fixed_reader cam).Names :=
  ⟨fun _ he => (nomatch he), fun p hp => (fixed_plain cam p hp).1, trivial⟩

omit [Doubles D] in
theorem elements_fixed (s : List Char) :
    elements ("nvarguscamerasrc".toList ++ ((fixed_properties cam).flatMap bare_assignment ++ ' ' :: s)) =
      (fixed_reader cam).read (' ' :: s) := by
  have hword : Word "nvarguscamerasrc".toList := by decide
  have hputs : (Reader.enter ⟨[], ⟨[], []⟩, .start⟩ "nvarguscamerasrc".toList).puts (fixed_properties cam) =
      fixed_reader cam := rfl
  rw [elements, Reader.read_start _ rfl (by decide) hword]
  refine (Reader.read_head_space _).trans ?_
  rw [← hputs]
  exact read_bare_assignments rfl _ s (fixed_plain cam)

/-- The fragment is read as it is meant if and only if every override holds. -/
theorem fragment_elements_iff (hformat : FormatClean D) :
    elements (build_source_fragment cam).toList = some (fragment_elements cam) ↔ ∀ p ∈ cam.isp, Holds p := by
  obtain ⟨ps, hps⟩ : ∃ ps, ps = range_properties cam ++ isp_properties cam.isp := ⟨_, rfl⟩
  -- after the fixed part comes a space, of an assignment or of the next element
  obtain ⟨s, hs⟩ : ∃ s, ps.flatMap assignment ++ (" ! ".toList ++ ((caps cam).toList ++ zoom_text cam)) = ' ' :: s := by
    cases ps with
    | nil => exact ⟨_, rfl⟩
    | cons p ps => exact ⟨_, rfl⟩
  have hmeant : fragment_elements cam = (fixed_reader cam).done ++
      ⟨(fixed_reader cam).element.head, (fixed_reader cam).element.properties ++ (ps ++ [])⟩ :: tail_elements cam := by
    rw [List.append_nil, hps]
    rfl
  have htail : ((fixed_reader cam).puts ps).read (" ! ".toList ++ ((caps cam).toList ++ zoom_text cam)) =
      some (fragment_elements cam) := by
    rw [read_tail cam (r := (fixed_reader cam).puts ps) rfl, hmeant, List.append_nil]
    rfl
  rw [fragment_text, ← hps, hs, elements_fixed, ← hs, hmeant, assignments_iff rfl (fixed_names cam), ← hmeant,
    and_iff_left htail]
  constructor
  · intro h p hp
    refine h (property p.1 p.2) ?_
    rw [hps]
    exact List.mem_append_right _ (List.mem_map.2 ⟨p, hp, rfl⟩)
  · intro h p hp
    rw [hps] at hp
    rcases List.mem_append.1 hp with hp | hp
    · exact range_clean cam hformat p hp
    · obtain ⟨p', hp', rfl⟩ := List.mem_map.1 hp
      exact h p' hp'

end ArgusSource

/-! ## Where the overrides come from -/

namespace StringMap

theorem mem_assign (key value : String) (m : StringMap) : (key, value) ∈ m.assign key value := by
  induction m with
  | nil => exact List.mem_singleton.2 rfl
  | cons p m ih =>
    obtain ⟨k, v⟩ := p
    unfold assign
    split
    · exact List.mem_cons_self
    · split
      · exact List.mem_cons_self
      · exact List.mem_cons_of_mem _ ih

/-- An assignment adds its own entry and no other. -/
theorem assign_mem {key value : String} {m : StringMap} {p : String × String} (h : p ∈ m.assign key value) :
    p = (key, value) ∨ p ∈ m := by
  induction m with
  | nil => exact .inl (List.mem_singleton.1 h)
  | cons q m ih =>
    obtain ⟨k, v⟩ := q
    unfold assign at h
    split at h
    · exact List.mem_cons.1 h
    · split at h
      · exact (List.mem_cons.1 h).imp_right (List.mem_cons_of_mem _)
      · rcases List.mem_cons.1 h with h | h
        · exact .inr (h ▸ List.mem_cons_self)
        · exact (ih h).imp_right (List.mem_cons_of_mem _)

/-- The entries of other keys stay. -/
theorem mem_assign_other {key value : String} {m : StringMap} {p : String × String} (h : p ∈ m) (hk : p.1 ≠ key) :
    p ∈ m.assign key value := by
  induction m with
  | nil => cases h
  | cons q m ih =>
    obtain ⟨k, v⟩ := q
    unfold assign
    split
    · exact List.mem_cons_of_mem _ h
    · split
      · rename_i hkey
        rcases List.mem_cons.1 h with rfl | h
        · exact absurd hkey.symm hk
        · exact List.mem_cons_of_mem _ h
      · rcases List.mem_cons.1 h with rfl | h
        · exact List.mem_cons_self
        · exact List.mem_cons_of_mem _ (ih h)

theorem erase_mem {key : String} {m : StringMap} {p : String × String} (h : p ∈ m.erase key) : p ∈ m :=
  List.mem_of_mem_filter h

end StringMap

namespace FileConfigLoader
variable {D : Type}

/-- The override that a key of the file stands for. -/
def isp_entry (kf : KeyFile D) (group key : String) : Option (String × String) :=
  let value := get_string kf group key ""
  if isp_prefix.isPrefixOf key.toList && value != "" then
    some (String.ofList (key.toList.drop isp_prefix.length), value)
  else none

/-- Two keys of one property are one key. -/
theorem isp_entry_unique {kf : KeyFile D} {group key key' : String} {p p' : String × String}
    (h : isp_entry kf group key = some p) (h' : isp_entry kf group key' = some p') (hname : p.1 = p'.1) : p = p' := by
  unfold isp_entry at h h'
  simp only [Option.ite_none_right_eq_some, Bool.and_eq_true, List.isPrefixOf_iff_prefix] at h h'
  obtain ⟨⟨⟨rest, hrest⟩, -⟩, hp⟩ := h
  obtain ⟨⟨⟨rest', hrest'⟩, -⟩, hp'⟩ := h'
  cases hp
  cases hp'
  rw [← hrest, ← hrest', List.drop_left, List.drop_left] at hname
  have hlist : rest = rest' := by simpa using congrArg String.toList hname
  have hkey : key = key' := by
    rw [← String.ofList_toList (s := key), ← hrest, hlist, hrest', String.ofList_toList]
  rw [hkey]

theorem load_isp_eq (kf : KeyFile D) (group : String) (isp : StringMap) :
    load_isp kf group isp =
      ((kf.keys group).filterMap (isp_entry kf group)).foldl (fun isp p => StringMap.assign p.1 p.2 isp) isp := by
  rw [load_isp, List.foldl_filterMap]
  congr 1
  funext isp key
  unfold isp_entry
  by_cases hkey : isp_prefix.isPrefixOf key.toList = true
  · by_cases hvalue : get_string kf group key "" = ""
    · simp [hkey, hvalue]
    · simp [hkey, hvalue]
  · simp [hkey]

/-- Entries of one value for each name are all assigned, and no other. -/
theorem mem_assign_all {entries : List (String × String)} (hu : ∀ p ∈ entries, ∀ q ∈ entries, p.1 = q.1 → p = q)
    (m : StringMap) (p : String × String) :
    (p ∈ entries.foldl (fun m p => StringMap.assign p.1 p.2 m) m → p ∈ entries ∨ p ∈ m) ∧
      (p ∈ entries → p ∈ entries.foldl (fun m p => StringMap.assign p.1 p.2 m) m) := by
  -- an entry that is in already stays in: what comes later under its name is the entry itself
  have hstay : ∀ (left : List (String × String)) (m : StringMap), (∀ q ∈ left, p.1 = q.1 → p = q) → p ∈ m →
      p ∈ left.foldl (fun m p => StringMap.assign p.1 p.2 m) m := by
    intro left
    induction left with
    | nil => exact fun _ _ h => h
    | cons q left ih =>
      intro m hq h
      refine ih _ (fun q' h' => hq q' (by simp [h'])) ?_
      by_cases hk : p.1 = q.1
      · rw [hq q (by simp) hk]
        exact StringMap.mem_assign q.1 q.2 m
      · exact StringMap.mem_assign_other h hk
  induction entries generalizing m with
  | nil => exact ⟨.inr, fun h => nomatch h⟩
  | cons q entries ih =>
    have hu' : ∀ a ∈ entries, ∀ b ∈ entries, a.1 = b.1 → a = b := fun a ha b hb =>
      hu a (by simp [ha]) b (by simp [hb])
    constructor
    · intro h
      rcases (ih hu' (StringMap.assign q.1 q.2 m)).1 h with h | h
      · exact .inl (List.mem_cons_of_mem _ h)
      · rcases StringMap.assign_mem h with rfl | h
        · exact .inl List.mem_cons_self
        · exact .inr h
    · intro h
      rcases List.mem_cons.1 h with rfl | h
      · exact hstay entries _ (fun q hq => hu p (by simp) q (by simp [hq])) (StringMap.mem_assign p.1 p.2 m)
      · exact (ih hu' _).2 h

/-- The overrides of a loaded camera are those of its keys. -/
theorem mem_load_isp {kf : KeyFile D} {group : String} {p : String × String} :
    p ∈ load_isp kf group [] ↔ ∃ key ∈ kf.keys group, isp_entry kf group key = some p := by
  have hu : ∀ p ∈ (kf.keys group).filterMap (isp_entry kf group), ∀ q ∈ (kf.keys group).filterMap (isp_entry kf group),
      p.1 = q.1 → p = q := by
    intro p hp q hq hname
    obtain ⟨_, _, hp⟩ := List.mem_filterMap.1 hp
    obtain ⟨_, _, hq⟩ := List.mem_filterMap.1 hq
    exact isp_entry_unique hp hq hname
  rw [load_isp_eq, ← List.mem_filterMap]
  refine ⟨fun h => ?_, (mem_assign_all hu [] p).2⟩
  rcases (mem_assign_all hu [] p).1 h with h | h
  · exact h
  · cases h

end FileConfigLoader

namespace Control

open Json Runs

variable {D S V : Type} [Doubles D]

/-- The override that a request writes, an empty one to forget it. -/
def Request.isp_write (config : Config D) (r : Request D) : Option (Fin kNumCameras × String × String) :=
  match r.setting, param_camera r.params with
  | .isp, some c =>
    if (config.cameras c).source == "argus" && kIspParams.contains (isp_name r.params) then
      match param r.params "value" with
      | none => none
      | some .null => some (c, isp_name r.params, "")
      | some vn => (isp_text vn).map (c, isp_name r.params, ·)
    else none
  | _, _ => none

/-- An override taken or forgotten. -/
def write_isp (name value : String) (isp : StringMap) : StringMap :=
  if value = "" then isp.erase name else isp.assign name value

section Writes
variable {ctx : ControlContext D S V} {s : ControlState D S V} {c : Fin kNumCameras}

omit [Doubles D] in
theorem set_isp_argus (name value : String) : (set_isp ctx c name value s .argus).2.config =
    s.config.set_camera c { s.cam c with isp := write_isp name value (s.cam c).isp } := by
  unfold set_isp ArgusSource.set_isp write_isp
  dsimp only
  split <;> rfl

theorem isp_config {params : Option (Members D)} (hc : param_camera params = some c) :
    (SetIspHandler ctx params s).2.config =
      match Request.isp_write s.config ⟨.isp, params⟩ with
      | some (c, name, value) => s.config.set_camera c { s.cam c with isp := write_isp name value (s.cam c).isp }
      | none => s.config := by
  simp only [SetIspHandler, require_camera, hc, Request.isp_write]
  by_cases hs : (s.cam c).source = "argus"
  swap
  · have hs' : ((s.config.cameras c).source == "argus") = false := beq_eq_false_iff_ne.2 hs
    rw [if_pos hs]
    simp only [hs', Bool.false_and, Bool.false_eq_true, if_false]
  have hs' : ((s.config.cameras c).source == "argus") = true := beq_iff_eq.2 hs
  have hargus : create_source (s.cam c).source = some .argus := create_source_eq_some.2 hs
  rw [if_neg (not_not.2 hs)]
  by_cases hn : isp_name params ∈ kIspParams
  swap
  · have hn' : kIspParams.contains (isp_name params) = false := by simpa using hn
    rw [if_pos hn]
    simp only [hs', hn', Bool.and_false, Bool.false_eq_true, if_false]
  have hn' : kIspParams.contains (isp_name params) = true := by simpa using hn
  rw [if_neg (not_not.2 hn)]
  simp only [hs', hn', Bool.and_self, if_true, hargus]
  -- a value of any kind comes down to its text
  have hset (value : String) : (reply (set_isp ctx c (isp_name params) value s .argus)).2.config =
      s.config.set_camera c { s.cam c with isp := write_isp (isp_name params) value (s.cam c).isp } := by
    rw [reply_state]
    exact set_isp_argus _ value
  rcases param params "value" with - | vn
  · rfl
  · cases vn with
    | null => exact set_isp_argus _ ""
    | array elements => rfl
    | object members => rfl
    | bool b => exact hset _
    | int i => exact hset _
    | double d => exact hset _
    | string text => exact hset _

/-- The overrides after a request: only set-isp writes them, and only the one it names. -/
theorem handle_isp (ctx : ControlContext D S V) (r : Request D) (s : ControlState D S V) (c' : Fin kNumCameras) :
    ((r.handle ctx s).2.cam c').isp =
      match r.isp_write s.config with
      | some (c, name, value) => if c' = c then write_isp name value (s.cam c).isp else (s.cam c').isp
      | none => (s.cam c').isp := by
  obtain ⟨setting, params⟩ := r
  rcases hc : param_camera params with - | c
  · rw [handle_no_camera hc]
    have hw : Request.isp_write s.config ⟨setting, params⟩ = none := by
      rcases setting with - | - | - | - | - <;> simp only [Request.isp_write, hc]
    rw [hw]
  cases setting with
  | isp =>
    show ((SetIspHandler ctx params s).2.config.cameras c').isp = _
    rw [isp_config hc]
    rcases Request.isp_write s.config ⟨.isp, params⟩ with - | ⟨c, name, value⟩
    · rfl
    · dsimp only
      split
      · rename_i hc'
        rw [hc', Config.set_camera_self]
      · rename_i hc'
        rw [Config.set_camera_other _ _ hc']
        rfl
  | stream =>
    show ((SetStreamHandler ctx params s).2.cam c').isp = (s.cam c').isp
    simp only [SetStreamHandler, require_camera, hc]
    rcases param_bool params "enabled" with - | enabled
    · rfl
    · exact Config.set_camera_field (·.isp) (by rfl) c'
  | zoom =>
    show ((SetZoomHandler ctx params s).2.cam c').isp = (s.cam c').isp
    simp only [SetZoomHandler, require_camera, hc]
    rcases param_factor params with - | factor
    · rfl
    · exact Config.set_camera_field (·.isp) (by rfl) c'
  | exposure =>
    show ((SetExposureHandler ctx params s).2.config.cameras c').isp = (s.cam c').isp
    rw [exposure_config ctx s hc]
    rcases param_us params with - | us
    · rfl
    · dsimp only
      split
      · exact Config.set_camera_field (·.isp) (by rfl) c'
      · rfl
  | gain =>
    show ((SetGainHandler ctx params s).2.config.cameras c').isp = (s.cam c').isp
    rw [gain_config ctx s hc]
    rcases param_gain params with - | gain
    · rfl
    · dsimp only
      split
      · exact Config.set_camera_field (·.isp) (by rfl) c'
      · rfl

end Writes

/-! ## Every fragment of a run -/

section Run
variable (ctx : ControlContext D S V)

def apply (s : ControlState D S V) (r : Request D) : Option (ControlState D S V) := some (r.handle ctx s).2

/-- The state that a key file is loaded into. -/
def loaded (file : Option (KeyFile D)) (stream : S) (devices : V) : ControlState D S V :=
  ⟨FileConfigLoader.load file, stream, devices⟩

/-- Each camera's fragment is read as the elements it is meant to describe. -/
def Quoted (s : ControlState D S V) : Prop :=
  ∀ c, elements (ArgusSource.build_source_fragment (s.cam c)).toList = some (ArgusSource.fragment_elements (s.cam c))

/-- The overrides in the file have names that are names, and values that stay in their quotes. -/
def QuotableFile (file : Option (KeyFile D)) : Prop :=
  ∀ kf, file = some kf → ∀ c : Fin kNumCameras, ∀ key ∈ kf.keys ("cam" ++ toString c.val), ∀ p,
    FileConfigLoader.isp_entry kf ("cam" ++ toString c.val) key = some p → ArgusSource.Holds p

/-- So has the override that the request writes. -/
def Quotable (s : ControlState D S V) (r : Request D) : Prop :=
  ∀ c name value, r.isp_write s.config = some (c, name, value) → Clean value.toList

variable {ctx}

theorem Request.isp_write_name {config : Config D} {r : Request D} {c : Fin kNumCameras} {name value : String}
    (h : r.isp_write config = some (c, name, value)) : name ∈ kIspParams := by
  unfold Request.isp_write at h
  split at h
  · rename_i c' hc
    split at h
    · rename_i hok
      have hname : isp_name r.params ∈ kIspParams := by simpa using (Bool.and_eq_true_iff.1 hok).2
      split at h
      · cases h
      · cases h
        exact hname
      · obtain ⟨text, -, ht⟩ := Option.map_eq_some_iff.1 h
        cases ht
        exact hname
    · cases h
  · cases h

theorem isp_params_proper : ∀ name ∈ kIspParams, Proper name.toList := by decide

theorem quoted_iff (hformat : ArgusSource.FormatClean D) (s : ControlState D S V) :
    Quoted s ↔ ∀ c, ∀ p ∈ (s.cam c).isp, ArgusSource.Holds p :=
  forall_congr' fun c => ArgusSource.fragment_elements_iff (s.cam c) hformat

theorem quoted_loaded (hformat : ArgusSource.FormatClean D) (file : Option (KeyFile D)) (stream : S) (devices : V) :
    Quoted (loaded file stream devices) ↔ QuotableFile file := by
  rw [quoted_iff hformat]
  rcases file with - | kf
  · refine ⟨fun _ kf h => (nomatch h), fun _ c p hp => ?_⟩
    cases hp
  · constructor
    · intro h kf' hkf c key hkey p hp
      cases hkf
      exact h c p (FileConfigLoader.mem_load_isp.2 ⟨key, hkey, hp⟩)
    · intro h c p hp
      obtain ⟨key, hkey, hp⟩ := FileConfigLoader.mem_load_isp.1 hp
      exact h kf rfl c key hkey p hp

/-- A request keeps the fragments right if and only if the override it writes stays in its quotes. -/
theorem quoted_step (hformat : ArgusSource.FormatClean D) {s : ControlState D S V} (hs : Quoted s) (r : Request D) :
    Quoted (r.handle ctx s).2 ↔ Quotable s r := by
  rw [quoted_iff hformat] at hs ⊢
  rcases hw : r.isp_write s.config with - | ⟨c, name, value⟩
  · have hsame (c' : Fin kNumCameras) : ((r.handle ctx s).2.cam c').isp = (s.cam c').isp := by
      rw [handle_isp, hw]
    refine iff_of_true (fun c' => ?_) fun _ _ _ h => ?_
    · rw [hsame]
      exact hs c'
    · rw [hw] at h
      cases h
  have hisp (c' : Fin kNumCameras) : ((r.handle ctx s).2.cam c').isp =
      if c' = c then write_isp name value (s.cam c).isp else (s.cam c').isp := by
    rw [handle_isp, hw]
  have hname := isp_params_proper name (r.isp_write_name hw)
  constructor
  · intro h c' name' value' hw'
    cases hw.symm.trans hw'
    have hc := h c
    rw [hisp, if_pos rfl, write_isp] at hc
    split at hc
    · rename_i hempty
      subst hempty
      exact fun d hd => nomatch hd
    · exact (hc _ (StringMap.mem_assign name value _)).2
  · intro h c' p hp
    rw [hisp] at hp
    split at hp
    · rw [write_isp] at hp
      split at hp
      · exact hs c p (StringMap.erase_mem hp)
      · rcases StringMap.assign_mem hp with rfl | hp
        · exact ⟨hname, h c name value hw⟩
        · exact hs c p hp
    · exact hs c' p hp

variable (ctx) in
/-- In every run from a loaded key file, each fragment of each state is read as
it is meant if and only if neither the file nor a request has an override that
breaks its quotes. -/
theorem quotes_hold_iff (hformat : ArgusSource.FormatClean D) (file : Option (KeyFile D)) (stream : S) (devices : V)
    (requests : List (Request D)) :
    (∀ pre post s, requests = pre ++ post → Run (apply ctx) (loaded file stream devices) pre s → Quoted s) ↔
      QuotableFile file ∧ Meets (apply ctx) Quotable (loaded file stream devices) requests := by
  have hruns (h0 : Quoted (loaded file stream devices)) :
      (∀ pre post s, requests = pre ++ post → Run (apply ctx) (loaded file stream devices) pre s → Quoted s) ↔
        Meets (apply ctx) Quotable (loaded file stream devices) requests := by
    refine always_iff_meets (fun _ => True) Quoted (fun s r => ⟨_, rfl⟩) trivial h0 (fun _ _ _ _ _ => trivial) ?_
      requests
    intro s r s' _ hs h
    cases h
    exact quoted_step hformat hs r
  constructor
  · intro h
    have h0 := h [] requests _ rfl .nil
    exact ⟨(quoted_loaded hformat file stream devices).1 h0, (hruns h0).1 h⟩
  · rintro ⟨hfile, hm⟩
    exact (hruns ((quoted_loaded hformat file stream devices).2 hfile)).2 hm

end Run

/-! ## A quote in a value -/

theorem rat_format_clean : ArgusSource.FormatClean Rat := by
  intro q c hc
  have hq : (Doubles.format q : String) =
      if q.den = 1 then toString q.num else toString q.num ++ "/" ++ toString q.den := rfl
  rw [hq] at hc
  split at hc
  · exact clean_int _ c hc
  · simp only [String.toList_append, List.mem_append] at hc
    rcases hc with (hc | hc) | hc
    · exact clean_int _ c hc
    · have hslash : Clean "/".toList := by decide
      exact hslash c hc
    · exact clean_int q.den c hc

/-- Two cameras and nothing else. -/
def both_argus : KeyFile Rat where
  integer _ _ := none
  boolean _ _ := none
  double _ _ := none
  string _ _ := none
  keys _ := []

def bench : ControlContext Rat Unit Int := ⟨no_stream, V4l2.V4l2Device one_sensor, none⟩

def set_saturation (value : String) : Request Rat :=
  ⟨.isp, some [("camera", .int 0), ("param", .string "saturation"), ("value", .string value)]⟩

/-- Without quotes and backslashes, all is as it should be. -/
theorem quotes_hold_iff_plain :
    Quoted ((set_saturation "1.5 ! x").handle bench (loaded (some both_argus) () 0)).2 := by
  refine (quotes_hold_iff bench rat_format_clean (some both_argus) () 0 [set_saturation "1.5 ! x"]).2 ⟨?_, ?_⟩
    [set_saturation "1.5 ! x"] [] _ rfl (.snoc .nil rfl)
  · intro kf hkf c key hkey
    cases hkf
    cases hkey
  · refine Meets.nil.snoc .nil ?_
    intro c name value h
    cases h
    decide

/-- A quote in a value makes its rest part of the launch string. -/
theorem quote_escapes :
    ¬ ∀ (file : Option (KeyFile Rat)) requests s, Run (apply bench) (loaded file () 0) requests s → Quoted s := by
  intro hall
  have hm := ((quotes_hold_iff bench rat_format_clean none () 0 [set_saturation "1\" ! fakesink name=\"x"]).1
    fun pre post s _ hr => hall none pre s hr).2
  have hclean := hm [] _ [] _ rfl .nil 0 "saturation" "1\" ! fakesink name=\"x" rfl
  exact absurd hclean (by decide)

end Control

end CameraStreamer
