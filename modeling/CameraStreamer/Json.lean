import CameraStreamer.Lib.Bytes
import Mathlib.Data.List.Basic
/-!
# JSON values and their text

The tree that json-glib parses a request to and generates a reply from. The
generator is a parameter, with what the code relies on: the text of a value is one
line, and that of an object has its members in their order. `double` is a parameter
too, with the operations the code uses.
-/

namespace CameraStreamer

/-- The C++ `double`. -/
class Doubles (D : Type) where
  ofInt : Int → D
  /-- A cast to an integer type, towards zero. -/
  toInt : D → Int
  /-- The exact value is this integer. -/
  isInt : D → Int → Bool
  lt : D → D → Bool
  le : D → D → Bool
  sub : D → D → D
  mul : D → D → D
  div : D → D → D
  /-- `%g` -/
  format : D → String

/-- The bytes of a text. -/
def utf8 (s : String) : Bytes := s.toList.flatMap String.utf8EncodeChar

inductive Json (D : Type) where
  | null
  | bool (b : Bool)
  | int (i : Int)
  | double (d : D)
  | string (s : String)
  | array (elements : List (Json D))
  | object (members : List (String × Json D))

/-- The members of an object, as `JsonObject*`. -/
abbrev Json.Members (D : Type) := List (String × Json D)

/-- json-glib's generator, without `pretty`. -/
class JsonGenerator (D : Type) where
  /-- `json_generator_to_data` -/
  to_data : Json D → Bytes
  /-- Nothing is broken into lines, and a newline in a string is escaped. -/
  to_data_line : ∀ j, 10 ∉ to_data j
  /-- Nothing stands between the names, the values, the colons and the commas. -/
  to_data_object : ∀ members : Json.Members D, to_data (.object members) =
    123 :: List.intercalate [44] (members.map fun m => to_data (.string m.1) ++ 58 :: to_data m.2) ++ [125]
  /-- Letters and digits are not escaped. -/
  to_data_name : ∀ name : String, name.toList.all Char.isAlphanum = true →
    to_data (.string name) = 34 :: utf8 name ++ [34]

/-- Exact arithmetic. -/
instance : Doubles Rat where
  ofInt i := i
  toInt q := q.num.tdiv q.den
  isInt q i := decide (q = i)
  lt a b := decide (a < b)
  le a b := decide (a ≤ b)
  sub a b := a - b
  mul a b := a * b
  div a b := a / b
  format q := toString q

/-! ## A generator -/

namespace Json

/-- One byte of a string. -/
def escape_byte (b : UInt8) : Bytes :=
  if b = 92 ∨ b = 34 then [92, b]
  else if b < 32 then utf8 "\\u00" ++ [hex (b / 16), hex (b % 16)]
  else [b]
where
  hex (n : UInt8) : UInt8 := if n < 10 then 48 + n else 87 + n

def string_text (s : String) : Bytes := 34 :: (utf8 s).flatMap escape_byte ++ [34]

def int_text (i : Int) : Bytes :=
  (if i < 0 then [45] else []) ++ (Nat.toDigits 10 i.natAbs).map fun c => UInt8.ofNat c.toNat

mutual

def text : Json Rat → Bytes
  | null => utf8 "null"
  | bool b => if b then utf8 "true" else utf8 "false"
  | int i => int_text i
  | double q => int_text q.num ++ 47 :: int_text q.den
  | string s => string_text s
  | array elements => 91 :: List.intercalate [44] (element_texts elements) ++ [93]
  | object members => 123 :: List.intercalate [44] (member_texts members) ++ [125]

def element_texts : List (Json Rat) → List Bytes
  | [] => []
  | e :: es => text e :: element_texts es

def member_texts : List (String × Json Rat) → List Bytes
  | [] => []
  | (name, value) :: ms => (string_text name ++ 58 :: text value) :: member_texts ms

end

theorem member_texts_eq (members : List (String × Json Rat)) :
    member_texts members = members.map fun m => text (.string m.1) ++ 58 :: text m.2 := by
  induction members with
  | nil => rw [member_texts, List.map_nil]
  | cons m members ih => rw [member_texts, List.map_cons, ih, text]

theorem escape_byte_line (b : UInt8) : 10 ∉ escape_byte b := by
  unfold escape_byte
  split
  · rename_i h
    rcases h with rfl | rfl <;> decide
  · split
    · rename_i h
      have hb := UInt8.lt_iff_toNat_lt.1 h
      have hhex : ∀ n : UInt8, n < 16 → escape_byte.hex n ≠ 10 := fun n hn h => by
        have hn' := UInt8.lt_iff_toNat_lt.1 hn
        have hh := congrArg UInt8.toNat h
        unfold escape_byte.hex at hh
        split at hh <;> simp at hh hn' <;> omega
      have hlo : b % 16 < 16 := by
        rw [UInt8.lt_iff_toNat_lt, UInt8.toNat_mod]
        exact Nat.mod_lt _ (by decide)
      have hhi : b / 16 < 16 := by
        rw [UInt8.lt_iff_toNat_lt, UInt8.toNat_div]
        have := b.toNat_lt
        show b.toNat / 16 < 16
        omega
      rw [List.mem_append, not_or]
      refine ⟨by decide, ?_⟩
      simp only [List.mem_cons, List.not_mem_nil, or_false, not_or]
      exact ⟨(hhex _ hhi).symm, (hhex _ hlo).symm⟩
    · rename_i h
      simp only [List.mem_singleton]
      rintro rfl
      exact h (by decide)

theorem string_text_line (s : String) : 10 ∉ string_text s := by
  simp only [string_text, List.mem_append, List.mem_cons, List.not_mem_nil, or_false, not_or, List.mem_flatMap,
    not_exists, not_and]
  exact ⟨⟨by decide, fun b _ => escape_byte_line b⟩, by decide⟩

theorem int_text_line (i : Int) : 10 ∉ int_text i := by
  have hdigit : ∀ c : Char, c.isDigit → UInt8.ofNat c.toNat ≠ 10 := by
    intro c hc h
    have h48 : 48 ≤ c.toNat ∧ c.toNat ≤ 57 := by
      simp only [Char.isDigit, Bool.and_eq_true, decide_eq_true_eq] at hc
      exact hc
    have hn := congrArg UInt8.toNat h
    rw [UInt8.toNat_ofNat', show (10 : UInt8).toNat = 10 from rfl] at hn
    omega
  unfold int_text
  rw [List.mem_append, not_or, List.mem_map, not_exists]
  constructor
  · split <;> decide
  · rintro c ⟨hc, hb⟩
    exact hdigit c (Nat.isDigit_of_mem_toDigits (by omega) (by omega) hc) hb

theorem intercalate_line {texts : List Bytes} (h : ∀ t ∈ texts, 10 ∉ t) : 10 ∉ List.intercalate [44] texts := by
  induction texts with
  | nil => simp
  | cons t texts ih =>
    have ht : 10 ∉ t := h t List.mem_cons_self
    have hrest := ih fun u hu => h u (List.mem_cons_of_mem t hu)
    cases texts with
    | nil => rwa [List.intercalate_singleton]
    | cons u texts =>
      rw [List.intercalate_cons_cons, List.mem_append, List.mem_append, not_or, not_or]
      exact ⟨⟨ht, by decide⟩, hrest⟩

mutual

/-- Whatever it holds, a value's text has no newline in it. -/
theorem text_line (j : Json Rat) : 10 ∉ text j := by
  match j with
  | null => rw [text]; decide
  | bool b => cases b <;> (rw [text]; decide)
  | int i => rw [text]; exact int_text_line i
  | double q =>
    rw [text, List.mem_append, List.mem_cons, not_or, not_or]
    exact ⟨int_text_line _, by decide, int_text_line _⟩
  | string s => rw [text]; exact string_text_line s
  | array elements =>
    rw [text]
    simp only [List.mem_append, List.mem_cons, List.not_mem_nil, or_false, not_or]
    exact ⟨⟨by decide, intercalate_line (element_texts_line elements)⟩, by decide⟩
  | object members =>
    rw [text]
    simp only [List.mem_append, List.mem_cons, List.not_mem_nil, or_false, not_or]
    exact ⟨⟨by decide, intercalate_line (member_texts_line members)⟩, by decide⟩

theorem element_texts_line (elements : List (Json Rat)) : ∀ t ∈ element_texts elements, 10 ∉ t := by
  match elements with
  | [] => rw [element_texts]; exact List.forall_mem_nil _
  | e :: es =>
    rw [element_texts, List.forall_mem_cons]
    exact ⟨text_line e, element_texts_line es⟩

theorem member_texts_line (members : List (String × Json Rat)) : ∀ t ∈ member_texts members, 10 ∉ t := by
  match members with
  | [] => rw [member_texts]; exact List.forall_mem_nil _
  | (name, value) :: ms =>
    rw [member_texts, List.forall_mem_cons, List.mem_append, List.mem_cons, not_or, not_or]
    exact ⟨⟨string_text_line name, by decide, text_line value⟩, member_texts_line ms⟩

end

/-- A letter or a digit is one byte, and not escaped. -/
theorem escape_alphanum {c : Char} (h : c.isAlphanum = true) :
    (String.utf8EncodeChar c).flatMap escape_byte = String.utf8EncodeChar c := by
  have hrange : 48 ≤ c.toNat ∧ c.toNat ≤ 122 ∧ c.toNat ≠ 92 := by
    have hor : (decide (65 ≤ c.val ∧ c.val ≤ 90) || decide (97 ≤ c.val) && decide (c.val ≤ 122) ||
        decide (48 ≤ c.val) && decide (c.val ≤ 57)) = true := h
    simp only [Bool.or_eq_true, Bool.and_eq_true, decide_eq_true_eq, UInt32.le_iff_toNat_le] at hor
    have hbounds : (65 ≤ c.toNat ∧ c.toNat ≤ 90 ∨ 97 ≤ c.toNat ∧ c.toNat ≤ 122) ∨ 48 ≤ c.toNat ∧ c.toNat ≤ 57 := hor
    omega
  obtain ⟨hlo, hhi, hbackslash⟩ := hrange
  have hc : String.utf8EncodeChar c = [UInt8.ofNat c.toNat] := if_pos (show c.toNat ≤ 0x7f by omega)
  have hb : (UInt8.ofNat c.toNat).toNat = c.toNat := by
    rw [UInt8.toNat_ofNat']
    exact Nat.mod_eq_of_lt (by omega)
  rw [hc, List.flatMap_singleton, escape_byte, if_neg, if_neg]
  · rw [UInt8.lt_iff_toNat_lt, hb]
    show ¬ c.toNat < 32
    omega
  · rw [UInt8.ext_iff, UInt8.ext_iff, hb]
    show ¬ (c.toNat = 92 ∨ c.toNat = 34)
    omega

end Json

instance : JsonGenerator Rat where
  to_data := Json.text
  to_data_line := Json.text_line
  to_data_object members := by rw [Json.text, Json.member_texts_eq]
  to_data_name name h := by
    have hkept : (utf8 name).flatMap Json.escape_byte = utf8 name := by
      rw [utf8, List.flatMap_assoc]
      exact List.flatMap_congr fun c hc => Json.escape_alphanum (List.all_eq_true.1 h c hc)
    rw [Json.text, Json.string_text, hkept]

end CameraStreamer
