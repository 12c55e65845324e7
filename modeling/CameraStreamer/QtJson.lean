import CameraStreamer.Json
/-!
# Qt's JSON objects

The host reads a reply with `QJsonObject` and `QJsonValue`, which has a kind
"undefined" for a name that the object does not have. They are a parameter, with what
the code relies on.
-/

namespace CameraStreamer

/-- `QJsonObject`, and the conversions of a `QJsonValue` that may be undefined. -/
class QtJson (D : Type) where
  value : Json.Members D → String → Option (Json D)
  insert : Json.Members D → String → Json D → Json.Members D
  toDouble : Option (Json D) → D → D
  toInt : Option (Json D) → Int → Int
  toString : Option (Json D) → String
  toObject : Option (Json D) → Json.Members D
  value_insert : ∀ object name v, value (insert object name v) name = some v
  value_insert_other : ∀ object {name other} v, other ≠ name → value (insert object name v) other = value object other
  toDouble_double : ∀ d defaultValue, toDouble (some (.double d)) defaultValue = d

/-- `QJsonObject::contains` -/
def QtJson.contains {D : Type} [QtJson D] (object : Json.Members D) (name : String) : Bool := (value object name).isSome

/-! ## With exact arithmetic -/

theorem lookup_insert {D : Type} (object : Json.Members D) {name other : String} (v : Json D) (h : other ≠ name) :
    ((name, v) :: object.filter (·.1 != name)).lookup other = object.lookup other := by
  have hne : (other == name) = false := by simpa using h
  rw [List.lookup_cons, hne]
  dsimp only
  induction object with
  | nil => rfl
  | cons m members ih =>
    by_cases hm : m.1 = name
    · have hother : (other == m.1) = false := by simpa [hm] using h
      rw [List.filter_cons_of_neg (by simpa using hm), ih, List.lookup_cons, hother]
    · rw [List.filter_cons_of_pos (by simpa using hm), List.lookup_cons, List.lookup_cons, ih]

instance : QtJson Rat where
  value object name := object.lookup name
  insert object name v := (name, v) :: object.filter (·.1 != name)
  toDouble
    | some (.int i), _ => i
    | some (.double d), _ => d
    | _, defaultValue => defaultValue
  toInt
    | some (.int i), defaultValue => if -2 ^ 31 ≤ i ∧ i < 2 ^ 31 then i else defaultValue
    | some (.double d), defaultValue => if d.den = 1 ∧ -2 ^ 31 ≤ d ∧ d < 2 ^ 31 then d.num else defaultValue
    | _, defaultValue => defaultValue
  toString
    | some (.string s) => s
    | _ => ""
  toObject
    | some (.object members) => members
    | _ => []
  value_insert _ _ _ := List.lookup_cons_self
  value_insert_other object _ _ v h := lookup_insert object v h
  toDouble_double _ _ := rfl

end CameraStreamer
