import Mathlib.Logic.Relation
/-!
# What holds up a graph of stages

Stages hand on what they are given over links, and one that cannot hand on takes
nothing more. So a sink that is not read holds up every stage on the way to it,
up to a stage that drops instead of waiting.
-/

namespace CameraStreamer.Flow

variable {ν : Type} (link : ν → ν → Prop) (drops unread : ν → Prop)

/-- The stage takes nothing more. -/
inductive Stalls : ν → Prop
  | unread {a} : unread a → Stalls a
  | link {a b} : link a b → ¬ drops a → Stalls b → Stalls a

/-- What `a` is given comes to `b`. -/
def Feeds : ν → ν → Prop := Relation.ReflTransGen link

variable {link drops unread}

/-- Stages that drop or hand on only among themselves, none of them unread, are never held up. -/
theorem not_stalls (flows : ν → Prop) (hread : ∀ a, flows a → ¬ unread a)
    (hon : ∀ a b, flows a → link a b → drops a ∨ flows b) {a : ν} (ha : flows a) :
    ¬ Stalls link drops unread a := by
  intro h
  induction h with
  | unread hu => exact hread _ ha hu
  | link hl hd _ ih =>
    rcases hon _ _ ha hl with hdrops | hflows
    · exact hd hdrops
    · exact ih hflows

/-- A sink that is not read holds up what feeds it without dropping. -/
theorem stalls_of_feeds {a b : ν} (hab : Feeds link a b) (hb : unread b)
    (hkeep : ∀ c, Feeds link a c → ¬ drops c) : Stalls link drops unread a := by
  induction hab using Relation.ReflTransGen.head_induction_on with
  | refl => exact .unread hb
  | head hl _ ih => exact .link hl (hkeep _ .refl) (ih fun c hc => hkeep c (.head hl hc))

end CameraStreamer.Flow
