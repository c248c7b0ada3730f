import Scrutineer.Proofs.Comparison.Exactness
import Scrutineer.Proofs.Condition.PartSet
import Scrutineer.Proofs.Craft.ExactCount

/-! Some conditions ask for parts and others ask for their absence. More parts keep
the truth of the first kind and the falsehood of the second kind. A negation changes
the kind, the other connectives of one kind keep it, and what is measured apart from
the parts belongs to both. -/

namespace Scrutineer

inductive Polarity where
  | positive
  | negative
deriving DecidableEq

namespace Polarity

def opposite : Polarity → Polarity
  | .positive => .negative
  | .negative => .positive

/-- What holds of less holds of more, or the other way round. -/
def Keeps (polarity : Polarity) (ofLess ofMore : Bool) : Prop :=
  match polarity with
  | .positive => ofLess = true → ofMore = true
  | .negative => ofMore = true → ofLess = true

variable {polarity : Polarity} {ofLess ofMore otherOfLess otherOfMore : Bool}

theorem keeps_of_eq (same : ofLess = ofMore) : polarity.Keeps ofLess ofMore := by
  subst same
  cases polarity with
  | positive => exact id
  | negative => exact id

theorem Keeps.not (keeps : polarity.opposite.Keeps ofLess ofMore) :
    polarity.Keeps (!ofLess) (!ofMore) := by
  cases polarity with
  | positive | negative =>
      intro fails
      rw [Bool.not_eq_true', ← Bool.not_eq_true] at fails ⊢
      exact mt keeps fails

theorem Keeps.and (left : polarity.Keeps ofLess ofMore)
    (right : polarity.Keeps otherOfLess otherOfMore) :
    polarity.Keeps (ofLess && otherOfLess) (ofMore && otherOfMore) := by
  cases polarity with
  | positive | negative =>
      intro both
      rw [Bool.and_eq_true] at both ⊢
      exact ⟨left both.1, right both.2⟩

theorem Keeps.or (left : polarity.Keeps ofLess ofMore)
    (right : polarity.Keeps otherOfLess otherOfMore) :
    polarity.Keeps (ofLess || otherOfLess) (ofMore || otherOfMore) := by
  cases polarity with
  | positive | negative =>
      intro either
      rw [Bool.or_eq_true] at either ⊢
      exact either.imp left right

end Polarity

def Operator.polarity? : Operator → Option Polarity
  | .greater | .greaterOrEqual => some .positive
  | .less | .lessOrEqual => some .negative
  | .equal | .notEqual => none

theorem Operator.keeps_holdsOfInts {operator : Operator} {polarity : Polarity}
    (known : operator.polarity? = some polarity) {less more : Int} (grows : less ≤ more)
    (value : Int) :
    polarity.Keeps (operator.holdsOfInts less value) (operator.holdsOfInts more value) := by
  have relates (number : Int) := operator.holdsOfInts_iff number value
  cases operator with
  | greater | greaterOrEqual | less | lessOrEqual =>
      cases known
      intro holds
      rw [relates] at holds ⊢
      simp only [Relates] at holds ⊢
      omega
  | equal | notEqual => cases known

def SetMatcher.polarity : SetMatcher → Polarity
  | .none => .negative
  | .any | .all => .positive

theorem SetMatcher.keeps_holds (matcher : SetMatcher) {inLess inMore : String → Bool}
    (grows : ∀ name, inLess name = true → inMore name = true) (names : List String) :
    matcher.polarity.Keeps (matcher.holds inLess names) (matcher.holds inMore names) := by
  have any : Polarity.positive.Keeps (names.any inLess) (names.any inMore) := by
    intro some
    rw [List.any_eq_true] at some ⊢
    obtain ⟨name, listed, present⟩ := some
    exact ⟨name, listed, grows name present⟩
  cases matcher with
  | none => exact Polarity.Keeps.not any
  | any => exact any
  | all =>
      intro all
      rw [holds, List.all_eq_true] at all ⊢
      exact fun name listed => grows name (all name listed)

/-! ### Crafts with more parts -/

namespace Craft

/-- The other craft has the same measures, and at least the parts and counts of
the craft. -/
structure GrowsInto (craft other : Craft) : Prop where
  building : craft.building = other.building
  size : craft.size = other.size
  cost : craft.cost = other.cost
  mass : craft.mass = other.mass
  points : craft.points = other.points
  parts : craft.parts.Sublist other.parts
  present : ∀ base, craft.containsBase base = true → other.containsBase base = true
  counts : ∀ base, (craft.countOf base).toNat ≤ (other.countOf base).toNat

theorem toNat_countOf_withParts (craft : Craft) {parts : List Part}
    (few : parts.length < UInt32.size) (base : String) :
    ((craft.withParts parts).countOf base).toNat = PartMap.occurrences parts base := by
  rw [countOf, craft.countsItsParts_withParts parts, PartMap.getD_find?_ofParts]
  exact PartMap.toNat_ofNat_occurrences few base

theorem growsInto_withParts (craft : Craft) {parts more : List Part}
    (few : (parts ++ more).length < UInt32.size) :
    (craft.withParts parts).GrowsInto (craft.withParts (parts ++ more)) where
  building := rfl
  size := rfl
  cost := rfl
  mass := rfl
  points := rfl
  parts := List.sublist_append_left parts more
  present := by
    intro base known
    rw [containsBase, countsItsParts_withParts, PartMap.contains_ofParts_iff] at known ⊢
    obtain ⟨part, member, own⟩ := known
    exact ⟨part, List.mem_append_left more member, own⟩
  counts := by
    intro base
    have fewer : parts.length < UInt32.size := by
      rw [List.length_append] at few
      omega
    rw [toNat_countOf_withParts craft fewer, toNat_countOf_withParts craft few,
      PartMap.occurrences_append]
    exact Nat.le_add_right _ _

end Craft

/-! ### Conditions with a polarity -/

namespace Condition

/-- The condition asks for parts throughout, or against them throughout; its lists are
too short for their totals to wrap around. -/
inductive HasPolarity : Polarity → Condition → Prop where
  | builtIn (polarity : Polarity) (building : Building) :
      HasPolarity polarity (.builtIn building)
  | size (polarity : Polarity) (x y z : Bound) : HasPolarity polarity (.size x y z)
  | cost (polarity : Polarity) (bound : Bound) : HasPolarity polarity (.cost bound)
  | mass (polarity : Polarity) (bound : Bound) : HasPolarity polarity (.mass bound)
  | points (polarity : Polarity) (bound : Bound) : HasPolarity polarity (.points bound)
  | partExists (part : String) : HasPolarity .positive (.partExists part)
  | partNotExists (part : String) : HasPolarity .negative (.partNotExists part)
  | partSetContains (parts : List String) (matcher : SetMatcher) :
      HasPolarity matcher.polarity (.partSetContains parts matcher)
  | partCount {polarity : Polarity} {operator : Operator}
      (known : operator.polarity? = some polarity) (value : Int64) :
      HasPolarity polarity (.partCount operator value)
  | partSetCount {polarity : Polarity} {operator : Operator} {parts : List String}
      (few : parts.length < 2 ^ 31) (known : operator.polarity? = some polarity) (value : Int64) :
      HasPolarity polarity (.partSetCount parts operator value)
  | not {polarity : Polarity} {condition : Condition}
      (inner : HasPolarity polarity.opposite condition) : HasPolarity polarity (.not condition)
  | and {polarity : Polarity} {left right : Condition} (first : HasPolarity polarity left)
      (second : HasPolarity polarity right) : HasPolarity polarity (.and left right)
  | or {polarity : Polarity} {left right : Condition} (first : HasPolarity polarity left)
      (second : HasPolarity polarity right) : HasPolarity polarity (.or left right)

variable {craft other : Craft}

theorem sumOf_le_of_growsInto (grows : craft.GrowsInto other) (names : List String) :
    sumOf craft names ≤ sumOf other names := by
  apply List.sum_le_sum
  intro name _listed
  exact Int.ofNat_le.mpr (grows.counts name)

theorem keeps_partExists (grows : craft.GrowsInto other) (base : String) :
    Polarity.positive.Keeps ((partExists base).holds craft) ((partExists base).holds other) := by
  intro found
  rw [holds_partExists_iff] at found ⊢
  obtain ⟨part, member, matching⟩ := found
  exact ⟨part, grows.parts.subset member, matching⟩

/-- By induction on the polarity of the condition: the parts count in its leaves,
and the connectives pass on what they keep. -/
theorem HasPolarity.keeps {polarity : Polarity} {condition : Condition}
    (has : HasPolarity polarity condition) (grows : craft.GrowsInto other) :
    polarity.Keeps (condition.holds craft) (condition.holds other) := by
  induction has with
  | builtIn polarity building =>
      apply Polarity.keeps_of_eq
      rw [holds, holds, grows.building]
  | size polarity x y z =>
      apply Polarity.keeps_of_eq
      rw [holds, holds, grows.size]
  | cost polarity bound =>
      apply Polarity.keeps_of_eq
      rw [holds, holds, grows.cost]
  | mass polarity bound =>
      apply Polarity.keeps_of_eq
      rw [holds, holds, grows.mass]
  | points polarity bound =>
      apply Polarity.keeps_of_eq
      rw [holds, holds, grows.points]
  | partExists part => exact keeps_partExists grows part
  | partNotExists part =>
      rw [holds_partNotExists, holds_partNotExists]
      exact Polarity.Keeps.not (keeps_partExists grows part)
  | partSetContains parts matcher => exact matcher.keeps_holds grows.present parts
  | partCount known value =>
      exact Operator.keeps_holdsOfInts known (Int.ofNat_le.mpr grows.parts.length_le) value.toInt
  | @partSetCount polarity operator parts few known value =>
      have more := sumOf_le_of_growsInto grows parts
      rw [← toInt_totalOf craft few, ← toInt_totalOf other few] at more
      exact Operator.keeps_holdsOfInts known more value.toInt
  | not _inner ih => exact ih.not
  | and _first _second firstIh secondIh => exact firstIh.and secondIh
  | or _first _second firstIh secondIh => exact firstIh.or secondIh

/-- A condition that asks for parts stays true when a craft gets more of them, and
one that asks against parts was true before if it is true then. -/
theorem added_parts_respect_polarity (craft : Craft) (parts more : List Part)
    (few : (parts ++ more).length < UInt32.size) (condition : Condition) :
    (HasPolarity .positive condition → condition.holds (craft.withParts parts) = true →
        condition.holds (craft.withParts (parts ++ more)) = true) ∧
      (HasPolarity .negative condition →
        condition.holds (craft.withParts (parts ++ more)) = true →
          condition.holds (craft.withParts parts) = true) := by
  have grows := craft.growsInto_withParts few
  exact ⟨fun positive => positive.keeps grows, fun negative => negative.keeps grows⟩

private def named (name : String) : Part :=
  { name, modules := [], resources := [] }

private def engineWithTank : Condition :=
  .and (.partExists "engine") (.not (.partSetCount ["tank"] .less 1))

private def smallWithoutWing : Condition :=
  .and (.partNotExists "wing") (.partCount .lessOrEqual 3)

/-- A second tank neither takes away what was there nor brings a wing. -/
theorem added_parts_respect_polarity_of_second_tank :
    engineWithTank.holds
        ((Craft.ofNames []).withParts [named "engine_1", named "tank_1", named "tank_2"]) = true ∧
      smallWithoutWing.holds
        ((Craft.ofNames []).withParts [named "engine_1", named "tank_1"]) = true := by
  have respected := added_parts_respect_polarity (Craft.ofNames [])
    [named "engine_1", named "tank_1"] [named "tank_2"] (by decide)
  have asksFor : HasPolarity .positive engineWithTank :=
    .and (.partExists "engine") (.not (.partSetCount (by decide) rfl 1))
  have asksAgainst : HasPolarity .negative smallWithoutWing :=
    .and (.partNotExists "wing") (.partCount rfl 3)
  exact ⟨(respected engineWithTank).1 asksFor (by decide),
    (respected smallWithoutWing).2 asksAgainst (by decide)⟩

end Condition
end Scrutineer
