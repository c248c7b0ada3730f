import Mathlib.Algebra.Order.BigOperators.Group.Finset
import Mathlib.Algebra.Order.Ring.Int
import Scrutineer.Proofs.Comparison.Exactness
import Scrutineer.Proofs.Craft.Presence

/-! A rule about a set of parts lists base names, in any order and maybe some of them
again. Whether they are present is a matter of the set alone. Their total is not: a
name counts as often as it is listed, so it is the total of the set only when no name
with a count is listed again. -/

namespace Scrutineer

theorem SetMatcher.holds_congr (matcher : SetMatcher) (isPresent : String → Bool)
    {names others : List String} (same : ∀ name, name ∈ names ↔ name ∈ others) :
    matcher.holds isPresent names = matcher.holds isPresent others := by
  have any : names.any isPresent = others.any isPresent := by
    rw [Bool.eq_iff_iff, List.any_eq_true, List.any_eq_true]
    simp only [same]
  have all : names.all isPresent = others.all isPresent := by
    rw [Bool.eq_iff_iff, List.all_eq_true, List.all_eq_true]
    simp only [same]
  cases matcher with
  | none => rw [holds, holds, any]
  | any => exact any
  | all => exact all

namespace Condition

variable (craft : Craft)

def sumOf (names : List String) : Int :=
  (names.map fun name => ((craft.countOf name).toNat : Int)).sum

/-- Whatever wraps around on the way, the total is the word of the sum. -/
theorem totalOf_eq_ofInt (names : List String) :
    totalOf craft names = Int64.ofInt (sumOf craft names) := by
  have from_start (start : Int) :
      (names.map fun name => Int64.ofNat (craft.countOf name).toNat).foldl (· + ·)
        (Int64.ofInt start) = Int64.ofInt (start + sumOf craft names) := by
    induction names generalizing start with
    | nil => exact congrArg Int64.ofInt (Int.add_zero start).symm
    | cons name rest ih =>
        have sum : sumOf craft (name :: rest) = (craft.countOf name).toNat + sumOf craft rest :=
          List.sum_cons
        rw [List.map_cons, List.foldl_cons, ← Int64.ofInt_eq_ofNat, ← Int64.ofInt_add, ih, sum,
          Int.add_assoc]
  have whole := from_start 0
  rwa [Int.zero_add] at whole

theorem sumOf_eq_sum (names : List String) :
    sumOf craft names =
      ∑ name ∈ names.toFinset, (names.count name : Int) * (craft.countOf name).toNat := by
  rw [sumOf, Finset.sum_list_map_count]
  simp only [nsmul_eq_mul]

theorem sumOf_bounds (names : List String) :
    0 ≤ sumOf craft names ∧ sumOf craft names ≤ names.length * 2 ^ 32 := by
  induction names with
  | nil => exact ⟨Int.le_refl 0, Int.le_refl 0⟩
  | cons name rest ih =>
      have sum : sumOf craft (name :: rest) = (craft.countOf name).toNat + sumOf craft rest :=
        List.sum_cons
      have small := (craft.countOf name).toNat_lt
      rw [sum, List.length_cons]
      omega

/-- The total of a list that is not too long does not wrap around. -/
theorem toInt_totalOf {names : List String} (few : names.length < 2 ^ 31) :
    (totalOf craft names).toInt = sumOf craft names := by
  have bounds := sumOf_bounds craft names
  rw [totalOf_eq_ofInt]
  exact Int64.toInt_ofInt_of_le (by omega) (by omega)

/-- The total is that of the set when no name with a count is listed again, and
only then. -/
theorem sumOf_eq_sum_set_iff (names : List String) :
    sumOf craft names = ∑ name ∈ names.toFinset, ((craft.countOf name).toNat : Int) ↔
      ∀ name, 1 < names.count name → craft.countOf name = 0 := by
  have counted : ∀ name ∈ names.toFinset, 1 ≤ names.count name := fun name member =>
    List.count_pos_iff.mpr (List.mem_toFinset.mp member)
  have atMost : ∀ name ∈ names.toFinset, ((craft.countOf name).toNat : Int) ≤
      (names.count name : Int) * (craft.countOf name).toNat := by
    intro name member
    exact_mod_cast Nat.le_mul_of_pos_left _ (counted name member)
  -- No term of the set is above its term of the list, so the sums are equal just
  -- when all terms are.
  rw [sumOf_eq_sum, eq_comm, Finset.sum_eq_sum_iff_of_le atMost]
  constructor
  · intro equal name again
    have listed : name ∈ names.toFinset :=
      List.mem_toFinset.mpr (List.count_pos_iff.mp (Nat.lt_trans Nat.one_pos again))
    have once : (craft.countOf name).toNat = names.count name * (craft.countOf name).toNat := by
      exact_mod_cast equal name listed
    apply UInt32.toNat_inj.mp
    by_contra present
    have more := Nat.mul_lt_mul_of_lt_of_le again (Nat.le_refl _) (Nat.pos_of_ne_zero present)
    omega
  · intro single name listed
    by_cases again : 1 < names.count name
    · rw [single name again]
      rfl
    · have once : names.count name = 1 :=
        Nat.le_antisymm (Nat.not_lt.mp again) (counted name listed)
      rw [once, Nat.cast_one, Int.one_mul]

/-- Lists of the same names have the same total when those with a count come
equally often. -/
theorem totalOf_congr {names others : List String} (same : ∀ name, name ∈ names ↔ name ∈ others)
    (equally : ∀ name, craft.countOf name ≠ 0 → names.count name = others.count name) :
    totalOf craft names = totalOf craft others := by
  have set : names.toFinset = others.toFinset := by
    ext name
    rw [List.mem_toFinset, List.mem_toFinset, same]
  rw [totalOf_eq_ofInt, totalOf_eq_ofInt, sumOf_eq_sum, sumOf_eq_sum, set]
  refine congrArg Int64.ofInt (Finset.sum_congr rfl fun name _listed => ?_)
  by_cases absent : craft.countOf name = 0
  · rw [absent]
    exact (Int.mul_zero _).trans (Int.mul_zero _).symm
  · rw [equally name absent]

theorem totalOf_eq_of_agree {names others : List String}
    (agree : ∀ operator value, (partSetCount names operator value).holds craft =
      (partSetCount others operator value).holds craft) :
    totalOf craft names = totalOf craft others := by
  have equal := agree .equal (totalOf craft names)
  have holds : (partSetCount names .equal (totalOf craft names)).holds craft = true :=
    (Operator.equal.holdsOfInts_iff _ _).mpr rfl
  rw [holds] at equal
  have otherEqual := (Operator.equal.holdsOfInts_iff _ _).mp equal.symm
  exact Int64.toInt_inj.mp otherEqual.symm

/-- Of two lists of the same names, the rules about presence agree. The totals
add each count as often as its name is listed, so that names with a count must
not be listed again for a total to be that of the set; the rules about totals
agree when such names come equally often, and just when the totals are equal. -/
theorem part_set_rules_of_same_names {names others : List String}
    (same : ∀ name, name ∈ names ↔ name ∈ others) :
    (∀ matcher, (partSetContains names matcher).holds craft =
      (partSetContains others matcher).holds craft) ∧
    (names.length < 2 ^ 31 →
      (totalOf craft names).toInt =
        ∑ name ∈ names.toFinset, (names.count name : Int) * (craft.countOf name).toNat ∧
      ((totalOf craft names).toInt =
          ∑ name ∈ names.toFinset, ((craft.countOf name).toNat : Int) ↔
        ∀ name, 1 < names.count name → craft.countOf name = 0)) ∧
    ((∀ name, craft.countOf name ≠ 0 → names.count name = others.count name) →
      ∀ operator value, (partSetCount names operator value).holds craft =
        (partSetCount others operator value).holds craft) ∧
    ((∀ operator value, (partSetCount names operator value).holds craft =
        (partSetCount others operator value).holds craft) ↔
      totalOf craft names = totalOf craft others) := by
  have agree (equal : totalOf craft names = totalOf craft others) (operator : Operator)
      (value : Int64) : (partSetCount names operator value).holds craft =
        (partSetCount others operator value).holds craft := by
    rw [holds, holds, equal]
  refine ⟨fun matcher => matcher.holds_congr craft.containsBase same, ?_, ?_,
    totalOf_eq_of_agree craft, agree⟩
  · intro few
    rw [toInt_totalOf craft few]
    exact ⟨sumOf_eq_sum craft names, sumOf_eq_sum_set_iff craft names⟩
  · intro equally
    exact agree (totalOf_congr craft same equally)

/-- A wing that is listed twice is as present as one that is listed once, but
two of it count as four. -/
theorem part_set_rules_of_wing_listed_twice :
    (∀ matcher,
      (partSetContains ["wingA", "wingA"] matcher).holds (.ofNames ["wingA_1", "wingA_2"]) =
        (partSetContains ["wingA"] matcher).holds (.ofNames ["wingA_1", "wingA_2"])) ∧
    totalOf (.ofNames ["wingA_1", "wingA_2"]) ["wingA", "wingA"] = 4 ∧
    totalOf (.ofNames ["wingA_1", "wingA_2"]) ["wingA"] = 2 ∧
    ¬∀ operator value,
      (partSetCount ["wingA", "wingA"] operator value).holds (.ofNames ["wingA_1", "wingA_2"]) =
        (partSetCount ["wingA"] operator value).holds (.ofNames ["wingA_1", "wingA_2"]) := by
  have same : ∀ name, name ∈ ["wingA", "wingA"] ↔ name ∈ ["wingA"] := by simp
  have rules := part_set_rules_of_same_names (.ofNames ["wingA_1", "wingA_2"]) same
  refine ⟨rules.1, by decide, by decide, fun agree => ?_⟩
  have equal := rules.2.2.2.mp agree
  revert equal
  decide

-- Names that differ in stray characters only are the same name listed again.
example : Name.splitList "wingA,wing A" = ["wingA", "wingA"] := by decide

end Condition
end Scrutineer
