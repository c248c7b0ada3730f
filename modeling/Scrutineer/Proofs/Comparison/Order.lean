import Mathlib.Logic.ExistsUnique
import Scrutineer.Comparison.Comparator

/-! Values of one form are ordered linearly: doubles by their places on the line,
counts as whole numbers, texts character by character. The six operators are the
relations of the order, and a scalar that does not have the form stands in none of
them. -/

namespace Scrutineer

namespace Operator

def converse : Operator → Operator
  | .less => .greater
  | .lessOrEqual => .greaterOrEqual
  | .greater => .less
  | .greaterOrEqual => .lessOrEqual
  | .equal => .equal
  | .notEqual => .notEqual

theorem holds_converse (operator : Operator) (order : Option Ordering) :
    operator.converse.holds (order.map Ordering.swap) = operator.holds order := by
  cases operator <;> rcases order with _ | _ | _ | _ <;> rfl

theorem holds_none_iff (operator : Operator) :
    operator.holds none = true ↔ operator = .notEqual := by
  cases operator <;> simp [holds]

theorem holds_less_iff (order : Option Ordering) :
    less.holds order = true ↔ order = some .lt :=
  beq_iff_eq

theorem holds_equal_iff (order : Option Ordering) :
    equal.holds order = true ↔ order = some .eq :=
  beq_iff_eq

theorem holds_lessOrEqual_iff (order : Option Ordering) :
    lessOrEqual.holds order = true ↔ ∃ known, order = some known ∧ known.isLE = true := by
  rcases order with _ | _ | _ | _ <;> simp [holds]

def ofOrdering : Ordering → Operator
  | .lt => .less
  | .eq => .equal
  | .gt => .greater

theorem holds_some_iff_of_mem {operator : Operator} (basic : operator ∈ [less, equal, greater])
    (order : Ordering) : operator.holds (some order) = true ↔ operator = ofOrdering order := by
  simp only [List.mem_cons, List.not_mem_nil, or_false] at basic
  rcases basic with rfl | rfl | rfl <;> cases order <;> simp [holds, ofOrdering]

end Operator

/-! ### The order of values of one form -/

namespace Double

theorem place?_eq_none_iff (value : Double) : value.place? = none ↔ value = .nan := by
  cases value <;> simp [place?]

theorem order?_eq_some_iff (left right : Double) (order : Ordering) :
    left.order? right = some order ↔
      ∃ leftPlace rightPlace, left.place? = some leftPlace ∧ right.place? = some rightPlace ∧
        compare leftPlace rightPlace = order := by
  unfold order?
  cases left.place? <;> cases right.place? <;> simp

theorem order?_eq_none_iff (left right : Double) :
    left.order? right = none ↔ left = .nan ∨ right = .nan := by
  rw [← place?_eq_none_iff, ← place?_eq_none_iff]
  unfold order?
  cases left.place? <;> cases right.place? <;> simp

theorem order?_swap (left right : Double) :
    right.order? left = (left.order? right).map Ordering.swap := by
  unfold order?
  cases left.place? with
  | none => cases right.place? <;> rfl
  | some leftPlace =>
      cases right.place? with
      | none => rfl
      | some rightPlace => exact congrArg some Std.OrientedCmp.eq_swap

end Double

private theorem isLE_and_lt_of_compare {Key : Type} [Ord Key] [Std.TransOrd Key]
    {first second third : Key} (early : (compare first second).isLE = true)
    (late : (compare second third).isLE = true) :
    (compare first third).isLE = true ∧
      (compare first second = .lt → compare first third = .lt) :=
  ⟨Std.TransCmp.isLE_trans early late, fun strict => Std.TransCmp.lt_of_lt_of_isLE strict late⟩

namespace Formed

def form : Formed → Form
  | .double _ => .double
  | .count _ => .count
  | .text _ => .text

theorem order?_swap (left right : Formed) :
    right.order? left = (left.order? right).map Ordering.swap := by
  cases left with
  | double left =>
      cases right with
      | double right => exact Double.order?_swap left right
      | _ => rfl
  | count left =>
      cases right with
      | count right => exact congrArg some Std.OrientedCmp.eq_swap
      | _ => rfl
  | text left =>
      cases right with
      | text right => exact congrArg some Std.OrientedCmp.eq_swap
      | _ => rfl

/-- Of values of one form only the double that is not a number has no order. -/
theorem order?_eq_none_iff {left right : Formed} (same : left.form = right.form) :
    left.order? right = none ↔ left = .double .nan ∨ right = .double .nan := by
  cases left with
  | double left =>
      cases right with
      | double right => simpa [order?] using Double.order?_eq_none_iff left right
      | _ => cases same
  | count left =>
      cases right with
      | count right => simp [order?]
      | _ => cases same
  | text left =>
      cases right with
      | text right => simp [order?]
      | _ => cases same

theorem order?_self {value : Formed} (number : value ≠ .double .nan) :
    value.order? value = some .eq := by
  have swapped := order?_swap value value
  cases known : value.order? value with
  | none =>
      rcases (order?_eq_none_iff rfl).mp known with nan | nan
      · exact absurd nan number
      · exact absurd nan number
  | some order =>
      -- An order that is its own converse is that of equal values.
      rw [known] at swapped
      cases order with
      | eq => rfl
      | lt => cases swapped
      | gt => cases swapped

theorem order?_trans {first second third : Formed} {one other : Ordering}
    (early : first.order? second = some one) (late : second.order? third = some other)
    (oneLE : one.isLE = true) (otherLE : other.isLE = true) :
    ∃ whole, first.order? third = some whole ∧ whole.isLE = true ∧ (one = .lt → whole = .lt) := by
  -- Values with an order are of one kind, and each kind is ordered by its keys.
  cases first with
  | double first =>
      cases second with
      | double second =>
          cases third with
          | double third =>
              obtain ⟨firstPlace, place, hasFirst, hasPlace, rfl⟩ :=
                (Double.order?_eq_some_iff first second one).mp early
              obtain ⟨place', thirdPlace, hasPlace', hasThird, rfl⟩ :=
                (Double.order?_eq_some_iff second third other).mp late
              cases hasPlace.symm.trans hasPlace'
              exact ⟨compare firstPlace thirdPlace,
                (Double.order?_eq_some_iff first third _).mpr
                  ⟨firstPlace, thirdPlace, hasFirst, hasThird, rfl⟩,
                isLE_and_lt_of_compare oneLE otherLE⟩
          | _ => cases late
      | _ => cases early
  | count first =>
      cases second with
      | count second =>
          cases third with
          | count third =>
              cases early
              cases late
              exact ⟨_, rfl, isLE_and_lt_of_compare oneLE otherLE⟩
          | _ => cases late
      | _ => cases early
  | text first =>
      cases second with
      | text second =>
          cases third with
          | text third =>
              cases early
              cases late
              exact ⟨_, rfl, isLE_and_lt_of_compare oneLE otherLE⟩
          | _ => cases late
      | _ => cases early

end Formed

theorem Form.form_of_of? {form : Form} {scalar : Scalar} {value : Formed}
    (known : form.of? scalar = some value) : value.form = form := by
  cases form with
  | double =>
      obtain ⟨number, _read, rfl⟩ := Option.map_eq_some_iff.mp known
      rfl
  | count =>
      obtain ⟨count, _read, rfl⟩ := Option.map_eq_some_iff.mp known
      rfl
  | text =>
      cases known
      rfl

/-! ### Comparing scalars -/

namespace Comparator

variable {form : Form} {left right : Scalar}

theorem compare_of_formed {leftValue rightValue : Formed}
    (leftKnown : form.of? left = some leftValue) (rightKnown : form.of? right = some rightValue)
    (operator : Operator) :
    compare { operator, form } left right = operator.holds (leftValue.order? rightValue) := by
  unfold compare
  rw [leftKnown, rightKnown]

theorem compare_of_formless (unknown : form.of? left = none ∨ form.of? right = none)
    (operator : Operator) : compare { operator, form } left right = false := by
  unfold compare
  rcases unknown with leftUnknown | rightUnknown
  · rw [leftUnknown]
  · rw [rightUnknown]
    cases form.of? left <;> rfl

theorem exists_formed_of_compare {operator : Operator}
    (holds : compare { operator, form } left right = true) :
    ∃ leftValue rightValue, form.of? left = some leftValue ∧ form.of? right = some rightValue ∧
      operator.holds (leftValue.order? rightValue) = true := by
  cases leftKnown : form.of? left with
  | none => rw [compare_of_formless (.inl leftKnown)] at holds; cases holds
  | some leftValue =>
      cases rightKnown : form.of? right with
      | none => rw [compare_of_formless (.inr rightKnown)] at holds; cases holds
      | some rightValue =>
          rw [compare_of_formed leftKnown rightKnown] at holds
          exact ⟨leftValue, rightValue, rfl, rfl, holds⟩

theorem compare_converse (operator : Operator) (left right : Scalar) :
    compare { operator := operator.converse, form } right left =
      compare { operator, form } left right := by
  cases leftKnown : form.of? left with
  | none => rw [compare_of_formless (.inr leftKnown), compare_of_formless (.inl leftKnown)]
  | some leftValue =>
      cases rightKnown : form.of? right with
      | none => rw [compare_of_formless (.inl rightKnown), compare_of_formless (.inr rightKnown)]
      | some rightValue =>
          rw [compare_of_formed rightKnown leftKnown, compare_of_formed leftKnown rightKnown,
            Formed.order?_swap leftValue rightValue, operator.holds_converse]

theorem exists_formed_of_compare_both {middle : Scalar} {operator other : Operator}
    (early : compare { operator, form } left middle = true)
    (late : compare { operator := other, form } middle right = true) :
    ∃ first second third, form.of? left = some first ∧ form.of? right = some third ∧
      operator.holds (first.order? second) = true ∧ other.holds (second.order? third) = true := by
  obtain ⟨first, second, leftKnown, middleKnown, before⟩ := exists_formed_of_compare early
  obtain ⟨second', third, middleKnown', rightKnown, after⟩ := exists_formed_of_compare late
  cases middleKnown.symm.trans middleKnown'
  exact ⟨first, second, third, leftKnown, rightKnown, before, after⟩

theorem less_trans {middle : Scalar}
    (early : compare { operator := .less, form } left middle = true)
    (late : compare { operator := .less, form } middle right = true) :
    compare { operator := .less, form } left right = true := by
  obtain ⟨first, second, third, leftKnown, rightKnown, before, after⟩ :=
    exists_formed_of_compare_both early late
  rw [Operator.holds_less_iff] at before after
  obtain ⟨whole, ordered, _isLE, strict⟩ := Formed.order?_trans before after rfl rfl
  rw [compare_of_formed leftKnown rightKnown, Operator.holds_less_iff, ordered, strict rfl]

theorem lessOrEqual_trans {middle : Scalar}
    (early : compare { operator := .lessOrEqual, form } left middle = true)
    (late : compare { operator := .lessOrEqual, form } middle right = true) :
    compare { operator := .lessOrEqual, form } left right = true := by
  obtain ⟨first, second, third, leftKnown, rightKnown, before, after⟩ :=
    exists_formed_of_compare_both early late
  obtain ⟨one, known, oneLE⟩ := (Operator.holds_lessOrEqual_iff _).mp before
  obtain ⟨other, known', otherLE⟩ := (Operator.holds_lessOrEqual_iff _).mp after
  obtain ⟨whole, ordered, isLE, _strict⟩ := Formed.order?_trans known known' oneLE otherLE
  rw [compare_of_formed leftKnown rightKnown, Operator.holds_lessOrEqual_iff]
  exact ⟨whole, ordered, isLE⟩

end Comparator

/-! ### The laws -/

/-- Both scalars have the form, and neither is the double that is not a number. -/
def Form.Orders (form : Form) (left right : Scalar) : Prop :=
  ∃ leftValue rightValue, form.of? left = some leftValue ∧ form.of? right = some rightValue ∧
    leftValue ≠ .double .nan ∧ rightValue ≠ .double .nan

theorem Form.Orders.exists_order {form : Form} {left right : Scalar}
    (orders : form.Orders left right) :
    ∃ order, ∀ operator : Operator,
      Comparator.compare { operator, form } left right = operator.holds (some order) := by
  obtain ⟨leftValue, rightValue, leftKnown, rightKnown, leftNumber, rightNumber⟩ := orders
  have same : leftValue.form = rightValue.form :=
    (Form.form_of_of? leftKnown).trans (Form.form_of_of? rightKnown).symm
  cases known : leftValue.order? rightValue with
  | none =>
      rcases (Formed.order?_eq_none_iff same).mp known with leftNan | rightNan
      · exact absurd leftNan leftNumber
      · exact absurd rightNan rightNumber
  | some order =>
      refine ⟨order, fun operator => ?_⟩
      rw [Comparator.compare_of_formed leftKnown rightKnown, known]

/-- What the operators make of scalars in a form. -/
structure Form.ComparesInOrder (form : Form) : Prop where
  converse : ∀ (operator : Operator) (left right : Scalar),
    Comparator.compare { operator := operator.converse, form } right left =
      Comparator.compare { operator, form } left right
  formless : ∀ (operator : Operator) (left right : Scalar),
    form.of? left = none ∨ form.of? right = none →
      Comparator.compare { operator, form } left right = false
  notANumber : ∀ (left right : Scalar) (leftValue rightValue : Formed),
    form.of? left = some leftValue → form.of? right = some rightValue →
      leftValue = .double .nan ∨ rightValue = .double .nan →
        ∀ operator : Operator,
          Comparator.compare { operator, form } left right = true ↔ operator = .notEqual
  exactlyOne : ∀ left right : Scalar, form.Orders left right →
    ∃! operator : Operator, operator ∈ [.less, .equal, .greater] ∧
      Comparator.compare { operator, form } left right = true
  lessOrEqual : ∀ left right : Scalar, form.Orders left right →
    Comparator.compare { operator := .lessOrEqual, form } left right =
      (Comparator.compare { operator := .less, form } left right ||
        Comparator.compare { operator := .equal, form } left right)
  greaterOrEqual : ∀ left right : Scalar, form.Orders left right →
    Comparator.compare { operator := .greaterOrEqual, form } left right =
      (Comparator.compare { operator := .greater, form } left right ||
        Comparator.compare { operator := .equal, form } left right)
  notEqual : ∀ left right : Scalar, form.Orders left right →
    Comparator.compare { operator := .notEqual, form } left right =
      !Comparator.compare { operator := .equal, form } left right
  lessTrans : ∀ left middle right : Scalar,
    Comparator.compare { operator := .less, form } left middle = true →
      Comparator.compare { operator := .less, form } middle right = true →
        Comparator.compare { operator := .less, form } left right = true
  lessOrEqualTrans : ∀ left middle right : Scalar,
    Comparator.compare { operator := .lessOrEqual, form } left middle = true →
      Comparator.compare { operator := .lessOrEqual, form } middle right = true →
        Comparator.compare { operator := .lessOrEqual, form } left right = true

theorem Form.compares_in_order (form : Form) : form.ComparesInOrder where
  converse := Comparator.compare_converse
  formless := fun operator _left _right unknown => Comparator.compare_of_formless unknown operator
  notANumber := by
    intro left right leftValue rightValue leftKnown rightKnown nan operator
    have same : leftValue.form = rightValue.form :=
      (form_of_of? leftKnown).trans (form_of_of? rightKnown).symm
    rw [Comparator.compare_of_formed leftKnown rightKnown, (Formed.order?_eq_none_iff same).mpr nan,
      operator.holds_none_iff]
  exactlyOne := by
    intro left right orders
    obtain ⟨order, compared⟩ := orders.exists_order
    have basic : Operator.ofOrdering order ∈ [Operator.less, .equal, .greater] := by
      cases order <;> simp [Operator.ofOrdering]
    refine ⟨Operator.ofOrdering order, ⟨basic, ?_⟩, ?_⟩
    · rw [compared, Operator.holds_some_iff_of_mem basic]
    · intro operator given
      rw [compared] at given
      exact (Operator.holds_some_iff_of_mem given.1 order).mp given.2
  lessOrEqual := by
    intro left right orders
    obtain ⟨order, compared⟩ := orders.exists_order
    simp only [compared, Operator.holds]
  greaterOrEqual := by
    intro left right orders
    obtain ⟨order, compared⟩ := orders.exists_order
    simp only [compared, Operator.holds]
  notEqual := by
    intro left right orders
    obtain ⟨order, compared⟩ := orders.exists_order
    simp only [compared, Operator.holds, bne]
  lessTrans := fun _left _middle _right => Comparator.less_trans
  lessOrEqualTrans := fun _left _middle _right => Comparator.lessOrEqual_trans

/-- A text that says of itself that it is not a number is only different from
every number, while a text with a fraction takes its place among the counts. -/
theorem Form.compares_in_order_of_texts :
    (∀ operator : Operator,
      Comparator.compare { operator, form := .double } (.text "NaN") (.number .one) = true ↔
        operator = .notEqual) ∧
      Comparator.compare { operator := .lessOrEqual, form := .count } (.text " 1.9")
        (.number .one) = true ∧
      Comparator.compare { operator := .lessOrEqual, form := .count } (.text " 1.9")
        (.text "2") = true := by
  have doubles := Form.double.compares_in_order
  have counts := Form.count.compares_in_order
  have cut : Comparator.compare { operator := .lessOrEqual, form := .count } (.text " 1.9")
      (.number .one) = true := by decide +kernel
  refine ⟨doubles.notANumber _ _ (.double .nan) (.double .one) (by decide +kernel) rfl (.inl rfl),
    cut, ?_⟩
  exact counts.lessOrEqualTrans _ (.number .one) _ cut (by decide +kernel)

end Scrutineer
