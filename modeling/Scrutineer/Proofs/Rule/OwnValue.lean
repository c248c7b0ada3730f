import Scrutineer.Proofs.Comparison.Order
import Scrutineer.Proofs.Condition.Property
import Scrutineer.Proofs.Rule.Compilation
import Scrutineer.Proofs.Rule.Slot

/-! A rule that asks whether a property equals a value has the value from JSON, as
crafts have the values of their properties. Both take the same scalar of it, except
that a rule takes a text without the blanks at its ends. Where texts are read as
numbers the blanks make no difference. Where values are compared as texts, the rule
asks for another text than the one that is stored. -/

namespace Scrutineer

/-! ### Scalars and their trimmed texts -/

namespace Scalar

theorem decoder_eq_ok {level : Nat} {document : Document} {value : Json} {scalar : Scalar}
    (read : document.value? level = some value) (known : value.scalar? = some scalar) :
    decoder level document = .ok scalar := by
  cases document with
  | null =>
      cases read
      cases known
  | truth held =>
      cases read
      cases known
      rfl
  | number held =>
      obtain ⟨number, rfl, rfl⟩ := Option.map_eq_some_iff.mp read
      cases known
      rfl
  | text held =>
      obtain ⟨content, rfl, rfl⟩ := Option.map_eq_some_iff.mp read
      cases known
      rfl
  | array held | object held =>
      rw [Document.value?] at read
      split at read
      · obtain ⟨inside, _read, rfl⟩ := Option.map_eq_some_iff.mp read
        cases known
      · cases read

theorem asDouble?_trimmed (scalar : Scalar) : scalar.trimmed.asDouble? = scalar.asDouble? := by
  cases scalar with
  | text content => simp only [trimmed, asDouble?, Text.trim_trim]
  | _ => rfl

theorem asCount?_trimmed (scalar : Scalar) : scalar.trimmed.asCount? = scalar.asCount? := by
  cases scalar with
  | text content => simp only [trimmed, asCount?, Text.trim_trim]
  | _ => rfl

theorem ReadsAs.exists_formed {scalar : Scalar} {form : Form} (reads : scalar.ReadsAs form) :
    ∃ value, form.of? scalar = some value ∧ value ≠ .double .nan := by
  cases form with
  | double =>
      obtain ⟨number, kept⟩ := Option.isSome_iff_exists.mp reads
      obtain ⟨known, finite⟩ := Option.filter_eq_some_iff.mp kept
      refine ⟨.double number, Option.map_eq_some_iff.mpr ⟨number, known, rfl⟩, ?_⟩
      rintro ⟨⟩
      cases finite
  | count =>
      obtain ⟨count, known⟩ := Option.isSome_iff_exists.mp reads
      exact ⟨.count count, Option.map_eq_some_iff.mpr ⟨count, known, rfl⟩, Formed.noConfusion⟩
  | text => exact ⟨.text scalar.shown, rfl, Formed.noConfusion⟩

end Scalar

namespace Form

theorem of?_trimmed {form : Form} (numeric : form ≠ .text) (scalar : Scalar) :
    form.of? scalar.trimmed = form.of? scalar := by
  cases form with
  | double => simp only [of?, scalar.asDouble?_trimmed]
  | count => simp only [of?, scalar.asCount?_trimmed]
  | text => exact absurd rfl numeric

/-- The form compares texts as they stand, and the scalar is one with blanks at
its ends. -/
def SeesBlanks (form : Form) (scalar : Scalar) : Prop :=
  form = .text ∧ ∃ content, scalar = .text content ∧ Text.trim content ≠ content

end Form

namespace Comparator

theorem equal_text_iff (left right : Scalar) :
    compare { operator := .equal, form := .text } left right = true ↔ left.shown = right.shown := by
  rw [compare_of_formed rfl rfl, Operator.holds_equal_iff]
  change some (Ord.compare left.shown right.shown) = some .eq ↔ _
  rw [Option.some.injEq, Std.LawfulEqCmp.compare_eq_iff_eq]

theorem equal_trimmed_iff {form : Form} {scalar : Scalar} (reads : scalar.trimmed.ReadsAs form) :
    compare { operator := .equal, form } scalar scalar.trimmed = true ↔
      ¬form.SeesBlanks scalar := by
  by_cases textual : form = .text
  · subst textual
    rw [equal_text_iff]
    cases scalar with
    | text content => simp [Form.SeesBlanks, Scalar.trimmed, Scalar.shown, eq_comm]
    | _ => simp [Form.SeesBlanks, Scalar.trimmed]
  · obtain ⟨value, trimmedKnown, number⟩ := reads.exists_formed
    have known : form.of? scalar = some value :=
      (Form.of?_trimmed textual scalar).symm.trans trimmedKnown
    rw [compare_of_formed known trimmedKnown, Operator.holds_equal_iff]
    exact iff_of_true (Formed.order?_self number) fun sees => textual sees.1

end Comparator

/-! ### Strategies that check properties -/

structure PropertyKind where
  targetKey : String
  form : Form
  bagsOf : Part → List Bag

namespace Strategy

def propertyKind? : Strategy → Option PropertyKind
  | .doubleModuleProperty => some { targetKey := "mod", form := .double, bagsOf := Part.modules }
  | .countModuleProperty => some { targetKey := "mod", form := .count, bagsOf := Part.modules }
  | .textModuleProperty => some { targetKey := "mod", form := .text, bagsOf := Part.modules }
  | .resourceProperty => some { targetKey := "res", form := .double, bagsOf := Part.resources }
  | _ => none

theorem exists_check_of_makes {strategy : Strategy} {kind : PropertyKind}
    (checks : strategy.propertyKind? = some kind) {source : Source} {condition : Condition}
    (makes : strategy.Makes source condition) :
    ∃ check, source.MakesCheck kind.targetKey kind.form check ∧
      ∀ craft, condition.holds craft = check.passes kind.bagsOf craft := by
  cases makes with
  | doubleModuleProperty hasCheck | countModuleProperty hasCheck | textModuleProperty hasCheck
  | resourceProperty hasCheck =>
      cases checks
      exact ⟨_, hasCheck, fun _craft => rfl⟩
  | _ => cases checks

end Strategy

/-! ### Rules that ask for a value -/

/-- What a rule with this check makes of crafts that store the value which it
asks for. -/
structure PropertyCheck.MeetsStored (check : PropertyCheck) (bagsOf : Part → List Bag)
    (stored : Scalar) (holds : Craft → Bool) : Prop where
  satisfied : ∀ bag : Bag, bag.Has check.key stored →
    (check.SatisfiedIn bag ↔ ¬check.comparator.form.SeesBlanks stored)
  passes : ¬check.comparator.form.SeesBlanks stored → ∀ (craft : Craft) (bag : Bag),
    check.Concerns bagsOf craft bag → bag.Has check.key stored → holds craft = true
  fails : check.comparator.form.SeesBlanks stored → ∀ (craft : Craft) (bag : Bag),
    check.Concerns bagsOf craft bag →
      (∀ other, check.Concerns bagsOf craft other → other.Has check.key stored) →
        holds craft = false

namespace PropertyCheck

variable {check : PropertyCheck} {stored : Scalar}

theorem meetsStored (bagsOf : Part → List Bag) (present : check.part ≠ "")
    (equality : check.comparator.operator = .equal) (asked : check.value = stored.trimmed)
    (reads : stored.trimmed.ReadsAs check.comparator.form) :
    check.MeetsStored bagsOf stored (check.passes bagsOf) := by
  have satisfied (bag : Bag) (has : bag.Has check.key stored) :
      check.SatisfiedIn bag ↔ ¬check.comparator.form.SeesBlanks stored := by
    rw [check.satisfiedIn_iff_of_has has, asked, ← Comparator.equal_trimmed_iff reads, ← equality]
  refine ⟨satisfied, ?_, ?_⟩
  · intro blind craft bag concerns has
    rw [passes_iff_concerned check bagsOf present]
    exact .inr ⟨bag, concerns, (satisfied bag has).mpr blind⟩
  · intro sees craft bag concerns stores
    rw [← Bool.not_eq_true, passes_iff_concerned check bagsOf present]
    rintro (vacuous | ⟨other, otherConcerns, otherSatisfied⟩)
    · exact vacuous bag concerns
    · exact (satisfied other (stores other otherConcerns)).mp otherSatisfied sees

end PropertyCheck

namespace Condition

/-- A rule that asks whether a property equals a value passes on crafts that
store what crafts make of the same value, unless that is a text with blanks at
its ends which is compared as a text. -/
theorem equality_rule_meets_stored {name : String} {strategy : Strategy}
    (named : Strategy.ofName? name = some strategy) {kind : PropertyKind}
    (checks : strategy.propertyKind? = some kind) {params : Members} {condition : Condition}
    (compiled : compile name params = .ok condition)
    (equality : Slot.operator.read params "op" = .ok .equal) {value : Json}
    (given : Entries.find? "value" params = some value) :
    ∃ check stored, (sourceOf params).MakesCheck kind.targetKey kind.form check ∧
      (∀ (level : Nat) (document : Document), document.value? level = some value →
        Scalar.decoder level document = .ok stored) ∧
      check.MeetsStored kind.bagsOf stored fun craft => condition.holds craft := by
  obtain ⟨known, knownNamed, makes⟩ := (compile_eq_ok_iff name params condition).mp compiled
  cases named.symm.trans knownNamed
  obtain ⟨check, made, holds⟩ := Strategy.exists_check_of_makes checks makes
  obtain ⟨held, heldGiven, _present, accepted⟩ := (Slot.read_eq_ok_iff _ _ _ _).mp made.value
  cases given.symm.trans heldGiven
  obtain ⟨stored, isStored, trimmed, reads⟩ := (Slot.reference_eq_ok_iff _ _ _).mp accepted
  refine ⟨check, stored, made, fun level document read => Scalar.decoder_eq_ok read isStored, ?_⟩
  obtain ⟨_held, _found, _present, part⟩ := (Slot.read_eq_ok_iff _ _ _ _).mp made.part
  have sameOperator : check.comparator.operator = .equal :=
    Except.ok.inj (made.operator.symm.trans equality)
  have readsStored : stored.trimmed.ReadsAs check.comparator.form := by
    rw [trimmed, made.form]
    exact reads
  have passes : (fun craft => condition.holds craft) = check.passes kind.bagsOf := funext holds
  rw [passes]
  exact PropertyCheck.meetsStored kind.bagsOf (Slot.isClean_of_name part).1 sameOperator
    trimmed.symm readsStored

private def asksForMode (value : Json) : Members :=
  [("part", .text "engine"), ("mod", .text "Engine"), ("key", .text "mode"), ("op", .text "eq"),
    ("value", value)]

private def modeCheck (form : Form) (value : Scalar) : PropertyCheck where
  part := "engine"
  target := "Engine"
  key := "mode"
  comparator := { operator := .equal, form }
  value := value

private def storingEngine (stored : Scalar) : Bag :=
  (Bag.ofName "ModuleEngine").insert "mode" stored

private def craftStoring (stored : Scalar) : Craft :=
  (Craft.bare .hangar { x := .zero, y := .zero, z := .zero }).withParts
    [{ name := "engine_1", modules := [storingEngine stored], resources := [] }]

private theorem makesCheck_mode {form : Form} {value : Json} {held : Scalar}
    (present : value ≠ .null) (accepted : Slot.reference form value = .ok held) :
    (sourceOf (asksForMode value)).MakesCheck "mod" form (modeCheck form held) where
  part := rfl
  target := rfl
  key := rfl
  operator := rfl
  value := (Slot.read_of_find? rfl present).trans accepted
  form := rfl

private theorem concerns_storingEngine (form : Form) (value stored : Scalar) :
    (modeCheck form value).Concerns Part.modules (craftStoring stored) (storingEngine stored) :=
  ⟨⟨_, List.mem_singleton_self _, List.mem_singleton_self _, "1", by simp, rfl⟩, "Module", "", rfl⟩

/-- Blanks around a text make no difference to the count that it is read as. -/
theorem equality_rule_of_padded_count :
    ∃ condition, compile "int_module_property" (asksForMode (.text " 1.9 ")) = .ok condition ∧
      condition.holds (craftStoring (.text " 1.9 ")) = true := by
  have accepted : Slot.reference .count (.text " 1.9 ") = .ok (.text "1.9") := by decide +kernel
  have asked : (sourceOf (asksForMode (.text " 1.9 "))).MakesCheck "mod" .count
      (modeCheck .count (.text "1.9")) := makesCheck_mode Json.noConfusion accepted
  have compiled : compile "int_module_property" (asksForMode (.text " 1.9 ")) =
      .ok (.moduleProperty (modeCheck .count (.text "1.9"))) :=
    (compile_name_eq_ok_iff .countModuleProperty _ _).mpr (.countModuleProperty asked)
  have named : Strategy.ofName? "int_module_property" = some .countModuleProperty := by decide
  refine ⟨_, compiled, ?_⟩
  obtain ⟨check, stored, made, reads, meets⟩ :=
    equality_rule_meets_stored named rfl compiled rfl rfl
  cases reads 0 (.text (some " 1.9 ")) rfl
  -- There is only one check that the parameters make.
  rw [← Strategy.Source.outcome_check_eq_some_iff] at made asked
  cases made.symm.trans asked
  refine meets.passes ?_ _ _ (concerns_storingEngine _ _ _) (.inr ⟨by simp [modeCheck], rfl⟩)
  rintro ⟨⟨⟩, _text⟩

/-- The rule asks for the text without its blanks, which the engine does not
store. -/
theorem padded_mode_not_met :
    compile "string_module_property" (asksForMode (.text " a ")) =
        .ok (.moduleProperty (modeCheck .text (.text "a"))) ∧
      Scalar.decoder 0 (.ofJson (.text " a ")) = .ok (.text " a ") ∧
      ¬∀ (craft : Craft) (bag : Bag),
        (modeCheck .text (.text "a")).Concerns Part.modules craft bag →
          bag.properties.find? "mode" = some (.text " a ") →
            (moduleProperty (modeCheck .text (.text "a"))).holds craft = true := by
  have accepted : Slot.reference .text (.text " a ") = .ok (.text "a") := by decide
  refine ⟨?_, rfl, ?_⟩
  · exact (compile_name_eq_ok_iff .textModuleProperty _ _).mpr
      (.textModuleProperty (makesCheck_mode Json.noConfusion accepted))
  · intro stated
    have passes := stated (craftStoring (.text " a ")) _ (concerns_storingEngine _ _ _) rfl
    revert passes
    decide

end Condition
end Scrutineer
