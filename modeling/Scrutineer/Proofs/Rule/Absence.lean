import Scrutineer.Proofs.Rule.Validation

/-! A parameter of value null is taken for a missing one, and a second key for it is
tried. The key of the building is the exception: it is chosen by which members are
there, whatever their value. A null can therefore hide the building that stands under
the other key, or draw the complaint about a missing building to itself; apart from
that, rules compile as they do without their nulls. -/

namespace Scrutineer

theorem Entries.find?_filter {Value : Type} (keep : Value → Bool)
    {entries : List (String × Value)} (distinct : (entries.map Prod.fst).Nodup) (key : String) :
    find? key (entries.filter fun entry => keep entry.2) = (find? key entries).filter keep := by
  induction entries with
  | nil => rfl
  | cons head rest ih =>
      obtain ⟨other, held⟩ := head
      obtain ⟨absent, restDistinct⟩ := List.nodup_cons.mp distinct
      have inRest := ih restDistinct
      rw [find?_cons]
      by_cases same : key = other
      · subst same
        have noneInRest : find? key rest = none := by
          apply List.lookup_eq_none_iff.mpr
          intro entry member
          apply bne_iff_ne.mpr
          intro equal
          apply absent
          exact List.mem_map.mpr ⟨entry, member, equal.symm⟩
        rw [noneInRest] at inRest
        by_cases kept : keep held = true
        · simp only [List.filter_cons, kept, if_true, find?_cons, Option.filter_some]
        · simp only [List.filter_cons, kept, if_false, if_true, inRest, Option.filter_some,
            Option.filter_none, Bool.false_eq_true]
      · rw [if_neg same, ← inRest]
        by_cases kept : keep held = true
        · simp only [List.filter_cons, kept, if_true, find?_cons, if_neg same]
        · simp only [List.filter_cons, kept, if_false, Bool.false_eq_true]

namespace Json

def isNull : Json → Bool
  | .null => true
  | _ => false

theorem isNull_iff (value : Json) : value.isNull = true ↔ value = .null := by
  cases value <;> simp [isNull]

def withoutNulls (members : Members) : Members :=
  members.filter fun member => !member.2.isNull

theorem find?_withoutNulls {members : Members} (distinct : (members.map Prod.fst).Nodup)
    (key : String) :
    Entries.find? key (withoutNulls members) =
      (Entries.find? key members).filter fun value => !value.isNull :=
  Entries.find?_filter (fun value : Json => !value.isNull) distinct key

end Json

open Json (withoutNulls)

variable {params : Members}

/-! ### Reading without the nulls -/

theorem Slot.read_withoutNulls {Value : Type} (slot : Slot Value)
    (distinct : (params.map Prod.fst).Nodup) (key : String) :
    slot.read (withoutNulls params) key = slot.read params key := by
  unfold read
  rw [Json.find?_withoutNulls distinct]
  cases Entries.find? key params with
  | none => rfl
  | some value => cases value <;> rfl

theorem Reading.presentKey_withoutNulls (distinct : (params.map Prod.fst).Nodup) (first : String)
    (others : List String) :
    presentKey (withoutNulls params) first others = presentKey params first others := by
  unfold presentKey
  congr 2
  funext key
  rw [Json.find?_withoutNulls distinct]
  cases Entries.find? key params with
  | none => rfl
  | some value => cases value <;> rfl

theorem Parameter.read_withoutNulls (parameter : Parameter)
    (distinct : (params.map Prod.fst).Nodup)
    (sameKey : parameter.place.chosen (withoutNulls params) = parameter.place.chosen params) :
    parameter.read (withoutNulls params) = parameter.read params := by
  unfold read
  rw [sameKey, parameter.slot.read_withoutNulls distinct]

/-- Only the building is looked for by which keys are there. -/
theorem Strategy.place_ne_listed {strategy : Strategy} (other : strategy ≠ .shipLocation) :
    ∀ parameter ∈ strategy.parameters, ∀ first second, parameter.place ≠ .listed first second := by
  cases strategy
  case shipLocation => exact absurd rfl other
  all_goals simp [parameters, boundParameters, checkParameters]

theorem Strategy.read_withoutNulls {strategy : Strategy} (other : strategy ≠ .shipLocation)
    (distinct : (params.map Prod.fst).Nodup) :
    ∀ parameter ∈ strategy.parameters,
      parameter.read (withoutNulls params) = parameter.read params := by
  intro parameter member
  apply parameter.read_withoutNulls distinct
  cases place : parameter.place with
  | under key => rfl
  | valued first second => exact Reading.presentKey_withoutNulls distinct first [second]
  | listed first second => exact absurd place (place_ne_listed other parameter member first second)

/-! ### The key of the building -/

/-- A null takes part in the choice between the two keys of the building: it
stands under the first one, with a value under the second, or it stands under
the second one alone. -/
def NullPicksKey (params : Members) : Prop :=
  (Entries.find? "location" params = some .null ∧
      ∃ value, Entries.find? "type" params = some value ∧ value ≠ .null) ∨
    (Entries.find? "location" params = none ∧ Entries.find? "type" params = some .null)

theorem chosen_withoutNulls_iff (distinct : (params.map Prod.fst).Nodup) :
    Parameter.building.place.chosen (withoutNulls params) =
        Parameter.building.place.chosen params ↔
      ¬ NullPicksKey params := by
  unfold NullPicksKey Place.chosen
  simp only [Json.find?_withoutNulls distinct]
  generalize Entries.find? "location" params = location
  generalize Entries.find? "type" params = type
  rcases location with _ | location <;> rcases type with _ | type
  · simp
  · by_cases null : type.isNull = true <;> simp [null, ← Json.isNull_iff]
  · by_cases null : location.isNull = true <;> simp [null, ← Json.isNull_iff]
  · by_cases null : location.isNull = true <;> by_cases other : type.isNull = true <;>
      simp [null, other, ← Json.isNull_iff]

theorem building_missing (picked : NullPicksKey params) :
    Parameter.building.error? params =
      some { key := Parameter.building.place.chosen params, fault := .missing } := by
  have nullChosen :
      Entries.find? (Parameter.building.place.chosen params) params = some .null := by
    unfold Place.chosen
    rcases picked with ⟨atLocation, _atType⟩ | ⟨atLocation, atType⟩
    · simp only [atLocation, Option.isSome_some, if_true]
    · simp only [atLocation, atType, Option.isSome_none, Option.isSome_some, Bool.false_eq_true,
        if_false, if_true]
  unfold Parameter.error? Parameter.read Slot.read
  rw [nullChosen]
  rfl

theorem Strategy.faults_shipLocation (params : Members) :
    shipLocation.faults params = (Parameter.building.error? params).toList := by
  unfold faults
  rw [parameters, filterMap_cons_toList, List.filterMap_nil, List.append_nil]

namespace Condition

theorem compile_shipLocation_withoutNulls_ne {name : String}
    (named : Strategy.ofName? name = some .shipLocation)
    (distinct : (params.map Prod.fst).Nodup) (picked : NullPicksKey params) :
    compile name (withoutNulls params) ≠ compile name params := by
  intro same
  have sameReports := congrArg reported same
  rw [reported_compile named, reported_compile named, Strategy.faults_shipLocation,
    Strategy.faults_shipLocation, building_missing picked] at sameReports
  -- Both complain, and each complaint names the key that was read.
  cases failed : Parameter.building.error? (withoutNulls params) with
  | none =>
      rw [failed] at sameReports
      cases sameReports
  | some error =>
      rw [failed] at sameReports
      have sameError := List.head_eq_of_cons_eq sameReports
      have sameKey := (Parameter.key_of_error? failed).symm.trans (congrArg ParamError.key sameError)
      exact (chosen_withoutNulls_iff distinct).mp sameKey picked

/-- A rule compiles as it does without the parameters of value null, unless it
asks for the building and a null picks the key. -/
theorem compile_withoutNulls_eq_iff (name : String) (params : Members)
    (distinct : (params.map Prod.fst).Nodup) :
    compile name (withoutNulls params) = compile name params ↔
      ¬ (Strategy.ofName? name = some .shipLocation ∧ NullPicksKey params) := by
  cases named : Strategy.ofName? name with
  | none =>
      have unknown (members : Members) : compile name members = .error (.unknownStrategy name) := by
        rw [compile_eq_ofSource, ofSource, named]
      rw [unknown, unknown]
      simp
  | some strategy =>
      by_cases building : strategy = .shipLocation
      · subst building
        by_cases picked : NullPicksKey params
        · have different := compile_shipLocation_withoutNulls_ne named distinct picked
          simp only [different, picked, and_self, not_true_eq_false]
        · have same : compile name (withoutNulls params) = compile name params := by
            apply compile_eq_of_reads named
            intro parameter member
            rw [List.mem_singleton.mp member]
            exact Parameter.building.read_withoutNulls distinct
              ((chosen_withoutNulls_iff distinct).mpr picked)
          simp only [same, picked, and_false, not_false_eq_true]
      · have same := compile_eq_of_reads named (Strategy.read_withoutNulls building distinct)
        simp [same, building]

/-- A null under `location` hides the building under `type`; one under `mod`
does not hide the name of the module. -/
theorem compile_withoutNulls_of_two_rules :
    compile "ship_location" (withoutNulls [("location", .null), ("type", .text "VAB")]) ≠
        compile "ship_location" [("location", .null), ("type", .text "VAB")] ∧
      compile "string_module_property"
          (withoutNulls [("key", .text "thrust"), ("mod", .null), ("name", .text "Engines")]) =
        compile "string_module_property"
          [("key", .text "thrust"), ("mod", .null), ("name", .text "Engines")] := by
  constructor
  · intro same
    have known : Strategy.ofName? "ship_location" = some .shipLocation := by decide
    have hidden : NullPicksKey [("location", .null), ("type", .text "VAB")] :=
      Or.inl ⟨rfl, .text "VAB", rfl, Json.noConfusion⟩
    exact (compile_withoutNulls_eq_iff "ship_location" _ (by decide)).mp same ⟨known, hidden⟩
  · apply (compile_withoutNulls_eq_iff "string_module_property" _ (by decide)).mpr
    intro given
    have other : Strategy.ofName? "string_module_property" ≠ some .shipLocation := by decide
    exact other given.1

end Condition
end Scrutineer
