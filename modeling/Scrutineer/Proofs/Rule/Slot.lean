import Scrutineer.Craft.Snapshot
import Scrutineer.Rule.Slot
import Scrutineer.Proofs.Condition.WellFormed
import Scrutineer.Proofs.Json.Number
import Scrutineer.Proofs.Text.Trim

/-! Each slot lets through well-formed values only, whatever the JSON value is that it
reads. The other way round, each well-formed value has a JSON value that its slot
reads as just that. -/

namespace Scrutineer

def Number.ofCount (value : Int64) : Number :=
  .whole value.toInt ⟨value.minValue_le_toInt, Int.lt_of_le_of_lt value.toInt_le (by decide)⟩

theorem Count.ofInt?_toInt (value : Int64) : ofInt? value.toInt = some value := by
  have inRange : least ≤ value.toInt ∧ value.toInt ≤ greatest :=
    ⟨value.minValue_le_toInt, value.toInt_le⟩
  rw [ofInt?, if_pos inRange, Int64.ofInt_toInt]

/-- The scalar that a JSON value is, with texts as they stand. -/
def Json.scalar? : Json → Option Scalar
  | .number value => some (.number value.toDouble)
  | .truth value => some (.truth value)
  | .text content => some (.text content)
  | _ => none

def Scalar.trimmed : Scalar → Scalar
  | .text content => .text (Text.trim content)
  | other => other

namespace Slot

variable {Value : Type}

/-- A parameter is read when there is a value other than null under its key that
the slot accepts. -/
theorem read_eq_ok_iff (slot : Slot Value) (params : Members) (key : String) (made : Value) :
    slot.read params key = .ok made ↔
      ∃ value, Entries.find? key params = some value ∧ value ≠ .null ∧ slot value = .ok made := by
  unfold read
  constructor
  · intro accepted
    cases found : Entries.find? key params with
    | none =>
        rw [found] at accepted
        cases accepted
    | some value =>
        rw [found] at accepted
        cases value with
        | null => cases accepted
        | _ => exact ⟨_, rfl, Json.noConfusion, accepted⟩
  · intro given
    rcases given with ⟨value, found, present, accepted⟩
    rw [found]
    cases value with
    | null => exact absurd rfl present
    | _ => exact accepted

theorem read_of_find? {slot : Slot Value} {params : Members} {key : String} {value : Json}
    (found : Entries.find? key params = some value) (present : value ≠ .null) :
    slot.read params key = slot value := by
  unfold read
  rw [found]
  cases value with
  | null => exact absurd rfl present
  | _ => rfl

/-! ### Slots let well-formed values through -/

theorem name_text_eq_ok_iff (content part : String) :
    name (.text content) = .ok part ↔
      Name.sanitize content ≠ "" ∧ Name.sanitize content = part := by
  change (if Name.sanitize content = "" then Except.error ParamFault.empty
    else .ok (Name.sanitize content)) = .ok part ↔ _
  by_cases empty : Name.sanitize content = ""
  · simp [empty]
  · simp [empty]

theorem isClean_of_name {value : Json} {part : String} (accepted : name value = .ok part) :
    Name.IsClean part := by
  have textual (content : String) (taken : name (.text content) = .ok part) :
      Name.IsClean part := by
    obtain ⟨left, same⟩ := (name_text_eq_ok_iff content part).mp taken
    rw [← same]
    exact Name.isClean_sanitize left
  cases value with
  | text content => exact textual content accepted
  | number number => exact textual (String.ofList number.text) accepted
  | _ => cases accepted

theorem isFinite_of_double {value : Json} {number : Double} (accepted : double value = .ok number) :
    number.isFinite = true := by
  unfold double at accepted
  dsimp only at accepted
  split at accepted
  · rename_i known found
    cases accepted
    exact (Option.filter_eq_some_iff.mp found).2
  · cases accepted

theorem isUsable_iff_readsAs (form : Form) (value : Scalar) :
    isUsable form value = true ↔ value.ReadsAs form := by
  unfold isUsable Form.of? Scalar.ReadsAs
  cases form with
  | double => cases value.asDouble? <;> simp [Option.filter]
  | count => cases value.asCount? <;> simp
  | text => simp

private theorem check_eq_ok_iff (form : Form) (scalar made : Scalar) :
    (if isUsable form scalar then Except.ok scalar
      else
        match form with
        | .count => .error (ParamFault.notAnInteger scalar.shown)
        | _ => .error (.notANumber scalar.shown)) = .ok made ↔
      scalar.ReadsAs form ∧ scalar = made := by
  rw [← isUsable_iff_readsAs]
  by_cases usable : isUsable form scalar = true
  · simp [usable]
  · rw [if_neg usable]
    cases form <;> simp [usable]

theorem reference_eq_ok_iff (form : Form) (value : Json) (made : Scalar) :
    reference form value = .ok made ↔
      ∃ scalar, value.scalar? = some scalar ∧ scalar.trimmed = made ∧ made.ReadsAs form := by
  have checked (scalar : Scalar) :
      scalar.trimmed.ReadsAs form ∧ scalar.trimmed = made ↔
        ∃ other, some scalar = some other ∧ other.trimmed = made ∧ made.ReadsAs form := by
    constructor
    · rintro ⟨reads, rfl⟩
      exact ⟨scalar, rfl, rfl, reads⟩
    · rintro ⟨other, ⟨⟩, rfl, reads⟩
      exact ⟨reads, rfl⟩
  cases value with
  | number number => exact (check_eq_ok_iff form _ made).trans (checked (.number number.toDouble))
  | truth known => exact (check_eq_ok_iff form _ made).trans (checked (.truth known))
  | text content => exact (check_eq_ok_iff form _ made).trans (checked (.text content))
  | _ => simp [reference, Json.scalar?]

theorem isReference_of_reference {form : Form} {value : Json} {scalar : Scalar}
    (accepted : reference form value = .ok scalar) : scalar.IsReference form := by
  obtain ⟨stored, isStored, rfl, reads⟩ := (reference_eq_ok_iff form value scalar).mp accepted
  refine ⟨?_, reads⟩
  cases value with
  | number number =>
      cases isStored
      exact number.isFinite_toDouble
  | truth known =>
      cases isStored
      cases form with
      | double => cases reads
      | count => cases reads
      | text => rfl
  | text content =>
      cases isStored
      exact Text.trim_trim content
  | _ => cases isStored

private theorem isClean_of_listedNames {items : List Json} {names : List String}
    (accepted : listedNames items = .ok names) : ∀ name ∈ names, Name.IsClean name := by
  induction items generalizing names with
  | nil =>
      cases accepted
      intro name member
      cases member
  | cons item rest ih =>
      cases item with
      | text content =>
          unfold listedNames at accepted
          cases others : listedNames rest with
          | error fault =>
              rw [others] at accepted
              cases accepted
          | ok later =>
              rw [others] at accepted
              cases accepted
              intro name member
              rcases List.mem_append.mp member with here | there
              · exact Name.isClean_of_mem_splitList here
              · exact ih others name there
      | _ => cases accepted

private theorem atLeastOne_eq_ok_iff (listed names : List String) :
    (if listed.isEmpty then Except.error ParamFault.emptyPartSet else .ok listed) = .ok names ↔
      listed ≠ [] ∧ listed = names := by
  cases listed with
  | nil => simp
  | cons first rest => simp

private theorem partSet_array (items : List Json) :
    partSet (.array items) =
      (listedNames items >>= fun listed =>
        if listed.isEmpty then .error .emptyPartSet else .ok listed) :=
  rfl

theorem partSet_single_eq_ok_iff (content : String) (names : List String) :
    partSet (.array [.text content]) = .ok names ↔
      Name.splitList content ≠ [] ∧ Name.splitList content = names := by
  have listing : listedNames [.text content] = .ok (Name.splitList content) := by
    change Except.ok (Name.splitList content ++ []) = .ok (Name.splitList content)
    rw [List.append_nil]
  rw [partSet_array, listing]
  exact atLeastOne_eq_ok_iff (Name.splitList content) names

theorem wellFormedSet_of_partSet {value : Json} {names : List String}
    (accepted : partSet value = .ok names) : Name.WellFormedSet names := by
  cases value with
  | text content =>
      obtain ⟨nonempty, same⟩ := (atLeastOne_eq_ok_iff (Name.splitList content) names).mp accepted
      subst same
      exact ⟨nonempty, fun name member => Name.isClean_of_mem_splitList member⟩
  | array items =>
      rw [partSet_array] at accepted
      cases listing : listedNames items with
      | error fault =>
          rw [listing] at accepted
          cases accepted
      | ok listed =>
          rw [listing] at accepted
          obtain ⟨nonempty, same⟩ := (atLeastOne_eq_ok_iff listed names).mp accepted
          subst same
          exact ⟨nonempty, isClean_of_listedNames listing⟩
  | _ => cases accepted

/-! ### Every well-formed value can be written -/

theorem name_text {part : String} (clean : Name.IsClean part) : name (.text part) = .ok part := by
  rw [name_text_eq_ok_iff, clean.sanitize_eq]
  exact ⟨clean.1, rfl⟩

theorem operator_tag (known : Operator) : operator (.text known.tag) = .ok known := by
  cases known <;> rfl

theorem matcher_tag (known : SetMatcher) : matcher (.text known.tag) = .ok known := by
  cases known <;> rfl

theorem building_tag (known : Building) : building (.text known.tag) = .ok known := by
  cases known <;> rfl

theorem count_ofCount (value : Int64) : count (.number (.ofCount value)) = .ok value := by
  have exact := Count.ofInt?_toInt value
  have taken : countOfNumber? (.ofCount value) = some value := by
    simp only [countOfNumber?, Number.ofCount, exact, Option.some_or]
  simp only [count, taken]

theorem double_ofDouble {value : Double} (finite : value.isFinite = true) :
    double (.ofDouble value) = .ok value := by
  simp only [Json.ofDouble_of_finite finite, double, Number.toDouble, Option.filter_some, finite,
    if_true]

theorem reference_toJson {form : Form} {value : Scalar} (usable : value.IsReference form) :
    reference form value.toJson = .ok value := by
  obtain ⟨held, reads⟩ := usable
  cases value with
  | number value =>
      have written : (Scalar.number value).toJson = .number (.real value held) :=
        Json.ofDouble_of_finite held
      rw [written]
      exact (check_eq_ok_iff form _ _).mpr ⟨reads, rfl⟩
  | truth known => exact (check_eq_ok_iff form _ _).mpr ⟨reads, rfl⟩
  | text content =>
      have trimmed : Text.trim content = content := held
      refine (check_eq_ok_iff form (.text (Text.trim content)) _).mpr ?_
      rw [trimmed]
      exact ⟨reads, rfl⟩

theorem listedNames_map_text (items : List String) :
    listedNames (items.map Json.text) = .ok (items.flatMap Name.splitList) := by
  induction items with
  | nil => rfl
  | cons first rest ih =>
      rw [List.map_cons, listedNames, ih]
      rfl

theorem partSet_ofTexts {names : List String} (wellFormed : Name.WellFormedSet names) :
    partSet (.ofTexts names) = .ok names := by
  rw [Json.ofTexts, partSet_array, listedNames_map_text,
    Name.flatMap_splitList_of_isClean wellFormed.2]
  exact (atLeastOne_eq_ok_iff names names).mpr ⟨wellFormed.1, rfl⟩

end Slot
end Scrutineer
