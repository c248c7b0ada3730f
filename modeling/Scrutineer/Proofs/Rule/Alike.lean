import Scrutineer.Proofs.Rule.Nesting
import Scrutineer.Proofs.Rule.Parameter
import Scrutineer.Proofs.Text.Spelling

/-! Two values are alike to a slot when it makes the same of both, or of neither
anything. Every slot takes a text like the same text with blanks around it, and those
that look up a name take it in any letter case. Rules inside of rules are alike when
they compile to the same condition. -/

namespace Scrutineer

/-! ### Slots that take two values alike -/

namespace Slot

variable {Value : Type} {slot : Slot Value}

/-- Both values give the same, or neither gives anything. What is wrong with them
may be said in different words. -/
def TakesAlike (slot : Slot Value) (value other : Json) : Prop :=
  ∀ made, slot value = .ok made ↔ slot other = .ok made

theorem takesAlike_of_eq {value other : Json} (same : slot value = slot other) :
    slot.TakesAlike value other := by
  intro made
  rw [same]

theorem takesAlike_of_error {value other : Json} {fault otherFault : ParamFault}
    (failed : slot value = .error fault) (otherFailed : slot other = .error otherFault) :
    slot.TakesAlike value other := by
  intro made
  rw [failed, otherFailed]
  constructor <;> intro impossible <;> cases impossible

theorem tagged_text_eq_ok_iff (find : String → Option Value) (unknown : String → ParamFault)
    (text : String) (known : Value) :
    tagged find unknown (.text text) = .ok known ↔ find text = some known := by
  simp only [tagged, rawText, bind, Except.bind]
  cases find text with
  | none => simp
  | some held => simp

theorem tagged_takesAlike {find : String → Option Value} {unknown : String → ParamFault}
    {text other : String} (same : find other = find text) :
    (tagged find unknown).TakesAlike (.text text) (.text other) := by
  intro made
  rw [tagged_text_eq_ok_iff, tagged_text_eq_ok_iff, same]

theorem operator_takesAlike {text other : String} (same : Text.tagKey other = Text.tagKey text) :
    operator.TakesAlike (.text text) (.text other) := by
  apply tagged_takesAlike
  unfold Operator.ofTag?
  rw [same]

theorem matcher_takesAlike {text other : String} (same : Text.tagKey other = Text.tagKey text) :
    matcher.TakesAlike (.text text) (.text other) := by
  apply tagged_takesAlike
  unfold SetMatcher.ofTag?
  rw [same]

theorem building_takesAlike {text other : String} (same : Text.tagKey other = Text.tagKey text) :
    building.TakesAlike (.text text) (.text other) := by
  apply tagged_takesAlike
  unfold Building.ofTag?
  rw [same]

theorem count_takesAlike {text other : String} (same : Text.trim other = Text.trim text) :
    count.TakesAlike (.text text) (.text other) := by
  intro made
  unfold count
  dsimp only
  rw [same]
  cases Count.ofText? (Text.trim text) with
  | none => simp
  | some known => rfl

theorem double_takesAlike {text other : String} (same : Text.trim other = Text.trim text) :
    double.TakesAlike (.text text) (.text other) := by
  intro made
  unfold double
  dsimp only
  rw [same]
  cases (Double.ofText? (Text.trim text)).filter Double.isFinite with
  | none => simp
  | some known => rfl

theorem reference_takesAlike (form : Form) {text other : String}
    (same : Text.trim other = Text.trim text) :
    (reference form).TakesAlike (.text text) (.text other) := by
  apply takesAlike_of_eq
  unfold reference
  dsimp only
  rw [same]

theorem name_takesAlike {text other : String} (same : Name.sanitize other = Name.sanitize text) :
    name.TakesAlike (.text text) (.text other) := by
  intro made
  rw [name_text_eq_ok_iff, name_text_eq_ok_iff, same]

theorem partSet_takesAlike {text other : String}
    (same : Name.splitList other = Name.splitList text) :
    partSet.TakesAlike (.text text) (.text other) := by
  apply takesAlike_of_eq
  unfold partSet
  dsimp only
  rw [same]

theorem listedNames_item {text other : String} (before after : List Json)
    (same : Name.splitList other = Name.splitList text) :
    listedNames (before ++ .text other :: after) = listedNames (before ++ .text text :: after) := by
  induction before with
  | nil =>
      change (do return Name.splitList other ++ (← listedNames after)) =
        (do return Name.splitList text ++ (← listedNames after))
      rw [same]
  | cons item rest ih =>
      cases item with
      | text content =>
          change (do return Name.splitList content ++ (← listedNames (rest ++ _))) =
            (do return Name.splitList content ++ (← listedNames (rest ++ _)))
          rw [ih]
      | _ => rfl

theorem partSet_takesAlike_item {text other : String} (before after : List Json)
    (same : Name.splitList other = Name.splitList text) :
    partSet.TakesAlike (.array (before ++ .text text :: after))
      (.array (before ++ .text other :: after)) := by
  apply takesAlike_of_eq
  unfold partSet
  dsimp only
  rw [listedNames_item before after same]

theorem rule_of_no_members {value : Json} (plain : value.member? "strategy" = none) :
    rule value =
      .error (.wrongType "rule definition \x7bstrategy, params\x7d" value.kindName) := by
  unfold rule definition
  rw [plain]
  rfl

theorem rule_takesAlike {value other : Json} {inner otherInner : Definition}
    (defines : value.Defines inner) (otherDefines : other.Defines otherInner)
    (alike : ∀ condition, inner.compile = .ok condition ↔ otherInner.compile = .ok condition) :
    rule.TakesAlike value other := by
  have read := (definition_eq_ok_iff value inner).mpr defines
  have otherRead := (definition_eq_ok_iff other otherInner).mpr otherDefines
  intro condition
  unfold rule
  rw [read, otherRead]
  change inner.compile.mapError _ = .ok condition ↔ otherInner.compile.mapError _ = .ok condition
  rw [Decoder.mapError_eq_ok_iff, Decoder.mapError_eq_ok_iff]
  exact alike condition

end Slot

/-! ### The parameters that there are -/

namespace Parameter

def operatorKeys : List String := ["op", "opx", "opy", "opz"]

def limitKeys : List String := ["value", "x", "y", "z"]

def tagKeys : List String := operatorKeys ++ ["matcher", "location", "type"]

inductive Known : Parameter → Prop where
  | operator {key : String} (named : key ∈ operatorKeys) : Known (.under key Slot.operator)
  | matcher : Known (.under "matcher" Slot.matcher)
  | building : Known .building
  | name {key : String} (named : key ∈ ["part", "key"]) : Known (.under key Slot.name)
  | target {key : String} (named : key ∈ ["mod", "res"]) : Known (.targetUnder key)
  | partSet : Known (.under "parts" Slot.partSet)
  | count : Known (.under "value" Slot.count)
  | limit {key : String} (named : key ∈ limitKeys) : Known (.under key Slot.double)
  | reference (form : Form) : Known (.under "value" (Slot.reference form))
  | rule {key : String} (named : key ∈ ["rule", "a", "b"]) : Known (.under key Slot.rule)

end Parameter

namespace Strategy

open Parameter (Known)

private theorem known_boundParameters {operatorKey limitKey : String}
    (isOperator : operatorKey ∈ Parameter.operatorKeys) (isLimit : limitKey ∈ Parameter.limitKeys) :
    ∀ parameter ∈ boundParameters operatorKey limitKey, parameter.Known :=
  List.forall_mem_cons.mpr ⟨.operator isOperator, List.forall_mem_singleton.mpr (.limit isLimit)⟩

private theorem known_checkParameters {targetKey : String} (isTarget : targetKey ∈ ["mod", "res"])
    (form : Form) : ∀ parameter ∈ checkParameters targetKey form, parameter.Known := by
  unfold checkParameters
  simp only [List.forall_mem_cons]
  exact ⟨.name (by decide), .target isTarget, .name (by decide), .operator (by decide),
    .reference form, List.forall_mem_nil _⟩

theorem known_parameters (strategy : Strategy) :
    ∀ parameter ∈ strategy.parameters, parameter.Known := by
  cases strategy with
  | doubleModuleProperty => exact known_checkParameters (by decide) .double
  | countModuleProperty => exact known_checkParameters (by decide) .count
  | textModuleProperty => exact known_checkParameters (by decide) .text
  | resourceProperty => exact known_checkParameters (by decide) .double
  | shipCost | shipMass | shipPoints => exact known_boundParameters (by decide) (by decide)
  | shipSize =>
      unfold parameters
      simp only [List.forall_mem_append]
      exact ⟨⟨known_boundParameters (by decide) (by decide),
        known_boundParameters (by decide) (by decide)⟩,
        known_boundParameters (by decide) (by decide)⟩
  | shipLocation => exact List.forall_mem_singleton.mpr .building
  | partCount =>
      exact List.forall_mem_cons.mpr ⟨.operator (by decide), List.forall_mem_singleton.mpr .count⟩
  | partExists | partNotExists => exact List.forall_mem_singleton.mpr (.name (by decide))
  | partSetCount =>
      exact List.forall_mem_cons.mpr ⟨.partSet, List.forall_mem_cons.mpr
        ⟨.operator (by decide), List.forall_mem_singleton.mpr .count⟩⟩
  | partSetContains =>
      exact List.forall_mem_cons.mpr ⟨.partSet, List.forall_mem_singleton.mpr .matcher⟩
  | not => exact List.forall_mem_singleton.mpr (.rule (by decide))
  | and | or | xor =>
      exact List.forall_mem_cons.mpr ⟨.rule (by decide),
        List.forall_mem_singleton.mpr (.rule (by decide))⟩

end Strategy

/-! ### Changes of one value -/

namespace Json

/-- One text of the value has blanks around it now: the value is the text, or a
list that has it as an item. -/
inductive Padded : Json → Json → Prop where
  | text {content padded : String} (pads : Text.Padded content padded) :
      Padded (.text content) (.text padded)
  | item (before after : List Json) {content padded : String} (pads : Text.Padded content padded) :
      Padded (.array (before ++ .text content :: after)) (.array (before ++ .text padded :: after))

theorem Padded.ne_null {value other : Json} (pads : value.Padded other) :
    value ≠ .null ∧ other ≠ .null := by
  cases pads with
  | text => exact ⟨Json.noConfusion, Json.noConfusion⟩
  | item => exact ⟨Json.noConfusion, Json.noConfusion⟩

theorem Defines.ne_null {value : Json} {inner : Definition} (defines : value.Defines inner) :
    value ≠ .null := by
  obtain ⟨members, object, _others⟩ := defines
  rw [object]
  exact Json.noConfusion

end Json

namespace Parameter

theorem Known.takesAlike_of_padded {parameter : Parameter} (known : parameter.Known)
    {value other : Json} (padded : value.Padded other) :
    parameter.slot.TakesAlike value other := by
  cases padded with
  | text pads =>
      have sameTag := pads.tagKey_eq
      have sameTrim := pads.trim_eq
      have sameName := Name.sanitize_eq_of_padded pads
      have sameList := Name.splitList_eq_of_padded pads
      cases known with
      | operator => exact Slot.operator_takesAlike sameTag
      | matcher => exact Slot.matcher_takesAlike sameTag
      | building => exact Slot.building_takesAlike sameTag
      | name => exact Slot.name_takesAlike sameName
      | target => exact Slot.name_takesAlike sameName
      | partSet => exact Slot.partSet_takesAlike sameList
      | count => exact Slot.count_takesAlike sameTrim
      | limit => exact Slot.double_takesAlike sameTrim
      | reference form => exact Slot.reference_takesAlike form sameTrim
      | rule =>
          exact Slot.takesAlike_of_error (Slot.rule_of_no_members rfl) (Slot.rule_of_no_members rfl)
  | item before after pads =>
      cases known with
      | partSet =>
          exact Slot.partSet_takesAlike_item before after (Name.splitList_eq_of_padded pads)
      | rule =>
          exact Slot.takesAlike_of_error (Slot.rule_of_no_members rfl) (Slot.rule_of_no_members rfl)
      | _ => exact Slot.takesAlike_of_error rfl rfl

private theorem not_mem_tagKeys {names : List String} (apart : ∀ name ∈ names, name ∉ tagKeys)
    {name key : String} (named : name ∈ names) (own : key ∈ [name]) : key ∉ tagKeys := by
  rw [List.mem_singleton.mp own]
  exact apart name named

theorem Known.takesAlike_of_recased {parameter : Parameter} (known : parameter.Known)
    {key text recased : String} (own : key ∈ parameter.place.keys) (isTag : key ∈ tagKeys)
    (recases : Text.Recased text recased) :
    parameter.slot.TakesAlike (.text text) (.text recased) := by
  have sameTag := recases.tagKey_eq
  cases known with
  | operator => exact Slot.operator_takesAlike sameTag
  | matcher => exact Slot.matcher_takesAlike sameTag
  | building => exact Slot.building_takesAlike sameTag
  | name named => exact absurd isTag (not_mem_tagKeys (by decide) named own)
  | target named =>
      rcases List.mem_cons.mp own with rfl | underName
      · exact absurd isTag (not_mem_tagKeys (by decide) named (List.mem_singleton_self _))
      · rw [List.mem_singleton.mp underName] at isTag
        exact absurd isTag (by decide)
  | partSet => exact absurd isTag (not_mem_tagKeys (by decide) (List.mem_singleton_self _) own)
  | count => exact absurd isTag (not_mem_tagKeys (by decide) (List.mem_singleton_self _) own)
  | limit named => exact absurd isTag (not_mem_tagKeys (by decide) named own)
  | reference => exact absurd isTag (not_mem_tagKeys (by decide) (List.mem_singleton_self _) own)
  | rule named => exact absurd isTag (not_mem_tagKeys (by decide) named own)

theorem Known.takesAlike_of_defines {parameter : Parameter} (known : parameter.Known)
    {value other : Json} {inner otherInner : Definition} (defines : value.Defines inner)
    (otherDefines : other.Defines otherInner)
    (alike : ∀ condition, inner.compile = .ok condition ↔ otherInner.compile = .ok condition) :
    parameter.slot.TakesAlike value other := by
  cases known with
  | rule => exact Slot.rule_takesAlike defines otherDefines alike
  | _ =>
      obtain ⟨members, rfl, _strategy, _params⟩ := defines
      obtain ⟨otherMembers, rfl, _otherStrategy, _otherParams⟩ := otherDefines
      exact Slot.takesAlike_of_error rfl rfl

end Parameter

end Scrutineer
