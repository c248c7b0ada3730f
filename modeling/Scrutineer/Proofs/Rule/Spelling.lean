import Mathlib.Logic.Relation
import Scrutineer.Proofs.Rule.Alike
import Scrutineer.Proofs.Rule.RuleSet
import Scrutineer.Proofs.Rule.Targeting
import Scrutineer.Proofs.Rule.Validation

/-! A step changes the spelling of one text in a rule, or in a rule inside of it
at any depth: blanks around a text, the case of letters in a name that is looked
up, the older name of a strategy. Every parameter that could stand where the
text stands takes both spellings alike, so both rules compile to the same
condition or neither compiles. -/

namespace Scrutineer

/-! ### Parameters that differ under one key -/

/-- The entries are the same but for the value under one key. -/
structure Entries.DifferAt {Value : Type} (key : String) (left right : List (String × Value))
    (value other : Value) : Prop where
  found : find? key left = some value
  otherFound : find? key right = some other
  elsewhere : ∀ name, name ≠ key → find? name left = find? name right

namespace Entries

variable {Value : Type}

theorem differAt_cons (key : String) (value other : Value) (rest : List (String × Value)) :
    DifferAt key ((key, value) :: rest) ((key, other) :: rest) value other where
  found := by rw [find?_cons, if_pos rfl]
  otherFound := by rw [find?_cons, if_pos rfl]
  elsewhere := by
    intro name apart
    rw [find?_cons, find?_cons, if_neg apart, if_neg apart]

theorem DifferAt.cons {key first : String} {left right : List (String × Value)}
    {value other : Value} (differ : DifferAt key left right value other) (apart : key ≠ first)
    (held : Value) : DifferAt key ((first, held) :: left) ((first, held) :: right) value other where
  found := by rw [find?_cons, if_neg apart, differ.found]
  otherFound := by rw [find?_cons, if_neg apart, differ.otherFound]
  elsewhere := by
    intro name other
    rw [find?_cons, find?_cons, differ.elsewhere name other]

end Entries

def Entries.hasValue (params : Members) (name : String) : Bool :=
  match find? name params with
  | none | some .null => false
  | some _ => true

theorem Entries.hasValue_of_find? {params : Members} {name : String} {value : Json}
    (found : find? name params = some value) (present : value ≠ .null) :
    hasValue params name = true := by
  unfold hasValue
  rw [found]
  cases value with
  | null => exact absurd rfl present
  | _ => rfl

section

variable {key : String} {left right : Members} {value other : Json}

theorem Place.chosen_eq_of_differAt (place : Place)
    (differ : Entries.DifferAt key left right value other) (present : value ≠ .null)
    (otherPresent : other ≠ .null) : place.chosen left = place.chosen right := by
  have sameListed (name : String) :
      (Entries.find? name left).isSome = (Entries.find? name right).isSome := by
    by_cases atKey : name = key
    · rw [atKey, differ.found, differ.otherFound]
      rfl
    · rw [differ.elsewhere name atKey]
  have sameValued : Entries.hasValue left = Entries.hasValue right := by
    funext name
    by_cases atKey : name = key
    · rw [atKey, Entries.hasValue_of_find? differ.found present,
        Entries.hasValue_of_find? differ.otherFound otherPresent]
    · unfold Entries.hasValue
      rw [differ.elsewhere name atKey]
  cases place with
  | under key => rfl
  | valued first second =>
      change ([first, second].find? (Entries.hasValue left)).getD first =
        ([first, second].find? (Entries.hasValue right)).getD first
      rw [sameValued]
  | listed first second => simp only [chosen, sameListed]

theorem Parameter.outcome_reading_eq_some_iff (parameter : Parameter) (params : Members)
    (made : parameter.Value) :
    (parameter.reading params).outcome = some made ↔
      parameter.slot.read params (parameter.place.chosen params) = .ok made := by
  rw [← parameter.slot_eq_reading params]
  exact Reading.outcome_slot_eq_some_iff _ _ _ _

theorem Parameter.outcome_reading_eq_of_differAt (parameter : Parameter)
    (differ : Entries.DifferAt key left right value other) (present : value ≠ .null)
    (otherPresent : other ≠ .null)
    (alike : key ∈ parameter.place.keys → parameter.slot.TakesAlike value other) :
    (parameter.reading left).outcome = (parameter.reading right).outcome := by
  apply Option.ext
  intro made
  rw [outcome_reading_eq_some_iff, outcome_reading_eq_some_iff,
    parameter.place.chosen_eq_of_differAt differ present otherPresent]
  have own := parameter.place.chosen_mem_keys right
  by_cases atKey : parameter.place.chosen right = key
  · rw [atKey] at own ⊢
    rw [Slot.read_of_find? differ.found present, Slot.read_of_find? differ.otherFound otherPresent]
    exact alike own made
  · rw [parameter.slot.read_eq_of_find?_eq (differ.elsewhere _ atKey)]

theorem Definition.compile_eq_ok_iff_of_differAt {strategy : String}
    (differ : Entries.DifferAt key left right value other) (present : value ≠ .null)
    (otherPresent : other ≠ .null)
    (alike : ∀ parameter : Parameter, parameter.Known → key ∈ parameter.place.keys →
      parameter.slot.TakesAlike value other) (condition : Condition) :
    Condition.compile strategy left = .ok condition ↔
      Condition.compile strategy right = .ok condition := by
  rw [Condition.compile_eq_ok_iff, Condition.compile_eq_ok_iff]
  apply exists_congr
  intro known
  apply and_congr_right
  intro _named
  rw [← Strategy.outcome_condition_eq_some_iff, ← Strategy.outcome_condition_eq_some_iff]
  have same := known.outcome_condition_eq fun parameter member =>
    parameter.outcome_reading_eq_of_differAt differ present otherPresent
      (alike parameter (known.known_parameters parameter member))
  rw [same]

end

/-! ### Rules that differ in spelling -/

inductive Strategy.Respells : String → String → Prop where
  | recased {name recased : String} (recases : Text.Recased name recased) : Respells name recased
  | padded {name padded : String} (pads : Text.Padded name padded) : Respells name padded
  | olderContains : Respells "part_set_contains" "part_set_exists"
  | olderLocation : Respells "ship_location" "ship_type"

theorem Strategy.ofName?_eq_of_tagKey {name other : String}
    (same : Text.tagKey other = Text.tagKey name) : ofName? other = ofName? name := by
  unfold ofName?
  rw [same]

theorem Strategy.Respells.ofName?_eq {name other : String} (respells : Respells name other) :
    ofName? other = ofName? name := by
  cases respells with
  | recased recases => exact ofName?_eq_of_tagKey recases.tagKey_eq
  | padded pads => exact ofName?_eq_of_tagKey pads.tagKey_eq
  | olderContains => decide
  | olderLocation => decide

namespace Definition

/-- One change of spelling, in the rule itself or in a rule inside of it. -/
inductive Respells : Definition → Definition → Prop where
  | name {params : Members} {name other : String} (respells : Strategy.Respells name other) :
      Respells { strategy := name, params } { strategy := other, params }
  | padded {strategy key : String} {left right : Members} {value other : Json}
      (differ : Entries.DifferAt key left right value other) (pads : value.Padded other) :
      Respells { strategy, params := left } { strategy, params := right }
  | tag {strategy key text recased : String} {left right : Members}
      (differ : Entries.DifferAt key left right (.text text) (.text recased))
      (isTag : key ∈ Parameter.tagKeys) (recases : Text.Recased text recased) :
      Respells { strategy, params := left } { strategy, params := right }
  | nested {strategy key : String} {left right : Members} {value other : Json}
      {inner otherInner : Definition} (differ : Entries.DifferAt key left right value other)
      (defines : value.Defines inner) (otherDefines : other.Defines otherInner)
      (inside : Respells inner otherInner) :
      Respells { strategy, params := left } { strategy, params := right }

/-- Rules that any number of such changes lead to, in either direction. -/
def SpelledAlike : Definition → Definition → Prop :=
  Relation.EqvGen Respells

/-- Both rules have the same strategy, and both compile to the same condition if
one of them compiles. -/
structure CompilesAlike (rule other : Definition) : Prop where
  strategy : Strategy.ofName? rule.strategy = Strategy.ofName? other.strategy
  condition : ∀ condition, rule.compile = .ok condition ↔ other.compile = .ok condition

theorem compilesAlike_of_differAt {strategy key : String} {left right : Members}
    {value other : Json} (differ : Entries.DifferAt key left right value other)
    (present : value ≠ .null) (otherPresent : other ≠ .null)
    (alike : ∀ parameter : Parameter, parameter.Known → key ∈ parameter.place.keys →
      parameter.slot.TakesAlike value other) :
    CompilesAlike { strategy, params := left } { strategy, params := right } :=
  ⟨rfl, compile_eq_ok_iff_of_differAt differ present otherPresent alike⟩

theorem Respells.compilesAlike {rule other : Definition} (respells : Respells rule other) :
    CompilesAlike rule other := by
  -- By induction on how deep the change is; on each level it is a change of the
  -- value under one key.
  induction respells with
  | name respells =>
      refine ⟨respells.ofName?_eq.symm, ?_⟩
      intro condition
      unfold compile
      rw [Condition.compile_eq_ok_iff, Condition.compile_eq_ok_iff, respells.ofName?_eq]
  | padded differ pads =>
      have present := pads.ne_null
      exact compilesAlike_of_differAt differ present.1 present.2 fun _parameter known _own =>
        known.takesAlike_of_padded pads
  | tag differ isTag recases =>
      exact compilesAlike_of_differAt differ Json.noConfusion Json.noConfusion
        fun _parameter known own => known.takesAlike_of_recased own isTag recases
  | nested differ defines otherDefines _inside ih =>
      exact compilesAlike_of_differAt differ defines.ne_null otherDefines.ne_null
        fun _parameter known _own => known.takesAlike_of_defines defines otherDefines ih.condition

theorem SpelledAlike.compilesAlike {rule other : Definition} (alike : SpelledAlike rule other) :
    CompilesAlike rule other := by
  unfold SpelledAlike at alike
  induction alike with
  | rel rule other respells => exact respells.compilesAlike
  | refl rule => exact ⟨rfl, fun condition => Iff.rfl⟩
  | symm rule other _alike ih =>
      exact ⟨ih.strategy.symm, fun condition => (ih.condition condition).symm⟩
  | trans rule middle other _first _second firstIh secondIh =>
      exact ⟨firstIh.strategy.trans secondIh.strategy, fun condition =>
        (firstIh.condition condition).trans (secondIh.condition condition)⟩

theorem SpelledAlike.inside {rule other : Definition} (alike : SpelledAlike rule other)
    (strategy key : String) (rest : Members) :
    SpelledAlike { strategy, params := (key, rule.toJson) :: rest }
      { strategy, params := (key, other.toJson) :: rest } := by
  unfold SpelledAlike at alike ⊢
  induction alike with
  | rel rule other respells =>
      exact .rel _ _ (.nested (Entries.differAt_cons key _ _ rest) rule.defines_toJson
        other.defines_toJson respells)
  | refl rule => exact .refl _
  | symm rule other _alike ih => exact .symm _ _ ih
  | trans rule middle other _first _second firstIh secondIh => exact .trans _ _ _ firstIh secondIh

end Definition

def Rule.definition (rule : Rule) : Definition :=
  { strategy := rule.strategy, params := rule.params }

namespace Compiler

/-- Spelling does not matter to a compiled rule: with whatever compiler, a rule
that compiles and one that is spelled otherwise give the same strategy and the
same condition. -/
theorem compile_spelledAlike {rule other : Rule}
    (alike : rule.definition.SpelledAlike other.definition) (compiles : rule.Compiles) :
    ∃ strategy condition, ∀ compiler : Compiler,
      compiler.compile rule =
          (.ok { id := rule.id, strategy, condition, version := compiler.version + 1 },
            { compiler with version := compiler.version + 1 }) ∧
        compiler.compile other =
          (.ok { id := other.id, strategy, condition, version := compiler.version + 1 },
            { compiler with version := compiler.version + 1 }) := by
  obtain ⟨condition, made⟩ := compiles
  obtain ⟨strategy, named, _makes⟩ := (Condition.compile_eq_ok_iff _ _ condition).mp made
  have same := alike.compilesAlike
  have otherNamed : Strategy.ofName? other.strategy = some strategy := same.strategy.symm.trans named
  have otherMade : Condition.compile other.strategy other.params = .ok condition :=
    (same.condition condition).mp made
  refine ⟨strategy, condition, ?_⟩
  intro compiler
  exact ⟨compiler.compile_of_strategy rule strategy condition named made,
    compiler.compile_of_strategy other strategy condition otherNamed otherMade⟩

private def engineAsked (name matcher part : String) : Definition :=
  { strategy := name, params := [("matcher", .text matcher), ("parts", .array [.text part])] }

private def plainAsked : Definition :=
  engineAsked "part_set_contains" "any" "engine"

private def variedAsked : Definition :=
  engineAsked "part_set_exists" "ANY" " engine\n"

private theorem plainAsked_spelledAlike : plainAsked.SpelledAlike variedAsked := by
  have renamed : plainAsked.Respells (engineAsked "part_set_exists" "any" "engine") :=
    .name .olderContains
  have recased : (engineAsked "part_set_exists" "any" "engine").Respells
      (engineAsked "part_set_exists" "ANY" "engine") :=
    .tag (Entries.differAt_cons _ _ _ _) (by decide) (by decide)
  have padded : (engineAsked "part_set_exists" "ANY" "engine").Respells variedAsked :=
    .padded ((Entries.differAt_cons _ _ _ _).cons (by decide) _)
      (.item [] [] ⟨[' '], ['\n'], List.forall_mem_singleton.mpr (by decide),
        List.forall_mem_singleton.mpr (by decide), rfl⟩)
  exact .trans _ _ _ (.trans _ _ _ (.rel _ _ renamed) (.rel _ _ recased)) (.rel _ _ padded)

private def engineUnwanted (name : String) (asked : Definition) : Rule :=
  { id := "engine", strategy := name, params := [("rule", asked.toJson)] }

/-- The inner rule has the older name of its strategy, capitals and blanks, and
the outer one a wide space and a capital. -/
theorem compile_spelledAlike_of_unwanted_engine :
    (engineUnwanted "not" plainAsked).definition.SpelledAlike
        (engineUnwanted "\u3000Not" variedAsked).definition ∧
      (engineUnwanted "not" plainAsked).Compiles ∧
      ∃ strategy condition, ∀ compiler : Compiler,
        compiler.compile (engineUnwanted "not" plainAsked) =
            (.ok { id := "engine", strategy, condition, version := compiler.version + 1 },
              { compiler with version := compiler.version + 1 }) ∧
          compiler.compile (engineUnwanted "\u3000Not" variedAsked) =
            (.ok { id := "engine", strategy, condition, version := compiler.version + 1 },
              { compiler with version := compiler.version + 1 }) := by
  have recased : Strategy.Respells "not" "Not" := .recased (by decide)
  have padded : Strategy.Respells "Not" "\u3000Not" :=
    .padded ⟨['\u3000'], [], List.forall_mem_singleton.mpr (by decide), List.forall_mem_nil _, rfl⟩
  have alike : (engineUnwanted "not" plainAsked).definition.SpelledAlike
      (engineUnwanted "\u3000Not" variedAsked).definition :=
    .trans _ _ _ (plainAsked_spelledAlike.inside "not" "rule" [])
      (.trans _ _ _ (.rel _ _ (.name recased)) (.rel _ _ (.name padded)))
  have asked : plainAsked.compile = .ok (.partSetContains ["engine"] .any) :=
    (Condition.compile_partSetContains_eq_ok_iff "engine" _).mpr ⟨by decide, by decide⟩
  have holds : (engineUnwanted "not" plainAsked).definition.Holds "rule" plainAsked :=
    ⟨_, rfl, plainAsked.defines_toJson⟩
  have made : (engineUnwanted "not" plainAsked).definition.compile =
      .ok (.not (.partSetContains ["engine"] .any)) :=
    (Definition.compile_not_eq_ok_iff (by decide) holds _).mpr ⟨_, asked, rfl⟩
  exact ⟨alike, ⟨_, made⟩, compile_spelledAlike alike ⟨_, made⟩⟩

end Compiler
end Scrutineer
