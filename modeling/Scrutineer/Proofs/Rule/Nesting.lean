import Scrutineer.Proofs.Rule.Written

/-! A rule definition spells a tree when the connectives of the tree stand in it one
inside of the other, however the names of their strategies are written and whatever
other members there are. Compiling goes through such a tree node by node: it adds
nothing and loses nothing. -/

namespace Scrutineer

def Json.Defines (value : Json) (inner : Definition) : Prop :=
  ∃ members, value = .object members ∧
    Entries.find? "strategy" members = some (.text inner.strategy) ∧
    Entries.find? "params" members = some (.object inner.params)

theorem Slot.definition_eq_ok_iff (value : Json) (inner : Definition) :
    definition value = .ok inner ↔ value.Defines inner := by
  unfold definition
  constructor
  · intro read
    split at read
    · rename_i strategy params hasStrategy hasParams
      cases read
      cases value with
      | object members => exact ⟨members, rfl, hasStrategy, hasParams⟩
      | _ => cases hasStrategy
    · cases read
  · intro defines
    rcases defines with ⟨members, rfl, hasStrategy, hasParams⟩
    simp only [Json.member?, hasStrategy, hasParams]

theorem Definition.defines_toJson (written : Definition) : written.toJson.Defines written :=
  ⟨_, rfl, rfl, rfl⟩

/-! ### Trees of rules -/

inductive Connective where
  | and
  | or
  | xor
deriving DecidableEq

namespace Connective

def strategy : Connective → Strategy
  | .and => .and
  | .or => .or
  | .xor => .xor

def condition : Connective → Condition → Condition → Condition
  | .and => .and
  | .or => .or
  | .xor => .xor

def truth : Connective → Bool → Bool → Bool
  | .and => Bool.and
  | .or => Bool.or
  | .xor => Bool.xor

theorem holds_condition (connective : Connective) (craft : Craft) (left right : Condition) :
    (connective.condition left right).holds craft =
      connective.truth (left.holds craft) (right.holds craft) := by
  cases connective with
  | and => rfl
  | or => rfl
  | xor =>
      change (left.holds craft != right.holds craft) = Bool.xor _ _
      cases left.holds craft <;> cases right.holds craft <;> rfl

end Connective

inductive Nesting (Leaf : Type) where
  | leaf (own : Leaf)
  | not (inner : Nesting Leaf)
  | join (connective : Connective) (left right : Nesting Leaf)

namespace Nesting

variable {Leaf : Type}

def leaves : Nesting Leaf → List Leaf
  | .leaf own => [own]
  | .not inner => inner.leaves
  | .join _ left right => left.leaves ++ right.leaves

/-- The same tree of conditions, over the conditions of the leaves. -/
def condition (meaning : Leaf → Condition) : Nesting Leaf → Condition
  | .leaf own => meaning own
  | .not inner => .not (inner.condition meaning)
  | .join connective left right =>
      connective.condition (left.condition meaning) (right.condition meaning)

def truth (value : Leaf → Bool) : Nesting Leaf → Bool
  | .leaf own => value own
  | .not inner => !inner.truth value
  | .join connective left right => connective.truth (left.truth value) (right.truth value)

theorem holds_condition (nesting : Nesting Leaf) (meaning : Leaf → Condition) (craft : Craft) :
    (nesting.condition meaning).holds craft =
      nesting.truth fun own => (meaning own).holds craft := by
  induction nesting with
  | leaf own => rfl
  | not inner ih =>
      change (!(inner.condition meaning).holds craft) = !inner.truth _
      rw [ih]
  | join connective left right leftIh rightIh =>
      change (connective.condition _ _).holds craft = connective.truth _ _
      rw [connective.holds_condition, leftIh, rightIh]

def written : Nesting Definition → Definition
  | .leaf own => own
  | .not inner => { strategy := "not", params := [("rule", inner.written.toJson)] }
  | .join connective left right =>
      { strategy := connective.strategy.name
        params := [("a", left.written.toJson), ("b", right.written.toJson)] }

end Nesting

namespace Definition

def compile (definition : Definition) : Except RuleError Condition :=
  Condition.compile definition.strategy definition.params

def Compiles (definition : Definition) : Prop :=
  ∃ condition, definition.compile = .ok condition

def Holds (definition : Definition) (key : String) (inner : Definition) : Prop :=
  ∃ value, Entries.find? key definition.params = some value ∧ value.Defines inner

/-- The definition is that of the tree: at the leaves any definition may stand. -/
inductive Spells : Definition → Nesting Definition → Prop where
  | leaf (definition : Definition) : Spells definition (.leaf definition)
  | not {definition child : Definition} {nesting : Nesting Definition}
      (named : Strategy.ofName? definition.strategy = some .not)
      (rule : definition.Holds "rule" child) (inner : Spells child nesting) :
      Spells definition (.not nesting)
  | join {definition left right : Definition} {leftNesting rightNesting : Nesting Definition}
      (connective : Connective)
      (named : Strategy.ofName? definition.strategy = some connective.strategy)
      (first : definition.Holds "a" left) (second : definition.Holds "b" right)
      (leftSpells : Spells left leftNesting) (rightSpells : Spells right rightNesting) :
      Spells definition (.join connective leftNesting rightNesting)

theorem written_spells (nesting : Nesting Definition) : nesting.written.Spells nesting := by
  induction nesting with
  | leaf own => exact .leaf own
  | not inner ih =>
      exact .not (Strategy.ofName?_name .not) ⟨_, rfl, inner.written.defines_toJson⟩ ih
  | join connective left right leftIh rightIh =>
      exact .join connective (Strategy.ofName?_name connective.strategy)
        ⟨_, rfl, left.written.defines_toJson⟩ ⟨_, rfl, right.written.defines_toJson⟩ leftIh rightIh

/-! ### Compiling one node -/

variable {definition : Definition}

theorem Holds.read_definition {key : String} {inner : Definition}
    (holds : definition.Holds key inner) :
    Slot.definition.read definition.params key = .ok inner := by
  obtain ⟨value, found, defines⟩ := holds
  have present : value ≠ .null := by
    obtain ⟨members, object, _others⟩ := defines
    rw [object]
    exact Json.noConfusion
  rw [Slot.read_of_find? found present]
  exact (Slot.definition_eq_ok_iff value inner).mpr defines

theorem Holds.nestedIn_eq_ok_iff {key : String} {inner : Definition}
    (holds : definition.Holds key inner) (child : Condition) :
    Condition.nestedIn definition.params key = .ok child ↔ inner.compile = .ok child := by
  have read := holds.read_definition
  rw [Condition.nestedIn_eq_ok_iff, read]
  constructor
  · intro given
    rcases given with ⟨other, same, compiled⟩
    cases same
    exact compiled
  · intro compiled
    exact ⟨inner, rfl, compiled⟩

theorem compile_eq_ok_iff {strategy : Strategy}
    (named : Strategy.ofName? definition.strategy = some strategy) (condition : Condition) :
    definition.compile = .ok condition ↔
      strategy.Makes (Condition.sourceOf definition.params) condition := by
  unfold compile
  rw [Condition.compile_eq_ok_iff, named]
  simp only [Option.some.injEq, exists_eq_left']

theorem compile_not_eq_ok_iff {child : Definition}
    (named : Strategy.ofName? definition.strategy = some .not)
    (rule : definition.Holds "rule" child) (condition : Condition) :
    definition.compile = .ok condition ↔
      ∃ inner, child.compile = .ok inner ∧ condition = .not inner := by
  rw [compile_eq_ok_iff named]
  constructor
  · intro makes
    cases makes with
    | not hasChild => exact ⟨_, (rule.nestedIn_eq_ok_iff _).mp hasChild, rfl⟩
  · intro given
    rcases given with ⟨inner, compiled, rfl⟩
    exact .not ((rule.nestedIn_eq_ok_iff inner).mpr compiled)

theorem compile_join_eq_ok_iff {left right : Definition} (connective : Connective)
    (named : Strategy.ofName? definition.strategy = some connective.strategy)
    (first : definition.Holds "a" left) (second : definition.Holds "b" right)
    (condition : Condition) :
    definition.compile = .ok condition ↔
      ∃ one other, left.compile = .ok one ∧ right.compile = .ok other ∧
        condition = connective.condition one other := by
  rw [compile_eq_ok_iff named]
  constructor
  · intro makes
    cases connective <;> cases makes
    all_goals
      rename_i hasLeft hasRight
      exact ⟨_, _, (first.nestedIn_eq_ok_iff _).mp hasLeft,
        (second.nestedIn_eq_ok_iff _).mp hasRight, rfl⟩
  · intro given
    rcases given with ⟨one, other, compiledLeft, compiledRight, rfl⟩
    have hasLeft := (first.nestedIn_eq_ok_iff one).mpr compiledLeft
    have hasRight := (second.nestedIn_eq_ok_iff other).mpr compiledRight
    cases connective with
    | and => exact .and hasLeft hasRight
    | or => exact .or hasLeft hasRight
    | xor => exact .xor hasLeft hasRight

/-! ### Compiling a tree -/

variable {nesting : Nesting Definition}

theorem Spells.compiles_iff (spells : definition.Spells nesting) :
    definition.Compiles ↔ ∀ leaf ∈ nesting.leaves, leaf.Compiles := by
  -- By induction on how the definition spells the tree: the children of a node
  -- are found under its keys, and each spells its part of the tree.
  induction spells with
  | leaf definition =>
      change definition.Compiles ↔ ∀ leaf ∈ [definition], leaf.Compiles
      rw [List.forall_mem_singleton]
  | @not definition child nesting named rule _inner ih =>
      change definition.Compiles ↔ ∀ leaf ∈ nesting.leaves, leaf.Compiles
      rw [← ih]
      constructor
      · intro given
        rcases given with ⟨condition, compiled⟩
        obtain ⟨inner, childCompiled, _same⟩ :=
          (compile_not_eq_ok_iff named rule condition).mp compiled
        exact ⟨inner, childCompiled⟩
      · intro given
        rcases given with ⟨inner, childCompiled⟩
        exact ⟨.not inner, (compile_not_eq_ok_iff named rule _).mpr ⟨inner, childCompiled, rfl⟩⟩
  | @join definition left right leftNesting rightNesting connective named first second _left _right
      leftIh rightIh =>
      change definition.Compiles ↔
        ∀ leaf ∈ leftNesting.leaves ++ rightNesting.leaves, leaf.Compiles
      rw [List.forall_mem_append, ← leftIh, ← rightIh]
      constructor
      · intro given
        rcases given with ⟨condition, compiled⟩
        obtain ⟨one, other, leftCompiled, rightCompiled, _same⟩ :=
          (compile_join_eq_ok_iff connective named first second condition).mp compiled
        exact ⟨⟨one, leftCompiled⟩, ⟨other, rightCompiled⟩⟩
      · intro given
        rcases given with ⟨⟨one, leftCompiled⟩, ⟨other, rightCompiled⟩⟩
        exact ⟨connective.condition one other,
          (compile_join_eq_ok_iff connective named first second _).mpr
            ⟨one, other, leftCompiled, rightCompiled, rfl⟩⟩

theorem Spells.compile_eq (spells : definition.Spells nesting) (meaning : Definition → Condition)
    (compiled : ∀ leaf ∈ nesting.leaves, leaf.compile = .ok (meaning leaf)) :
    definition.compile = .ok (nesting.condition meaning) := by
  induction spells with
  | leaf definition => exact compiled definition (List.mem_singleton_self definition)
  | not named rule _inner ih =>
      exact (compile_not_eq_ok_iff named rule _).mpr ⟨_, ih compiled, rfl⟩
  | join connective named first second _left _right leftIh rightIh =>
      have leftCompiled := leftIh fun leaf member => compiled leaf (List.mem_append_left _ member)
      have rightCompiled :=
        rightIh fun leaf member => compiled leaf (List.mem_append_right _ member)
      exact (compile_join_eq_ok_iff connective named first second _).mpr
        ⟨_, _, leftCompiled, rightCompiled, rfl⟩

/-- A tree of rules compiles exactly when the rules at its leaves do. It compiles
to the same tree of their conditions, which holds of a craft as the tree has it
for the leaves. Each tree has a definition that spells it. -/
theorem compile_nesting (nesting : Nesting Definition) :
    nesting.written.Spells nesting ∧
      ∀ definition : Definition, definition.Spells nesting →
        ((∃ condition, definition.compile = .ok condition) ↔
          ∀ leaf ∈ nesting.leaves, ∃ condition, leaf.compile = .ok condition) ∧
        ∀ meaning : Definition → Condition,
          (∀ leaf ∈ nesting.leaves, leaf.compile = .ok (meaning leaf)) →
            definition.compile = .ok (nesting.condition meaning) ∧
            ∀ craft, (nesting.condition meaning).holds craft =
              nesting.truth fun leaf => (meaning leaf).holds craft := by
  refine ⟨written_spells nesting, ?_⟩
  intro definition spells
  refine ⟨spells.compiles_iff, ?_⟩
  intro meaning compiled
  exact ⟨spells.compile_eq meaning compiled, nesting.holds_condition meaning⟩

private def asksFor (base : String) : Definition :=
  { strategy := "part_exists", params := [("part", .text base)] }

private def partAsked (asking : Definition) : Condition :=
  match Entries.find? "part" asking.params with
  | some (.text base) => .partExists base
  | _ => .partExists ""

/-- The name of the strategy has a blank and a capital, and the second inner rule
has a member that no rule needs. -/
private def eitherWithoutEngine : Definition :=
  { strategy := " Xor"
    params :=
      [("a", (asksFor "fuelTank").toJson),
        ("b", .object [("id", .text "inner"), ("strategy", .text "not"),
          ("params", .object [("rule", (asksFor "engine").toJson)])])] }

theorem compile_nesting_of_exclusive_rule :
    eitherWithoutEngine.compile = .ok (.xor (.partExists "fuelTank") (.not (.partExists "engine"))) ∧
      ∀ craft, (Condition.xor (.partExists "fuelTank") (.not (.partExists "engine"))).holds craft =
        Bool.xor ((Condition.partExists "fuelTank").holds craft)
          !(Condition.partExists "engine").holds craft := by
  have negated : Spells { strategy := "not", params := [("rule", (asksFor "engine").toJson)] }
      (.not (.leaf (asksFor "engine"))) :=
    .not (by decide) ⟨_, rfl, (asksFor "engine").defines_toJson⟩ (.leaf _)
  have spelled : eitherWithoutEngine.Spells
      (.join .xor (.leaf (asksFor "fuelTank")) (.not (.leaf (asksFor "engine")))) :=
    .join .xor (by decide) ⟨_, rfl, (asksFor "fuelTank").defines_toJson⟩
      ⟨_, rfl, _, rfl, rfl, rfl⟩ (.leaf _) negated
  have asked (base : String) (clean : Name.IsClean base) :
      (asksFor base).compile = .ok (.partExists base) :=
    Condition.compile_strategy_params (show (Condition.partExists base).WellFormed from clean)
  apply ((compile_nesting _).2 eitherWithoutEngine spelled).2 partAsked
  intro leaf member
  rcases List.mem_cons.mp member with rfl | other
  · exact asked "fuelTank" (by decide)
  · rw [List.mem_singleton.mp other]
    exact asked "engine" (by decide)

end Definition
end Scrutineer
