import Scrutineer.Condition.Explanation

/-! For an explanation, a condition is a tree of conjunctions and disjunctions; all
that is neither, a negation too, is a leaf of it. A leaf is at fault when it is false
together with everything above it. The failures of a condition are the explanations of
these leaves from left to right, and the condition holds once just these leaves are
made to hold. -/

namespace Scrutineer

inductive Side where
  | left
  | right
deriving DecidableEq

/-- The way from the root of a condition down to one of its nodes. -/
abbrev Position := List Side

def Position.Precedes (first second : Position) : Prop :=
  ∃ shared earlier later,
    first = shared ++ .left :: earlier ∧ second = shared ++ .right :: later

theorem Position.Precedes.below {first second : Position} (side : Side)
    (precedes : first.Precedes second) : Position.Precedes (side :: first) (side :: second) := by
  rcases precedes with ⟨shared, earlier, later, sameFirst, sameSecond⟩
  exact ⟨side :: shared, earlier, later, congrArg (side :: ·) sameFirst,
    congrArg (side :: ·) sameSecond⟩

namespace Condition

def isLeaf : Condition → Bool
  | .and .. | .or .. => false
  | _ => true

def branch? (side : Side) : Condition → Option Condition
  | .and left right | .or left right =>
      match side with
      | .left => some left
      | .right => some right
  | _ => none

/-- The node at a position, where the way leads through conjunctions and
disjunctions only. -/
def at? (condition : Condition) : Position → Option Condition
  | [] => some condition
  | side :: rest =>
      match condition.branch? side with
      | some child => child.at? rest
      | none => none

/-- A leaf at which a condition fails: it is false, and so is each node above. -/
structure FailsAt (craft : Craft) (condition : Condition) (position : Position)
    (leaf : Condition) : Prop where
  reached : condition.at? position = some leaf
  isLeaf : leaf.isLeaf = true
  falseOnTheWay : ∀ above below, position = above ++ below →
    ∀ node, condition.at? above = some node → node.holds craft = false

def lowered (side : Side) (leaf : Position × Condition) : Position × Condition :=
  (side :: leaf.1, leaf.2)

def failingLeaves (craft : Craft) (condition : Condition) : List (Position × Condition) :=
  if condition.holds craft then []
  else
    match condition with
    | .and left right =>
        (left.failingLeaves craft).map (lowered .left) ++
          (right.failingLeaves craft).map (lowered .right)
    | .or left right =>
        (left.failingLeaves craft).map (lowered .left) ++
          (right.failingLeaves craft).map (lowered .right)
    | leaf => [([], leaf)]

/-- The condition with other ones in place of the nodes at some positions. -/
def replace (condition : Condition) (new? : Position → Option Condition) : Condition :=
  match new? [] with
  | some made => made
  | none =>
      match condition with
      | .and left right =>
          .and (left.replace fun position => new? (.left :: position))
            (right.replace fun position => new? (.right :: position))
      | .or left right =>
          .or (left.replace fun position => new? (.left :: position))
            (right.replace fun position => new? (.right :: position))
      | leaf => leaf

/-- Conditions that hold stand at the positions where a condition fails, and at
no others. -/
structure Repairs (craft : Craft) (condition : Condition)
    (new? : Position → Option Condition) : Prop where
  atFailures : ∀ position,
    (new? position).isSome = true ↔ ∃ leaf, condition.FailsAt craft position leaf
  holds : ∀ position made, new? position = some made → made.holds craft = true

/-! ### Leaves and what joins them -/

def Joins (condition left right : Condition) : Prop :=
  condition = .and left right ∨ condition = .or left right

/-- Every condition holds, is a failing leaf, or fails as the join of two others. -/
theorem induction_on_failing (craft : Craft) {motive : Condition → Prop}
    (passing : ∀ condition, condition.holds craft = true → motive condition)
    (failingLeaf : ∀ condition, condition.isLeaf = true → condition.holds craft = false →
      motive condition)
    (failingJoin : ∀ condition left right, condition.Joins left right →
      condition.holds craft = false → motive left → motive right → motive condition)
    (condition : Condition) : motive condition := by
  have unlessPassing (node : Condition) (failing : node.holds craft = false → motive node) :
      motive node := by
    cases held : node.holds craft with
    | true => exact passing node held
    | false => exact failing held
  induction condition with
  | and left right leftIh rightIh =>
      exact unlessPassing _ fun fails =>
        failingJoin _ left right (Or.inl rfl) fails leftIh rightIh
  | or left right leftIh rightIh =>
      exact unlessPassing _ fun fails =>
        failingJoin _ left right (Or.inr rfl) fails leftIh rightIh
  | _ => exact unlessPassing _ (failingLeaf _ rfl)

theorem branch?_of_isLeaf {condition : Condition} (leaf : condition.isLeaf = true) (side : Side) :
    condition.branch? side = none := by
  cases condition with
  | and left right | or left right => cases leaf
  | _ => rfl

theorem failures_of_holds {craft : Craft} {condition : Condition}
    (held : condition.holds craft = true) : condition.failures craft = [] := by
  unfold failures
  rw [if_pos held]

theorem failingLeaves_of_holds {craft : Craft} {condition : Condition}
    (held : condition.holds craft = true) : condition.failingLeaves craft = [] := by
  unfold failingLeaves
  rw [if_pos held]

theorem failures_of_isLeaf {craft : Craft} {condition : Condition} (leaf : condition.isLeaf = true)
    (fails : condition.holds craft = false) :
    condition.failures craft = [condition.explain] := by
  cases condition with
  | and left right | or left right => cases leaf
  | _ =>
      unfold failures
      simp only [fails, Bool.false_eq_true, if_false]

theorem failingLeaves_of_isLeaf {craft : Craft} {condition : Condition}
    (leaf : condition.isLeaf = true) (fails : condition.holds craft = false) :
    condition.failingLeaves craft = [([], condition)] := by
  cases condition with
  | and left right | or left right => cases leaf
  | _ =>
      unfold failingLeaves
      simp only [fails, Bool.false_eq_true, if_false]

namespace Joins

variable {craft : Craft} {condition left right : Condition}

theorem not_isLeaf (joins : condition.Joins left right) : condition.isLeaf = false := by
  rcases joins with rfl | rfl <;> rfl

theorem branch?_left (joins : condition.Joins left right) : condition.branch? .left = some left := by
  rcases joins with rfl | rfl <;> rfl

theorem branch?_right (joins : condition.Joins left right) :
    condition.branch? .right = some right := by
  rcases joins with rfl | rfl <;> rfl

theorem holds (joins : condition.Joins left right) (leftHolds : left.holds craft = true)
    (rightHolds : right.holds craft = true) : condition.holds craft = true := by
  rcases joins with rfl | rfl <;> simp [Condition.holds, leftHolds, rightHolds]

theorem failures (joins : condition.Joins left right) (fails : condition.holds craft = false) :
    condition.failures craft = left.failures craft ++ right.failures craft := by
  rcases joins with rfl | rfl <;> rw [Condition.failures] <;>
    simp only [fails, Bool.false_eq_true, if_false]

theorem failingLeaves (joins : condition.Joins left right)
    (fails : condition.holds craft = false) :
    condition.failingLeaves craft =
      (left.failingLeaves craft).map (lowered .left) ++
        (right.failingLeaves craft).map (lowered .right) := by
  rcases joins with rfl | rfl <;> rw [Condition.failingLeaves] <;>
    simp only [fails, Bool.false_eq_true, if_false]

theorem replace (joins : condition.Joins left right) {new? : Position → Option Condition}
    (kept : new? [] = none) :
    (condition.replace new?).Joins (left.replace fun position => new? (.left :: position))
      (right.replace fun position => new? (.right :: position)) := by
  rcases joins with rfl | rfl <;> rw [Condition.replace, kept]
  · exact Or.inl rfl
  · exact Or.inr rfl

end Joins

/-! ### Failing at a position -/

namespace FailsAt

variable {craft : Craft} {condition child leaf : Condition} {position rest : Position}

theorem fails (failsAt : condition.FailsAt craft position leaf) : condition.holds craft = false :=
  failsAt.falseOnTheWay [] position rfl condition rfl

theorem not_of_holds (held : condition.holds craft = true) :
    ¬ condition.FailsAt craft position leaf := by
  intro failsAt
  rw [failsAt.fails] at held
  cases held

theorem nil_iff : condition.FailsAt craft [] leaf ↔
    condition.isLeaf = true ∧ condition.holds craft = false ∧ condition = leaf := by
  constructor
  · intro failsAt
    cases failsAt.reached
    exact ⟨failsAt.isLeaf, failsAt.fails, rfl⟩
  · intro given
    rcases given with ⟨isLeaf, fails, same⟩
    subst same
    refine ⟨rfl, isLeaf, ?_⟩
    intro above below whole node reached
    have atRoot : above = [] := (List.append_eq_nil_iff.mp whole.symm).1
    subst atRoot
    cases reached
    exact fails

theorem not_nil_of_joins {left right : Condition} (joins : condition.Joins left right) :
    ¬ condition.FailsAt craft [] leaf := by
  intro failsAt
  have isLeaf := (nil_iff.mp failsAt).1
  rw [joins.not_isLeaf] at isLeaf
  cases isLeaf

theorem at?_cons {side : Side} (branch : condition.branch? side = some child) :
    condition.at? (side :: rest) = child.at? rest := by
  rw [at?, branch]

theorem cons_iff {side : Side} (branch : condition.branch? side = some child)
    (fails : condition.holds craft = false) :
    condition.FailsAt craft (side :: rest) leaf ↔ child.FailsAt craft rest leaf := by
  constructor
  · intro failsAt
    refine ⟨(at?_cons branch).symm.trans failsAt.reached, failsAt.isLeaf, ?_⟩
    intro above below whole node reached
    exact failsAt.falseOnTheWay (side :: above) below (congrArg (side :: ·) whole) node
      ((at?_cons branch).trans reached)
  · intro failsAt
    refine ⟨(at?_cons branch).trans failsAt.reached, failsAt.isLeaf, ?_⟩
    intro above below whole node reached
    cases above with
    | nil =>
        cases reached
        exact fails
    | cons first others =>
        obtain ⟨sameSide, sameRest⟩ := List.cons.inj whole
        subst sameSide
        exact failsAt.falseOnTheWay others below sameRest node
          ((at?_cons branch).symm.trans reached)

theorem position_eq_nil (isLeaf : condition.isLeaf = true)
    (failsAt : condition.FailsAt craft position leaf) : position = [] := by
  cases position with
  | nil => rfl
  | cons side rest =>
      have reached := failsAt.reached
      rw [at?, branch?_of_isLeaf isLeaf] at reached
      cases reached

end FailsAt

/-! ### The failing leaves -/

theorem failures_eq_map_explain (craft : Craft) (condition : Condition) :
    condition.failures craft = (condition.failingLeaves craft).map fun leaf => leaf.2.explain := by
  induction condition using induction_on_failing craft with
  | passing condition held => rw [failures_of_holds held, failingLeaves_of_holds held, List.map_nil]
  | failingLeaf condition isLeaf fails =>
      rw [failures_of_isLeaf isLeaf fails, failingLeaves_of_isLeaf isLeaf fails]
      rfl
  | failingJoin condition left right joins fails leftIh rightIh =>
      rw [joins.failures fails, joins.failingLeaves fails, leftIh, rightIh, List.map_append,
        List.map_map, List.map_map]
      rfl

private theorem mem_map_lowered_iff (side : Side) (leaves : List (Position × Condition))
    (position : Position) (leaf : Condition) :
    (position, leaf) ∈ leaves.map (lowered side) ↔
      ∃ rest, position = side :: rest ∧ (rest, leaf) ∈ leaves := by
  rw [List.mem_map]
  constructor
  · intro given
    rcases given with ⟨⟨rest, held⟩, member, same⟩
    cases same
    exact ⟨rest, rfl, member⟩
  · intro given
    rcases given with ⟨rest, same, member⟩
    subst same
    exact ⟨(rest, leaf), member, rfl⟩

theorem mem_failingLeaves_iff (craft : Craft) (condition : Condition) (position : Position)
    (leaf : Condition) :
    (position, leaf) ∈ condition.failingLeaves craft ↔ condition.FailsAt craft position leaf := by
  induction condition using induction_on_failing craft generalizing position with
  | passing condition held =>
      rw [failingLeaves_of_holds held]
      constructor
      · intro impossible
        cases impossible
      · intro failsAt
        exact absurd failsAt (FailsAt.not_of_holds held)
  | failingLeaf condition isLeaf fails =>
      rw [failingLeaves_of_isLeaf isLeaf fails, List.mem_singleton]
      constructor
      · intro same
        cases same
        exact FailsAt.nil_iff.mpr ⟨isLeaf, fails, rfl⟩
      · intro failsAt
        have atRoot := failsAt.position_eq_nil isLeaf
        subst atRoot
        rw [(FailsAt.nil_iff.mp failsAt).2.2]
  | failingJoin condition left right joins fails leftIh rightIh =>
      rw [joins.failingLeaves fails, List.mem_append, mem_map_lowered_iff, mem_map_lowered_iff]
      simp only [leftIh, rightIh]
      constructor
      · intro given
        rcases given with ⟨rest, rfl, below⟩ | ⟨rest, rfl, below⟩
        · exact (FailsAt.cons_iff joins.branch?_left fails).mpr below
        · exact (FailsAt.cons_iff joins.branch?_right fails).mpr below
      · intro failsAt
        cases position with
        | nil => exact absurd failsAt (FailsAt.not_nil_of_joins joins)
        | cons side rest =>
            cases side with
            | left =>
                exact Or.inl ⟨rest, rfl, (FailsAt.cons_iff joins.branch?_left fails).mp failsAt⟩
            | right =>
                exact Or.inr ⟨rest, rfl, (FailsAt.cons_iff joins.branch?_right fails).mp failsAt⟩

theorem pairwise_failingLeaves (craft : Craft) (condition : Condition) :
    (condition.failingLeaves craft).Pairwise fun first second => first.1.Precedes second.1 := by
  induction condition using induction_on_failing craft with
  | passing condition held =>
      rw [failingLeaves_of_holds held]
      exact List.Pairwise.nil
  | failingLeaf condition isLeaf fails =>
      rw [failingLeaves_of_isLeaf isLeaf fails]
      exact List.pairwise_singleton _ _
  | failingJoin condition left right joins fails leftIh rightIh =>
      rw [joins.failingLeaves fails, List.pairwise_append, List.pairwise_map, List.pairwise_map]
      refine ⟨leftIh.imp (Position.Precedes.below .left),
        rightIh.imp (Position.Precedes.below .right), ?_⟩
      intro first fromLeft second fromRight
      obtain ⟨earlier, _inLeft, sameFirst⟩ := List.mem_map.mp fromLeft
      obtain ⟨later, _inRight, sameSecond⟩ := List.mem_map.mp fromRight
      subst sameFirst sameSecond
      exact ⟨[], earlier.1, later.1, rfl, rfl⟩

theorem failures_eq_nil_iff (craft : Craft) (condition : Condition) :
    condition.failures craft = [] ↔ condition.holds craft = true := by
  induction condition using induction_on_failing craft with
  | passing condition held => simp only [failures_of_holds held, held]
  | failingLeaf condition isLeaf fails =>
      rw [failures_of_isLeaf isLeaf fails, fails]
      exact iff_of_false (List.cons_ne_nil _ _) Bool.false_ne_true
  | failingJoin condition left right joins fails leftIh rightIh =>
      rw [joins.failures fails, List.append_eq_nil_iff, leftIh, rightIh]
      constructor
      · intro both
        exact joins.holds both.1 both.2
      · intro held
        rw [fails] at held
        cases held

/-! ### Repairing the failing leaves -/

theorem replace_of_none {condition : Condition} {new? : Position → Option Condition}
    (kept : ∀ position, new? position = none) : condition.replace new? = condition := by
  induction condition generalizing new? with
  | and left right leftIh rightIh | or left right leftIh rightIh =>
      rw [replace, kept []]
      simp only [leftIh fun position => kept (.left :: position),
        rightIh fun position => kept (.right :: position)]
  | _ =>
      unfold replace
      rw [kept []]

theorem replace_of_some {condition made : Condition} {new? : Position → Option Condition}
    (atRoot : new? [] = some made) : condition.replace new? = made := by
  cases condition <;> unfold replace <;> rw [atRoot]

theorem Repairs.branch {craft : Craft} {condition child : Condition}
    {new? : Position → Option Condition} (repairs : condition.Repairs craft new?)
    (fails : condition.holds craft = false) {side : Side}
    (branch : condition.branch? side = some child) :
    child.Repairs craft fun position => new? (side :: position) where
  atFailures := by
    intro position
    rw [repairs.atFailures]
    simp only [FailsAt.cons_iff branch fails]
  holds := fun position made => repairs.holds (side :: position) made

theorem Repairs.replace_eq_self {craft : Craft} {condition : Condition}
    {new? : Position → Option Condition} (repairs : condition.Repairs craft new?)
    (held : condition.holds craft = true) : condition.replace new? = condition := by
  apply replace_of_none
  intro position
  apply Option.not_isSome_iff_eq_none.mp
  intro replaced
  obtain ⟨leaf, failsAt⟩ := (repairs.atFailures position).mp replaced
  exact FailsAt.not_of_holds held failsAt

theorem Repairs.holds_replace {craft : Craft} {condition : Condition}
    {new? : Position → Option Condition} (repairs : condition.Repairs craft new?) :
    (condition.replace new?).holds craft = true := by
  induction condition using induction_on_failing craft generalizing new? with
  | passing condition held => rw [repairs.replace_eq_self held, held]
  | failingLeaf condition isLeaf fails =>
      have failsHere := FailsAt.nil_iff.mpr ⟨isLeaf, fails, rfl⟩
      have replaced := (repairs.atFailures []).mpr ⟨condition, failsHere⟩
      obtain ⟨made, atRoot⟩ := Option.isSome_iff_exists.mp replaced
      rw [replace_of_some atRoot]
      exact repairs.holds [] made atRoot
  | failingJoin condition left right joins fails leftIh rightIh =>
      -- The root is no leaf, so it stays, and the repair goes on in both branches.
      have kept : new? [] = none := by
        apply Option.not_isSome_iff_eq_none.mp
        intro replaced
        obtain ⟨leaf, failsHere⟩ := (repairs.atFailures []).mp replaced
        exact FailsAt.not_nil_of_joins joins failsHere
      have leftHolds := leftIh (repairs.branch fails joins.branch?_left)
      have rightHolds := rightIh (repairs.branch fails joins.branch?_right)
      exact (joins.replace kept).holds leftHolds rightHolds

/-! ### The message -/

private theorem append_ne_empty_of_left {front back : String} (some : front ≠ "") :
    front ++ back ≠ "" :=
  fun empty => some (String.append_eq_empty_iff.mp empty).1

private theorem append_ne_empty_of_right {front back : String} (some : back ≠ "") :
    front ++ back ≠ "" :=
  fun empty => some (String.append_eq_empty_iff.mp empty).2

theorem explain_ne_empty (condition : Condition) : condition.explain ≠ "" := by
  cases condition with
  | builtIn building => exact append_ne_empty_of_left (by decide)
  | partSetContains parts matcher =>
      cases matcher <;> exact append_ne_empty_of_right (by decide)
  | moduleProperty check | resourceProperty check =>
      exact append_ne_empty_of_left (append_ne_empty_of_right (by decide))
  | cost bound | mass bound | points bound =>
      exact append_ne_empty_of_left (append_ne_empty_of_right (by decide))
  | _ => exact append_ne_empty_of_right (by decide)

private theorem intercalate_ne_empty (separator : String) {first : String} (others : List String)
    (some : first ≠ "") : String.intercalate separator (first :: others) ≠ "" := by
  cases others with
  | nil =>
      rw [String.intercalate_singleton]
      exact some
  | cons second rest =>
      rw [String.intercalate_cons_cons]
      exact append_ne_empty_of_left (append_ne_empty_of_left some)

theorem failureMessage_of_fails {craft : Craft} {condition : Condition}
    (fails : condition.holds craft = false) :
    condition.failureMessage craft = String.intercalate "; " (condition.failures craft) ∧
      condition.failureMessage craft ≠ "" := by
  unfold failureMessage
  cases reasons : condition.failures craft with
  | nil =>
      rw [(failures_eq_nil_iff craft condition).mp reasons] at fails
      cases fails
  | cons first others =>
      have listed : first ∈ condition.failures craft := by
        rw [reasons]
        exact List.mem_cons_self
      rw [failures_eq_map_explain] at listed
      obtain ⟨leaf, _failing, same⟩ := List.mem_map.mp listed
      refine ⟨rfl, intercalate_ne_empty "; " others ?_⟩
      rw [← same]
      exact explain_ne_empty leaf.2

/-- The failures of a condition explain the leaves at which it fails, all of
them and no others, from left to right. There are none when it holds; when it
fails they make up the message, and it holds as soon as something that holds
stands in the place of each of these leaves. -/
theorem failures_explain_failing_leaves (craft : Craft) (condition : Condition) :
    (condition.failures craft = [] ↔ condition.holds craft = true) ∧
      (∃ leaves : List (Position × Condition),
        (∀ position leaf,
          (position, leaf) ∈ leaves ↔ condition.FailsAt craft position leaf) ∧
        (leaves.Pairwise fun first second => first.1.Precedes second.1) ∧
        condition.failures craft = leaves.map fun leaf => leaf.2.explain) ∧
      (∀ new?, condition.Repairs craft new? → (condition.replace new?).holds craft = true) ∧
      (condition.holds craft = false →
        condition.failureMessage craft = String.intercalate "; " (condition.failures craft) ∧
          condition.failureMessage craft ≠ "") := by
  refine ⟨failures_eq_nil_iff craft condition, ?_, ?_, failureMessage_of_fails⟩
  · exact ⟨condition.failingLeaves craft, mem_failingLeaves_iff craft condition,
      pairwise_failingLeaves craft condition, failures_eq_map_explain craft condition⟩
  · intro new? repairs
    exact repairs.holds_replace

private def emptyCraft : Craft :=
  Craft.bare .hangar { x := .zero, y := .zero, z := .zero }

/-- The disjunction on the left holds and hides a leaf that is false. -/
private def hangarRule : Condition :=
  .and (.or (.builtIn .hangar) (.builtIn .assemblyHall))
    (.or (.not (.builtIn .hangar)) (.partExists "wing"))

private def hangarRepair? (position : Position) : Option Condition :=
  if position = [.right, .left] ∨ position = [.right, .right] then some (.builtIn .hangar)
  else none

private theorem repairs_hangarRule : hangarRule.Repairs emptyCraft hangarRepair? where
  atFailures := by
    intro position
    have listed : hangarRule.failingLeaves emptyCraft =
        [([.right, .left], .not (.builtIn .hangar)), ([.right, .right], .partExists "wing")] := by
      decide
    simp only [← mem_failingLeaves_iff, listed, hangarRepair?]
    by_cases first : position = [.right, .left]
    · subst first
      simp
    · by_cases second : position = [.right, .right]
      · subst second
        simp
      · simp [first, second]
  holds := by
    intro position made found
    unfold hangarRepair? at found
    split at found
    · cases found
      rfl
    · cases found

/-- Two leaves are at fault, and the rule holds when both are replaced. -/
theorem failures_of_hangar_rule :
    hangarRule.holds emptyCraft = false ∧
      hangarRule.failureMessage emptyCraft =
        "not (Craft must be saved in the SPH); part must exist! (wing)" ∧
      (hangarRule.replace hangarRepair?).holds emptyCraft = true := by
  have explained := failures_explain_failing_leaves emptyCraft hangarRule
  have fails : hangarRule.holds emptyCraft = false := by decide
  refine ⟨fails, ?_, explained.2.2.1 hangarRepair? repairs_hangarRule⟩
  rw [(explained.2.2.2 fails).1]
  decide

end Condition
end Scrutineer
