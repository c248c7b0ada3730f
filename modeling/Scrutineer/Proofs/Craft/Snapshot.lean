import Scrutineer.Proofs.Craft.Loading
import Scrutineer.Proofs.Json.Encode

/-! A craft can be written without loss when all its numbers are finite and no bag has
a property under the key that stands for its name. Decoding gives such crafts only,
and decoding what is written for one gives it back. -/

namespace Scrutineer

/-! ### Scalars and bags -/

namespace Scalar

/-- A number among the scalars of a snapshot is finite. -/
def Writable : Scalar → Prop
  | .number value => value.isFinite = true
  | _ => True

theorem decoder_ofJson {value : Scalar} (writable : value.Writable) (level : Nat) :
    decoder level (.ofJson value.toJson) = .ok value := by
  cases value with
  | number value =>
      rw [toJson, Json.ofDouble_of_finite writable]
      rfl
  | truth value => rfl
  | text content => rfl

theorem writable_of_decoder {level : Nat} {document : Document} {value : Scalar}
    (decoded : decoder level document = .ok value) : value.Writable := by
  unfold decoder at decoded
  split at decoded
  · rename_i number
    cases decoded
    exact number.isFinite_toDouble
  · cases decoded
  · cases decoded
    trivial
  · cases decoded
    trivial
  · cases decoded
  · cases decoded

end Scalar

namespace Bag

/-- Properties that can be written beside a name: none has the key of the name. -/
def PropertiesWritable (properties : Dictionary Scalar) : Prop :=
  ∀ entry ∈ properties.entries, entry.1 ≠ "name" ∧ entry.2.Writable

def Writable (bag : Bag) : Prop :=
  PropertiesWritable bag.properties

theorem Writable.find?_name {bag : Bag} (writable : bag.Writable) :
    bag.properties.find? "name" = none := by
  apply List.lookup_eq_none_iff.mpr
  intro entry member
  exact bne_iff_ne.mpr (writable entry member).1.symm

private theorem foldlM_readMember_others (level : Nat) {entries : List (String × Scalar)}
    (others : ∀ entry ∈ entries, entry.1 ≠ "name") (draft : Draft) :
    (entries.map fun entry => (some entry.1, Document.ofJson entry.2.toJson)).foldlM
        (readMember level) draft =
      .ok { draft with
        others := draft.others ++ entries.map fun entry => (entry.1, .ofJson entry.2.toJson) } := by
  induction entries generalizing draft with
  | nil =>
      change Except.ok draft = .ok { draft with others := draft.others ++ [] }
      rw [List.append_nil]
  | cons entry rest ih =>
      have first : readMember level draft (some entry.1, .ofJson entry.2.toJson) =
          .ok { draft with others := draft.others ++ [(entry.1, .ofJson entry.2.toJson)] } :=
        if_neg (others entry List.mem_cons_self)
      have later := ih fun other member => others other (List.mem_cons_of_mem entry member)
      rw [List.map_cons, List.foldlM_cons, first]
      refine (later _).trans ?_
      rw [List.append_assoc]
      rfl

theorem decoder_ofJson {bag : Bag} (writable : bag.Writable) (level : Nat) :
    decoder level (.ofJson bag.toJson) = .ok bag := by
  have members := foldlM_readMember_others (level + 1)
    (fun entry member => (writable entry member).1) { name := some bag.name, others := [] }
  have properties : readProperties (level + 1) (bag.properties.entries.map fun entry =>
      (entry.1, .ofJson entry.2.toJson)) = .ok bag.properties := by
    unfold readProperties
    rw [List.foldlM_map]
    exact Decoder.foldlM_insert_entries
      (fun value => Scalar.decoder (level + 1) (.ofJson value.toJson))
      fun entry member => Scalar.decoder_ofJson (writable entry member).2 (level + 1)
  rw [toJson, Document.ofJson, Document.ofMembers_eq_map, List.map_cons, List.map_map]
  refine (Decoder.bind_eq_ok_iff _ _ _).mpr ⟨_, members, ?_⟩
  exact (Decoder.bind_eq_ok_iff _ _ _).mpr ⟨bag.name, rfl,
    (Decoder.bind_eq_ok_iff _ _ _).mpr ⟨bag.properties, properties, rfl⟩⟩

def Draft.LacksName (draft : Draft) : Prop :=
  ∀ other ∈ draft.others, other.1 ≠ "name"

theorem lacksName_readMember {level : Nat} {before after : Draft}
    {member : Option String × Document} (taken : readMember level before member = .ok after)
    (lacks : before.LacksName) : after.LacksName := by
  obtain ⟨key, _known, taken⟩ := (Decoder.bind_eq_ok_iff _ _ _).mp taken
  by_cases atName : key = "name"
  · rw [if_pos atName] at taken
    split at taken
    · cases taken
    · obtain ⟨text, _read, same⟩ := (Decoder.bind_eq_ok_iff _ _ _).mp taken
      cases same
      exact lacks
  · rw [if_neg atName] at taken
    cases taken
    intro other listed
    rcases List.mem_append.mp listed with earlier | last
    · exact lacks other earlier
    · rw [List.mem_singleton.mp last]
      exact atName

theorem writable_of_readProperties {level : Nat} {others : List (String × Document)}
    {properties : Dictionary Scalar} (lacks : ∀ other ∈ others, other.1 ≠ "name")
    (stored : readProperties level others = .ok properties) : PropertiesWritable properties := by
  have starts : PropertiesWritable .empty := by
    intro entry impossible
    cases impossible
  unfold readProperties at stored
  refine Decoder.foldlM_invariant ?_ stored starts
  intro other within sofar next taken kept
  obtain ⟨value, read, same⟩ := (Decoder.bind_eq_ok_iff _ _ _).mp taken
  cases same
  intro entry listed
  rcases Entries.mem_insert listed with new | old
  · rw [new]
    exact ⟨lacks other within, Scalar.writable_of_decoder read⟩
  · exact kept entry old

theorem writable_of_decoder {level : Nat} {document : Document} {bag : Bag}
    (decoded : decoder level document = .ok bag) : bag.Writable := by
  have starts : Draft.LacksName { name := none, others := [] } := by
    intro other impossible
    cases impossible
  unfold decoder at decoded
  cases document with
  | object members =>
      obtain ⟨draft, reads, decoded⟩ := (Decoder.bind_eq_ok_iff _ _ _).mp decoded
      obtain ⟨name, _named, decoded⟩ := (Decoder.bind_eq_ok_iff _ _ _).mp decoded
      obtain ⟨properties, stored, same⟩ := (Decoder.bind_eq_ok_iff _ _ _).mp decoded
      cases same
      have lacks : draft.LacksName :=
        Decoder.foldlM_invariant (fun _member _within _before _after => lacksName_readMember)
          reads starts
      exact writable_of_readProperties lacks stored
  | _ => cases decoded

end Bag

/-! ### Parts -/

namespace Part

def Writable (part : Part) : Prop :=
  (∀ bag ∈ part.modules, bag.Writable) ∧ ∀ bag ∈ part.resources, bag.Writable

theorem decoder_ofJson {part : Part} (writable : part.Writable) (level : Nat) :
    decoder level (.ofJson part.toJson) = .ok part := by
  have modules : Decoder.list Bag.decoder (level + 1)
      (.ofJson (.array (part.modules.map Bag.toJson))) = .ok part.modules :=
    Decoder.list_ofJson fun bag member => Bag.decoder_ofJson (writable.1 bag member) _
  have resources : Decoder.list Bag.decoder (level + 1)
      (.ofJson (.array (part.resources.map Bag.toJson))) = .ok part.resources :=
    Decoder.list_ofJson fun bag member => Bag.decoder_ofJson (writable.2 bag member) _
  refine (Decoder.bind_eq_ok_iff _ _ _).mpr
    ⟨{ name := some part.name, modules := some part.modules, resources := some part.resources },
      ?_, rfl⟩
  refine (Decoder.Shape.foldlM_readMember_cons rfl rfl rfl).trans ?_
  refine (Decoder.Shape.foldlM_readMember_cons rfl rfl
    (Decoder.map_eq_ok modules)).trans ?_
  refine (Decoder.Shape.foldlM_readMember_cons rfl rfl
    (Decoder.map_eq_ok resources)).trans ?_
  rfl

def Draft.Writable (draft : Draft) : Prop :=
  (∀ bag ∈ draft.modules.getD [], bag.Writable) ∧ ∀ bag ∈ draft.resources.getD [], bag.Writable

theorem writable_of_decoder {level : Nat} {document : Document} {part : Part}
    (decoded : decoder level document = .ok part) : part.Writable := by
  have bags {level : Nat} {document : Document} {bags : List Bag}
      (read : Decoder.list Bag.decoder level document = .ok bags) : ∀ bag ∈ bags, bag.Writable :=
    Decoder.forall_of_list (fun _document _bag => Bag.writable_of_decoder) read
  have keeps : ∀ field ∈ shape.fields, field.Keeps Draft.Writable := by
    intro field member level document set draft reads kept
    simp only [shape, List.mem_cons, List.not_mem_nil, or_false] at member
    rcases member with rfl | rfl | rfl
    · obtain ⟨name, _read, same⟩ := (Decoder.bind_eq_ok_iff _ _ _).mp reads
      cases same
      exact kept
    · obtain ⟨modules, read, same⟩ := (Decoder.bind_eq_ok_iff _ _ _).mp reads
      cases same
      exact ⟨bags read, kept.2⟩
    · obtain ⟨resources, read, same⟩ := (Decoder.bind_eq_ok_iff _ _ _).mp reads
      cases same
      exact ⟨kept.1, bags read⟩
  have starts : shape.start.Writable := by
    constructor
    · intro bag impossible
      cases impossible
    · intro bag impossible
      cases impossible
  obtain ⟨draft, kept, finished⟩ := Decoder.Shape.exists_draft_of_decoder keeps starts decoded
  obtain ⟨name, _named, same⟩ := (Decoder.bind_eq_ok_iff _ _ _).mp finished
  cases same
  exact kept

end Part

/-! ### Crafts -/

namespace Building

theorem decoder_ofJson (building : Building) (level : Nat) :
    decoder level (.ofJson (.text building.tag)) = .ok building := by
  cases building <;> rfl

end Building

namespace PartMap

theorem decoder_ofJson (counts : PartMap) (level : Nat) :
    decoder level (.ofJson counts.toJson) = .ok counts :=
  Decoder.dictionary_ofJson fun count => Decoder.word_ofWord count

end PartMap

namespace Craft

structure Writable (craft : Craft) : Prop where
  finite : ∀ quantity ∈ craft.quantities, quantity.2.isFinite = true
  parts : ∀ part ∈ craft.parts, part.Writable

theorem validate_eq_ok_iff (craft : Craft) :
    craft.validate = .ok () ↔ ∀ quantity ∈ craft.quantities, quantity.2.isFinite = true := by
  unfold validate firstNotFinite?
  constructor
  · intro valid quantity member
    cases found : craft.quantities.find? fun quantity => !quantity.2.isFinite with
    | some quantity =>
        rw [found] at valid
        cases valid
    | none =>
        have finite := List.find?_eq_none.mp found quantity member
        rw [Bool.not_eq_true', Bool.not_eq_false] at finite
        exact finite
  · intro finite
    have none : craft.quantities.find? (fun quantity => !quantity.2.isFinite) = none := by
      apply List.find?_eq_none.mpr
      intro quantity member
      rw [finite quantity member]
      decide
    rw [none]
    rfl

theorem decoder_ofJson {craft : Craft} (writable : craft.Writable) (level : Nat) :
    decoder level (.ofJson craft.toJson) = .ok craft := by
  obtain ⟨building, size, parts, cost, mass, points, partMap⟩ := craft
  have finite := writable.finite
  simp only [quantities, List.mem_cons, List.not_mem_nil, or_false, forall_eq_or_imp,
    forall_eq] at finite
  obtain ⟨finiteCost, finiteMass, finitePoints, finiteX, finiteY, finiteZ⟩ := finite
  have extent : Decoder.triple Decoder.double (level + 1) (.ofJson (.array
      [.ofDouble size.x, .ofDouble size.y, .ofDouble size.z])) = .ok (size.x, size.y, size.z) :=
    Decoder.triple_ofJson (Decoder.double_ofDouble finiteX) (Decoder.double_ofDouble finiteY)
      (Decoder.double_ofDouble finiteZ)
  have listed : Decoder.list Part.decoder (level + 1) (.ofJson (.array (parts.map Part.toJson))) =
      .ok parts :=
    Decoder.list_ofJson fun part member => Part.decoder_ofJson (writable.parts part member) _
  refine (Decoder.bind_eq_ok_iff _ _ _).mpr
    ⟨{ building, size, parts, cost, mass, points, partMap }, ?_, rfl⟩
  refine (Decoder.Shape.foldlM_readMember_cons rfl rfl
    (Decoder.map_eq_ok (Building.decoder_ofJson building _))).trans ?_
  refine (Decoder.Shape.foldlM_readMember_cons rfl rfl (Decoder.map_eq_ok extent)).trans ?_
  refine (Decoder.Shape.foldlM_readMember_cons rfl rfl (Decoder.map_eq_ok listed)).trans ?_
  refine (Decoder.Shape.foldlM_readMember_cons rfl rfl
    (Decoder.map_eq_ok (Decoder.double_ofDouble finiteCost))).trans ?_
  refine (Decoder.Shape.foldlM_readMember_cons rfl rfl
    (Decoder.map_eq_ok (Decoder.double_ofDouble finiteMass))).trans ?_
  refine (Decoder.Shape.foldlM_readMember_cons rfl rfl
    (Decoder.map_eq_ok (Decoder.double_ofDouble finitePoints))).trans ?_
  refine (Decoder.Shape.foldlM_readMember_cons rfl rfl
    (Decoder.map_eq_ok (PartMap.decoder_ofJson partMap _))).trans ?_
  rfl

def Draft.PartsWritable (draft : Draft) : Prop :=
  ∀ part ∈ draft.parts.getD [], part.Writable

theorem parts_of_decoder {level : Nat} {document : Document} {craft : Craft}
    (decoded : decoder level document = .ok craft) : ∀ part ∈ craft.parts, part.Writable := by
  have keeps : ∀ field ∈ shape.fields, field.Keeps Draft.PartsWritable := by
    intro field member level document set draft reads kept
    simp only [shape, List.mem_cons, List.not_mem_nil, or_false] at member
    rcases member with rfl | rfl | rfl | rfl | rfl | rfl | rfl
    -- Only the third field sets the parts.
    case inr.inr.inl =>
      obtain ⟨parts, listed, same⟩ := (Decoder.bind_eq_ok_iff _ _ _).mp reads
      cases same
      exact Decoder.forall_of_list (fun _document _part => Part.writable_of_decoder) listed
    all_goals
      obtain ⟨value, _read, same⟩ := (Decoder.bind_eq_ok_iff _ _ _).mp reads
      cases same
      exact kept
  have starts : shape.start.PartsWritable := by
    intro part impossible
    cases impossible
  obtain ⟨draft, kept, finished⟩ := Decoder.Shape.exists_draft_of_decoder keeps starts decoded
  rw [((finish_eq_ok_iff draft craft).mp finished).1] at kept
  exact kept

end Craft
end Scrutineer
