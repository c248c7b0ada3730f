import Scrutineer.Proofs.Craft.PartMap
import Scrutineer.Proofs.Json.Decode

/-! How crafts come by their part maps. A craft counts its parts when its part map is
that of its parts. Giving a craft its parts makes it do so, and so does loading it
from a snapshot that brings no part map of its own, or an empty one. -/

namespace Scrutineer
namespace Craft

def CountsItsParts (craft : Craft) : Prop :=
  craft.partMap = .ofParts craft.parts

theorem countsItsParts_withParts (craft : Craft) (parts : List Part) :
    (craft.withParts parts).CountsItsParts :=
  rfl

theorem partMap_of_isEmpty {counts : PartMap} (empty : counts.isEmpty = true) :
    counts = .empty := by
  apply Dictionary.ext_find?
  intro key
  rw [Dictionary.find?, List.isEmpty_iff.mp empty]
  rfl

theorem completePartMap_of_isEmpty {craft : Craft} (empty : craft.partMap.isEmpty = true) :
    craft.completePartMap = craft.withParts craft.parts := by
  unfold completePartMap
  rw [empty, Bool.true_and]
  cases parts : craft.parts with
  | nil =>
      have same : craft.withParts [] = craft := by
        rw [withParts, ← parts, show PartMap.ofParts craft.parts = craft.partMap from by
          rw [parts, partMap_of_isEmpty empty]
          rfl]
      exact same.symm
  | cons part rest => rfl

theorem countsItsParts_completePartMap {craft : Craft} (empty : craft.partMap.isEmpty = true) :
    craft.completePartMap.CountsItsParts := by
  rw [completePartMap_of_isEmpty empty]
  exact countsItsParts_withParts craft craft.parts

/-! ### Loading -/

theorem load_eq_ok_iff (text : String) (craft : Craft) :
    load text = .ok craft ↔
      ∃ decoded, Decoder.ofText decoder text = .ok decoded ∧ decoded.completePartMap = craft ∧
        craft.validate = .ok () := by
  unfold load
  simp only [Decoder.bind_eq_ok_iff, Decoder.mapError_eq_ok_iff]
  constructor
  · intro given
    rcases given with ⟨decoded, decoding, _, valid, same⟩
    cases same
    exact ⟨decoded, decoding, rfl, valid⟩
  · intro given
    rcases given with ⟨decoded, decoding, same, valid⟩
    cases same
    exact ⟨decoded, decoding, (), valid, rfl⟩

theorem finish_eq_ok_iff (draft : Draft) (craft : Craft) :
    shape.finish draft = .ok craft ↔
      draft = { building := craft.building, size := craft.size, parts := craft.parts,
                cost := craft.cost, mass := craft.mass, points := craft.points,
                partMap := draft.partMap } ∧
        craft.partMap = draft.partMap.getD .empty := by
  obtain ⟨building?, size?, parts?, cost?, mass?, points?, partMap?⟩ := draft
  obtain ⟨building, size, parts, cost, mass, points, partMap⟩ := craft
  simp only [shape, Decoder.bind_eq_ok_iff, Decoder.needed_eq_ok_iff]
  constructor
  · intro finished
    rcases finished with ⟨_, rfl, _, rfl, _, rfl, _, rfl, _, rfl, _, rfl, same⟩
    cases same
    exact ⟨rfl, rfl⟩
  · intro complete
    obtain ⟨fields, same⟩ := complete
    cases fields
    cases same
    exact ⟨_, rfl, _, rfl, _, rfl, _, rfl, _, rfl, _, rfl, rfl⟩

/-- A snapshot brings a part map under the key of that name, or else as the
seventh item of an array. -/
def BringsPartMap : Document → Prop
  | .object members => ∃ member ∈ members, member.1 = some "part_map"
  | .array items => 6 < items.length
  | _ => False

def Draft.LacksMap (draft : Draft) : Prop :=
  draft.partMap = none

/-- All fields of a craft but the last one leave the part map as it is. -/
theorem keeps_lacksMap : ∀ field ∈ shape.fields.take 6, field.Keeps Draft.LacksMap := by
  intro field member level document set draft reads lacks
  simp only [shape, List.take, List.mem_cons, List.not_mem_nil, or_false] at member
  rcases member with rfl | rfl | rfl | rfl | rfl | rfl
  all_goals
    obtain ⟨value, _reads, same⟩ := (Decoder.bind_eq_ok_iff _ _ _).mp reads
    cases same
    exact lacks

private theorem mem_take_or_name_eq :
    ∀ field ∈ shape.fields, field ∈ shape.fields.take 6 ∨ field.name = "part_map" := by
  intro field member
  rw [← List.take_append_drop 6 shape.fields, List.mem_append] at member
  rcases member with early | last
  · exact .inl early
  · apply Or.inr
    rw [List.mem_singleton.mp last]

theorem mem_take_of_name_ne {member : Option String × Document} {field : Decoder.Field Draft}
    (absent : member.1 ≠ some "part_map") (known : field ∈ shape.fields)
    (named : member.1 = some field.name) : field ∈ shape.fields.take 6 := by
  rcases mem_take_or_name_eq field known with early | last
  · exact early
  · rw [last] at named
    exact absurd named absent

theorem partMap_of_decoder {level : Nat} {document : Document} {craft : Craft}
    (brings : ¬ BringsPartMap document) (decoded : decoder level document = .ok craft) :
    craft.partMap = .empty := by
  unfold decoder Decoder.Shape.decoder at decoded
  cases document with
  | object members =>
      -- Only the field of that name changes the part map, and no member has the name.
      obtain ⟨draft, reads, finished⟩ := (Decoder.bind_eq_ok_iff _ _ _).mp decoded
      have lacks : draft.LacksMap := by
        refine Decoder.Shape.keeps_foldlM_readMember ?_ reads rfl
        intro member within field known named
        have absent : member.1 ≠ some "part_map" := fun key => brings ⟨member, within, key⟩
        exact keeps_lacksMap field (mem_take_of_name_ne absent known named)
      rw [((finish_eq_ok_iff draft craft).mp finished).2, show draft.partMap = none from lacks]
      rfl
  | array items =>
      -- Six items do not reach the last field.
      obtain ⟨draft, reads, finished⟩ := (Decoder.bind_eq_ok_iff _ _ _).mp decoded
      have lacks : draft.LacksMap := by
        refine Decoder.Shape.keeps_readItems ?_ reads rfl
        intro field early
        have few : items.length ≤ 6 := Nat.le_of_not_lt brings
        exact keeps_lacksMap field ((List.take_subset_take_left shape.fields few) early)
      rw [((finish_eq_ok_iff draft craft).mp finished).2, show draft.partMap = none from lacks]
      rfl
  | _ => cases decoded

/-- The ways in which a craft comes by the part map of its parts: the parts were
put in, or a snapshot without a part map was loaded. -/
inductive HasDerivedMap : Craft → Prop where
  | given (craft : Craft) (parts : List Part) : HasDerivedMap (craft.withParts parts)
  | loaded {text : String} {document : Document} {craft : Craft}
      (read : Document.ofText? text = some document) (brings : ¬ BringsPartMap document)
      (loaded : load text = .ok craft) : HasDerivedMap craft

theorem hasDerivedMap_iff_countsItsParts (craft : Craft) :
    craft.HasDerivedMap ↔ craft.CountsItsParts := by
  constructor
  · intro derived
    cases derived with
    | given craft parts => exact countsItsParts_withParts craft parts
    | loaded read brings loaded =>
        obtain ⟨decoded, decoding, complete, _valid⟩ := (load_eq_ok_iff _ craft).mp loaded
        obtain ⟨document, readAgain, decoding⟩ :=
          (Decoder.ofText_eq_ok_iff decoder _ decoded).mp decoding
        rw [read] at readAgain
        cases readAgain
        rw [← complete]
        apply countsItsParts_completePartMap
        rw [partMap_of_decoder brings decoding]
        rfl
  · intro counts
    -- Such a craft is the one that is given the parts it has.
    have same : craft.withParts craft.parts = craft := by
      rw [withParts, ← counts]
    rw [← same]
    exact .given craft craft.parts

end Craft
end Scrutineer
