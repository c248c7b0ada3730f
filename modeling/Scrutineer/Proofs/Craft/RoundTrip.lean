import Scrutineer.Proofs.Craft.Snapshot

/-! A loaded craft can be written without loss and keeps its part map, so its snapshot
loads to the same craft. Whether a snapshot leaves the part map out, gives an empty
one or gives the one of its parts makes no difference. -/

namespace Scrutineer
namespace Craft

theorem parts_completePartMap (craft : Craft) : craft.completePartMap.parts = craft.parts := by
  unfold completePartMap
  split
  · rfl
  · rfl

theorem CountsItsParts.completePartMap_eq {craft : Craft} (counts : craft.CountsItsParts) :
    craft.completePartMap = craft := by
  unfold completePartMap
  split
  · rw [withParts, ← counts]
  · rfl

theorem completePartMap_completePartMap (craft : Craft) :
    craft.completePartMap.completePartMap = craft.completePartMap := by
  cases empty : craft.partMap.isEmpty with
  | true => exact (countsItsParts_completePartMap empty).completePartMap_eq
  | false =>
      have kept : craft.completePartMap = craft := by
        unfold completePartMap
        rw [empty]
        rfl
      rw [kept, kept]

/-! ### Loading what was written -/

theorem writable_of_load {text : String} {craft : Craft} (loaded : load text = .ok craft) :
    craft.Writable := by
  obtain ⟨decoded, decoding, complete, valid⟩ := (load_eq_ok_iff text craft).mp loaded
  obtain ⟨document, _read, decoding⟩ := (Decoder.ofText_eq_ok_iff decoder text decoded).mp decoding
  refine ⟨(validate_eq_ok_iff craft).mp valid, ?_⟩
  rw [← complete, parts_completePartMap]
  exact parts_of_decoder decoding

theorem load_compact {craft : Craft} (writable : craft.Writable)
    (complete : craft.completePartMap = craft) : load craft.toJson.compact = .ok craft := by
  have decoding : Decoder.ofText decoder craft.toJson.compact = .ok craft :=
    (Decoder.ofText_eq_ok_iff decoder _ craft).mpr
      ⟨_, Document.ofText?_compact craft.toJson, decoder_ofJson writable 0⟩
  exact (load_eq_ok_iff _ craft).mpr
    ⟨craft, decoding, complete, (validate_eq_ok_iff craft).mpr writable.finite⟩

theorem load_toJson {text : String} {craft : Craft} (loaded : load text = .ok craft) :
    load craft.toJson.compact = .ok craft := by
  obtain ⟨decoded, _decoding, complete, _valid⟩ := (load_eq_ok_iff text craft).mp loaded
  apply load_compact (writable_of_load loaded)
  rw [← complete, completePartMap_completePartMap]

/-! ### Snapshots with and without a part map -/

/-- The first snapshot brings no part map, and the second is the same with one
put in: at any place under its key, or as the seventh item of an array. -/
inductive AddsPartMap (payload : Document) : Document → Document → Prop where
  | member (before after : List (Option String × Document))
      (absent : ∀ member ∈ before ++ after, member.1 ≠ some "part_map") :
      AddsPartMap payload (.object (before ++ after))
        (.object (before ++ (some "part_map", payload) :: after))
  | item (items : List Document) (six : items.length = 6) :
      AddsPartMap payload (.array items) (.array (items ++ [payload]))

theorem AddsPartMap.not_brings {payload plain mapped : Document}
    (adds : AddsPartMap payload plain mapped) : ¬ BringsPartMap plain := by
  cases adds with
  | member before after absent =>
      intro brings
      obtain ⟨member, within, named⟩ := brings
      exact absent member within named
  | item items six =>
      intro brings
      have many : 6 < items.length := brings
      omega

def Draft.withPartMap (counts : PartMap) (draft : Draft) : Draft :=
  { draft with partMap := some counts }

theorem finish_withPartMap (counts : PartMap) (draft : Draft) :
    shape.finish (draft.withPartMap counts) =
      (shape.finish draft).map fun craft => craft.withPartMap counts := by
  obtain ⟨_ | _, _ | _, _ | _, _ | _, _ | _, _ | _, _⟩ := draft <;> rfl

/-- All fields but the last one may be read before or after the part map. -/
theorem ignores_withPartMap (counts : PartMap) :
    ∀ field ∈ shape.fields.take 6, field.Ignores (Draft.withPartMap counts) := by
  intro field member
  simp only [shape, List.take, List.mem_cons, List.not_mem_nil, or_false] at member
  rcases member with rfl | rfl | rfl | rfl | rfl | rfl
  all_goals
    refine ⟨fun _draft => rfl, fun level document set draft reads => ?_⟩
    obtain ⟨value, _read, same⟩ := (Decoder.bind_eq_ok_iff _ _ _).mp reads
    cases same
    rfl

theorem finish_map (counts : PartMap) (read : Except DecodeError Draft) :
    (read.map (Draft.withPartMap counts) >>= shape.finish) =
      (read >>= shape.finish).map fun craft => craft.withPartMap counts := by
  cases read with
  | error fault => rfl
  | ok draft => exact finish_withPartMap counts draft

theorem decoder_of_addsPartMap {payload plain mapped : Document} {counts : PartMap} {level : Nat}
    (adds : AddsPartMap payload plain mapped)
    (reads : PartMap.decoder (level + 1) payload = .ok counts) :
    decoder level mapped = (decoder level plain).map fun craft => craft.withPartMap counts := by
  unfold decoder Decoder.Shape.decoder
  cases adds with
  | member before after absent =>
      -- No field in front of the part map sets it, and none behind it looks at it.
      have unset (draft : Draft) (read : before.foldlM (shape.readMember (level + 1)) shape.start =
          .ok draft) : draft.partMap.isSome = false := by
        have lacks : draft.LacksMap := by
          refine Decoder.Shape.keeps_foldlM_readMember ?_ read rfl
          intro member within field known named
          have other := absent member (List.mem_append_left after within)
          exact keeps_lacksMap field (mem_take_of_name_ne other known named)
        rw [show draft.partMap = none from lacks]
        rfl
      have ignores : ∀ member ∈ after, ∀ field ∈ shape.fields, member.1 = some field.name →
          field.Ignores (Draft.withPartMap counts) := by
        intro member within field known named
        have other := absent member (List.mem_append_right before within)
        exact ignores_withPartMap counts field (mem_take_of_name_ne other known named)
      have put : (before ++ (some "part_map", payload) :: after).foldlM
          (shape.readMember (level + 1)) shape.start =
            ((before ++ after).foldlM (shape.readMember (level + 1)) shape.start).map
              (Draft.withPartMap counts) :=
        Decoder.Shape.foldlM_readMember_insert rfl unset (Decoder.map_eq_ok reads) ignores
      dsimp only
      rw [put, finish_map]
  | item items six =>
      have put : shape.readItems (level + 1) 0 shape.start shape.fields (items ++ [payload]) =
          (shape.readItems (level + 1) 0 shape.start shape.fields items).map
            (Draft.withPartMap counts) := by
        have front : items.length = (shape.fields.take 6).length := six
        exact Decoder.Shape.readItems_insert rfl front (Decoder.map_eq_ok reads) 0 shape.start
      dsimp only
      rw [put, finish_map]

theorem completePartMap_withPartMap {craft : Craft} {counts : PartMap}
    (bare : craft.partMap = .empty) (given : counts = .empty ∨ counts = .ofParts craft.parts) :
    (craft.withPartMap counts).completePartMap = craft.completePartMap := by
  rcases given with empty | derived
  · have same : craft.withPartMap counts = craft := by
      rw [withPartMap, empty, ← bare]
    rw [same]
  · have counted : (craft.withPartMap counts).CountsItsParts := derived
    have isEmpty : craft.partMap.isEmpty = true := by
      rw [bare]
      rfl
    rw [counted.completePartMap_eq, completePartMap_of_isEmpty isEmpty, derived]
    rfl

theorem load_of_document {text : String} {document : Document}
    (read : Document.ofText? text = some document) (craft : Craft) :
    load text = .ok craft ↔
      ∃ decoded, decoder 0 document = .ok decoded ∧ decoded.completePartMap = craft ∧
        craft.validate = .ok () := by
  rw [load_eq_ok_iff]
  constructor
  · intro given
    rcases given with ⟨decoded, decoding, complete, valid⟩
    obtain ⟨again, readAgain, decoding⟩ := (Decoder.ofText_eq_ok_iff decoder text decoded).mp decoding
    rw [read] at readAgain
    cases readAgain
    exact ⟨decoded, decoding, complete, valid⟩
  · intro given
    rcases given with ⟨decoded, decoding, complete, valid⟩
    exact ⟨decoded, (Decoder.ofText_eq_ok_iff decoder text decoded).mpr ⟨document, read, decoding⟩,
      complete, valid⟩

theorem load_iff_of_addsPartMap {plain mapped : String} {payload without given : Document}
    {craft : Craft} (readPlain : Document.ofText? plain = some without)
    (readMapped : Document.ofText? mapped = some given)
    (adds : AddsPartMap payload without given)
    (known : payload = .object [] ∨ PartMap.decoder 1 payload = .ok (.ofParts craft.parts)) :
    load plain = .ok craft ↔ load mapped = .ok craft := by
  have reads : ∃ counts, PartMap.decoder 1 payload = .ok counts ∧
      (counts = .empty ∨ counts = .ofParts craft.parts) := by
    rcases known with empty | derived
    · rw [empty]
      exact ⟨.empty, rfl, .inl rfl⟩
    · exact ⟨_, derived, .inr rfl⟩
  obtain ⟨counts, reads, alike⟩ := reads
  have decoding : decoder 0 given =
      (decoder 0 without).map fun decoded => decoded.withPartMap counts :=
    decoder_of_addsPartMap adds reads
  have same {decoded : Craft} (found : decoder 0 without = .ok decoded)
      (parts : decoded.parts = craft.parts) :
      (decoded.withPartMap counts).completePartMap = decoded.completePartMap :=
    completePartMap_withPartMap (partMap_of_decoder adds.not_brings found) (parts ▸ alike)
  rw [load_of_document readPlain, load_of_document readMapped, decoding]
  constructor
  · intro loaded
    rcases loaded with ⟨decoded, found, complete, valid⟩
    have parts : decoded.parts = craft.parts := by
      rw [← complete, parts_completePartMap]
    refine ⟨decoded.withPartMap counts, ?_, ?_, valid⟩
    · rw [found]
      rfl
    · rw [same found parts, complete]
  · intro loaded
    rcases loaded with ⟨changed, found, complete, valid⟩
    cases decoded : decoder 0 without with
    | error fault =>
        rw [decoded] at found
        cases found
    | ok plainly =>
        rw [decoded] at found
        cases found
        have parts : plainly.parts = craft.parts := by
          rw [← complete, parts_completePartMap]
          rfl
        refine ⟨plainly, rfl, ?_, valid⟩
        rw [← same decoded parts, complete]

/-- A loaded craft is loaded again from what is written for it, none of its bags
has a property under the key of the name, and a snapshot without a part map loads
to the same craft with an empty part map put in, or with the one of its parts. -/
theorem load_survives_writing :
    (∀ (text : String) (craft : Craft), load text = .ok craft →
      load craft.toJson.compact = .ok craft ∧
        ∀ part ∈ craft.parts, ∀ bag ∈ part.modules ++ part.resources,
          bag.properties.find? "name" = none) ∧
      ∀ (plain mapped : String) (payload without given : Document) (craft : Craft),
        Document.ofText? plain = some without → Document.ofText? mapped = some given →
        AddsPartMap payload without given →
        (payload = .object [] ∨ PartMap.decoder 1 payload = .ok (.ofParts craft.parts)) →
        (load plain = .ok craft ↔ load mapped = .ok craft) := by
  constructor
  · intro text craft loaded
    refine ⟨load_toJson loaded, fun part within bag held => ?_⟩
    have writable := (writable_of_load loaded).parts part within
    rcases List.mem_append.mp held with module_ | resource
    · exact (writable.1 bag module_).find?_name
    · exact (writable.2 bag resource).find?_name
  · intro plain mapped payload without given craft readPlain readMapped adds known
    exact load_iff_of_addsPartMap readPlain readMapped adds known

def engineSnapshot (partMap : List Json) : Json :=
  .array ([.text "VAB", .array (List.replicate 3 (.ofDouble .one)),
    .array [.array [.text "engine_1", .array [.object [("name", .text "gimbal"),
      ("range", .number (.ofWord 5))]]]], .ofDouble .one, .ofDouble .one, .ofDouble .one] ++
        partMap)

/-- The craft with one engine is loaded, written and loaded again, and an empty
part map makes no difference. -/
theorem load_survives_writing_of_engine :
    ∃ craft, load (engineSnapshot []).compact = .ok craft ∧
      load craft.toJson.compact = .ok craft ∧
      load (engineSnapshot [.object []]).compact = .ok craft := by
  have readable : (load (engineSnapshot []).compact).toOption.isSome = true := by decide +kernel
  cases loaded : load (engineSnapshot []).compact with
  | error fault =>
      rw [loaded] at readable
      cases readable
  | ok craft =>
      have plain := Document.ofText?_compact (engineSnapshot [])
      have mapped := Document.ofText?_compact (engineSnapshot [.object []])
      have same := load_survives_writing.2 _ _ (.object []) _ _ craft plain mapped
        (.item _ rfl) (.inl rfl)
      exact ⟨craft, rfl, (load_survives_writing.1 _ craft loaded).1, same.mp loaded⟩

end Craft
end Scrutineer
