import Scrutineer.Proofs.Json.Decode
import Scrutineer.Proofs.Json.Document

/-! Numbers, lists and dictionaries read back when what they hold does. The entries of
a dictionary are written in increasing order, so putting them in one after the other
builds the same dictionary. -/

namespace Scrutineer

namespace Entries

variable {Value : Type}

theorem insert_of_greater {key : String} {value : Value} {entries : List (String × Value)}
    (greater : ∀ entry ∈ entries, entry.1 < key) :
    insert key value entries = entries ++ [(key, value)] := by
  induction entries with
  | nil => rfl
  | cons head rest ih =>
      obtain ⟨other, held⟩ := head
      have less : other < key := greater (other, held) List.mem_cons_self
      have notLess : ¬key < other := fun more => String.lt_irrefl key (String.lt_trans more less)
      have different : ¬key = other := fun same => String.lt_irrefl other (same ▸ less)
      have others := ih fun entry member => greater entry (List.mem_cons_of_mem _ member)
      rw [insert, if_neg notLess, if_neg different, others, List.cons_append]

theorem mem_insert {key : String} {value : Value} {entries : List (String × Value)}
    {entry : String × Value} (member : entry ∈ insert key value entries) :
    entry = (key, value) ∨ entry ∈ entries := by
  induction entries with
  | nil => exact .inl (List.mem_singleton.mp member)
  | cons head rest ih =>
      obtain ⟨other, held⟩ := head
      rw [insert] at member
      split at member
      · exact List.mem_cons.mp member
      · split at member
        · rcases List.mem_cons.mp member with new | old
          · exact .inl new
          · exact .inr (List.mem_cons_of_mem _ old)
        · rcases List.mem_cons.mp member with first | later
          · exact .inr (List.mem_cons.mpr (.inl first))
          · rcases ih later with new | old
            · exact .inl new
            · exact .inr (List.mem_cons_of_mem _ old)

/-- Increasing entries that are put in one after the other come out as they are. -/
theorem foldl_insert {front back : List (String × Value)} (increasing : Increasing (front ++ back)) :
    back.foldl (fun sofar entry => insert entry.1 entry.2 sofar) front = front ++ back := by
  induction back generalizing front with
  | nil => exact (List.append_nil front).symm
  | cons entry rest ih =>
      have across := (List.pairwise_append.mp increasing).2.2
      have greater : ∀ earlier ∈ front, earlier.1 < entry.1 :=
        fun earlier member => across earlier member entry List.mem_cons_self
      rw [List.append_cons] at increasing
      rw [List.foldl_cons, insert_of_greater greater, ih increasing, ← List.append_cons]

end Entries

namespace Dictionary

variable {Value : Type}

theorem ofList_entries (dictionary : Dictionary Value) :
    ofList dictionary.entries = dictionary := by
  have listed : (ofList dictionary.entries).entries = dictionary.entries := by
    have whole : dictionary.entries.foldl
        (fun sofar entry => Entries.insert entry.1 entry.2 sofar) [] = dictionary.entries :=
      Entries.foldl_insert dictionary.increasing
    exact (List.foldl_hom Dictionary.entries fun _sofar _entry => rfl).symm.trans whole
  apply ext_find?
  intro key
  rw [find?, listed]
  rfl

end Dictionary

namespace Decoder

variable {Value State Item : Type} {level : Nat}

theorem foldlM_eq_ok {step : State → Item → Except DecodeError State}
    {update : State → Item → State} {items : List Item}
    (each : ∀ item ∈ items, ∀ state, step state item = .ok (update state item)) (start : State) :
    items.foldlM step start = .ok (items.foldl update start) := by
  induction items generalizing start with
  | nil => rfl
  | cons item rest ih =>
      rw [List.foldlM_cons, each item List.mem_cons_self, List.foldl_cons]
      exact ih (fun other member => each other (List.mem_cons_of_mem item member)) _

theorem list_ofJson {decoder : Decoder Value} {write : Value → Json} {values : List Value}
    (each : ∀ value ∈ values, decoder (level + 1) (.ofJson (write value)) = .ok value) :
    list decoder level (.ofJson (.array (values.map write))) = .ok values := by
  have items : (values.map fun value => Document.ofJson (write value)).mapM (decoder (level + 1)) =
      .ok values := by
    induction values with
    | nil => rfl
    | cons value rest ih =>
        have others := ih fun other member => each other (List.mem_cons_of_mem value member)
        rw [List.map_cons, List.mapM_cons, each value List.mem_cons_self, others]
        rfl
  rw [Document.ofJson, Document.ofItems_eq_map, List.map_map]
  exact items

theorem triple_ofJson {decoder : Decoder Value} {first second third : Json} {x y z : Value}
    (readsX : decoder (level + 1) (.ofJson first) = .ok x)
    (readsY : decoder (level + 1) (.ofJson second) = .ok y)
    (readsZ : decoder (level + 1) (.ofJson third) = .ok z) :
    triple decoder level (.ofJson (.array [first, second, third])) = .ok (x, y, z) :=
  (bind_eq_ok_iff _ _ _).mpr ⟨x, readsX, (bind_eq_ok_iff _ _ _).mpr ⟨y, readsY,
    (bind_eq_ok_iff _ _ _).mpr ⟨z, readsZ, rfl⟩⟩⟩

theorem foldlM_insert_entries {known : Dictionary Value} (read : Value → Except DecodeError Value)
    (each : ∀ entry ∈ known.entries, read entry.2 = .ok entry.2) :
    known.entries.foldlM (fun (sofar : Dictionary Value) entry => do
      let value ← read entry.2
      return sofar.insert entry.1 value) .empty = .ok known := by
  have folded : known.entries.foldlM (fun (sofar : Dictionary Value) entry => do
      let value ← read entry.2
      return sofar.insert entry.1 value) .empty = .ok (Dictionary.ofList known.entries) := by
    apply foldlM_eq_ok
    intro entry member sofar
    rw [each entry member]
    rfl
  rw [Dictionary.ofList_entries] at folded
  exact folded

theorem dictionary_ofJson {decoder : Decoder Value} {write : Value → Json}
    {known : Dictionary Value}
    (each : ∀ value, decoder (level + 1) (.ofJson (write value)) = .ok value) :
    dictionary decoder level
      (.ofJson (.object (known.entries.map fun entry => (entry.1, write entry.2)))) =
        .ok known := by
  rw [Document.ofJson, Document.ofMembers_eq_map, List.map_map]
  unfold dictionary
  dsimp only
  rw [List.foldlM_map]
  exact foldlM_insert_entries (fun value => decoder (level + 1) (.ofJson (write value)))
    fun entry _member => each entry.2

theorem double_ofDouble {value : Double} (finite : value.isFinite = true) :
    double level (.ofJson (.ofDouble value)) = .ok value := by
  rw [Json.ofDouble_of_finite finite]
  rfl

theorem word_ofWord (count : UInt32) :
    word level (.ofJson (.number (.ofWord count))) = .ok count := by
  have inRange : (0 : Int) ≤ count.toNat ∧ (count.toNat : Int) < UInt32.size :=
    ⟨Int.natCast_nonneg _, Int.ofNat_lt.mpr count.toNat_lt_size⟩
  unfold Document.ofJson Number.ofWord word
  dsimp only
  rw [if_pos inRange, Int.toNat_natCast, UInt32.ofNat_toNat]

end Decoder
end Scrutineer
