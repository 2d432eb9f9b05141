import GuardedQuery.Proofs.Decode.Record

/-!
# Which values are records

An object gives the fields of a record by name and an array gives them by position (`Json.fields?`).
Main statement: where every field has one spelling, a record is decoded from exactly the values that
give its fields and no others, and each field is then what its decoder makes of its value, or its
default where it is not given (`ofJson_record_eq_ok`). `take_eq_ok` says it of arrays. For objects one
half is `ofJson_record_object`; the other goes through the slots of a record that is being read
(`Shape.Holds`), which `put` fills one by one.
-/

namespace GuardedQuery

/-- The values that are given for the fields of a record, in an object by name and in an array by
position. `none` if something else is given as well, or a field twice. -/
def Json.fields? (names : List String) : Json → Option (List (String × Json))
  | .object members =>
    if (members.map Prod.fst).Nodup ∧ ∀ p ∈ members, p.1 ∈ names then some members else none
  | .array items => if items.length ≤ names.length then some (names.zip items) else none
  | _ => none

namespace Decode

variable {α β σ : Type} {get get' : String → Option Json}

namespace Field

variable {name : String} {decoder : Decoder α} {member : Option Json}

theorem reads_required_iff {a : α} : (required name decoder).Reads member a ↔
    ∃ j, member = some j ∧ ofJson decoder j = .ok a := by
  cases member <;> simp [Reads, required]

theorem reads_list_iff {as : List α} : (defaulted name (list decoder) []).Reads member as ↔
    member = none ∧ as = [] ∨
      ∃ items, member = some (.array items) ∧
        List.Forall₂ (fun i a => ofJson decoder i = .ok a) items as := by
  cases member with
  | none => simp [Reads, defaulted, eq_comm]
  | some j => simp [Reads, defaulted, ofJson_list_eq_ok]

end Field

namespace Shape

/-- Every field has its name for its only spelling, and no name belongs to two fields. -/
def isPlain {α σ : Type} : Shape α σ → Bool
  | .done => true
  | .field f rest => f.spellings == [f.name] && !rest.fieldNames.contains f.name && rest.isPlain

theorem isPlain_field {f : Field α} {rest : Shape β σ} :
    (Shape.field f rest).isPlain = true ↔
      f.spellings = [f.name] ∧ f.name ∉ rest.fieldNames ∧ rest.isPlain = true := by
  simp [isPlain, and_assoc]

theorem names_of_isPlain : ∀ {α σ : Type} (s : Shape α σ), s.isPlain = true → s.names = s.fieldNames
  | _, _, .done, _ => rfl
  | _, _, .field f rest, h => by
    obtain ⟨hspellings, -, hrest⟩ := isPlain_field.1 h
    rw [names, fieldNames, hspellings, names_of_isPlain rest hrest, List.singleton_append]

theorem isDistinct_of_isPlain : ∀ {α σ : Type} (s : Shape α σ), s.isPlain = true → s.isDistinct = true
  | _, _, .done, _ => rfl
  | _, _, .field f rest, h => by
    obtain ⟨hspellings, hfresh, hrest⟩ := isPlain_field.1 h
    simp [isDistinct, hspellings, names_of_isPlain rest hrest, hfresh, isDistinct_of_isPlain rest hrest]

theorem reads_congr : ∀ {α σ : Type} (s : Shape α σ) (a : α), (∀ n ∈ s.fieldNames, get n = get' n) →
    (s.Reads get a ↔ s.Reads get' a)
  | _, _, .done, _, _ => Iff.rfl
  | _, _, .field f rest, (a, r), h => by
    obtain ⟨hf, hrest⟩ := List.forall_mem_cons.1 h
    rw [Reads, Reads, hf, reads_congr rest r hrest]

/-! ## Arrays -/

/-- **An array is a record** if it is no longer than the record has fields and gives each at its
place. The induction is on the fields; the name of the first one is not among the others. -/
theorem take_eq_ok (expected : String) : ∀ {α σ : Type} (s : Shape α σ), s.isPlain = true →
    ∀ (index : Nat) (items : List Json) (a : α),
      s.take .value expected index (Document.ofItems items) = .ok (a, []) ↔
        items.length ≤ s.fieldNames.length ∧ s.Reads (fun n => (s.fieldNames.zip items).lookup n) a
  | _, _, .done, _, _, items, () => by
    cases items <;> simp [take, Document.ofItems, fieldNames, Reads]
  | _, _, .field f rest, h, index, [], (a, r) => by
    obtain ⟨-, -, hrest⟩ := isPlain_field.1 h
    have ih := take_eq_ok expected rest hrest index [] r
    rw [Document.ofItems, List.zip_nil_right] at ih
    rw [Document.ofItems, take.eq_def]
    dsimp only
    cases habsent : f.absent with
    | none => simp [fail, Reads, Field.Reads, habsent]
    | some b =>
      dsimp only
      rw [map_eq_ok]
      constructor
      · rintro ⟨⟨r', ds⟩, htake, heq⟩
        cases heq
        exact ⟨Nat.zero_le _, habsent, (ih.1 htake).2⟩
      · rintro ⟨-, hfield, hothers⟩
        have hb : b = a := Option.some.inj (habsent.symm.trans hfield)
        exact ⟨(r, []), ih.2 ⟨Nat.zero_le _, hothers⟩, by rw [hb]⟩
  | _, _, .field f rest, h, index, i :: items, (a, r) => by
    obtain ⟨-, hfresh, hrest⟩ := isPlain_field.1 h
    have ih := take_eq_ok expected rest hrest (index + 1) items r
    have hothers : rest.Reads (fun n => ((f.name :: rest.fieldNames).zip (i :: items)).lookup n) r ↔
        rest.Reads (fun n => (rest.fieldNames.zip items).lookup n) r := by
      refine reads_congr rest r fun n hn => ?_
      have hne : n ≠ f.name := fun heq => hfresh (heq ▸ hn)
      rw [List.zip_cons_cons, Keyed.lookup_cons, if_neg hne]
    have hfirst : ((f.name :: rest.fieldNames).zip (i :: items)).lookup f.name = some i := by
      rw [List.zip_cons_cons, Keyed.lookup_cons, if_pos rfl]
    rw [Document.ofItems, take.eq_def]
    dsimp only
    rw [Reads, fieldNames, hothers, hfirst, List.length_cons, List.length_cons,
      Nat.add_le_add_iff_right, and_left_comm, ← ih]
    show _ ↔ f.decoder .value (Document.ofJson i) = .ok a ∧ _
    cases hread : f.decoder .value (Document.ofJson i) with
    | error e => simp [under]
    | ok b =>
      dsimp only [under]
      rw [map_eq_ok]
      constructor
      · rintro ⟨⟨r', ds⟩, htake, heq⟩
        cases heq
        exact ⟨rfl, htake⟩
      · rintro ⟨hb, htake⟩
        cases hb
        exact ⟨(r, []), htake, rfl⟩

/-! ## Objects -/

/-- What has been read is what the decoders make of the members seen, and the rest is open. -/
def Holds {α σ : Type} (get : String → Option Json) : Shape α σ → σ → Prop
  | .done, _ => True
  | .field f rest, (slot, slots) =>
    (get f.name).map (ofJson f.decoder) = slot.map .ok ∧ rest.Holds get slots

theorem holds_empty : ∀ {α σ : Type} (s : Shape α σ), s.Holds (fun _ => none) s.empty
  | _, _, .done => trivial
  | _, _, .field _ rest => ⟨rfl, holds_empty rest⟩

theorem Holds.congr : ∀ {α σ : Type} {s : Shape α σ} {slots : σ},
    s.Holds get slots → (∀ n ∈ s.fieldNames, get n = get' n) → s.Holds get' slots
  | _, _, .done, _, _, _ => trivial
  | _, _, .field f rest, (slot, slots), hholds, h => by
    obtain ⟨hslot, hslots⟩ := hholds
    obtain ⟨hf, hrest⟩ := List.forall_mem_cons.1 h
    exact ⟨hf ▸ hslot, hslots.congr hrest⟩

/-- A member is put where nothing has been read. -/
theorem Holds.put {key : String} {j : Json} : ∀ {α σ : Type} {s : Shape α σ} {slots changed : σ},
    s.isPlain = true → s.Holds get slots →
      s.put .value key (Document.ofJson j) slots = some (.ok changed) →
        key ∈ s.fieldNames ∧ get key = none ∧
          s.Holds (fun n => if n = key then some j else get n) changed
  | _, _, .done, _, _, _, _, h => by simp [Shape.put] at h
  | _, _, .field f rest, (slot, slots), changed, hs, hholds, h => by
    obtain ⟨hslot, hslots⟩ := hholds
    obtain ⟨hspellings, hfresh, hrest⟩ := isPlain_field.1 hs
    rw [Shape.put.eq_def] at h
    dsimp only at h
    rw [hspellings] at h
    split at h
    case isTrue hkey =>
      obtain rfl : key = f.name := by simpa using hkey
      cases slot with
      | some _ => simp [fail] at h
      | none =>
        obtain ⟨a, ha, rfl⟩ := map_eq_ok.1 (Option.some.inj h)
        have hread : ofJson f.decoder j = .ok a := under_eq_ok.1 ha
        refine ⟨List.mem_cons_self, by simpa using hslot, ?_, hslots.congr fun n hn => ?_⟩
        · simp [hread]
        · have hne : n ≠ f.name := fun heq => hfresh (heq ▸ hn)
          exact (if_neg hne).symm
    case isFalse hkey =>
      have hne : f.name ≠ key := by simpa [eq_comm] using hkey
      obtain ⟨r, hr, h⟩ := Option.map_eq_some_iff.1 h
      obtain ⟨others, rfl, rfl⟩ := map_eq_ok.1 h
      obtain ⟨hmem, hnone, hothers⟩ := hslots.put hrest hr
      refine ⟨List.mem_cons_of_mem _ hmem, hnone, ?_, hothers⟩
      dsimp only
      rw [if_neg hne]
      exact hslot

/-- What one member does, repeated: no key comes twice, and each is that of a field. -/
theorem Holds.putAll {s : Shape α σ} (hs : s.isPlain = true) {members : List (String × Json)}
    {slots changed : σ} (hslots : s.Holds get slots)
    (h : s.putAll .value (Document.ofMembers members) slots = .ok changed) :
    (members.map Prod.fst).Nodup ∧ (∀ p ∈ members, p.1 ∈ s.fieldNames ∧ get p.1 = none) ∧
      s.Holds (fun n => (members.lookup n).or (get n)) changed := by
  induction members generalizing get slots with
  | nil =>
    cases h
    exact ⟨.nil, by simp, hslots⟩
  | cons p rest ih =>
    obtain ⟨key, j⟩ := p
    rw [Document.ofMembers, Shape.putAll] at h
    split at h
    case h_1 => simp [fail, under] at h
    case h_2 => cases h
    case h_3 read hput =>
      obtain ⟨hkey, hnone, hread⟩ := hslots.put hs hput
      obtain ⟨hdistinct, hrest, hholds⟩ := ih hread h
      have hfresh : ∀ q ∈ rest, q.1 ≠ key ∧ get q.1 = none := fun q hq => by
        have hq := (hrest q hq).2
        split at hq
        · cases hq
        · exact ⟨‹_›, hq⟩
      have hnew : key ∉ rest.map Prod.fst := by
        rintro hmem
        obtain ⟨q, hq, heq⟩ := List.mem_map.1 hmem
        exact (hfresh q hq).1 heq
      refine ⟨List.nodup_cons.2 ⟨hnew, hdistinct⟩,
        List.forall_mem_cons.2 ⟨⟨hkey, hnone⟩, fun q hq => ⟨(hrest q hq).1, (hfresh q hq).2⟩⟩,
        hholds.congr fun n _ => ?_⟩
      rw [Keyed.lookup_cons]
      split
      case isTrue heq =>
        subst heq
        have hlookup : rest.lookup n = none := by
          cases hfind : rest.lookup n with
          | none => rfl
          | some i =>
            have hmem := (Keyed.lookup_eq_some_iff hdistinct).1 hfind
            exact absurd (List.mem_map_of_mem (f := Prod.fst) hmem) hnew
        rw [hlookup]
        rfl
      case isFalse => rfl

/-- A field that is still open at the end has its default. -/
theorem Holds.close : ∀ {α σ : Type} {s : Shape α σ} {slots : σ} {a : α},
    s.Holds get slots → s.close slots = .ok a → s.Reads get a
  | _, _, .done, _, _, _, _ => trivial
  | _, _, .field f rest, (slot, slots), a, hholds, h => by
    obtain ⟨hslot, hslots⟩ := hholds
    rw [Shape.close.eq_def] at h
    dsimp only at h
    split at h
    case h_1 _ b =>
      obtain ⟨r, hclose, rfl⟩ := map_eq_ok.1 h
      obtain ⟨j, hj, hread⟩ := Option.map_eq_some_iff.1 hslot
      refine ⟨?_, hslots.close hclose⟩
      rw [hj]
      exact hread
    case h_2 b habsent =>
      obtain ⟨r, hclose, rfl⟩ := map_eq_ok.1 h
      refine ⟨?_, hslots.close hclose⟩
      rw [Option.map_eq_none_iff.1 hslot]
      exact habsent
    case h_3 => simp [fail] at h

end Shape

/-- **A record is decoded from exactly the values that give its fields**, and each field is what its
decoder makes of its value, or its default where none is given. -/
theorem ofJson_record_eq_ok {s : Shape α σ} (name : String) (hs : s.isPlain = true) {j : Json}
    {a : α} : ofJson (record name s) j = .ok a ↔
      ∃ fields, j.fields? s.fieldNames = some fields ∧ s.Reads (fun n => fields.lookup n) a := by
  cases j with
  | object members =>
    rw [Json.fields?]
    constructor
    · intro h
      rw [ofJson, Document.ofJson, record] at h
      split at h
      case h_1 => cases h
      case h_2 slots hputAll =>
        obtain ⟨hdistinct, hmembers, hholds⟩ := s.holds_empty.putAll hs hputAll
        simp only [Option.or_none] at hholds
        exact ⟨members, if_pos ⟨hdistinct, fun p hp => (hmembers p hp).1⟩, hholds.close h⟩
    · rintro ⟨fields, hfields, hreads⟩
      split at hfields
      case isTrue hshape =>
        cases hfields
        exact ofJson_record_object name (s.isDistinct_of_isPlain hs) hshape.1 hshape.2 hreads
      case isFalse => cases hfields
  | array items =>
    rw [Json.fields?, ofJson, Document.ofJson, record]
    constructor
    · intro h
      split at h
      case h_1 => cases h
      case h_2 b htake =>
        cases h
        obtain ⟨hlength, hreads⟩ := (s.take_eq_ok _ hs _ _ _).1 htake
        exact ⟨_, if_pos hlength, hreads⟩
      case h_3 => cases h
    · rintro ⟨fields, hfields, hreads⟩
      split at hfields
      case isTrue hlength =>
        cases hfields
        rw [(s.take_eq_ok _ hs _ _ _).2 ⟨hlength, hreads⟩]
      case isFalse => cases hfields
  | _ => simp [Json.fields?, ofJson, Document.ofJson, record, mismatch_ne_ok]

end Decode

end GuardedQuery
