import GuardedQuery.Decode.Shape
import GuardedQuery.Proofs.Decode.Basic

/-!
# Reading records

A record is read back from an object that has, for each of its fields, either a member that is read
back or none where the field may be left out (`ofJson_record`). In the other direction every field of
a record that was read was decoded or left out (`came_of_record`).
-/

namespace GuardedQuery.Decode

variable {α β σ : Type}

/-- Items are left over only where they do not matter. -/
theorem leftOver_ok {source : Source} {length count : Nat} {a b : α}
    (h : leftOver source length count a = .ok b) : a = b := by
  cases source <;> simp_all [leftOver, fail]

/-! ## Fields -/

/-- What a field is when its member is as given. -/
def Field.Reads (f : Field α) : Option Json → α → Prop
  | some j, a => ofJson f.decoder j = .ok a
  | none, a => f.absent = some a

/-- The field was decoded or left out. -/
def Field.Came (source : Source) (f : Field α) (a : α) : Prop :=
  f.absent = some a ∨ ∃ d, f.decoder source d = .ok a

namespace Field

variable {name : String} {decoder : Decoder α} {source : Source}

/-- A value that may be missing is read back where its member is not `null`. -/
theorem reads_option {encode : α → Json} {value : Option α}
    (h : ∀ a ∈ value, (encode a).isNull = false ∧ ofJson decoder (encode a) = .ok a) :
    (defaulted name (optional decoder) none).Reads (value.map encode) value := by
  cases value with
  | none => rfl
  | some a =>
    obtain ⟨hnull, hread⟩ := h a rfl
    exact ofJson_optional hnull hread

/-- A list that may be missing is read back where its member is left out when it is empty. -/
theorem reads_list {encode : α → Json} {as : List α}
    (h : ∀ a ∈ as, ofJson decoder (encode a) = .ok a) :
    (defaulted name (list decoder) []).Reads
      (if as.isEmpty then none else some (.array (as.map encode))) as := by
  cases as with
  | nil => rfl
  | cons a rest => exact ofJson_list h

theorem came_option {a : α} (h : (defaulted name (optional decoder) none).Came source (some a)) :
    ∃ d, decoder source d = .ok a := by
  rcases h with h | ⟨d, h⟩
  · cases h
  · exact ⟨d, optional_eq_some h⟩

theorem came_list {as : List α} (h : (defaulted name (list decoder) []).Came source as) :
    ∀ a ∈ as, ∃ d, decoder source d = .ok a := by
  rcases h with h | ⟨d, h⟩
  · cases h
    simp
  · exact exists_of_list h

theorem came_required {a : α} (h : (required name decoder).Came source a) :
    ∃ d, decoder source d = .ok a := by
  rcases h with h | h
  · cases h
  · exact h

end Field

namespace Shape

/-- The names of the fields. -/
def fieldNames {α σ : Type} : Shape α σ → List String
  | .done => []
  | .field f rest => f.name :: rest.fieldNames

/-- No spelling belongs to two fields. -/
def isDistinct {α σ : Type} : Shape α σ → Bool
  | .done => true
  | .field f rest =>
    f.spellings.contains f.name && f.spellings.all (fun n => !rest.names.contains n) && rest.isDistinct

/-- What each field is when the members are as given by name. -/
def Reads {α σ : Type} (get : String → Option Json) : Shape α σ → α → Prop
  | .done, _ => True
  | .field f rest, (a, r) => f.Reads (get f.name) a ∧ rest.Reads get r

/-- Every field was decoded or left out. -/
def Came {α σ : Type} (source : Source) : Shape α σ → α → Prop
  | .done, _ => True
  | .field f rest, (a, r) => f.Came source a ∧ rest.Came source r

/-! ## From members to fields -/

/-- What has been read of a record when some names were seen. -/
def slots {α σ : Type} (seen : String → Bool) : Shape α σ → α → σ
  | .done, _ => ()
  | .field f rest, (a, r) => (if seen f.name then some a else none, rest.slots seen r)

theorem slots_none : ∀ {α σ : Type} (s : Shape α σ) (a : α), s.slots (fun _ => false) a = s.empty
  | _, _, .done, _ => rfl
  | _, _, .field f rest, (a, r) => by
    rw [slots, empty, slots_none rest r]
    rfl

theorem slots_congr {seen seen' : String → Bool} : ∀ {α σ : Type} (s : Shape α σ) (a : α),
    (∀ n ∈ s.fieldNames, seen n = seen' n) → s.slots seen a = s.slots seen' a
  | _, _, .done, _, _ => rfl
  | _, _, .field f rest, (a, r), h => by
    obtain ⟨hf, hrest⟩ := List.forall_mem_cons.1 h
    rw [slots, slots, hf, slots_congr rest r hrest]

theorem fieldNames_subset : ∀ {α σ : Type} (s : Shape α σ), s.isDistinct = true →
    ∀ n ∈ s.fieldNames, n ∈ s.names
  | _, _, .done, _ => by simp [fieldNames]
  | _, _, .field f rest, h => by
    simp only [isDistinct, Bool.and_eq_true, List.contains_iff_mem] at h
    refine List.forall_mem_cons.2 ⟨List.mem_append_left _ h.1.1, fun n hn => ?_⟩
    exact List.mem_append_right _ (fieldNames_subset rest h.2 n hn)

/-- A member is put where its field is. -/
theorem put_slots {get : String → Option Json} {key : String} {j : Json} (hget : get key = some j)
    {seen : String → Bool} (hseen : seen key = false) : ∀ {α σ : Type} (s : Shape α σ) (a : α),
    s.isDistinct = true → key ∈ s.fieldNames → s.Reads get a →
      s.put .value key (Document.ofJson j) (s.slots seen a) =
        some (.ok (s.slots (fun n => n == key || seen n) a))
  | _, _, .done, _, _, hkey, _ => absurd hkey (by simp [fieldNames])
  | _, _, .field f rest, (a, r), hs, hkey, hreads => by
    simp only [isDistinct, Bool.and_eq_true, List.all_eq_true, Bool.not_eq_true',
      List.contains_eq_mem, decide_eq_false_iff_not, decide_eq_true_eq] at hs
    obtain ⟨⟨hname, happart⟩, hrest⟩ := hs
    obtain ⟨hfield, hothers⟩ := hreads
    rcases List.mem_cons.1 hkey with rfl | hkey
    · have hread : f.decoder .value (Document.ofJson j) = .ok a := by
        rw [hget] at hfield
        exact hfield
      have hold : rest.slots (fun n => n == f.name || seen n) r = rest.slots seen r := by
        refine slots_congr rest r fun n hn => ?_
        have hne : n ≠ f.name := fun h => happart _ hname (h ▸ fieldNames_subset rest hrest n hn)
        simp [hne]
      simp [put, slots, hname, hseen, hread, under, Except.map, hold]
    · have hnot : key ∉ f.spellings := fun h => happart _ h (fieldNames_subset rest hrest key hkey)
      have hne : f.name ≠ key := fun h => hnot (h ▸ hname)
      have hput := put_slots hget hseen rest r hrest hkey hothers
      simp [put, slots, hput, hnot, hne, Except.map]

theorem putAll_slots {get : String → Option Json} {s : Shape α σ} {a : α}
    (hs : s.isDistinct = true) (hreads : s.Reads get a) {members : List (String × Json)}
    (hdistinct : (members.map Prod.fst).Nodup)
    (hmembers : ∀ p ∈ members, get p.1 = some p.2 ∧ p.1 ∈ s.fieldNames) (seen : String → Bool)
    (hseen : ∀ p ∈ members, seen p.1 = false) :
    s.putAll .value (Document.ofMembers members) (s.slots seen a) =
      .ok (s.slots (fun n => seen n || (members.map Prod.fst).contains n) a) := by
  induction members generalizing seen with
  | nil => simp [Document.ofMembers, putAll]
  | cons p rest ih =>
    obtain ⟨⟨hget, hname⟩, hothers⟩ := List.forall_mem_cons.1 hmembers
    obtain ⟨hfresh, hrest⟩ := List.nodup_cons.1 hdistinct
    obtain ⟨hp, hunseen⟩ := List.forall_mem_cons.1 hseen
    have hput := put_slots hget hp s a hs hname hreads
    rw [Document.ofMembers, putAll, hput]
    dsimp only
    rw [ih hrest hothers _ fun q hq => ?_]
    · congr 2
      funext n
      simp only [List.map_cons, List.contains_cons]
      cases n == p.1 <;> simp
    · have hne : q.1 ≠ p.1 := fun h => hfresh (h ▸ List.mem_map_of_mem hq)
      simp [hne, hunseen q hq]

/-- What was not read may be left out. -/
theorem close_slots {get : String → Option Json} {seen : String → Bool} :
    ∀ {α σ : Type} (s : Shape α σ) (a : α), s.Reads get a →
      (∀ n ∈ s.fieldNames, seen n = false → get n = none) → s.close (s.slots seen a) = .ok a
  | _, _, .done, _, _, _ => rfl
  | _, _, .field f rest, (a, r), hreads, h => by
    obtain ⟨hfield, hothers⟩ := hreads
    obtain ⟨hf, hrest⟩ := List.forall_mem_cons.1 h
    have hclose := close_slots rest r hothers hrest
    cases hseen : seen f.name with
    | true => simp [slots, close, hseen, hclose, Except.map]
    | false =>
      rw [hf hseen] at hfield
      have habsent : f.absent = some a := hfield
      simp [slots, close, hseen, hclose, habsent, Except.map]

end Shape

/-- A record is decoded from an object that has each key once and no other members than its fields. -/
theorem ofJson_record_object {s : Shape α σ} (name : String) (hs : s.isDistinct = true)
    {members : List (String × Json)} (hdistinct : (members.map Prod.fst).Nodup)
    (hnames : ∀ p ∈ members, p.1 ∈ s.fieldNames) {a : α}
    (hreads : s.Reads (fun n => members.lookup n) a) :
    ofJson (record name s) (.object members) = .ok a := by
  have hput : ∀ p ∈ members, members.lookup p.1 = some p.2 ∧ p.1 ∈ s.fieldNames := fun p hp =>
    ⟨(Keyed.lookup_eq_some_iff hdistinct).2 hp, hnames p hp⟩
  have hputAll := Shape.putAll_slots hs hreads hdistinct hput (fun _ => false) fun _ _ => rfl
  rw [Shape.slots_none] at hputAll
  rw [ofJson, Document.ofJson, record, hputAll]
  refine Shape.close_slots s a hreads fun n _ hn => ?_
  cases hfind : members.lookup n with
  | none => rfl
  | some j =>
    have hmem := List.mem_map_of_mem (f := Prod.fst) ((Keyed.lookup_eq_some_iff hdistinct).1 hfind)
    simp [hmem] at hn

/-- **A record is read back** from an object whose members are those of its fields. -/
theorem ofJson_record {s : Shape α σ} (name : String) (hs : s.isDistinct = true)
    {members : List (String × Json)} (hnames : ∀ p ∈ members, p.1 ∈ s.fieldNames) {a : α}
    (hreads : s.Reads (Json.ofMembers members).member? a) :
    ofJson (record name s) (.ofMembers members) = .ok a :=
  ofJson_record_object name hs (Keyed.ofList members).nodup_keys
    (fun p hp => hnames p (Keyed.mem_of_mem_ofList hp)) hreads

/-! ## From fields to members -/

namespace Shape

/-- Everything that has been read was decoded. -/
def Decoded {α σ : Type} (source : Source) : Shape α σ → σ → Prop
  | .done, _ => True
  | .field f rest, (slot, slots) =>
    (∀ a ∈ slot, ∃ d, f.decoder source d = .ok a) ∧ rest.Decoded source slots

theorem decoded_empty (source : Source) : ∀ {α σ : Type} (s : Shape α σ), s.Decoded source s.empty
  | _, _, .done => trivial
  | _, _, .field _ rest => ⟨by simp, decoded_empty source rest⟩

theorem decoded_put {source : Source} {key : String} {d : Document} :
    ∀ {α σ : Type} {s : Shape α σ} {slots changed : σ}, s.Decoded source slots →
      s.put source key d slots = some (.ok changed) → s.Decoded source changed
  | _, _, .done, _, _, _, h => by simp [put] at h
  | _, _, .field f rest, (slot, slots), changed, hdecoded, h => by
    obtain ⟨hslot, hslots⟩ := hdecoded
    rw [put.eq_def] at h
    dsimp only at h
    split at h
    · cases slot with
      | some _ => simp [fail] at h
      | none =>
        obtain ⟨a, ha, rfl⟩ := map_eq_ok.1 (Option.some.inj h)
        refine ⟨fun b hb => ?_, hslots⟩
        cases Option.some.inj hb
        exact ⟨d, under_eq_ok.1 ha⟩
    · obtain ⟨r, hr, h⟩ := Option.map_eq_some_iff.1 h
      obtain ⟨others, rfl, rfl⟩ := map_eq_ok.1 h
      exact ⟨hslot, decoded_put hslots hr⟩

theorem decoded_putAll {source : Source} {s : Shape α σ} :
    ∀ {members : List (Option String × Document)} {slots changed : σ}, s.Decoded source slots →
      s.putAll source members slots = .ok changed → s.Decoded source changed
  | [], _, _, hslots, h => by
    cases h
    exact hslots
  | (none, _) :: _, _, _, _, h => by simp [putAll, fail] at h
  | (some key, d) :: _, slots, _, hslots, h => by
    rw [putAll] at h
    split at h
    · simp [fail, under] at h
    · simp at h
    · rename_i _ hput
      exact decoded_putAll (decoded_put hslots hput) h

/-- A field that was not read is left out. -/
theorem came_of_close {source : Source} : ∀ {α σ : Type} {s : Shape α σ} {slots : σ} {a : α},
    s.Decoded source slots → s.close slots = .ok a → s.Came source a
  | _, _, .done, _, _, _, _ => trivial
  | _, _, .field f rest, (slot, slots), a, hdecoded, h => by
    obtain ⟨hslot, hslots⟩ := hdecoded
    rw [close.eq_def] at h
    dsimp only at h
    split at h
    case h_1 _ b =>
      obtain ⟨r, hclose, rfl⟩ := map_eq_ok.1 h
      exact ⟨.inr (hslot b rfl), came_of_close hslots hclose⟩
    case h_2 b habsent =>
      obtain ⟨r, hclose, rfl⟩ := map_eq_ok.1 h
      exact ⟨.inl habsent, came_of_close hslots hclose⟩
    case h_3 => simp [fail] at h

theorem came_of_take {source : Source} {expected : String} : ∀ {α σ : Type} {s : Shape α σ}
    {index : Nat} {ds rest : List Document} {a : α},
    s.take source expected index ds = .ok (a, rest) → s.Came source a
  | _, _, .done, _, _, _, _, _ => trivial
  | _, _, .field f _, index, [], _, a, h => by
    rw [take.eq_def] at h
    dsimp only at h
    split at h
    case h_1 b habsent =>
      obtain ⟨⟨r, ds⟩, htake, heq⟩ := map_eq_ok.1 h
      cases heq
      exact ⟨.inl habsent, came_of_take htake⟩
    case h_2 => simp [fail] at h
  | _, _, .field f _, index, d :: ds, _, a, h => by
    rw [take.eq_def] at h
    dsimp only at h
    split at h
    case h_1 => simp at h
    case h_2 b hunder =>
      obtain ⟨⟨r, ds⟩, htake, heq⟩ := map_eq_ok.1 h
      cases heq
      exact ⟨.inr ⟨d, under_eq_ok.1 hunder⟩, came_of_take htake⟩

end Shape

/-- **Every field of a record that was read was decoded or left out**, whatever it was read from. -/
theorem came_of_record {s : Shape α σ} {name : String} {source : Source} {d : Document} {a : α}
    (h : record name s source d = .ok a) : s.Came source a := by
  unfold record at h
  split at h
  case h_1 members =>
    split at h
    · simp at h
    · rename_i slots hputAll
      exact Shape.came_of_close (Shape.decoded_putAll (Shape.decoded_empty source s) hputAll) h
  case h_2 items =>
    split at h
    · simp at h
    · rename_i b htake
      cases h
      exact Shape.came_of_take htake
    · rename_i b _ _ htake
      cases leftOver_ok h
      exact Shape.came_of_take htake
  case h_3 => exact absurd h mismatch_ne_ok

end GuardedQuery.Decode
