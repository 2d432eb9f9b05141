import GuardedQuery.Proofs.Batch.Load
import GuardedQuery.Proofs.Json.Text

/-!
# Keys that come back

A key that is read as JSON becomes a literal, and a cell holds the key if it has the text of the
literal's JSON form. That form is the key itself unless the key is an integer of 2 ^ 63 or more, which
becomes a floating point number (`Json.returned_eq_iff`).

The keys of a load for which it has a row are thus those that a parent holds in their returned form
(`Loader.load_keeps`): all of them if each comes back as it is (`Loader.load_keeps_all`), and none
for an integer that does not (`Loader.load_loses_unsigned`).
-/

namespace GuardedQuery

namespace Json

/-- Not an integer of 2 ^ 63 or more. -/
def Fits : Json → Prop
  | .int i => i.val < 9223372036854775808
  | _ => True

/-- The JSON form of the literal of a key. -/
def returned (key : Json) : Json :=
  match Literal.ofJson key with
  | .ok l => l.toJson
  | .error _ => key

theorem ofInt64_ofInt (i : JsonInt) (h : i.val < 9223372036854775808) :
    JsonInt.ofInt64 (Int64.ofInt i.val) = i := by
  obtain ⟨v, hlower, hupper⟩ := i
  have htoInt : (Int64.ofInt v).toInt = v := Int64.toInt_ofInt_of_le hlower h
  simp only [JsonInt.ofInt64, htoInt]

theorem scalar_ofBinary64 (x : Binary64) : Scalar (ofBinary64 x) := by
  unfold ofBinary64
  split
  · exact .float _
  · exact .null

theorem returned_eq_iff {key : Json} (h : Scalar key) : key.returned = key ↔ key.Fits := by
  cases h with
  | null => exact iff_of_true rfl trivial
  | bool b => exact iff_of_true rfl trivial
  | string s => exact iff_of_true rfl trivial
  | float x =>
    refine iff_of_true ?_ trivial
    show ofBinary64 x.val = .float x
    rw [ofBinary64, dif_pos x.2]
  | int i =>
    show (Literal.ofJsonInt i).toJson = .int i ↔ i.val < 9223372036854775808
    unfold Literal.ofJsonInt
    by_cases hi : i.val < 9223372036854775808
    · rw [if_pos hi]
      refine iff_of_true ?_ hi
      show Json.int (.ofInt64 (Int64.ofInt i.val)) = .int i
      rw [ofInt64_ofInt i hi]
    · rw [if_neg hi]
      refine iff_of_false ?_ hi
      show ofBinary64 (Binary64.ofInt i.val) ≠ .int i
      unfold ofBinary64
      split
      · rintro ⟨⟩
      · rintro ⟨⟩

theorem toKey_ok {key : Json} (h : Scalar key) (hnull : key ≠ .null) (column : String) :
    ∃ l, key.toKey column = .ok l ∧ l.toJson = key.returned := by
  cases h with
  | null => exact absurd rfl hnull
  | bool b => exact ⟨_, rfl, rfl⟩
  | int i => exact ⟨_, rfl, rfl⟩
  | float x => exact ⟨_, rfl, rfl⟩
  | string s => exact ⟨_, rfl, rfl⟩

end Json

theorem Literal.scalar_toJson (l : Literal) : Json.Scalar l.toJson := by
  cases l with
  | bool b => exact .bool b
  | int i => exact .int _
  | float x => exact Json.scalar_ofBinary64 x
  | text s => exact .string s
  | uuid u => exact .string _

theorem Literal.token_eq_iff {l m : Literal} : l.token = m.token ↔ l.toJson = m.toJson :=
  ⟨Json.text_inj l.scalar_toJson m.scalar_toJson, congrArg Json.text⟩

/-! ## Cells -/

namespace Merge

/-- The column holds these values, row by row. -/
def Cells (column : String) (rows : List Row) (cells : List Json) : Prop :=
  rows.map (fun row => row.find? column) = cells.map some

/-- Values that can be keys. -/
def Keyable (cells : List Json) : Prop := ∀ c ∈ cells, c.Scalar ∧ c ≠ .null

section

variable {column : String} {rows : List Row} {cells : List Json}

theorem keys_ok (h : Cells column rows cells) (hkeyable : Keyable cells) :
    ∃ K, rows.mapM (Row.key column) = .ok K ∧ K.map Literal.toJson = cells.map Json.returned := by
  induction rows generalizing cells with
  | nil =>
    obtain rfl := List.map_eq_nil_iff.1 h.symm
    exact ⟨[], rfl, rfl⟩
  | cons row rest ih =>
    obtain ⟨c, cells, rfl, hc, hrest⟩ := List.map_eq_cons_iff.1 h.symm
    obtain ⟨⟨hscalar, hnull⟩, hkeyable⟩ := List.forall_mem_cons.1 hkeyable
    obtain ⟨l, hl, hreturned⟩ := Json.toKey_ok hscalar hnull column
    obtain ⟨K, hK, hmap⟩ := ih hrest.symm hkeyable
    refine ⟨l :: K, ?_, ?_⟩
    · have hfind : row.find? column = some c := hc.symm
      have hkey : Row.key column row = .ok l := by rw [Row.key, hfind, Option.getD_some, hl]
      rw [List.mapM_cons, hkey, hK]
      rfl
    · rw [List.map_cons, List.map_cons, hreturned, hmap]

/-- The cells of the column are these values in some order. -/
def Holding (column : String) (rows : List Row) (cells : List Json) : Prop :=
  (rows.map fun row => row.find? column).Perm (cells.map some)

theorem Holding.mem_iff (h : Holding column rows cells) {c : Json} :
    c ∈ cells ↔ ∃ row ∈ rows, row.find? column = some c := by
  have hmem : some c ∈ rows.map (fun row => row.find? column) ↔ some c ∈ cells.map some :=
    List.Perm.mem_iff h
  simpa using hmem.symm

theorem Holding.cell (h : Holding column rows cells) {row : Row} (hrow : row ∈ rows) :
    ∃ c ∈ cells, row.find? column = some c := by
  have hmem : row.find? column ∈ cells.map some :=
    (List.Perm.mem_iff h).1 (List.mem_map_of_mem hrow)
  obtain ⟨c, hc, heq⟩ := List.mem_map.1 hmem
  exact ⟨c, hc, heq.symm⟩

theorem Holding.hasKey (h : Holding column rows cells) (hkeyable : Keyable cells) :
    ∀ row ∈ rows, HasKey column row := by
  intro row hrow
  obtain ⟨c, hc, hfind⟩ := h.cell hrow
  exact ⟨c, hfind, (hkeyable c hc).2⟩

/-- Found by its text, a key is found as it is. -/
theorem Holding.lastRow?_cell (h : Holding column rows cells) (hkeyable : Keyable cells) {key : Json}
    (hkey : key.Scalar) {row : Row} (hlast : lastRow? column key.text rows = some row) :
    row ∈ rows ∧ row.find? column = some key := by
  obtain ⟨hrow, htext⟩ := lastRow?_mem hlast
  obtain ⟨c, hc, hfind⟩ := h.cell hrow
  rw [hfind, Option.map_some, Option.some.injEq] at htext
  obtain rfl := Json.text_inj (hkeyable c hc).1 hkey htext
  exact ⟨hrow, hfind⟩

theorem Holding.isSome_lastRow?_iff (h : Holding column rows cells) (hkeyable : Keyable cells)
    {key : Json} (hkey : key.Scalar) :
    (lastRow? column key.text rows).isSome = true ↔ key ∈ cells := by
  constructor
  · intro hsome
    obtain ⟨row, hlast⟩ := Option.isSome_iff_exists.1 hsome
    exact h.mem_iff.2 ⟨row, h.lastRow?_cell hkeyable hkey hlast⟩
  · intro hmem
    obtain ⟨row, hrow, hfind⟩ := h.mem_iff.1 hmem
    have hanswers : row ∈ rows.filter (Answers column key.text) :=
      List.mem_filter.2 ⟨hrow, by simp [Answers, hfind]⟩
    exact List.getLast?_isSome.2 (List.ne_nil_of_mem hanswers)

end

/-! ## Rows that are kept -/

/-- The row is the parent with the key, with its children in a field. -/
def Keeps (keyColumn field : String) (parents children : List Row) (key : Json) (row : Row) : Prop :=
  ∃ parent ∈ parents, parent.find? keyColumn = some key ∧
    ∃ items, ChildrenOf children key.text items ∧ row = parent.insert field (.array items)

variable {keyColumn field : String} {D C rows : List Row} {keys : List Literal} {cells : List Json}

/-- Of keys in their JSON form those are kept that a parent holds. -/
theorem Merged.keeps (h : Merged keyColumn field D C keys rows) (hD : Holding keyColumn D cells)
    (hkeyable : Keyable cells) :
    ∃ kept, kept.Sublist (keys.map Literal.toJson) ∧
      (∀ c ∈ keys.map Literal.toJson, c ∈ kept ↔ c ∈ cells) ∧
      List.Forall₂ (Keeps keyColumn field D C) kept rows := by
  have hfound : ∀ key : Literal,
      (lastRow? keyColumn key.token D).isSome = true ↔ key.toJson ∈ cells :=
    fun key => hD.isSome_lastRow?_iff hkeyable key.scalar_toJson
  refine ⟨_, List.filter_sublist.map Literal.toJson, ?_, List.forall₂_map_left_iff.2 (h.imp ?_)⟩
  · intro c hc
    simp only [List.mem_map, List.mem_filter, hfound]
    constructor
    · rintro ⟨key, ⟨-, hkey⟩, rfl⟩
      exact hkey
    · intro hcell
      obtain ⟨key, hkey, rfl⟩ := List.mem_map.1 hc
      exact ⟨key, ⟨hkey, hcell⟩, rfl⟩
  · rintro key row ⟨parent, items, hlast, hitems, rfl⟩
    obtain ⟨hparent, hfind⟩ := hD.lastRow?_cell hkeyable key.scalar_toJson hlast
    exact ⟨parent, hparent, hfind, items, hitems, rfl⟩

end Merge

/-! ## Loads -/

namespace Loader

open Merge

variable {σ : Type} {l : Loader} {p : Plan} {x : Executor σ} {s s₁ s₃ : σ} {keyColumn : String}
  {cells firsts : List Json}

/-- The keys of the page are read as rows, and they are these. -/
structure ReadsKeys (p : Plan) (keyColumn : String) (x : Executor σ) (s : σ) (cells : List Json)
    (s₁ : σ) : Prop where
  column : p.keysQuery.outline.columns = [keyColumn]
  asRows : x.fetchKeys = Executor.keysOfRows x.fetchAll
  rows : ∃ R, x.fetchAll p.keysQuery s = (.ok R, s₁) ∧ Cells keyColumn R cells
  keyable : Keyable cells

/-- The later reads succeed, the first of them with one parent for each of some keys. -/
structure ReadsRows (x : Executor σ) (keyColumn : String) (firsts : List Json)
    (parents children : Statement) (s₁ : σ) (D C : List Row) (s₃ : σ) : Prop where
  reads : ∃ s₂, x.fetchAll parents s₁ = (.ok D, s₂) ∧ x.fetchAll children s₂ = (.ok C, s₃)
  holding : Holding keyColumn D firsts

theorem ReadsKeys.fetched (h : ReadsKeys p keyColumn x s cells s₁) :
    ∃ K, x.fetchKeys p.keysQuery s = (.ok K, s₁) ∧
      K.map Literal.toJson = cells.map Json.returned := by
  obtain ⟨R, hR, hcells⟩ := h.rows
  obtain ⟨K, hK, hmap⟩ := keys_ok hcells h.keyable
  refine ⟨K, ?_, hmap⟩
  rw [h.asRows, Executor.keysOfRows, Statement.keyColumn, h.column]
  simp only [hR, hK]

/-- **A load keeps the parents of the keys that come back.** Of the keys in their returned form,
each where it is first seen, those have a row that a parent holds. -/
theorem load_keeps {r : Recipe} {payload : Payload String} {o : Override}
    (h : l.plan r payload o = .ok p) (hkeys : ReadsKeys p keyColumn x s cells s₁)
    (hfirsts : FirstSeen id cells firsts) :
    (cells = [] → (l.load p).run x s = (.ok [], s₁)) ∧
    (cells ≠ [] → ∃ keys parents children,
      FirstSeen id (cells.map Json.returned) (keys.map Literal.toJson) ∧
      l.Asks p keys parents children ∧
      ∀ D C s₃, ReadsRows x keyColumn firsts parents children s₁ D C s₃ →
        (∃ kept rows, (l.load p).run x s = (.ok rows, s₃) ∧
          kept.Sublist (keys.map Literal.toJson) ∧
          (∀ c ∈ keys.map Literal.toJson, c ∈ kept ↔ c ∈ firsts) ∧
          List.Forall₂ (Keeps keyColumn p.recipe.childrenField D C) kept rows) ∨
        ∃ row ∈ C, ¬Family row ∧ ∃ e, (l.load p).run x s = (.error e, s₃)) := by
  obtain ⟨K, hK, hmap⟩ := hkeys.fetched
  have hgoes := load_goes h hkeys.column x s
  constructor
  · rintro rfl
    obtain rfl := List.map_eq_nil_iff.1 hmap
    obtain ⟨hresult, hstate⟩ := hgoes.eq_nil hK
    exact Prod.ext hresult hstate
  · intro hcells
    have hne : K ≠ [] := by
      rintro rfl
      exact hcells (List.map_eq_nil_iff.1 hmap.symm)
    have hfirst := firstSeen_distinct K
    obtain ⟨parents, children, hasks⟩ := plan_asks h (hfirst.ne_nil hne)
    -- Literals have the same token just when they have the same JSON form.
    have hforms : FirstSeen id (K.map Literal.toJson) ((distinct K).map Literal.toJson) :=
      hfirst.map fun _ _ _ _ => Literal.token_eq_iff.symm
    rw [hmap] at hforms
    refine ⟨distinct K, parents, children, hforms, hasks, fun D C s₃ hreads => ?_⟩
    obtain ⟨s₂, hD, hC⟩ := hreads.reads
    have hkeyable : Keyable firsts := fun c hc => hkeys.keyable c (hfirsts.subset hc)
    have hcontinues : l.Continues p keyColumn x s K (distinct K) parents children D s₂ :=
      ⟨⟨s₁, ⟨hK, hne, hfirst, hasks⟩, hD⟩, hreads.holding.hasKey hkeyable⟩
    obtain ⟨hstate, ⟨rows, hresult, hmerged⟩ | ⟨row, hrow, hbad, e, hresult⟩⟩ :=
      hgoes.ends hcontinues hC
    · obtain ⟨kept, hsublist, hmem, hkeeps⟩ := hmerged.keeps hreads.holding hkeyable
      exact .inl ⟨kept, rows, Prod.ext hresult hstate, hsublist, hmem, hkeeps⟩
    · exact .inr ⟨row, hrow, hbad, e, Prod.ext hresult hstate⟩

/-- **A load loses no parent** of keys that come back as they are. With one parent for each of them
in the second reply it gives one row for each, in the order in which the keys are first seen, unless
a row of children has not the shape of one. -/
theorem load_keeps_all {r : Recipe} {payload : Payload String} {o : Override}
    (h : l.plan r payload o = .ok p) (hkeys : ReadsKeys p keyColumn x s cells s₁)
    (hfits : ∀ c ∈ cells, c.Fits) (hfirsts : FirstSeen id cells firsts) :
    (cells = [] → (l.load p).run x s = (.ok [], s₁)) ∧
    (cells ≠ [] → ∃ keys parents children,
      keys.map Literal.toJson = firsts ∧ l.Asks p keys parents children ∧
      ∀ D C s₃, ReadsRows x keyColumn firsts parents children s₁ D C s₃ →
        (∃ rows, (l.load p).run x s = (.ok rows, s₃) ∧
          List.Forall₂ (Keeps keyColumn p.recipe.childrenField D C) firsts rows) ∨
        ∃ row ∈ C, ¬Family row ∧ ∃ e, (l.load p).run x s = (.error e, s₃)) := by
  obtain ⟨hnone, hsome⟩ := load_keeps h hkeys hfirsts
  refine ⟨hnone, fun hcells => ?_⟩
  obtain ⟨keys, parents, children, hforms, hasks, hrun⟩ := hsome hcells
  have hreturned : ∀ c ∈ cells, c.returned = c := fun c hc =>
    (Json.returned_eq_iff (hkeys.keyable c hc).1).2 (hfits c hc)
  rw [List.map_congr_left hreturned, List.map_id'] at hforms
  obtain rfl := hforms.unique hfirsts
  refine ⟨keys, parents, children, rfl, hasks, fun D C s₃ hreads => ?_⟩
  rcases hrun D C s₃ hreads with ⟨kept, rows, hrows, hsublist, hmem, hkeeps⟩ | hfails
  · have hnodup : (keys.map Literal.toJson).Nodup := by simpa using hfirsts.nodup
    have hlength := (hnodup.subperm fun c hc => (hmem c hc).2 hc).length_le
    obtain rfl := hsublist.eq_of_length_le hlength
    exact .inl ⟨rows, hrows, hkeeps⟩
  · exact .inr hfails

def rowOfKey (key : Json) : Row := .ofList [("id", key)]

/-- The largest integer with sign, and a key of each other kind. -/
def sampleKeys : List Json :=
  [.int ⟨9223372036854775807, by decide, by decide⟩, .string "b", .bool true,
    .float ⟨⟨0x3fe0000000000000⟩, by decide⟩]

/-- A page with one of the keys twice. -/
def samplePage : List Json := sampleKeys ++ [.string "b"]

def sampleFamilies : List Row :=
  [.ofList [("parent_key", .string "b"), ("children", .array [.bool true])]]

/-- The parents come in another order than the keys. -/
def sampleKeyReplies : List (List Row) :=
  [samplePage.map rowOfKey, sampleKeys.reverse.map rowOfKey, sampleFamilies]

theorem firstSeen_samplePage : FirstSeen id samplePage sampleKeys := by
  have hkeys : FirstSeen id sampleKeys sampleKeys := .of_nodup (by simp [sampleKeys])
  exact hkeys.again ⟨.string "b", by simp [sampleKeys], rfl⟩

theorem readsKeys_samplePage : ReadsKeys samplePlan "id" .replaying sampleKeyReplies samplePage
    sampleKeyReplies.tail where
  column := rfl
  asRows := rfl
  rows := ⟨_, rfl, rfl⟩
  keyable := by
    intro c hc
    simp only [samplePage, sampleKeys, List.cons_append, List.nil_append, List.mem_cons,
      List.not_mem_nil, or_false] at hc
    rcases hc with rfl | rfl | rfl | rfl | rfl
    · exact ⟨.int _, by simp⟩
    · exact ⟨.string _, by simp⟩
    · exact ⟨.bool _, by simp⟩
    · exact ⟨.float _, by simp⟩
    · exact ⟨.string _, by simp⟩

theorem load_keeps_all_sample :
    sample.plan .sample samplePayload sampleScope = .ok samplePlan ∧
      ReadsKeys samplePlan "id" .replaying sampleKeyReplies samplePage sampleKeyReplies.tail ∧
      FirstSeen id samplePage sampleKeys ∧
      ∃ rows, (sample.load samplePlan).run .replaying sampleKeyReplies = (.ok rows, []) ∧
        List.Forall₂ (Keeps "id" "items" (sampleKeys.reverse.map rowOfKey) sampleFamilies)
          sampleKeys rows := by
  refine ⟨plan_sample, readsKeys_samplePage, firstSeen_samplePage, ?_⟩
  have hfits : ∀ c ∈ samplePage, c.Fits := by simp [samplePage, sampleKeys, Json.Fits]
  have hkeeps := load_keeps_all plan_sample readsKeys_samplePage hfits firstSeen_samplePage
  obtain ⟨keys, parents, children, -, -, hrun⟩ := hkeeps.2 (by simp [samplePage])
  have hreads : ReadsRows .replaying "id" sampleKeys parents children sampleKeyReplies.tail
      (sampleKeys.reverse.map rowOfKey) sampleFamilies [] := by
    refine ⟨⟨_, rfl, rfl⟩, ?_⟩
    show ((sampleKeys.map some).reverse).Perm (sampleKeys.map some)
    exact List.reverse_perm _
  rcases hrun _ _ _ hreads with hrows | ⟨row, hrow, hbad, -⟩
  · exact hrows
  · obtain rfl := List.mem_singleton.1 hrow
    exact absurd ⟨⟨.string "b", rfl, nofun⟩, _, .array _⟩ hbad

/-- The smallest integer that does not come back. -/
def unsignedKey : Json := .int ⟨9223372036854775808, by decide, by decide⟩

def unsignedReplies : List (List Row) := [[rowOfKey unsignedKey], [rowOfKey unsignedKey], []]

/-- All reads succeed, with one parent for the one key, and its parent is lost. -/
theorem load_loses_unsigned :
    sample.plan .sample samplePayload sampleScope = .ok samplePlan ∧
      ReadsKeys samplePlan "id" .replaying unsignedReplies [unsignedKey] unsignedReplies.tail ∧
      FirstSeen id [unsignedKey] [unsignedKey] ∧
      (∀ parents children, ReadsRows .replaying "id" [unsignedKey] parents children
        unsignedReplies.tail [rowOfKey unsignedKey] [] []) ∧
      (sample.load samplePlan).run .replaying unsignedReplies = (.ok [], []) := by
  have hkeyable : Keyable [unsignedKey] := by
    intro c hc
    obtain rfl := List.mem_singleton.1 hc
    exact ⟨.int _, nofun⟩
  refine ⟨plan_sample, ⟨rfl, rfl, ⟨_, rfl, rfl⟩, hkeyable⟩, .of_nodup (by simp), ?_, rfl⟩
  intro parents children
  exact ⟨⟨_, rfl, rfl⟩, List.Perm.refl _⟩

end Loader

end GuardedQuery
