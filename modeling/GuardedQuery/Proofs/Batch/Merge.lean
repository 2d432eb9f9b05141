import Mathlib.Data.List.Forall2
import GuardedQuery.Batch.Load
import GuardedQuery.Proofs.FirstSeen
import GuardedQuery.Proofs.Keyed
import GuardedQuery.Proofs.Statement.Tests

/-!
# Merging parents and children

What `Merge` makes of three replies, said without its maps. Rows are found by the token of the key in a
column (`Merge.lastRow?`); a cell holds children if it is an array, the text of one, or nothing
(`Merge.Holds`). `Merge.rows_merged`: from keys with different tokens and rows of the right shape it
makes one row for each key that has a parent, in the order of the keys (`Merge.Merged`).
-/

namespace GuardedQuery

namespace Merge

/-! ## Keys -/

theorem distinct_concat (keys : List Literal) (key : Literal) :
    distinct (keys ++ [key]) =
      if ∃ k ∈ keys, k.token = key.token then distinct keys else distinct keys ++ [key] := by
  induction keys with
  | nil => rfl
  | cons k rest ih =>
    rw [List.cons_append, distinct, distinct, ih]
    by_cases hrest : ∃ l ∈ rest, l.token = key.token
    · have hall : ∃ l ∈ k :: rest, l.token = key.token := by
        obtain ⟨l, hl, heq⟩ := hrest
        exact ⟨l, List.mem_cons_of_mem _ hl, heq⟩
      rw [if_pos hrest, if_pos hall]
    · rw [if_neg hrest, List.filter_append]
      by_cases hk : k.token = key.token
      · have hall : ∃ l ∈ k :: rest, l.token = key.token := ⟨k, List.mem_cons_self, hk⟩
        rw [if_pos hall]
        simp [hk]
      · have hnone : ¬∃ l ∈ k :: rest, l.token = key.token := by
          rintro ⟨l, hl, heq⟩
          rcases List.mem_cons.1 hl with rfl | hl
          · exact hk heq
          · exact hrest ⟨l, hl, heq⟩
        rw [if_neg hnone]
        simp [Ne.symm hk]

/-- Of the keys with one token the first is kept. -/
theorem firstSeen_distinct (keys : List Literal) :
    FirstSeen Literal.token keys (distinct keys) := by
  induction keys using List.reverseRecOn with
  | nil => exact .nil
  | append_singleton keys key ih =>
    rw [distinct_concat]
    split
    · rename_i hseen
      exact ih.again hseen
    · rename_i hnew
      exact ih.first fun k hk heq => hnew ⟨k, hk, heq⟩

/-! ## Rows by token -/

section

/-- The column holds a key. -/
def HasKey (column : String) (row : Row) : Prop := ∃ j, row.find? column = some j ∧ j ≠ .null

/-- The column holds a value of that token. -/
def Answers (column token : String) (row : Row) : Bool :=
  (row.find? column).map Json.text == some token

/-- The last of some rows with a token. -/
def lastRow? (column token : String) (rows : List Row) : Option Row :=
  (rows.filter (Answers column token)).getLast?

variable {column token : String} {row : Row} {rows : List Row}

theorem lastRow?_mem (h : lastRow? column token rows = some row) :
    row ∈ rows ∧ (row.find? column).map Json.text = some token := by
  obtain ⟨hmem, hanswers⟩ := List.mem_filter.1 (List.mem_of_getLast? h)
  exact ⟨hmem, by simpa [Answers] using hanswers⟩

/-- The text of the value in a column; of use where there is one. -/
def textOf (column : String) (row : Row) : String := ((row.find? column).map Json.text).getD ""

theorem rowToken_ok (h : HasKey column row) : rowToken column row = .ok (textOf column row) := by
  obtain ⟨j, hj, hnull⟩ := h
  unfold rowToken textOf
  rw [hj]
  cases j with
  | null => exact absurd rfl hnull
  | _ => rfl

theorem rowToken_error (h : ¬HasKey column row) : rowToken column row = .error (.rowShape column) := by
  unfold rowToken
  split
  · rfl
  · rfl
  · rename_i j hnull hj
    exact absurd ⟨j, hj, hnull⟩ h

theorem answers_iff_textOf (h : HasKey column row) :
    (textOf column row == token) = Answers column token row := by
  obtain ⟨j, hj, -⟩ := h
  simp [textOf, Answers, hj]

/-- A map of rows by token finds the last row of a token. -/
theorem find?_ofList_rows {α : Type} (value : Row → α) (h : ∀ row ∈ rows, HasKey column row) :
    (Keyed.ofList (rows.map fun row => (textOf column row, value row))).find? token =
      (lastRow? column token rows).map value := by
  have hfilter : (rows.map fun row => (textOf column row, value row)).filter
      (fun p => p.1 == token) =
        (rows.filter (Answers column token)).map fun row => (textOf column row, value row) := by
    rw [List.filter_map]
    exact congrArg _ (List.filter_congr fun row hrow => answers_iff_textOf (h row hrow))
  rw [Keyed.find?_ofList, hfilter, List.getLast?_map, Option.map_map]
  rfl

theorem parents_ok (h : ∀ row ∈ rows, HasKey column row) :
    ∃ m, parents column rows = .ok m ∧ ∀ token, m.find? token = lastRow? column token rows := by
  have hrows : rows.mapM (fun row => (rowToken column row).map (·, row)) =
      .ok (rows.map fun row => (textOf column row, row)) :=
    mapM_eq_ok fun row hrow => by rw [rowToken_ok (h row hrow)]; rfl
  refine ⟨Keyed.ofList (rows.map fun row => (textOf column row, row)), ?_, fun token => ?_⟩
  · rw [parents, hrows]
    rfl
  · rw [find?_ofList_rows (fun row => row) h, Option.map_id']

theorem parents_fail (hrow : row ∈ rows) (h : ¬HasKey column row) :
    ∃ e, parents column rows = .error e := by
  have hstep : (rowToken column row).map (·, row) = .error (.rowShape column) := by
    rw [rowToken_error h]
    rfl
  obtain ⟨e, he⟩ := mapM_eq_error (f := fun row => (rowToken column row).map (·, row)) hrow hstep
  exact ⟨e, by rw [parents, he]; rfl⟩

theorem parents_error {e : ExecutionError} (h : parents column rows = .error e) :
    e = .rowShape column := by
  obtain ⟨row, -, hrow⟩ := exists_of_mapM_eq_error (map_eq_error.1 h)
  have hrow := map_eq_error.1 hrow
  by_cases hkey : HasKey column row
  · rw [rowToken_ok hkey] at hrow
    cases hrow
  · rw [rowToken_error hkey] at hrow
    exact (Except.error.inj hrow).symm

/-! ## Children -/

/-- The children that a cell holds. -/
inductive Holds : Option Json → List Json → Prop
  | absent : Holds none []
  | null : Holds (some .null) []
  | array (items : List Json) : Holds (some (.array items)) items
  | text {s : String} {items : List Json} :
      Json.ofText? s = some (.array items) → Holds (some (.string s)) items

theorem array_ok_iff {cell : Option Json} {items : List Json} :
    array cell = .ok items ↔ Holds cell items := by
  constructor
  · intro h
    unfold array at h
    split at h
    · cases h
      exact .absent
    · cases h
      exact .null
    · cases h
      exact .array _
    · split at h
      · cases h
      · rename_i htext
        cases h
        exact .text htext
      · cases h
    · cases h
  · intro h
    cases h with
    | absent => rfl
    | null => rfl
    | array items => rfl
    | text htext => simp [array, htext]

theorem array_error {cell : Option Json} {e : ExecutionError} (h : array cell = .error e) :
    ∃ fault, e = .malformedRow fault := by
  unfold array at h
  split at h <;> try cases h
  · split at h <;> cases h <;> exact ⟨_, rfl⟩
  · exact ⟨_, rfl⟩

/-- The row tells whose children it holds. -/
structure Family (row : Row) : Prop where
  parent : HasKey parentKeyColumn row
  children : ∃ items, Holds (row.find? childrenColumn) items

/-- The children in a row; of use where it holds some. -/
def childrenOf (row : Row) : List Json :=
  match array (row.find? childrenColumn) with
  | .ok items => items
  | .error _ => []

theorem holds_childrenOf (h : Family row) : Holds (row.find? childrenColumn) (childrenOf row) := by
  obtain ⟨items, hitems⟩ := h.children
  unfold childrenOf
  rw [array_ok_iff.2 hitems]
  exact hitems

theorem family_ok (h : Family row) :
    family row = .ok (textOf parentKeyColumn row, childrenOf row) := by
  unfold family
  rw [rowToken_ok h.parent, array_ok_iff.2 (holds_childrenOf h)]
  rfl

theorem family_of_ok {p : String × List Json} (h : family row = .ok p) : Family row := by
  unfold family at h
  by_cases hkey : HasKey parentKeyColumn row
  · rw [rowToken_ok hkey] at h
    obtain ⟨items, hitems, -⟩ := map_eq_ok.1 h
    exact ⟨hkey, items, array_ok_iff.1 hitems⟩
  · rw [rowToken_error hkey] at h
    cases h

theorem family_error {e : ExecutionError} (h : family row = .error e) :
    e = .rowShape parentKeyColumn ∨ ∃ fault, e = .malformedRow fault := by
  unfold family at h
  by_cases hkey : HasKey parentKeyColumn row
  · rw [rowToken_ok hkey] at h
    exact .inr (array_error (map_eq_error.1 h))
  · rw [rowToken_error hkey] at h
    exact .inl (Except.error.inj h).symm

theorem children_ok (h : ∀ row ∈ rows, Family row) :
    ∃ m, children rows = .ok m ∧
      ∀ token, m.find? token = (lastRow? parentKeyColumn token rows).map childrenOf := by
  have hrows := mapM_eq_ok (f := family) fun row hrow => family_ok (h row hrow)
  refine ⟨Keyed.ofList (rows.map fun row => (textOf parentKeyColumn row, childrenOf row)), ?_,
    fun token => find?_ofList_rows childrenOf fun row hrow => (h row hrow).parent⟩
  rw [children, hrows]
  rfl

theorem children_fail (hrow : row ∈ rows) (h : ¬Family row) : ∃ e, children rows = .error e := by
  cases hstep : family row with
  | ok p => exact absurd (family_of_ok hstep) h
  | error e =>
    obtain ⟨e', he⟩ := mapM_eq_error (f := family) hrow hstep
    exact ⟨e', by rw [children, he]; rfl⟩

theorem children_error {e : ExecutionError} (h : children rows = .error e) :
    e = .rowShape parentKeyColumn ∨ ∃ fault, e = .malformedRow fault := by
  obtain ⟨row, -, hrow⟩ := exists_of_mapM_eq_error (map_eq_error.1 h)
  exact family_error hrow

end

/-! ## Merged rows -/

/-- The children of a parent: those in the last row for it, none without such a row. -/
def ChildrenOf (replies : List Row) (token : String) (items : List Json) : Prop :=
  match lastRow? parentKeyColumn token replies with
  | none => items = []
  | some row => Holds (row.find? childrenColumn) items

/-- The row of a key: the last parent with the key, and its children in a field. -/
def RowOf (keyColumn field : String) (parents children : List Row) (key : Literal) (row : Row) :
    Prop :=
  ∃ parent items, lastRow? keyColumn key.token parents = some parent ∧
    ChildrenOf children key.token items ∧ row = parent.insert field (.array items)

/-- One row for each key that has a parent, in the order of the keys. -/
def Merged (keyColumn field : String) (parents children : List Row) (keys : List Literal)
    (merged : List Row) : Prop :=
  List.Forall₂ (RowOf keyColumn field parents children)
    (keys.filter fun key => (lastRow? keyColumn key.token parents).isSome) merged

/-- The maps of both replies make the rows of the keys. -/
theorem rows_merged {keyColumn field : String} {D C : List Row} {ps : Keyed Row}
    {cs : Keyed (List Json)} (hps : ∀ token, ps.find? token = lastRow? keyColumn token D)
    (hC : ∀ row ∈ C, Family row)
    (hcs : ∀ token, cs.find? token = (lastRow? parentKeyColumn token C).map childrenOf)
    (keys : List Literal) : Merged keyColumn field D C keys (rows field ps cs keys) := by
  induction keys with
  | nil => exact .nil
  | cons key rest ih =>
    unfold Merged rows at ih ⊢
    rw [List.filterMap_cons, row?, hps, List.filter_cons]
    cases hparent : lastRow? keyColumn key.token D with
    | none => exact ih
    | some parent =>
      refine .cons ⟨parent, (cs.find? key.token).getD [], hparent, ?_, rfl⟩ ih
      unfold ChildrenOf
      rw [hcs]
      cases hlast : lastRow? parentKeyColumn key.token C with
      | none => rfl
      | some row => exact holds_childrenOf (hC row (lastRow?_mem hlast).1)

/-- The row is a parent of the key, with an array in the field. -/
def Serves (keyColumn field : String) (key : Literal) (row : Row) : Prop :=
  ∃ parent : Row, ∃ items, (parent.find? keyColumn).map Json.text = some key.token ∧
    row = parent.insert field (.array items) ∧ row.find? field = some (.array items)

theorem RowOf.serves {keyColumn field : String} {D C : List Row} {key : Literal} {row : Row}
    (h : RowOf keyColumn field D C key row) : Serves keyColumn field key row := by
  obtain ⟨parent, items, hparent, -, rfl⟩ := h
  exact ⟨parent, items, (lastRow?_mem hparent).2, rfl, by rw [Keyed.find?_insert, if_pos rfl]⟩

/-- Merged rows serve different keys. -/
theorem Merged.serves {keyColumn field : String} {D C merged : List Row} {K keys : List Literal}
    (h : Merged keyColumn field D C keys merged) (hkeys : FirstSeen Literal.token K keys) :
    ∃ served, served ⊆ K ∧ (served.map Literal.token).Nodup ∧
      List.Forall₂ (Serves keyColumn field) served merged :=
  ⟨_, List.Subset.trans (List.filter_sublist.subset) hkeys.subset,
    hkeys.nodup.sublist (List.filter_sublist.map _), h.imp fun _ _ => RowOf.serves⟩

end Merge

end GuardedQuery
