import GuardedQuery.Proofs.Allowlist.Entry
import GuardedQuery.Proofs.FirstSeen
import GuardedQuery.Proofs.Statement.Permitted

/-!
# Relations

Every key of a relation is to stand for a plain column of its table (`Column.plainName?`). A relation is
checked with success exactly if all keys do, the table is listed and no view, and there are keys and
columns (`Relation.Acceptable`, `Relation.exists_compile`). The aggregate has the names of the columns
(`Relation.Gives`), and its derived table has each of them once, the foreign key first
(`Aggregate.derivedColumns_firstSeen`).
-/

namespace GuardedQuery

/-! ## Plain columns -/

namespace Column

/-- The name of the plain column that a key stands for. -/
def plainName? (columns : List Column) (key : String) : Option String :=
  match resolve? columns key with
  | some c => if c.isPlain then some c.expression else none
  | none => none

/-- A plain column that was read from an entry is an identifier. -/
theorem isIdentifier_of_isPlain {text : String} {c : Column} (h : ofEntry? text = some c)
    (hplain : c.isPlain = true) : Text.isIdentifier c.expression = true := by
  obtain ⟨⟨cs, rest, hname⟩, -⟩ := ofEntry?_ok h
  have hdot : '.' ∉ c.expression.toList := by
    simp only [isPlain, Bool.and_eq_true, Bool.not_eq_true', List.contains_eq_mem,
      decide_eq_false_iff_not] at hplain
    exact hplain.2
  unfold Text.qualifiedName? at hname
  split at hname
  case h_1 => cases hname
  case h_2 first tail _ =>
    obtain ⟨⟨second, _⟩, -, heq⟩ := Option.map_eq_some_iff.1 hname
    rw [Prod.mk.injEq] at heq
    rw [← heq.1] at hdot
    exact absurd (List.mem_append_right _ List.mem_cons_self) hdot
  case h_3 first tail _ hfirst =>
    rw [Option.some.injEq, Prod.mk.injEq] at hname
    rw [hname.1] at hfirst
    have hread := Text.identifier?_append hfirst (t := []) (by simp)
    rw [List.append_nil] at hread
    rw [Text.isIdentifier, hread]

end Column

/-! ## Names of columns -/

namespace Aggregate

variable {columns : List Column}

theorem plainColumn_eq_ok {position : Position} {key name : String} :
    plainColumn columns position key = .ok name ↔ Column.plainName? columns key = some name := by
  unfold plainColumn Target.column Column.plainName?
  cases Column.resolve? columns key with
  | none => simp
  | some c => cases hplain : c.isPlain <;> simp [hplain]

/-- A name that is appended unless it is present is a name that is seen next. -/
theorem firstSeen_appendNew {xs ys : List String} (h : FirstSeen id xs ys) (name : String) :
    FirstSeen id (xs ++ [name]) (appendNew ys name) := by
  have hmem : name ∈ ys ↔ name ∈ xs := by
    refine ⟨fun hname => h.subset hname, fun hname => ?_⟩
    obtain ⟨b, hb, rfl⟩ := h.exists_mem name hname
    exact hb
  unfold appendNew
  split
  · rename_i hpresent
    exact h.again ⟨name, hmem.1 (by simpa using hpresent), rfl⟩
  · rename_i hnew
    refine h.first fun b hb heq => hnew ?_
    have hname : name ∈ ys := hmem.2 (by rwa [← show b = name from heq])
    simpa using hname

theorem firstSeen_foldl_appendNew {xs ys : List String} (h : FirstSeen id xs ys)
    (names : List String) : FirstSeen id (xs ++ names) (names.foldl appendNew ys) := by
  induction names generalizing xs ys with
  | nil => simpa using h
  | cons name rest ih =>
    have hrest := ih (firstSeen_appendNew h name)
    rwa [List.append_assoc, List.singleton_append] at hrest

theorem prefix_foldl_appendNew (names start : List String) : start <+: names.foldl appendNew start := by
  induction names generalizing start with
  | nil => exact List.prefix_refl _
  | cons name rest ih =>
    refine List.IsPrefix.trans ?_ (ih _)
    unfold appendNew
    split
    · exact List.prefix_refl _
    · exact List.prefix_append _ _

/-- The names of the members are those that the keys stand for, each once. -/
theorem memberNames_eq_ok {start keys result : List String} :
    memberNames columns start keys = .ok result ↔
      ∃ names : List String, names.map some = keys.map (Column.plainName? columns) ∧
        names.foldl appendNew start = result := by
  rw [memberNames_eq_mapM, map_eq_ok]
  refine exists_congr fun names => and_congr_left' ?_
  rw [eq_comm (a := names.map some), ← List.forall₂_eq_eq_eq, List.forall₂_map_left_iff,
    List.forall₂_map_right_iff, mapM_eq_ok_iff]
  simp only [plainColumn_eq_ok]

/-- The terms of the order have the names that their keys stand for. -/
theorem orderTerms_eq_ok {terms : List (SortTerm String)} {order : List (String × Direction)} :
    orderTerms columns terms = .ok order ↔
      order.map (fun x => (some x.1, x.2)) =
        terms.map fun t => (Column.plainName? columns t.key, t.direction) := by
  have hterm : ∀ (t : SortTerm String) (x : String × Direction),
      (∃ name, Column.plainName? columns t.key = some name ∧ (name, t.direction) = x) ↔
        (Column.plainName? columns t.key, t.direction) = (some x.1, x.2) := by
    rintro t ⟨n, direction⟩
    simp
  rw [eq_comm (a := order.map _), ← List.forall₂_eq_eq_eq, List.forall₂_map_left_iff,
    List.forall₂_map_right_iff, orderTerms_eq_mapM, mapM_eq_ok_iff]
  simp only [map_eq_ok, plainColumn_eq_ok, hterm]

end Aggregate

/-! ## Checking -/

/-- What a relation must be: there are keys and columns, the table is listed and no view, and every key
of the relation stands for a plain column. -/
structure Relation.Acceptable (a : Allowlist) (r : Relation) (keys : List Literal) : Prop where
  keys : keys ≠ []
  columns : r.columns ≠ []
  listed : (a.columns? r.table).isSome
  table : a.view? r.table = none
  foreignKey : (Column.plainName? (a.permitted r.table) r.foreignKey).isSome
  members : ∀ key ∈ r.columns, (Column.plainName? (a.permitted r.table) key).isSome
  order : ∀ t ∈ r.order, (Column.plainName? (a.permitted r.table) t.key).isSome

/-- The aggregate of a relation: the names of its columns, the members in the order in which they are
first seen. -/
structure Relation.Gives (a : Allowlist) (r : Relation) (keys : List Literal) (g : Aggregate) :
    Prop where
  table : g.table = r.table
  keys : g.keys = keys
  foreignKey : Column.plainName? (a.permitted r.table) r.foreignKey = some g.foreignKey
  members : ∃ names : List String,
    names.map some = r.columns.map (Column.plainName? (a.permitted r.table)) ∧
      FirstSeen id names g.members
  order : g.order.map (fun x => (some x.1, x.2)) =
    r.order.map fun t => (Column.plainName? (a.permitted r.table) t.key, t.direction)

namespace Aggregate

variable {a : Allowlist} {r : Relation} {keys : List Literal}

theorem check_gives {g : Aggregate} (h : check a r keys = .ok g) : r.Gives a keys g := by
  obtain ⟨columns, hcolumns, -, hforeign, hmembers, horder, htable, hkeys⟩ := check_ok h
  have hpermitted : a.permitted r.table = columns := by rw [Allowlist.permitted, hcolumns]; rfl
  obtain ⟨names, hnames, hseen⟩ := memberNames_eq_ok.1 hmembers
  rw [← hpermitted] at hforeign hnames horder
  refine ⟨htable, hkeys, plainColumn_eq_ok.1 hforeign, ⟨names, hnames, ?_⟩, orderTerms_eq_ok.1 horder⟩
  rw [← hseen]
  exact firstSeen_foldl_appendNew .nil names

/-- If every key stands for a name, so does a list of keys. -/
theorem exists_memberNames {columns : List Column} {keys : List String}
    (h : ∀ key ∈ keys, (Column.plainName? columns key).isSome) :
    ∃ names, memberNames columns [] keys = .ok names := by
  obtain ⟨names, hnames⟩ : ∃ names, keys.mapM (plainColumn columns .select) = .ok names := by
    refine exists_mapM_iff.2 fun key hkey => ?_
    obtain ⟨n, hn⟩ := Option.isSome_iff_exists.1 (h key hkey)
    exact ⟨n, plainColumn_eq_ok.2 hn⟩
  exact ⟨_, by rw [memberNames_eq_mapM, hnames]; rfl⟩

theorem exists_orderTerms {columns : List Column} {terms : List (SortTerm String)}
    (h : ∀ t ∈ terms, (Column.plainName? columns t.key).isSome) :
    ∃ order, orderTerms columns terms = .ok order := by
  simp only [orderTerms_eq_mapM]
  refine exists_mapM_iff.2 fun t ht => ?_
  obtain ⟨n, hn⟩ := Option.isSome_iff_exists.1 (h t ht)
  exact ⟨(n, t.direction), map_eq_ok.2 ⟨n, plainColumn_eq_ok.2 hn, rfl⟩⟩

/-- What is checked with success is acceptable. -/
theorem check_acceptable {g : Aggregate} (h : check a r keys = .ok g) : r.Acceptable a keys := by
  obtain ⟨columns, hcolumns, hview, -⟩ := check_ok h
  obtain ⟨-, -, hforeign, ⟨names, hnames, -⟩, horder⟩ := check_gives h
  unfold check at h
  dsimp only at h
  split at h
  · cases h
  rename_i hkeys
  split at h
  · cases h
  rename_i hlist
  refine ⟨by simpa using hkeys, by simpa using hlist, by rw [hcolumns]; rfl, hview,
    by rw [hforeign]; rfl, fun key hkey => ?_, fun t ht => ?_⟩
  · have hmem := List.mem_map_of_mem (f := Column.plainName? (a.permitted r.table)) hkey
    rw [← hnames] at hmem
    obtain ⟨n, -, hn⟩ := List.mem_map.1 hmem
    rw [← hn]
    rfl
  · have hmem := List.mem_map_of_mem
      (f := fun t => (Column.plainName? (a.permitted r.table) t.key, t.direction)) ht
    rw [← horder] at hmem
    obtain ⟨x, -, hx⟩ := List.mem_map.1 hmem
    have hname : some x.1 = Column.plainName? (a.permitted r.table) t.key := congrArg Prod.fst hx
    rw [← hname]
    rfl

/-- **What is acceptable is checked with success.** -/
theorem exists_check (h : r.Acceptable a keys) : ∃ g, check a r keys = .ok g := by
  obtain ⟨columns, hcolumns⟩ := Option.isSome_iff_exists.1 h.listed
  have hpermitted : a.permitted r.table = columns := by rw [Allowlist.permitted, hcolumns]; rfl
  obtain ⟨foreignKey, hforeign⟩ := Option.isSome_iff_exists.1 h.foreignKey
  obtain ⟨names, hnames⟩ := exists_memberNames h.members
  obtain ⟨order, horder⟩ := exists_orderTerms h.order
  rw [hpermitted] at hforeign hnames horder
  refine ⟨⟨r.table, foreignKey, names, order, keys⟩, ?_⟩
  unfold check
  simp only [List.isEmpty_iff, h.keys, h.columns, hcolumns, h.table, plainColumn_eq_ok.2 hforeign,
    hnames, horder]
  rfl

end Aggregate

/-- **Exactly the acceptable relations have a statement**, wherever children can be folded. -/
theorem Relation.exists_compile {a : Allowlist} {d : Dialect} (hd : d ≠ .mssql) {r : Relation}
    {keys : List Literal} : (∃ s, r.compile a d keys = .ok s) ↔ r.Acceptable a keys := by
  constructor
  · rintro ⟨s, hs⟩
    obtain ⟨g, -, -, hg, -, -⟩ := compile_ok hs
    exact Aggregate.check_acceptable hg
  · intro h
    obtain ⟨g, hg⟩ := Aggregate.exists_check h
    obtain ⟨f, hf⟩ : ∃ f, d.folding? = some f := by
      cases d
      case mssql => exact absurd rfl hd
      all_goals exact ⟨_, rfl⟩
    exact ⟨_, by rw [compile, hg, hf]⟩

/-! ## Derived tables -/

namespace Aggregate

/-- The parameters of the statement are the keys. -/
theorem literals_template (f : Folding) (g : Aggregate) : (g.template f).literals = g.keys := by
  simp [template, Template.literals_bindAll]

variable (g : Aggregate)

/-- The derived table has the foreign key, the members and the terms of the order, each once. -/
theorem derivedColumns_firstSeen :
    FirstSeen id (g.foreignKey :: (g.members ++ g.order.map Prod.fst)) g.derivedColumns := by
  have hstart : FirstSeen id [g.foreignKey] [g.foreignKey] := .of_nodup (by simp)
  exact firstSeen_foldl_appendNew hstart _

theorem head?_derivedColumns : g.derivedColumns.head? = some g.foreignKey := by
  obtain ⟨rest, hrest⟩ := prefix_foldl_appendNew (g.members ++ g.order.map Prod.fst) [g.foreignKey]
  rw [derivedColumns, ← hrest]
  rfl

theorem nodup_derivedColumns : g.derivedColumns.Nodup := by
  simpa using g.derivedColumns_firstSeen.nodup

theorem mem_derivedColumns {n : String} :
    n ∈ g.derivedColumns ↔ n ∈ g.foreignKey :: (g.members ++ g.order.map Prod.fst) := by
  refine ⟨fun hn => g.derivedColumns_firstSeen.subset hn, fun hn => ?_⟩
  obtain ⟨b, hb, rfl⟩ := g.derivedColumns_firstSeen.exists_mem n hn
  exact hb

end Aggregate

end GuardedQuery
