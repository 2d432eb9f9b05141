import Mathlib.Algebra.Group.Nat.Defs
import GuardedQuery.Proofs.Allowlist.Sound
import GuardedQuery.Proofs.Statement.Tests
import GuardedQuery.Statement.Aggregate
import GuardedQuery.Statement.Insert

/-!
# What a checked request is made of

`Payload.check_eq_ok` and `KeyLookup.check_eq_ok` say which steps a successful check goes through and
what it makes; `Payload.check_ok` and `KeyLookup.check_ok` say it of the parts. From them
`Select.Permitted a o table s` follows for every checked select (`Payload.check_permitted`,
`KeyLookup.check_permitted`): columns, tests and order come from the columns of `table`, the source
and the joins from its view, or from the server's override. The columns of a checked aggregate and of
an insert are plain columns of the table (`Aggregate.check_permitted`, `Insert.compile_ok`).
-/

namespace GuardedQuery

open Text

namespace Allowlist

/-- The columns permitted on a table or view. -/
def permitted (a : Allowlist) (table : String) : List Column := (a.columns? table).getD []

/-- The view of that name; a table is the view of itself without joins. -/
def viewOf (a : Allowlist) (table : String) : View := (a.view? table).getD ⟨⟨table, none⟩, []⟩

theorem Sound.permitted {a : Allowlist} (h : a.Sound) {table : String} {c : Column}
    (hc : c ∈ a.permitted table) : c.Sound := by
  unfold Allowlist.permitted at hc
  cases hcols : a.columns? table with
  | none => simp [hcols] at hc
  | some columns => exact h.columns table columns hcols c (by simpa [hcols] using hc)

theorem Sound.viewOf {a : Allowlist} (h : a.Sound) {table : String} {columns : List Column}
    (hcols : a.columns? table = some columns) : (a.viewOf table).Sound := by
  unfold Allowlist.viewOf
  cases hview : a.view? table with
  | none => exact ⟨⟨h.table table columns hcols, by simp⟩, by simp⟩
  | some v => exact h.view table v hview

end Allowlist

/-- The texts of a view. -/
def View.texts (v : View) : List String :=
  v.source.table :: v.source.aliasName.toList ++
    v.joins.flatMap fun j => j.table :: j.aliasName.toList ++ [j.on]

/-- The texts of the allowlist on a table or view: its entries, its FROM reference and its joins. -/
def Allowlist.texts (a : Allowlist) (table : String) : List String :=
  (a.permitted table).map Column.entry ++ (a.viewOf table).texts

/-- The texts of a sound allowlist consist of names, equality signs and blanks. -/
theorem Allowlist.Sound.texts {a : Allowlist} (ha : a.Sound) {table : String}
    {columns : List Column} (hcolumns : a.columns? table = some columns) :
    ∀ s ∈ a.texts table, ∀ c ∈ s.toList, isJoinChar c = true := by
  have name : ∀ {s}, IsName s → ∀ c ∈ s.toList, isJoinChar c = true := fun h c hc =>
    isJoinChar_of_name (h.2 c hc)
  have hview := ha.viewOf hcolumns
  intro s hs
  rcases List.mem_append.1 hs with hs | hs
  · obtain ⟨c, hc, rfl⟩ := List.mem_map.1 hs
    obtain ⟨hexpression, halias⟩ := ha.permitted hc
    cases hn : c.aliasName with
    | none => simpa [Column.entry, hn] using name hexpression
    | some n =>
      simp only [Column.entry, hn, String.toList_append, List.forall_mem_append]
      exact ⟨⟨name hexpression, List.all_eq_true.1 (by decide)⟩, name (halias n hn)⟩
  · rcases List.mem_append.1 hs with hs | hs
    · rcases List.mem_cons.1 hs with rfl | hs
      · exact name hview.source.table
      · exact name (hview.source.aliasName s (by simpa using hs))
    · obtain ⟨j, hj, hs⟩ := List.mem_flatMap.1 hs
      have hjoin := hview.joins j hj
      rcases List.mem_append.1 hs with hs | hs
      · rcases List.mem_cons.1 hs with rfl | hs
        · exact name hjoin.table.table
        · exact name (hjoin.table.aliasName s (by simpa using hs))
      · rw [List.mem_singleton.1 hs]
        exact hjoin.on

/-! ## Steps of a check -/

theorem Target.find_ok {a : Allowlist} {requested : Option String} {clientJoins : List Join}
    {o : Override} {t : Target} (h : find a requested clientJoins o = .ok t) :
    requested = some t.name ∧ a.columns? t.name = some t.columns ∧
      t.source = (a.viewOf t.name).source ∧
      t.joins = if o.joins.isEmpty then (a.viewOf t.name).joins else o.joins := by
  unfold find at h
  split at h
  · cases h
  · split at h
    · cases h
    · rename_i name _ columns hcols
      dsimp only at h
      split at h
      · cases h
      · cases h
        exact ⟨rfl, hcols, rfl, rfl⟩

/-- The columns of a target are those permitted on it. -/
theorem Target.columns_eq {a : Allowlist} {requested : Option String} {clientJoins : List Join}
    {o : Override} {t : Target} (h : find a requested clientJoins o = .ok t) :
    t.columns = a.permitted t.name := by
  simp [Allowlist.permitted, (find_ok h).2.1]

theorem Target.sound {a : Allowlist} (ha : a.Sound) {requested : Option String}
    {clientJoins : List Join} {o : Override} {t : Target}
    (h : find a requested clientJoins o = .ok t) : ∀ c ∈ t.columns, c.Sound := by
  rw [columns_eq h]
  exact fun _ => ha.permitted

/-- The window that a payload asks for. -/
def Payload.window {κ : Type} (p : Payload κ) : Window :=
  ⟨p.limit.map UInt64.toNat, p.offset.map UInt64.toNat⟩

theorem Payload.checkWindow_ok {p : Payload String} {w : Window} (h : p.checkWindow = .ok w) :
    w = p.window := by
  unfold checkWindow at h
  dsimp only at h
  split at h
  · cases h
  · split at h
    · cases h
    · cases h
      rfl

theorem Payload.checkWindow_bounds {p : Payload String} {w : Window} (h : p.checkWindow = .ok w) :
    w.limit ≠ some 0 ∧ ∀ n ∈ w.limit.toList ++ w.offset.toList, n < 2 ^ 63 := by
  unfold checkWindow at h
  dsimp only at h
  split at h
  · cases h
  · rename_i hlimit
    split at h
    · cases h
    · rename_i hbounds
      cases h
      refine ⟨hlimit, fun n hn => ?_⟩
      have hle : ¬ maxWindowBound < n := fun hlt =>
        hbounds (List.any_eq_true.2 ⟨n, hn, decide_eq_true hlt⟩)
      exact Nat.lt_of_le_of_lt (Nat.not_lt.1 hle) (by decide)

/-- The steps of a successful check and what they make. -/
theorem Payload.check_eq_ok {a : Allowlist} {o : Override} {fallback : Option String}
    {p : Payload String} {c : Checked} : check a o fallback p = .ok c ↔
      p.select.isEmpty = false ∧ ∃ window target selection restrictions order,
        p.checkWindow = .ok window ∧
        Target.find a (o.table <|> p.source <|> fallback) p.joins o = .ok target ∧
        Selection.ofKeys target.columns p.select = .ok selection ∧
        Restriction.ofFilters target.columns a.maxDepth.toNat o.scope p.filter = .ok restrictions ∧
        orderTerms target.columns p.order = .ok order ∧
        c = ⟨⟨selection.columns, target.source, target.joins, restrictions, order, window⟩,
          selection.keys, target.name⟩ := by
  unfold check
  dsimp only
  cases p.select.isEmpty with
  | true =>
    refine ⟨fun h => ?_, fun h => ?_⟩
    · cases h
    · cases h.1
  | false =>
    refine ⟨fun h => ⟨rfl, ?_⟩, ?_⟩
    · obtain ⟨window, hwindow, h⟩ := bind_eq_ok.1 h
      obtain ⟨target, htarget, h⟩ := bind_eq_ok.1 h
      obtain ⟨selection, hselection, h⟩ := bind_eq_ok.1 h
      obtain ⟨restrictions, hrestrictions, h⟩ := bind_eq_ok.1 h
      obtain ⟨order, horder, h⟩ := bind_eq_ok.1 h
      cases h
      exact ⟨window, target, selection, restrictions, order, hwindow, htarget, hselection,
        hrestrictions, horder, rfl⟩
    · rintro ⟨-, window, target, selection, restrictions, order, hwindow, htarget, hselection,
        hrestrictions, horder, rfl⟩
      exact bind_eq_ok.2 ⟨window, hwindow, bind_eq_ok.2 ⟨target, htarget, bind_eq_ok.2 ⟨selection,
        hselection, bind_eq_ok.2 ⟨restrictions, hrestrictions, bind_eq_ok.2 ⟨order, horder, rfl⟩⟩⟩⟩⟩

theorem Payload.check_ok {a : Allowlist} {o : Override} {fallback : Option String}
    {p : Payload String} {c : Checked} (h : check a o fallback p = .ok c) :
    ∃ target selection,
      Target.find a (o.table <|> p.source <|> fallback) p.joins o = .ok target ∧
      Selection.ofKeys target.columns p.select = .ok selection ∧
      Restriction.ofFilters target.columns a.maxDepth.toNat o.scope p.filter =
        .ok c.select.restrictions ∧
      orderTerms target.columns p.order = .ok c.select.order ∧
      p.checkWindow = .ok c.select.window ∧ c.select.columns = selection.columns ∧
      c.select.source = target.source ∧ c.select.joins = target.joins ∧
      c.requested = selection.keys ∧ c.table = target.name := by
  obtain ⟨-, window, target, selection, restrictions, order, hwindow, htarget, hselection,
    hrestrictions, horder, rfl⟩ := check_eq_ok.1 h
  exact ⟨target, selection, htarget, hselection, hrestrictions, horder, hwindow, rfl, rfl, rfl, rfl, rfl⟩

/-- The filter of a key lookup: the key column has one of the keys. -/
def KeyLookup.filter (l : KeyLookup) (key : Column) : Group String :=
  ⟨.and, [.condition key.expression (.member false l.keys)]⟩

/-- The steps of a successful check and what they make. -/
theorem KeyLookup.check_eq_ok {a : Allowlist} {o : Override} {l : KeyLookup} {c : Payload.Checked} :
    check a o l = .ok c ↔
      l.keys.isEmpty = false ∧ l.select.isEmpty = false ∧ ∃ target key selection restrictions,
        Target.find a (o.table <|> some l.table) [] o = .ok target ∧
        Column.resolve? target.columns l.keyColumn = some key ∧
        Selection.ofKeys target.columns l.select = .ok selection ∧
        Restriction.ofFilters target.columns a.maxDepth.toNat o.scope (some (l.filter key)) =
          .ok restrictions ∧
        c = ⟨⟨Selection.append selection.columns key, target.source, target.joins, restrictions, [],
          ⟨none, none⟩⟩, selection.keys, target.name⟩ := by
  unfold check
  dsimp only
  cases l.keys.isEmpty with
  | true =>
    refine ⟨fun h => ?_, fun h => ?_⟩
    · cases h
    · cases h.1
  | false =>
    cases l.select.isEmpty with
    | true =>
      refine ⟨fun h => ?_, fun h => ?_⟩
      · cases h
      · cases h.2.1
    | false =>
      refine ⟨fun h => ⟨rfl, rfl, ?_⟩, ?_⟩
      · obtain ⟨target, htarget, h⟩ := bind_eq_ok.1 h
        obtain ⟨key, hkey, h⟩ := bind_eq_ok.1 h
        obtain ⟨selection, hselection, h⟩ := bind_eq_ok.1 h
        obtain ⟨restrictions, hrestrictions, h⟩ := bind_eq_ok.1 h
        cases h
        exact ⟨target, key, selection, restrictions, htarget, Target.column_ok.1 hkey, hselection,
          hrestrictions, rfl⟩
      · rintro ⟨-, -, target, key, selection, restrictions, htarget, hkey, hselection, hrestrictions,
          rfl⟩
        exact bind_eq_ok.2 ⟨target, htarget, bind_eq_ok.2 ⟨key, Target.column_ok.2 hkey, bind_eq_ok.2
          ⟨selection, hselection, bind_eq_ok.2 ⟨restrictions, hrestrictions, rfl⟩⟩⟩⟩

theorem KeyLookup.check_ok {a : Allowlist} {o : Override} {l : KeyLookup} {c : Payload.Checked}
    (h : check a o l = .ok c) :
    ∃ target key selection,
      Target.find a (o.table <|> some l.table) [] o = .ok target ∧
      Column.resolve? target.columns l.keyColumn = some key ∧
      Selection.ofKeys target.columns l.select = .ok selection ∧
      Restriction.ofFilters target.columns a.maxDepth.toNat o.scope (some (l.filter key)) =
        .ok c.select.restrictions ∧
      c.select.columns = Selection.append selection.columns key ∧ c.select.order = [] ∧
      c.select.window = ⟨none, none⟩ ∧ c.select.source = target.source ∧
      c.select.joins = target.joins ∧ c.requested = selection.keys ∧ c.table = target.name := by
  obtain ⟨-, -, target, key, selection, restrictions, htarget, hkey, hselection, hrestrictions, rfl⟩ :=
    check_eq_ok.1 h
  exact ⟨target, key, selection, htarget, hkey, hselection, hrestrictions, rfl, rfl, rfl, rfl, rfl, rfl,
    rfl⟩

/-! ## Columns -/

theorem Selection.mem_append {columns : List Column} {c d : Column}
    (h : d ∈ append columns c) : d ∈ columns ∨ d = c := by
  unfold append at h
  split at h
  · exact .inl h
  · simpa using h

/-- Selected columns are permitted. -/
theorem Selection.ofKeys_mem {permitted : List Column} {keys : List String} {s : Selection}
    (h : ofKeys permitted keys = .ok s) : ∀ c ∈ s.columns, c ∈ permitted := by
  have step : ∀ (keys : List String) (s s' : Selection), (∀ c ∈ s.columns, c ∈ permitted) →
      keys.foldlM (add permitted) s = .ok s' → ∀ c ∈ s'.columns, c ∈ permitted := by
    intro keys
    induction keys with
    | nil =>
      intro s s' hs h
      cases h
      exact hs
    | cons key keys ih =>
      intro s s' hs h
      rw [List.foldlM_cons] at h
      obtain ⟨t, ht, h⟩ := bind_eq_ok.1 h
      refine ih t s' (fun c hc => ?_) h
      unfold add at ht
      split at ht
      · cases ht
        exact hs c hc
      · obtain ⟨d, hd, rfl⟩ := map_eq_ok.1 ht
        rcases mem_append hc with hc | rfl
        · exact hs c hc
        · exact Column.resolve?_mem (Target.column_ok.1 hd)
  exact step keys ⟨[], []⟩ s (by simp) h

/-- Rows are sorted by permitted columns. -/
theorem Payload.orderTerms_eq_mapM (columns : List Column) (terms : List (SortTerm String)) :
    orderTerms columns terms = terms.mapM fun t =>
      (Target.column columns .sort t.key).map fun c => (c.expression, t.direction) := by
  induction terms with
  | nil => rfl
  | cons t rest ih =>
    rw [orderTerms, ih, List.mapM_cons]
    cases Target.column columns .sort t.key <;> rfl

/-- Each sort term is written as the reference of the column that its key names. -/
theorem Payload.orderTerms_eq_ok {columns : List Column} {terms : List (SortTerm String)}
    {order : List (String × Direction)} : orderTerms columns terms = .ok order ↔
      List.Forall₂ (fun t x => ∃ c, Column.resolve? columns t.key = some c ∧
        (c.expression, t.direction) = x) terms order := by
  simp only [orderTerms_eq_mapM, mapM_eq_ok_iff, map_eq_ok, Target.column_ok]

theorem Payload.orderTerms_mem {columns : List Column} {terms : List (SortTerm String)}
    {order : List (String × Direction)} (h : orderTerms columns terms = .ok order) :
    ∀ t ∈ order, ∃ c ∈ columns, c.expression = t.1 := by
  intro t ht
  rw [orderTerms_eq_mapM] at h
  obtain ⟨u, -, hu⟩ := exists_of_mapM_eq_ok h ht
  obtain ⟨c, hc, rfl⟩ := map_eq_ok.1 hu
  exact ⟨c, Column.resolve?_mem (Target.column_ok.1 hc), rfl⟩

theorem Payload.orderTerms_isEmpty {columns : List Column} {terms : List (SortTerm String)}
    {order : List (String × Direction)} (h : orderTerms columns terms = .ok order) :
    order.isEmpty = terms.isEmpty := by
  cases orderTerms_eq_ok.1 h <;> rfl

/-! ## Checked selects -/

/-- Everything in a select is permitted on the table, or the server's own. -/
structure Select.Permitted (a : Allowlist) (o : Override) (table : String) (s : Select) : Prop where
  known : ∃ columns, a.columns? table = some columns
  columns : ∀ c ∈ s.columns, c ∈ a.permitted table
  tests : ∀ t ∈ Restriction.testsAll s.restrictions, ∃ c ∈ a.permitted table, c.expression = t.1
  order : ∀ t ∈ s.order, ∃ c ∈ a.permitted table, c.expression = t.1
  source : s.source = (a.viewOf table).source
  joins : s.joins = if o.joins.isEmpty then (a.viewOf table).joins else o.joins

/-- A select over the columns of a target is permitted on it. -/
theorem Target.permitted {a : Allowlist} {requested : Option String} {clientJoins : List Join}
    {o : Override} {t : Target} (h : find a requested clientJoins o = .ok t) {s : Select}
    (hcolumns : ∀ c ∈ s.columns, c ∈ t.columns)
    (htests : ∀ x ∈ Restriction.testsAll s.restrictions, ∃ c ∈ t.columns, c.expression = x.1)
    (horder : ∀ x ∈ s.order, ∃ c ∈ t.columns, c.expression = x.1)
    (hsource : s.source = t.source) (hjoins : s.joins = t.joins) :
    s.Permitted a o t.name ∧ requested = some t.name := by
  obtain ⟨hrequested, hknown, hsource', hjoins'⟩ := find_ok h
  rw [columns_eq h] at hcolumns htests horder
  exact ⟨⟨⟨_, hknown⟩, hcolumns, htests, horder, hsource.trans hsource', hjoins.trans hjoins'⟩,
    hrequested⟩

/-- **A checked payload is permitted.** -/
theorem Payload.check_permitted {a : Allowlist} {o : Override} {fallback : Option String}
    {p : Payload String} {c : Checked} (h : check a o fallback p = .ok c) :
    c.select.Permitted a o c.table ∧ (o.table <|> p.source <|> fallback) = some c.table := by
  obtain ⟨target, selection, htarget, hselection, hrestrictions, horder, -, hcolumns, hsource, hjoins,
    -, htable⟩ := check_ok h
  rw [htable]
  refine Target.permitted htarget ?_ (Restriction.ofNodes_permitted hrestrictions)
    (orderTerms_mem horder) hsource hjoins
  rw [hcolumns]
  exact Selection.ofKeys_mem hselection

/-- **A checked key lookup is permitted.** -/
theorem KeyLookup.check_permitted {a : Allowlist} {o : Override} {l : KeyLookup}
    {c : Payload.Checked} (h : check a o l = .ok c) :
    c.select.Permitted a o c.table ∧ (o.table <|> some l.table) = some c.table := by
  obtain ⟨target, key, selection, htarget, hkey, hselection, hrestrictions, hcolumns, horder, -,
    hsource, hjoins, -, htable⟩ := check_ok h
  rw [htable]
  refine Target.permitted htarget ?_ (Restriction.ofNodes_permitted hrestrictions) (by simp [horder])
    hsource hjoins
  rw [hcolumns]
  intro d hd
  rcases Selection.mem_append hd with hd | rfl
  · exact Selection.ofKeys_mem hselection d hd
  · exact Column.resolve?_mem hkey

/-! ## Checked aggregates -/

namespace Allowlist

/-- The name is that of a permitted plain column. -/
def Plain (a : Allowlist) (table name : String) : Prop :=
  ∃ c ∈ a.permitted table, c.isPlain = true ∧ c.expression = name

theorem Sound.plain {a : Allowlist} (h : a.Sound) {table name : String} (hn : a.Plain table name) :
    IsName name := by
  obtain ⟨c, hc, -, rfl⟩ := hn
  exact (h.permitted hc).expression

end Allowlist

namespace Aggregate

/-- Everything in an aggregate is permitted on its table. -/
structure Permitted (a : Allowlist) (g : Aggregate) : Prop where
  known : ∃ columns, a.columns? g.table = some columns
  foreignKey : a.Plain g.table g.foreignKey
  members : ∀ n ∈ g.members, a.Plain g.table n
  order : ∀ t ∈ g.order, a.Plain g.table t.1

variable {a : Allowlist} {columns : List Column}

theorem plainColumn_ok {position : Position} {key name : String}
    (h : plainColumn columns position key = .ok name) :
    ∃ c ∈ columns, c.isPlain = true ∧ c.expression = name := by
  unfold plainColumn at h
  split at h
  · cases h
  · rename_i c hc
    split at h
    · rename_i hplain
      cases h
      exact ⟨c, Column.resolve?_mem (Target.column_ok.1 hc), hplain, rfl⟩
    · cases h

theorem mem_appendNew {names : List String} {name n : String} :
    n ∈ appendNew names name ↔ n ∈ names ∨ n = name := by
  unfold appendNew
  split
  · rename_i h
    have hname : name ∈ names := by simpa using h
    exact ⟨.inl, fun hn => hn.elim id fun heq => heq ▸ hname⟩
  · simp

theorem mem_foldl_appendNew {names start : List String} {n : String} :
    n ∈ names.foldl appendNew start ↔ n ∈ start ∨ n ∈ names := by
  induction names generalizing start with
  | nil => simp
  | cons name rest ih => rw [List.foldl_cons, ih, mem_appendNew, List.mem_cons, or_assoc]

theorem memberNames_eq_mapM (names keys : List String) : memberNames columns names keys =
    (keys.mapM (plainColumn columns .select)).map fun new => new.foldl appendNew names := by
  induction keys generalizing names with
  | nil => rfl
  | cons key rest ih =>
    rw [memberNames, List.mapM_cons]
    cases plainColumn columns .select key with
    | error e => rfl
    | ok name =>
      dsimp only
      rw [ih]
      cases rest.mapM (plainColumn columns .select) <;> rfl

theorem memberNames_ok {keys result : List String} (h : memberNames columns [] keys = .ok result) :
    ∀ n ∈ result, ∃ c ∈ columns, c.isPlain = true ∧ c.expression = n := by
  intro n hn
  rw [memberNames_eq_mapM] at h
  obtain ⟨names, hnames, rfl⟩ := map_eq_ok.1 h
  rcases mem_foldl_appendNew.1 hn with hn | hn
  · cases hn
  · obtain ⟨key, -, hkey⟩ := exists_of_mapM_eq_ok hnames hn
    exact plainColumn_ok hkey

theorem orderTerms_eq_mapM (terms : List (SortTerm String)) : orderTerms columns terms =
    terms.mapM fun t => (plainColumn columns .sort t.key).map fun name => (name, t.direction) := by
  induction terms with
  | nil => rfl
  | cons t rest ih =>
    rw [orderTerms, ih, List.mapM_cons]
    cases plainColumn columns .sort t.key <;> rfl

theorem orderTerms_ok {terms : List (SortTerm String)} {order : List (String × Direction)}
    (h : orderTerms columns terms = .ok order) :
    ∀ t ∈ order, ∃ c ∈ columns, c.isPlain = true ∧ c.expression = t.1 := by
  intro t ht
  rw [orderTerms_eq_mapM] at h
  obtain ⟨u, -, hu⟩ := exists_of_mapM_eq_ok h ht
  obtain ⟨name, hname, rfl⟩ := map_eq_ok.1 hu
  exact plainColumn_ok hname

theorem check_ok {r : Relation} {keys : List Literal} {g : Aggregate} (h : check a r keys = .ok g) :
    ∃ columns, a.columns? r.table = some columns ∧ a.view? r.table = none ∧
      plainColumn columns .filter r.foreignKey = .ok g.foreignKey ∧
      memberNames columns [] r.columns = .ok g.members ∧ orderTerms columns r.order = .ok g.order ∧
      g.table = r.table ∧ g.keys = keys := by
  unfold check at h
  dsimp only at h
  split at h
  · cases h
  · split at h
    · cases h
    · split at h
      · cases h
      · rename_i columns hcolumns
        split at h
        · cases h
        · rename_i hview
          obtain ⟨foreignKey, hforeign, h⟩ := bind_eq_ok.1 h
          obtain ⟨names, hnames, h⟩ := bind_eq_ok.1 h
          obtain ⟨order, horder, h⟩ := bind_eq_ok.1 h
          cases h
          exact ⟨columns, hcolumns, by simpa using hview, hforeign, hnames, horder, rfl, rfl⟩

/-- **A checked aggregate is permitted.** -/
theorem check_permitted {r : Relation} {keys : List Literal} {g : Aggregate}
    (h : check a r keys = .ok g) : g.Permitted a := by
  obtain ⟨columns, hcolumns, -, hforeign, hmembers, horder, htable, -⟩ := check_ok h
  have hplain : ∀ {n}, (∃ c ∈ columns, c.isPlain = true ∧ c.expression = n) → a.Plain g.table n := by
    have hpermitted : a.permitted g.table = columns := by
      simp [Allowlist.permitted, htable, hcolumns]
    intro n hn
    rwa [Allowlist.Plain, hpermitted]
  exact ⟨⟨columns, htable ▸ hcolumns⟩, hplain (plainColumn_ok hforeign),
    fun n hn => hplain (memberNames_ok hmembers n hn),
    fun t ht => hplain (orderTerms_ok horder t ht)⟩

end Aggregate

theorem Relation.compile_ok {a : Allowlist} {d : Dialect} {r : Relation} {keys : List Literal}
    {s : Statement} (h : compile a d r keys = .ok s) :
    ∃ g f outline, Aggregate.check a r keys = .ok g ∧ d.folding? = some f ∧
      s = .ofTemplate d (g.template f) outline := by
  unfold compile at h
  split at h
  · cases h
  · cases h
  · rename_i g f hg hf
    cases h
    exact ⟨g, f, _, hg, hf, rfl⟩

/-! ## Inserts -/

namespace Insert

theorem columns_ok {permitted : List Column} {seen keys names : List String}
    (h : columns permitted seen keys = .ok names)
    (hs : ∀ n ∈ seen, ∃ c ∈ permitted, c.isPlain = true ∧ c.expression = n) :
    ∀ n ∈ names, ∃ c ∈ permitted, c.isPlain = true ∧ c.expression = n := by
  induction keys generalizing seen with
  | nil =>
    cases h
    exact hs
  | cons key rest ih =>
    rw [columns] at h
    split at h
    · cases h
    · rename_i c hc
      split at h
      · cases h
      · obtain ⟨hresolve, hplain⟩ := Option.filter_eq_some_iff.1 hc
        refine ih h fun n hn => ?_
        rcases List.mem_append.1 hn with hn | hn
        · exact hs n hn
        · rw [List.mem_singleton.1 hn]
          exact ⟨c, Column.resolve?_mem hresolve, hplain, rfl⟩

theorem target_eq_ok {a : Allowlist} {table : String} {permitted : List Column} :
    target a table = .ok permitted ↔ a.columns? table = some permitted ∧ a.view? table = none := by
  unfold target
  cases a.columns? table with
  | none => simp
  | some columns => cases a.view? table <;> simp

/-- The steps of an insert that has a statement, and what they make. -/
theorem compile_eq_ok {a : Allowlist} {d : Dialect} {o : Override} {i : Insert} {s : Statement} :
    i.compile a d o = .ok s ↔
    ∃ permitted names, target a (o.table.getD i.table) = .ok permitted ∧ i.values ≠ [] ∧
      columns permitted [] (i.values.map Prod.fst) = .ok names ∧
      s = .ofTemplate d (template (o.table.getD i.table) names (i.values.map Prod.snd))
        { requested := names, columns := [], hasJoins := false, hasWhere := false,
          table := o.table.getD i.table } := by
  unfold compile
  dsimp only
  constructor
  · intro h
    obtain ⟨permitted, htarget, h⟩ := bind_eq_ok.1 h
    split at h
    · cases h
    · rename_i hempty
      obtain ⟨names, hnames, h⟩ := bind_eq_ok.1 h
      cases h
      exact ⟨permitted, names, htarget, by simpa using hempty, hnames, rfl⟩
  · rintro ⟨permitted, names, htarget, hne, hnames, rfl⟩
    rw [htarget]
    simp only [bind, Except.bind]
    rw [if_neg (by simpa using hne), hnames]
    rfl

/-- The dialect plays no part in whether an insert is compiled. -/
theorem compile_cases (a : Allowlist) (o : Override) (i : Insert) :
    (∃ e, ∀ d, i.compile a d o = .error e) ∨
      ∃ permitted names outline, a.columns? (o.table.getD i.table) = some permitted ∧
        columns permitted [] (i.values.map Prod.fst) = .ok names ∧
          ∀ d, i.compile a d o = .ok (.ofTemplate d
            (template (o.table.getD i.table) names (i.values.map Prod.snd)) outline) := by
  unfold compile
  dsimp only
  cases htarget : target a (o.table.getD i.table) with
  | error e => exact .inl ⟨e, fun _ => rfl⟩
  | ok permitted =>
    obtain ⟨hpermitted, -⟩ := target_eq_ok.1 htarget
    simp only [bind, Except.bind]
    cases hempty : i.values.isEmpty with
    | true => exact .inl ⟨_, fun _ => rfl⟩
    | false =>
      cases hnames : columns permitted [] (i.values.map Prod.fst) with
      | error e => exact .inl ⟨e, fun _ => rfl⟩
      | ok names => exact .inr ⟨permitted, names, _, hpermitted, hnames, fun _ => rfl⟩

theorem compile_ok {a : Allowlist} {d : Dialect} {o : Override} {i : Insert} {s : Statement}
    (h : compile a d o i = .ok s) :
    ∃ permitted names outline, a.columns? (o.table.getD i.table) = some permitted ∧
      columns permitted [] (i.values.map Prod.fst) = .ok names ∧
      s = .ofTemplate d (template (o.table.getD i.table) names (i.values.map Prod.snd)) outline := by
  obtain ⟨permitted, names, htarget, -, hnames, rfl⟩ := compile_eq_ok.1 h
  exact ⟨permitted, names, _, (target_eq_ok.1 htarget).1, hnames, rfl⟩

end Insert

end GuardedQuery
