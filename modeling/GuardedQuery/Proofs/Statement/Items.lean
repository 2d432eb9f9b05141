import GuardedQuery.Proofs.FirstSeen
import GuardedQuery.Proofs.Statement.Acceptance
import GuardedQuery.Proofs.Statement.Names

/-!
# The items of a statement

The keys of a request are read once, from left to right, and two lists grow: the keys, each once as
it is written, and the columns they stand for, each once by its entry. `Selection.Follows` says what the
two lists are after some keys were read, and `Selection.add_follows` that one more key keeps it. The
columns do not depend on the keys that were listed (`Selection.foldlM_columns`), so a key that stands for
a column that is there already changes nothing but the list of keys (`Selection.ofKeys_again`).
`compile_projects` says this of the statements of payloads and lookups.
-/

namespace GuardedQuery

/-! ## Reading keys -/

namespace Selection

variable {permitted : List Column}

/-- The selection after some keys were read. -/
structure Follows (permitted : List Column) (keys : List String) (s : Selection) : Prop where
  listed : FirstSeen id keys s.keys
  selected : ∃ resolved, keys.map (Column.resolve? permitted) = resolved.map some ∧
    FirstSeen Column.entry resolved s.columns

theorem firstSeen_append {xs ys : List Column} (h : FirstSeen Column.entry xs ys) (c : Column) :
    FirstSeen Column.entry (xs ++ [c]) (append ys c) := by
  unfold append
  split
  · rename_i hpresent
    obtain ⟨e, he, heq⟩ := List.any_eq_true.1 hpresent
    exact h.again ⟨e, h.subset he, by simpa using heq⟩
  · rename_i hnew
    refine h.first fun b hb heq => hnew ?_
    obtain ⟨e, he, heq'⟩ := h.exists_mem b hb
    exact List.any_eq_true.2 ⟨e, he, by simpa using heq'.trans heq⟩

theorem append_eq {columns : List Column} {c : Column} (hc : c.Sound)
    (hcolumns : ∀ d ∈ columns, d.Sound) :
    append columns c = columns ++ if c ∈ columns then [] else [c] := by
  by_cases hpresent : c ∈ columns
  · rw [append_of_mem hpresent, if_pos hpresent, List.append_nil]
  · have hnew : ¬(columns.any fun d => d.entry == c.entry) = true := fun hany => by
      obtain ⟨e, he, heq⟩ := List.any_eq_true.1 hany
      exact hpresent (Column.entry_inj (hcolumns e he) hc (by simpa using heq) ▸ he)
    rw [append, if_neg hnew, if_neg hpresent]

theorem add_follows {keys : List String} {key : String} {s t : Selection}
    (hs : s.Follows permitted keys) (h : add permitted s key = .ok t) :
    t.Follows permitted (keys ++ [key]) := by
  obtain ⟨hkeys, resolved, hresolved, hcolumns⟩ := hs
  unfold add at h
  split at h
  · -- a key that was read before stands for a column that was met before
    rename_i hseen
    cases h
    have hkey : key ∈ keys := hkeys.subset (by simpa using hseen)
    have hmem := List.mem_map_of_mem (f := Column.resolve? permitted) hkey
    rw [hresolved] at hmem
    obtain ⟨c, hc, heq⟩ := List.mem_map.1 hmem
    refine ⟨hkeys.again ⟨key, hkey, rfl⟩, resolved ++ [c], ?_, hcolumns.again ⟨c, hc, rfl⟩⟩
    rw [List.map_append, List.map_append, hresolved, List.map_singleton, List.map_singleton, heq]
  · rename_i hnew
    obtain ⟨c, hc, rfl⟩ := map_eq_ok.1 h
    refine ⟨hkeys.first fun k hk heq => hnew ?_, resolved ++ [c], ?_, firstSeen_append hcolumns c⟩
    · obtain ⟨k', hk', heq'⟩ := hkeys.exists_mem k hk
      have hsame : k' = key := heq'.trans heq
      exact List.contains_iff_mem.2 (hsame ▸ hk')
    · rw [List.map_append, List.map_append, hresolved, List.map_singleton, List.map_singleton,
        Target.column_ok.1 hc]

/-- **The two lists of a selection** are those of the keys and of their columns where they are first
seen. -/
theorem ofKeys_follows {keys : List String} {s : Selection} (h : ofKeys permitted keys = .ok s) :
    s.Follows permitted keys := by
  induction keys using List.reverseRecOn generalizing s with
  | nil =>
    cases h
    exact ⟨.nil, [], rfl, .nil⟩
  | append_singleton keys key ih =>
    rw [ofKeys, List.foldlM_append] at h
    obtain ⟨t, ht, h⟩ := bind_eq_ok.1 h
    rw [List.foldlM_cons] at h
    obtain ⟨u, hu, h⟩ := bind_eq_ok.1 h
    cases h
    exact add_follows (ih ht) hu

/-- The lists differ in length where a column is asked for under two keys. -/
example : ofKeys [⟨"id", none⟩, ⟨"name", some "label"⟩] ["label", "id", "name", "id"] =
    .ok ⟨["label", "id", "name"], [⟨"name", some "label"⟩, ⟨"id", none⟩]⟩ := rfl

/-- Adds the column of a key. -/
def addColumn (permitted columns : List Column) (key : String) : Except CompileError (List Column) :=
  (Target.column permitted .select key).map (append columns)

section

variable (hpermitted : ∀ d ∈ permitted, d.Sound) {s : Selection} (hs : s.Resolved permitted)

include hpermitted hs

theorem add_columns (key : String) :
    (add permitted s key).map columns = addColumn permitted s.columns key := by
  cases hadd : add permitted s key with
  | ok t =>
    obtain ⟨-, e, he, hcolumns⟩ := add_ok hpermitted hs hadd
    rw [addColumn, Target.column_ok.2 he]
    exact congrArg Except.ok hcolumns
  | error e =>
    unfold add at hadd
    split at hadd
    · cases hadd
    · rw [addColumn, map_eq_error.1 hadd]
      rfl

/-- The columns do not depend on the keys that were listed. -/
theorem foldlM_columns (keys : List String) :
    (keys.foldlM (add permitted) s).map columns = keys.foldlM (addColumn permitted) s.columns := by
  induction keys generalizing s with
  | nil => rfl
  | cons key rest ih =>
    rw [List.foldlM_cons, List.foldlM_cons, ← add_columns hpermitted hs]
    cases hadd : add permitted s key with
    | ok t => exact ih (add_ok hpermitted hs hadd).1
    | error e => rfl

end

/-- A key that stands for the column of a key before it changes no column. -/
theorem ofKeys_again (hpermitted : ∀ d ∈ permitted, d.Sound) {before : List String} {first key : String}
    (hfirst : first ∈ before) (halike : Column.resolve? permitted key = Column.resolve? permitted first)
    (after : List String) : (ofKeys permitted (before ++ key :: after)).map columns =
      (ofKeys permitted (before ++ after)).map columns := by
  unfold ofKeys
  rw [List.foldlM_append, List.foldlM_append]
  cases hbefore : before.foldlM (add permitted) ⟨[], []⟩ with
  | error e => rfl
  | ok s =>
    have hs : s.Resolved permitted := ofKeys_resolved hpermitted hbefore
    obtain ⟨k, hk, rfl⟩ := (ofKeys_follows hbefore).listed.exists_mem first hfirst
    obtain ⟨c, hc, hresolve⟩ := hs.column k hk
    have hkey : addColumn permitted s.columns key = .ok s.columns := by
      rw [addColumn, Target.column_ok.2 (halike.trans hresolve)]
      exact congrArg Except.ok (append_of_mem hc)
    show ((key :: after).foldlM (add permitted) s).map columns =
      (after.foldlM (add permitted) s).map columns
    rw [foldlM_columns hpermitted hs, foldlM_columns hpermitted hs, List.foldlM_cons, hkey]
    rfl

end Selection

/-! ## Requests -/

/-- On the table, both keys stand for one column, or neither for any. -/
def Allowlist.Alike (a : Allowlist) (table key key' : String) : Prop :=
  Column.resolve? (a.permitted table) key = Column.resolve? (a.permitted table) key'

/-- The checked request without the keys that were requested. -/
def Payload.Checked.sent (c : Payload.Checked) : Payload.Checked := { c with requested := [] }

/-- The statement without the keys that were requested: what is sent and what comes back. -/
def Statement.sent (s : Statement) : Statement :=
  { s with outline := { s.outline with requested := [] } }

theorem Payload.Checked.map_statement (d : Dialect) (r : Except CompileError Checked) :
    (r.map (Checked.statement d)).map Statement.sent = (r.map sent).map (Checked.statement d) := by
  cases r <;> rfl

/-- What is made of a selection is the same when the columns are, if the keys are not looked at. -/
theorem Selection.bind_congr {x y : Except CompileError Selection} (h : x.map columns = y.map columns)
    {f : Selection → Except CompileError Payload.Checked}
    (hf : ∀ s t : Selection, s.columns = t.columns →
      (f s).map Payload.Checked.sent = (f t).map Payload.Checked.sent) :
    (x >>= f).map Payload.Checked.sent = (y >>= f).map Payload.Checked.sent := by
  cases x with
  | error e =>
    cases y with
    | error e' => cases h; rfl
    | ok t => cases h
  | ok s =>
    cases y with
    | error e' => cases h
    | ok t => exact hf s t (Except.ok.inj h)

section

variable {a : Allowlist} (ha : a.Sound) {o : Override}

include ha

/-- A column that is listed again changes nothing of a checked payload but its keys. -/
theorem Payload.check_again {fallback : Option String} {p : Payload String} {before after : List String}
    {first key : String} (hfirst : first ∈ before) (hselect : p.select = before ++ after)
    (halike : ∀ table ∈ o.table <|> p.source <|> fallback, a.Alike table key first) :
    ({ p with select := before ++ key :: after }.check a o fallback).map Checked.sent =
      (p.check a o fallback).map Checked.sent := by
  have hwindow : checkWindow { p with select := before ++ key :: after } = p.checkWindow := rfl
  have hasked : p.select.isEmpty = false := by
    rw [hselect, List.isEmpty_eq_false_iff]
    exact List.append_ne_nil_of_left_ne_nil (List.ne_nil_of_mem hfirst) after
  have hasked' : (before ++ key :: after).isEmpty = false := List.isEmpty_eq_false_iff.2 (by simp)
  unfold check
  dsimp only
  rw [hwindow, hasked, hasked']
  cases p.checkWindow with
  | error e => rfl
  | ok window =>
    cases hfind : Target.find a (o.table <|> p.source <|> fallback) p.joins o with
    | error e => rfl
    | ok target =>
      have hcolumns := Target.columns_eq hfind
      have halike := halike target.name (Target.find_ok hfind).1
      rw [Allowlist.Alike, ← hcolumns] at halike
      have hsound : ∀ c ∈ target.columns, c.Sound := fun c hc => ha.permitted (hcolumns ▸ hc)
      refine Selection.bind_congr ?_ ?_
      · rw [hselect]
        exact Selection.ofKeys_again hsound hfirst halike after
      · -- of the selection, only the columns go on into the select
        intro s t hst
        rw [hst]
        cases Restriction.ofFilters target.columns a.maxDepth.toNat o.scope p.filter with
        | error e => rfl
        | ok restrictions => cases orderTerms target.columns p.order <;> rfl

theorem Payload.check_again_strict {e : Entity} {p : Payload e.Field} {before : List e.Field}
    {first key : e.Field} (hfirst : first ∈ before) (after : List e.Field)
    (halike : a.Alike ((p.toFree.tableName o).getD e.table) key.val first.val) :
    (check a o (some e.table) { p with select := before ++ key :: after }.toFree).map Checked.sent =
      (check a o (some e.table) { p with select := before ++ after }.toFree).map Checked.sent := by
  have htable : ∀ table ∈ o.table <|> p.source <|> some e.table, a.Alike table key.val first.val := by
    intro table htable
    have hasked : (p.toFree.tableName o).getD e.table = table := by
      rw [tableName]
      have hsource : p.toFree.source = p.source := rfl
      rw [hsource]
      cases ho : o.table <;> cases hp : p.source <;> rw [ho, hp] at htable <;>
        exact Option.some.inj htable
    exact hasked ▸ halike
  have hinserted : { p with select := before ++ key :: after }.toFree =
      { { p with select := before ++ after }.toFree with
        select := before.map Subtype.val ++ key.val :: after.map Subtype.val } := by
    simp [toFree, mapKeys]
  rw [hinserted]
  exact check_again ha (List.mem_map_of_mem hfirst) List.map_append htable

/-- A column that is listed again changes nothing of a checked lookup but its keys. -/
theorem KeyLookup.check_again {l : KeyLookup} {before after : List String} {first key : String}
    (hfirst : first ∈ before) (hselect : l.select = before ++ after)
    (halike : a.Alike (o.table.getD l.table) key first) :
    ({ l with select := before ++ key :: after }.check a o).map Payload.Checked.sent =
      (l.check a o).map Payload.Checked.sent := by
  have hasked : l.select.isEmpty = false := by
    rw [hselect, List.isEmpty_eq_false_iff]
    exact List.append_ne_nil_of_left_ne_nil (List.ne_nil_of_mem hfirst) after
  have hasked' : (before ++ key :: after).isEmpty = false := List.isEmpty_eq_false_iff.2 (by simp)
  unfold check
  dsimp only
  rw [hasked, hasked']
  cases l.keys.isEmpty with
  | true => rfl
  | false =>
    cases hfind : Target.find a (o.table <|> some l.table) [] o with
    | error e => rfl
    | ok target =>
      have hcolumns := Target.columns_eq hfind
      have hname : o.table.getD l.table = target.name := by
        have hrequested := (Target.find_ok hfind).1
        -- the table of a lookup is always named, so the choice has a value
        cases htable : o.table <;> rw [htable] at hrequested <;> exact Option.some.inj hrequested
      rw [hname, Allowlist.Alike, ← hcolumns] at halike
      have hsound : ∀ c ∈ target.columns, c.Sound := fun c hc => ha.permitted (hcolumns ▸ hc)
      cases hkey : Target.column target.columns .filter l.keyColumn with
      | error e =>
        dsimp only [bind, Except.bind]
        rw [hkey]
      | ok k =>
        dsimp only [bind, Except.bind]
        rw [hkey]
        refine Selection.bind_congr ?_ ?_
        · rw [hselect]
          exact Selection.ofKeys_again hsound hfirst halike after
        · intro s t hst
          rw [hst]
          cases Restriction.ofFilters target.columns a.maxDepth.toNat o.scope
            (some ⟨.and, [.condition k.expression (.member false l.keys)]⟩) <;> rfl

end

/-! ## Statements -/

/-- The statement selects the columns that the keys stand for on its table, and those that are added, as
`items`: entries of the allowlist, each once and where it is first met. Its result columns are their
names. -/
structure Statement.Projects (a : Allowlist) (keys added : List String) (s : Statement)
    (items : List Column) : Prop where
  requested : FirstSeen id keys s.outline.requested
  met : ∃ resolved, (keys ++ added).map (Column.resolve? (a.permitted s.outline.table)) =
    resolved.map some ∧ FirstSeen Column.entry resolved items
  permitted : ∀ c ∈ items, c ∈ a.permitted s.outline.table
  nodup : (items.map Column.entry).Nodup
  listed : ∀ key ∈ keys ++ added, ∃ c ∈ items,
    Column.resolve? (a.permitted s.outline.table) key = some c
  asked : ∀ c ∈ items, ∃ key ∈ keys ++ added,
    Column.resolve? (a.permitted s.outline.table) key = some c
  written : ∃ rest,
    s.sql = "SELECT " ++ String.intercalate ", " (items.map Column.entry) ++ " FROM " ++ rest
  columns : s.outline.columns = items.map Column.outputName

/-- A key that stands for the column of a key before it changes nothing but the list of the keys. -/
def ListsOnce {κ : Type} (alike : κ → κ → Prop) (compile : List κ → Except CompileError Statement) :
    Prop :=
  ∀ before after, ∀ first ∈ before, ∀ key, alike key first →
    (compile (before ++ key :: after)).map Statement.sent =
      (compile (before ++ after)).map Statement.sent

theorem Payload.Checked.projects {a : Allowlist} {keys added : List String} {c : Payload.Checked}
    (hrequested : FirstSeen id keys c.requested)
    (hselects : a.Selects c.table (keys ++ added) c.select.columns)
    (hmet : ∃ resolved, (keys ++ added).map (Column.resolve? (a.permitted c.table)) =
      resolved.map some ∧ FirstSeen Column.entry resolved c.select.columns) (d : Dialect) :
    (c.statement d).Projects a keys added c.select.columns := by
  have hnamed := named hselects d
  constructor
  case requested => exact hrequested
  case met => exact hmet
  case permitted =>
    intro x hx
    obtain ⟨key, -, hkey⟩ := (hselects.mem_iff x).1 hx
    exact Column.resolve?_mem hkey
  case nodup =>
    obtain ⟨resolved, -, hseen⟩ := hmet
    exact hseen.nodup
  case listed =>
    intro key hkey
    obtain ⟨resolved, hresolved, -⟩ := hmet
    have hmem := List.mem_map_of_mem (f := Column.resolve? (a.permitted c.table)) hkey
    rw [hresolved] at hmem
    obtain ⟨x, -, hx⟩ := List.mem_map.1 hmem
    exact ⟨x, (hselects.mem_iff x).2 ⟨key, hkey, hx.symm⟩, hx.symm⟩
  case asked => exact fun x hx => (hselects.mem_iff x).1 hx
  case written => exact hnamed.written
  case columns => exact hnamed.columns

section

variable {a : Allowlist} (ha : a.Sound) {d : Dialect} {o : Override}

include ha

theorem Payload.check_projects {fallback : Option String} {p : Payload String} {c : Checked}
    (h : p.check a o fallback = .ok c) (d : Dialect) :
    (c.statement d).Projects a p.select [] c.select.columns := by
  obtain ⟨target, selection, htarget, hselection, -, -, -, hcolumns, -, -, hrequested, htable⟩ :=
    check_ok h
  rw [Target.columns_eq htarget, ← htable] at hselection
  have hfollows := Selection.ofKeys_follows hselection
  refine Checked.projects (hrequested ▸ hfollows.listed) ?_ ?_ d
  · rw [List.append_nil]
    exact check_selects ha h
  · rw [List.append_nil, hcolumns]
    exact hfollows.selected

theorem KeyLookup.check_projects {l : KeyLookup} {c : Payload.Checked} (h : l.check a o = .ok c)
    (d : Dialect) : ∃ selected key, a.Selects c.table l.select selected ∧
      Column.resolve? (a.permitted c.table) l.keyColumn = some key ∧
      (c.statement d).Projects a l.select [l.keyColumn]
        (selected ++ if key ∈ selected then [] else [key]) := by
  obtain ⟨target, key, selection, htarget, hkey, hselection, -, hcolumns, -, -, -, -, hrequested,
    htable⟩ := check_ok h
  have hselects := check_selects ha h
  rw [Target.columns_eq htarget, ← htable] at hselection hkey
  obtain ⟨hlisted, resolved, hresolved, hseen⟩ := Selection.ofKeys_follows hselection
  have hsound := Selection.ofKeys_resolved (fun _ => ha.permitted) hselection
  have happend : c.select.columns =
      selection.columns ++ if key ∈ selection.columns then [] else [key] :=
    hcolumns.trans (Selection.append_eq (ha.permitted (Column.resolve?_mem hkey)) hsound.sound)
  refine ⟨selection.columns, key, ⟨hsound.nodup, Selection.ofKeys_columns (fun _ => ha.permitted)
    hselection⟩, hkey, ?_⟩
  rw [← happend]
  refine Payload.Checked.projects (hrequested ▸ hlisted) hselects ⟨resolved ++ [key], ?_, ?_⟩ d
  · rw [List.map_append, List.map_append, hresolved, List.map_singleton, List.map_singleton, hkey]
  · rw [hcolumns]
    exact Selection.firstSeen_append hseen key

end

/-- **A statement selects what the keys stand for**, each column once and where it is first met. A lookup
selects the key column too, last, unless a key stands for it. To list a column again, however it is
spelled, changes nothing but the list of the keys. -/
theorem compile_projects {draft : Draft} {a : Allowlist} (ha : draft.check = .ok a) (d : Dialect)
    (o : Override) :
    (∀ (p : Payload String) (s : Statement), p.compile a d o = .ok s →
      ∃ items, s.Projects a p.select [] items) ∧
    (∀ (e : Entity) (p : Payload e.Field) (s : Statement), p.compileStrict a d o = .ok s →
      ∃ items, s.Projects a p.toFree.select [] items) ∧
    (∀ (l : KeyLookup) (s : Statement), l.compile a d o = .ok s →
      ∃ selected key, a.Selects s.outline.table l.select selected ∧
        Column.resolve? (a.permitted s.outline.table) l.keyColumn = some key ∧
        s.Projects a l.select [l.keyColumn] (selected ++ if key ∈ selected then [] else [key])) ∧
    (∀ p : Payload String, ListsOnce (fun key key' => ∀ table ∈ p.tableName o, a.Alike table key key')
      fun keys => { p with select := keys }.compile a d o) ∧
    (∀ (e : Entity) (p : Payload e.Field),
      ListsOnce (fun key key' => a.Alike ((p.toFree.tableName o).getD e.table) key.val key'.val)
        fun keys => { p with select := keys }.compileStrict a d o) ∧
    ∀ l : KeyLookup, ListsOnce (a.Alike (o.table.getD l.table))
      fun keys => { l with select := keys }.compile a d o := by
  have hsound := Draft.check_sound ha
  refine ⟨?_, ?_, ?_, ?_, ?_, ?_⟩
  · intro p s hs
    obtain ⟨c, hc, rfl⟩ := Payload.compile_ok hs
    exact ⟨_, Payload.check_projects hsound hc d⟩
  · intro e p s hs
    obtain ⟨c, hc, rfl⟩ := map_eq_ok.1 hs
    exact ⟨_, Payload.check_projects hsound hc d⟩
  · intro l s hs
    obtain ⟨c, hc, rfl⟩ := KeyLookup.compile_ok hs
    exact KeyLookup.check_projects hsound hc d
  · intro p before after first hfirst key halike
    have htable : ∀ table ∈ o.table <|> p.source <|> none, a.Alike table key first := by
      rwa [Payload.tableName_eq]
    have hcheck := Payload.check_again hsound hfirst (p := { p with select := before ++ after }) rfl
      htable
    unfold Payload.compile
    rw [Payload.Checked.map_statement, hcheck, Payload.Checked.map_statement]
  · intro e p before after first hfirst key halike
    have hcheck := Payload.check_again_strict hsound hfirst after halike
    unfold Payload.compileStrict
    rw [Payload.Checked.map_statement, hcheck, Payload.Checked.map_statement]
  · intro l before after first hfirst key halike
    have hcheck := KeyLookup.check_again hsound hfirst (l := { l with select := before ++ after }) rfl
      halike
    unfold KeyLookup.compile
    rw [Payload.Checked.map_statement, hcheck, Payload.Checked.map_statement]

/-- Items with their categories, each of which is listed more than once. -/
def respelled : Payload String :=
  ⟨["category_name", "i.id", "c.name", "category_name"], some "item_with_category", [], none, [], none,
    none⟩

/-- Items by their names. -/
def Entity.namedItems : Entity := ⟨"ItemField", "items", ["id", "name"]⟩

/-- The name as a field. -/
def nameField : Entity.namedItems.Field := ⟨"name", by decide⟩

/-- The names of items, listed twice. -/
def nameTwice : Payload Entity.namedItems.Field :=
  ⟨[nameField, nameField], none, [], none, [], none, none⟩

theorem compile_projects_respelled : Draft.sample.check = .ok .sample ∧
    (∃ s items, respelled.compile .sample .postgres .none = .ok s ∧
      s.Projects .sample respelled.select [] items ∧
      s.outline.requested = ["category_name", "i.id", "c.name"] ∧
      s.outline.columns = ["category_name", "id"]) ∧
    (∃ s items, nameTwice.compileStrict .sample .postgres .none = .ok s ∧
      s.Projects .sample ["name", "name"] [] items ∧ s.outline.columns = ["name"]) ∧
    (∃ s selected key, categoriesOf.compile .sample .postgres .none = .ok s ∧
      s.Projects .sample ["category_name"] ["i.id"]
        (selected ++ if key ∈ selected then [] else [key]) ∧
      s.outline.columns = ["category_name", "id"]) ∧
    ({ respelled with select := ["category_name", "i.id"] ++ "c.name  as category_name" :: [] }.compile
        .sample .postgres .none).map Statement.sent =
      ({ respelled with select := ["category_name", "i.id"] ++ [] }.compile .sample .postgres
        .none).map Statement.sent ∧
    ({ nameTwice with select := [nameField] ++ nameField :: [] }.compileStrict .sample .postgres
        .none).map Statement.sent =
      ({ nameTwice with select := [nameField] ++ [] }.compileStrict .sample .postgres .none).map
        Statement.sent ∧
    ({ categoriesOf with select := ["category_name"] ++ "c.name" :: [] }.compile .sample .postgres
        .none).map Statement.sent =
      ({ categoriesOf with select := ["category_name"] ++ [] }.compile .sample .postgres .none).map
        Statement.sent := by
  obtain ⟨hpayload, hstrict, hlookup, hagain, hstrictAgain, hlookupAgain⟩ :=
    compile_projects Draft.check_sample .postgres .none
  refine ⟨Draft.check_sample, ?_, ?_, ?_, ?_, ?_, ?_⟩
  · obtain ⟨s, hs⟩ : ∃ s, respelled.compile .sample .postgres .none = .ok s := ⟨_, rfl⟩
    obtain ⟨items, hitems⟩ := hpayload respelled s hs
    have houtline : (respelled.compile .sample .postgres .none).map
        (fun s => (s.outline.requested, s.outline.columns)) =
          .ok (["category_name", "i.id", "c.name"], ["category_name", "id"]) := rfl
    rw [hs] at houtline
    obtain ⟨hrequested, hcolumns⟩ := Prod.mk.inj (Except.ok.inj houtline)
    exact ⟨s, items, hs, hitems, hrequested, hcolumns⟩
  · obtain ⟨s, hs⟩ : ∃ s, nameTwice.compileStrict .sample .postgres .none = .ok s := ⟨_, rfl⟩
    obtain ⟨items, hitems⟩ := hstrict _ nameTwice s hs
    have hcolumns : (nameTwice.compileStrict .sample .postgres .none).map (·.outline.columns) =
        .ok ["name"] := rfl
    rw [hs] at hcolumns
    exact ⟨s, items, hs, hitems, Except.ok.inj hcolumns⟩
  · obtain ⟨s, hs⟩ : ∃ s, categoriesOf.compile .sample .postgres .none = .ok s := ⟨_, rfl⟩
    obtain ⟨selected, key, -, -, hitems⟩ := hlookup categoriesOf s hs
    have hcolumns : (categoriesOf.compile .sample .postgres .none).map (·.outline.columns) =
        .ok ["category_name", "id"] := rfl
    rw [hs] at hcolumns
    exact ⟨s, selected, key, hs, hitems, Except.ok.inj hcolumns⟩
  · refine hagain respelled ["category_name", "i.id"] [] "category_name" (by decide) _ ?_
    intro table htable
    obtain rfl : "item_with_category" = table := Option.some.inj htable
    rfl
  · exact hstrictAgain _ nameTwice [nameField] [] nameField (by decide) nameField rfl
  · exact hlookupAgain categoriesOf ["category_name"] [] "category_name" (by decide) "c.name" rfl

end GuardedQuery
