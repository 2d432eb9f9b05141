import GuardedQuery.Proofs.Allowlist.Grammar
import GuardedQuery.Proofs.Allowlist.Sound

/-!
# The drafts that are accepted

`Draft.Acceptable` says in terms of the grammar which drafts pass their check
(`Draft.exists_check_iff`), and `Draft.Spells` what the allowlist of such a draft is: its columns are
those that the entries spell, and its views are those of the draft (`Draft.check_spells`). All the
names, entries and ON texts of an allowlist together are `Allowlist.names`, `Allowlist.entries` and
`Allowlist.onTexts`; `Draft.check_lexicon` says which characters they can have.
-/

namespace GuardedQuery

open Text

/-! ## Drafts -/

/-- A table is named, and so is its alias. -/
structure TableRef.Named (table : String) (aliasName : Option String) : Prop where
  table : QualifiedName table.toList
  aliasName : ∀ n ∈ aliasName, Identifier n.toList

/-- A view is made of names and of conjunctions of equalities. -/
structure View.Named (v : View) : Prop where
  source : TableRef.Named v.source.table v.source.aliasName
  joins : ∀ j ∈ v.joins, TableRef.Named j.table j.aliasName ∧ Join.OnText j.on.toList

namespace Draft

/-- The drafts whose texts follow the grammar. -/
structure Acceptable (d : Draft) : Prop where
  depth : d.maxDepth ≠ 0
  table : ∀ name entries, d.tables.find? name = some entries → QualifiedName name.toList ∧
    entries ≠ [] ∧ ∀ text ∈ entries, ∃ c : Column, c.Spelled text.toList
  view : ∀ name v, d.views.find? name = some v → d.tables.contains name = true ∧ v.Named

/-- The allowlist has the columns that the entries of the draft spell, each in its place, and the
views of the draft. -/
structure Spells (d : Draft) (a : Allowlist) : Prop where
  tables : ∀ name, Option.Rel (List.Forall₂ fun text c => Column.Spelled c text.toList)
    (d.tables.find? name) (a.columns? name)
  views : a.views = d.views
  depth : a.maxDepth = d.maxDepth

/-! ## What each step accepts -/

theorem column_eq_ok {text : String} {c : Column} : column text = .ok c ↔ c.Spelled text.toList := by
  rw [← Column.ofEntry?_eq_some_iff, column]
  cases Column.ofEntry? text <;> simp

theorem columns_eq_mapM (entries : List String) : columns entries = entries.mapM column := by
  induction entries with
  | nil => rfl
  | cons text rest ih =>
    rw [columns, List.mapM_cons, ← ih]
    cases column text with
    | error e => rfl
    | ok c => cases columns rest <;> rfl

theorem columns_eq_ok {entries : List String} {cs : List Column} :
    columns entries = .ok cs ↔ List.Forall₂ (fun text c => Column.Spelled c text.toList) entries cs := by
  simp only [columns_eq_mapM, mapM_eq_ok_iff, column_eq_ok]

theorem exists_columns_iff {entries : List String} :
    (∃ cs, columns entries = .ok cs) ↔ ∀ text ∈ entries, ∃ c : Column, c.Spelled text.toList := by
  simp only [columns_eq_mapM, exists_mapM_iff, column_eq_ok]

theorem checkTable_eq_ok {name : String} {entries : List String} {cs : List Column} :
    checkTable name entries = .ok cs ↔
      QualifiedName name.toList ∧ entries ≠ [] ∧ columns entries = .ok cs := by
  rw [checkTable, ← isQualifiedName_iff]
  by_cases hname : isQualifiedName name = true
  · by_cases hentries : entries = []
    · simp [hname, hentries]
    · simp [hname, hentries]
  · simp [hname]

theorem checkTableRef_eq_ok {table : String} {name : Option String} :
    checkTableRef table name = .ok () ↔ TableRef.Named table name := by
  have hparts : TableRef.Named table name ↔
      isQualifiedName table = true ∧ ∀ n ∈ name, isIdentifier n = true := by
    simp only [isQualifiedName_iff, isIdentifier_iff]
    exact ⟨fun h => ⟨h.table, h.aliasName⟩, fun h => ⟨h.1, h.2⟩⟩
  rw [hparts]
  unfold checkTableRef
  by_cases htable : isQualifiedName table = true
  · cases name with
    | none => simp [htable]
    | some n => simp [htable]
  · simp [htable]

theorem checkJoins_eq_ok {view : String} {joins : List Join} : checkJoins view joins = .ok () ↔
    ∀ j ∈ joins, TableRef.Named j.table j.aliasName ∧ Join.OnText j.on.toList := by
  induction joins with
  | nil => simp [checkJoins]
  | cons j rest ih =>
    rw [List.forall_mem_cons, ← ih, ← checkTableRef_eq_ok, ← Join.isConjunction_iff, checkJoins]
    cases checkTableRef j.table j.aliasName with
    | error e => simp
    | ok u =>
      by_cases hon : Join.isConjunction j.on = true
      · simp [hon]
      · simp [hon]

theorem checkView_eq_ok {tables : Keyed (List Column)} {name : String} {v w : View} :
    checkView tables name v = .ok w ↔ tables.contains name = true ∧ v.Named ∧ w = v := by
  have hparts : v.Named ↔ checkTableRef v.source.table v.source.aliasName = .ok () ∧
      checkJoins name v.joins = .ok () := by
    rw [checkTableRef_eq_ok, checkJoins_eq_ok]
    exact ⟨fun h => ⟨h.source, h.joins⟩, fun h => ⟨h.1, h.2⟩⟩
  rw [hparts, checkView]
  by_cases hlisted : tables.contains name = true
  · cases checkTableRef v.source.table v.source.aliasName with
    | error e => simp [hlisted]
    | ok u => cases checkJoins name v.joins <;> simp [hlisted, Except.map, eq_comm]
  · simp [hlisted]

/-! ## The check -/

theorem check_eq_ok {d : Draft} {a : Allowlist} : d.check = .ok a ↔ d.maxDepth ≠ 0 ∧
    d.tables.mapExcept checkTable = .ok a.tables ∧
      d.views.mapExcept (checkView a.tables) = .ok a.views ∧ a.maxDepth = d.maxDepth := by
  refine ⟨check_ok, ?_⟩
  rintro ⟨hdepth, htables, hviews, hmaxDepth⟩
  rw [check, if_neg hdepth, htables]
  dsimp only
  rw [hviews, ← hmaxDepth]
  rfl

/-- **Exactly the drafts whose texts follow the grammar are accepted.** -/
theorem exists_check_iff {d : Draft} : (∃ a, d.check = .ok a) ↔ d.Acceptable := by
  constructor
  · rintro ⟨a, h⟩
    obtain ⟨hdepth, htables, hviews, -⟩ := check_eq_ok.1 h
    refine ⟨hdepth, fun name entries hfind => ?_, fun name v hfind => ?_⟩
    · obtain ⟨cs, hcs, -⟩ := Keyed.find?_of_mapExcept htables hfind
      obtain ⟨hname, hne, hcs⟩ := checkTable_eq_ok.1 hcs
      exact ⟨hname, hne, exists_columns_iff.1 ⟨cs, hcs⟩⟩
    · obtain ⟨w, hw, -⟩ := Keyed.find?_of_mapExcept hviews hfind
      obtain ⟨hlisted, hnamed, -⟩ := checkView_eq_ok.1 hw
      exact ⟨Keyed.contains_mapExcept htables name ▸ hlisted, hnamed⟩
  · rintro ⟨hdepth, htable, hview⟩
    have htables : ∃ tables, d.tables.mapExcept checkTable = .ok tables := by
      rw [Keyed.exists_mapExcept_iff]
      intro name entries hfind
      obtain ⟨hname, hne, hspelled⟩ := htable name entries hfind
      obtain ⟨cs, hcs⟩ := exists_columns_iff.2 hspelled
      exact ⟨cs, checkTable_eq_ok.2 ⟨hname, hne, hcs⟩⟩
    obtain ⟨tables, htables⟩ := htables
    have hviews : ∃ views, d.views.mapExcept (checkView tables) = .ok views := by
      rw [Keyed.exists_mapExcept_iff]
      intro name v hfind
      obtain ⟨hlisted, hnamed⟩ := hview name v hfind
      exact ⟨v, checkView_eq_ok.2 ⟨Keyed.contains_mapExcept htables name ▸ hlisted, hnamed, rfl⟩⟩
    obtain ⟨views, hviews⟩ := hviews
    exact ⟨⟨tables, views, d.maxDepth⟩, check_eq_ok.2 ⟨hdepth, htables, hviews, rfl⟩⟩

/-- The allowlist of an accepted draft is the one that its texts spell. -/
theorem check_spells {d : Draft} {a : Allowlist} (h : d.check = .ok a) : d.Spells a := by
  obtain ⟨-, htables, hviews, hdepth⟩ := check_eq_ok.1 h
  refine ⟨fun name => ?_, ?_, hdepth⟩
  · cases hfind : d.tables.find? name with
    | none =>
      have hcontains := Keyed.contains_mapExcept htables name
      rw [Keyed.contains, Keyed.contains, hfind, Option.isSome_none, Option.isSome_eq_false_iff,
        Option.isNone_iff_eq_none] at hcontains
      rw [Allowlist.columns?, hcontains]
      exact .none
    | some entries =>
      obtain ⟨cs, hcs, hcolumns⟩ := Keyed.find?_of_mapExcept htables hfind
      obtain ⟨-, -, hcs⟩ := checkTable_eq_ok.1 hcs
      rw [Allowlist.columns?, hcolumns]
      exact .some (columns_eq_ok.1 hcs)
  · exact Keyed.eq_of_mapExcept (fun name v w hw => (checkView_eq_ok.1 hw).2.2) hviews

end Draft

/-! ## The texts of an allowlist -/

/-- The names of what a view reads, and those that it gives them. -/
def View.names (v : View) : List String :=
  v.source.table :: v.source.aliasName.toList ++
    v.joins.flatMap fun j => j.table :: j.aliasName.toList

namespace Allowlist

/-- All the names of an allowlist: of tables and views, of columns in result rows, and in views. -/
def names (a : Allowlist) : List String :=
  a.tables.keys ++ (a.tables.pairs.flatMap fun p => p.2.flatMap fun c => c.aliasName.toList) ++
    a.views.keys ++ a.views.pairs.flatMap fun p => p.2.names

/-- All its entries. -/
def entries (a : Allowlist) : List String := a.tables.pairs.flatMap fun p => p.2.map Column.entry

/-- All its ON texts. -/
def onTexts (a : Allowlist) : List String := a.views.pairs.flatMap fun p => p.2.joins.map Join.on

/-- **The characters of an allowlist.** Names have ASCII letters, digits, underscores and dots, an
entry has the blanks of its ` AS ` besides, and ON texts have blanks and equality signs. -/
structure Lexical (a : Allowlist) : Prop where
  names : ∀ n ∈ a.names, IsName n
  entries : ∀ e ∈ a.entries,
    ∃ w, IsName w ∧ (e = w ∨ ∃ n, IsName n ∧ e = w ++ " AS " ++ n)
  onTexts : ∀ on ∈ a.onTexts, ∀ c ∈ on.toList, isJoinChar c = true

end Allowlist

theorem TableRef.Sound.names {table : String} {aliasName : Option String}
    (h : TableRef.Sound table aliasName) : ∀ n ∈ table :: aliasName.toList, IsName n := by
  refine List.forall_mem_cons.2 ⟨h.table, fun n hn => ?_⟩
  exact h.aliasName n (Option.mem_toList.1 hn)

theorem View.Sound.names {v : View} (h : v.Sound) : ∀ n ∈ v.names, IsName n := by
  intro n hn
  rcases List.mem_append.1 hn with hn | hn
  · exact h.source.names n hn
  · obtain ⟨j, hj, hn⟩ := List.mem_flatMap.1 hn
    exact (h.joins j hj).table.names n hn

/-- The texts of a sound allowlist have no other characters, if its views are among its tables. -/
theorem Allowlist.Sound.lexical {a : Allowlist} (h : a.Sound)
    (hviews : ∀ name, a.views.contains name = true → a.tables.contains name = true) :
    a.Lexical := by
  have htable : ∀ name, a.tables.contains name = true → IsName name := by
    intro name hname
    obtain ⟨columns, hcolumns⟩ := Option.isSome_iff_exists.1 hname
    exact h.table name columns hcolumns
  have hcolumn : ∀ p ∈ a.tables.pairs, ∀ c ∈ p.2, c.Sound := by
    intro p hp
    exact h.columns p.1 p.2 (Keyed.find?_eq_some_iff.2 hp)
  have hview : ∀ p ∈ a.views.pairs, p.2.Sound := by
    intro p hp
    exact h.view p.1 p.2 (Keyed.find?_eq_some_iff.2 hp)
  refine ⟨fun n hn => ?names, fun e he => ?entries, fun on hon => ?onTexts⟩
  case names =>
    rcases List.mem_append.1 hn with hn | hn
    · rcases List.mem_append.1 hn with hn | hn
      · rcases List.mem_append.1 hn with hn | hn
        · exact htable n (Keyed.mem_keys.1 hn)
        · obtain ⟨p, hp, hn⟩ := List.mem_flatMap.1 hn
          obtain ⟨c, hc, hn⟩ := List.mem_flatMap.1 hn
          exact (hcolumn p hp c hc).aliasName n (Option.mem_toList.1 hn)
      · exact htable n (hviews n (Keyed.mem_keys.1 hn))
    · obtain ⟨p, hp, hn⟩ := List.mem_flatMap.1 hn
      exact (hview p hp).names n hn
  case entries =>
    obtain ⟨p, hp, he⟩ := List.mem_flatMap.1 he
    obtain ⟨c, hc, rfl⟩ := List.mem_map.1 he
    obtain ⟨hexpression, halias⟩ := hcolumn p hp c hc
    refine ⟨c.expression, hexpression, ?_⟩
    cases hn : c.aliasName with
    | none => exact .inl (by rw [Column.entry, hn])
    | some n => exact .inr ⟨n, halias n hn, by rw [Column.entry, hn]⟩
  case onTexts =>
    obtain ⟨p, hp, hon⟩ := List.mem_flatMap.1 hon
    obtain ⟨j, hj, rfl⟩ := List.mem_map.1 hon
    exact ((hview p hp).joins j hj).on

namespace Draft

theorem check_lexical {d : Draft} {a : Allowlist} (h : d.check = .ok a) : a.Lexical := by
  refine (check_sound h).lexical fun name hname => ?_
  obtain ⟨-, -, hviews, -⟩ := check_eq_ok.1 h
  obtain ⟨v, hv⟩ := Option.isSome_iff_exists.1 hname
  obtain ⟨w, -, hw⟩ := Keyed.find?_mapExcept hviews hv
  exact (checkView_eq_ok.1 hw).1

/-- **Entries and ON texts are accepted by their grammar**, and so are drafts. A text spells one column
at most, which its normal form spells again; an accepted draft becomes the allowlist that it spells,
whose texts are harmless. -/
theorem grammatical (text : String) (d : Draft) :
    (∀ c, column text = .ok c ↔ c.Spelled text.toList) ∧
      (∀ c c' : Column, c.Spelled text.toList → c'.Spelled text.toList → c = c') ∧
      (∀ c : Column, c.Spelled text.toList → column c.entry = .ok c) ∧
      (Join.isConjunction text = true ↔ Join.OnText text.toList) ∧
      ((∃ a, d.check = .ok a) ↔ d.Acceptable) ∧
      ∀ a, d.check = .ok a → d.Spells a ∧ a.Lexical := by
  refine ⟨fun c => column_eq_ok, fun c c' => Column.Spelled.unique, fun c hc => ?_,
    Join.isConjunction_iff, exists_check_iff, fun a ha => ⟨check_spells ha, check_lexical ha⟩⟩
  have hread := Column.ofEntry?_entry (Column.ofEntry?_eq_some_iff.2 hc)
  rw [column, hread]

/-- A column that is called like a keyword, with a long s in its `AS`. -/
theorem grammatical_keywords :
    column "  as.and\u00a0a\u017f\tas " = .ok ⟨"as.and", some "as"⟩ ∧
      Column.Spelled ⟨"as.and", some "as"⟩ "  as.and\u00a0a\u017f\tas ".toList ∧
      column "as.and AS as" = .ok ⟨"as.and", some "as"⟩ ∧
      Join.isConjunction "as.and = and anD and\n=as " = true ∧
      Join.OnText "as.and = and anD and\n=as ".toList ∧
      sample.check = .ok .sample ∧ sample.Acceptable ∧ sample.Spells .sample ∧
      Allowlist.sample.Lexical := by
  have hcolumn : column "  as.and\u00a0a\u017f\tas " = .ok ⟨"as.and", some "as"⟩ := rfl
  have hon : Join.isConjunction "as.and = and anD and\n=as " = true := rfl
  obtain ⟨hspelled, -, hagain, -, hacceptable, haccepted⟩ :=
    grammatical "  as.and\u00a0a\u017f\tas " sample
  obtain ⟨-, -, -, honText, -, -⟩ := grammatical "as.and = and anD and\n=as " sample
  have hc := (hspelled _).1 hcolumn
  exact ⟨hcolumn, hc, hagain _ hc, hon, honText.1 hon, check_sample, hacceptable.1 ⟨_, check_sample⟩,
    haccepted _ check_sample⟩

end Draft

end GuardedQuery
