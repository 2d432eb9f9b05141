import GuardedQuery.Allowlist.Basic
import GuardedQuery.Proofs.Allowlist.Entry
import GuardedQuery.Proofs.Keyed

/-!
# What the check of a draft guarantees

`Allowlist.Sound a`: every table name, column entry, table reference and ON text of `a` consists of
names, so nothing that is copied from `a` into a statement can end a word, open a quotation or
start a comment. `Draft.check_sound`: every allowlist that `Draft.check` makes is sound.
-/

namespace GuardedQuery

open Text

/-! ## Soundness -/

/-- The column reference and its alias are names. -/
structure Column.Sound (c : Column) : Prop where
  expression : IsName c.expression
  aliasName : ∀ n ∈ c.aliasName, IsName n

/-- The table and the name it goes by are names. -/
structure TableRef.Sound (table : String) (aliasName : Option String) : Prop where
  table : IsName table
  aliasName : ∀ n ∈ aliasName, IsName n

/-- The join names a table, and its ON text is made of names. -/
structure Join.Sound (j : Join) : Prop where
  table : TableRef.Sound j.table j.aliasName
  on : ∀ c ∈ j.on.toList, isJoinChar c = true

structure View.Sound (v : View) : Prop where
  source : TableRef.Sound v.source.table v.source.aliasName
  joins : ∀ j ∈ v.joins, j.Sound

/-- Every part of the allowlist is sound. -/
structure Allowlist.Sound (a : Allowlist) : Prop where
  table : ∀ name columns, a.columns? name = some columns → IsName name
  columns : ∀ name columns, a.columns? name = some columns → ∀ c ∈ columns, c.Sound
  view : ∀ name v, a.view? name = some v → v.Sound

/-! ## Entries -/

theorem Column.aliasOfChars?_ok {cs : List Char} {name : List Char}
    (h : aliasOfChars? cs = some (some name)) : name ≠ [] ∧ ∀ c ∈ name, isNameChar c = true := by
  unfold aliasOfChars? at h
  split at h
  · cases h
  · simp only [bind, Option.bind_eq_some_iff, Option.ite_none_right_eq_some, Option.some.injEq] at h
    obtain ⟨_, -, _, -, _, -, ⟨w, _⟩, hw, -, rfl⟩ := h
    obtain ⟨hne, hc, -⟩ := identifier?_ok hw
    exact ⟨hne, fun c h => isNameChar_of_rest (hc c h)⟩

theorem isName_ofList {cs : List Char} (hne : cs ≠ []) (h : ∀ c ∈ cs, isNameChar c = true) :
    IsName (String.ofList cs) := by
  rw [IsName, String.toList_ofList]
  exact ⟨hne, h⟩

theorem Column.ofEntry?_sound {entry : String} {c : Column} (h : ofEntry? entry = some c) :
    c.Sound := by
  obtain ⟨w, cs, name, hw, hname, rfl⟩ := ofEntry?_read_iff.1 h
  obtain ⟨hne, hc, -⟩ := qualifiedName?_ok hw
  refine ⟨isName_ofList hne hc, fun n hn => ?_⟩
  obtain ⟨v, rfl, rfl⟩ := Option.map_eq_some_iff.1 hn
  obtain ⟨hne, hc⟩ := aliasOfChars?_ok hname
  exact isName_ofList hne hc

/-! ## Drafts -/

namespace Draft

/-- Every column of a checked list was read from an entry. -/
theorem columns_read {entries : List String} {cs : List Column} (h : columns entries = .ok cs) :
    ∀ c ∈ cs, ∃ text, Column.ofEntry? text = some c := by
  induction entries generalizing cs with
  | nil =>
    cases h
    simp
  | cons entry rest ih =>
    rw [columns] at h
    split at h
    · cases h
    · cases h
    · rename_i c cs' hc hcs
      cases h
      refine List.forall_mem_cons.2 ⟨⟨entry, ?_⟩, ih hcs⟩
      unfold column at hc
      split at hc
      · rename_i hentry
        cases hc
        exact hentry
      · cases hc

theorem checkTable_ok {name : String} {entries : List String} {cs : List Column}
    (h : checkTable name entries = .ok cs) : IsName name ∧ columns entries = .ok cs := by
  unfold checkTable at h
  split at h
  · cases h
  · rename_i hname
    split at h
    · cases h
    · exact ⟨isName_of_isQualifiedName (by simpa using hname), h⟩

theorem checkTableRef_sound {table : String} {name : Option String}
    (h : checkTableRef table name = .ok ()) : TableRef.Sound table name := by
  unfold checkTableRef at h
  split at h
  · cases h
  · rename_i htable
    refine ⟨isName_of_isQualifiedName (by simpa using htable), fun n hn => ?_⟩
    rw [Option.mem_def] at hn
    subst hn
    dsimp only at h
    split at h
    · rename_i hident
      exact isName_of_isIdentifier hident
    · cases h

theorem checkJoins_ok {view : String} {joins : List Join} (h : checkJoins view joins = .ok ()) :
    ∀ j ∈ joins, checkTableRef j.table j.aliasName = .ok () ∧ Join.isConjunction j.on = true := by
  induction joins with
  | nil => simp
  | cons j rest ih =>
    rw [checkJoins] at h
    split at h
    · cases h
    · rename_i htable
      split at h
      · rename_i hon
        exact List.forall_mem_cons.2 ⟨⟨htable, hon⟩, ih h⟩
      · cases h

theorem checkView_ok {tables : Keyed (List Column)} {name : String} {v w : View}
    (h : checkView tables name v = .ok w) :
    w = v ∧ checkTableRef v.source.table v.source.aliasName = .ok () ∧
      checkJoins name v.joins = .ok () := by
  unfold checkView at h
  split at h
  · cases h
  · split at h
    · cases h
    · rename_i hsource
      obtain ⟨_, hjoins, rfl⟩ := map_eq_ok.1 h
      exact ⟨rfl, hsource, hjoins⟩

theorem checkView_sound {tables : Keyed (List Column)} {name : String} {v w : View}
    (h : checkView tables name v = .ok w) : w.Sound := by
  obtain ⟨rfl, hsource, hjoins⟩ := checkView_ok h
  refine ⟨checkTableRef_sound hsource, fun j hj => ?_⟩
  obtain ⟨htable, hon⟩ := checkJoins_ok hjoins j hj
  exact ⟨checkTableRef_sound htable, joinChar_of_isConjunction hon⟩

theorem check_ok {d : Draft} {a : Allowlist} (h : d.check = .ok a) :
    d.maxDepth ≠ 0 ∧ d.tables.mapExcept checkTable = .ok a.tables ∧
      d.views.mapExcept (checkView a.tables) = .ok a.views ∧ a.maxDepth = d.maxDepth := by
  unfold check at h
  split at h
  · cases h
  · rename_i hdepth
    split at h
    · cases h
    · rename_i tables htables
      obtain ⟨views, hviews, rfl⟩ := map_eq_ok.1 h
      exact ⟨hdepth, htables, hviews, rfl⟩

/-- The columns of a checked draft were read from entries. -/
theorem check_read {d : Draft} {a : Allowlist} (h : d.check = .ok a) {name : String}
    {columns : List Column} (hcolumns : a.columns? name = some columns) :
    ∀ c ∈ columns, ∃ text, Column.ofEntry? text = some c := by
  obtain ⟨-, htables, -, -⟩ := check_ok h
  obtain ⟨_, -, hcheck⟩ := Keyed.find?_mapExcept htables hcolumns
  exact columns_read (checkTable_ok hcheck).2

/-- **A checked draft is sound.** -/
theorem check_sound {d : Draft} {a : Allowlist} (h : d.check = .ok a) : a.Sound := by
  obtain ⟨-, htables, hviews, -⟩ := check_ok h
  refine ⟨fun name columns hc => ?_, fun name columns hc c hmem => ?_, fun name v hv => ?_⟩
  · obtain ⟨_, -, hcheck⟩ := Keyed.find?_mapExcept htables hc
    exact (checkTable_ok hcheck).1
  · obtain ⟨text, htext⟩ := check_read h hc c hmem
    exact Column.ofEntry?_sound htext
  · obtain ⟨_, -, hcheck⟩ := Keyed.find?_mapExcept hviews hv
    exact checkView_sound hcheck

/-- The views of a checked draft are joined on conjunctions. -/
theorem check_conjunctions {d : Draft} {a : Allowlist} (h : d.check = .ok a) {name : String} {v : View}
    (hv : a.view? name = some v) : ∀ j ∈ v.joins, Join.isConjunction j.on = true := by
  obtain ⟨-, -, hviews, -⟩ := check_ok h
  obtain ⟨_, -, hcheck⟩ := Keyed.find?_mapExcept hviews hv
  obtain ⟨rfl, -, hjoins⟩ := checkView_ok hcheck
  exact fun j hj => (checkJoins_ok hjoins j hj).2

/-! ## A draft with a table and a view -/

/-- The view of the samples: items with the names of their categories. -/
def sampleView : View :=
  ⟨⟨"items", some "i"⟩, [⟨.left, "categories", some "c", "c.id = i.category_id"⟩]⟩

def sample : Draft where
  tables := .ofList [("items", ["id", "name", "tenant_id"]),
    ("item_with_category", ["i.id", "i.tenant_id", "c.name as  category_name"])]
  views := .ofList [("item_with_category", sampleView)]
  maxDepth := 4

end Draft

/-- What the check of the sample draft gives. -/
def Allowlist.sample : Allowlist where
  tables := .ofList [("items", [⟨"id", none⟩, ⟨"name", none⟩, ⟨"tenant_id", none⟩]),
    ("item_with_category",
      [⟨"i.id", none⟩, ⟨"i.tenant_id", none⟩, ⟨"c.name", some "category_name"⟩])]
  views := .ofList [("item_with_category", Draft.sampleView)]
  maxDepth := 4

theorem Draft.check_sample : Draft.sample.check = .ok .sample := rfl

end GuardedQuery
