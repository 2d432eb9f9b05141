import GuardedQuery.Api.Response
import GuardedQuery.Proofs.Batch.Plan
import GuardedQuery.Proofs.Statement.Acceptance
import GuardedQuery.Proofs.Statement.Dialects

/-!
# Recipes that can be planned

A batch load makes three statements. Two of them depend on the recipe alone beside the select of the
request, and the third is the payload of the request with another select and another limit. So a
payload that is compiled on its own is planned just when the recipe is sound and the limit of the page
fits (`Loader.Usable`), and otherwise the client is blamed (`Loader.plan_of_usable`,
`Loader.plan_of_unusable`).
-/

namespace GuardedQuery

/-! ## Blame -/

/-- A client is told that the request is wrong. -/
def CompileError.BlamesClient : CompileError → Prop
  | .malformed _ => True
  | .denied _ _ => True
  | .noAggregation _ => False

theorem CompileError.BlamesClient.status {e : CompileError} (h : e.BlamesClient) :
    (ApiError.failed (.ofCompileError e)).status = 400 := by
  cases e with
  | malformed m => rfl
  | denied position key => rfl
  | noAggregation d => exact h.elim

namespace Aggregate

variable {columns : List Column}

theorem plainColumn_blames {position : Position} {key : String} {e : CompileError}
    (h : plainColumn columns position key = .error e) : e.BlamesClient := by
  unfold plainColumn at h
  split at h
  · rename_i hcolumn
    cases h
    obtain ⟨rfl, -⟩ := Target.column_error hcolumn
    trivial
  · split at h <;> cases h
    trivial

theorem memberNames_blames {names keys : List String} {e : CompileError}
    (h : memberNames columns names keys = .error e) : e.BlamesClient := by
  rw [memberNames_eq_mapM] at h
  obtain ⟨key, -, hkey⟩ := exists_of_mapM_eq_error (map_eq_error.1 h)
  exact plainColumn_blames hkey

theorem orderTerms_blames {terms : List (SortTerm String)} {e : CompileError}
    (h : orderTerms columns terms = .error e) : e.BlamesClient := by
  rw [orderTerms_eq_mapM] at h
  obtain ⟨t, -, ht⟩ := exists_of_mapM_eq_error h
  exact plainColumn_blames (map_eq_error.1 ht)

theorem check_blames {a : Allowlist} {r : Relation} {keys : List Literal} {e : CompileError}
    (h : check a r keys = .error e) : e.BlamesClient := by
  unfold check at h
  dsimp only at h
  split at h
  · cases h
    trivial
  split at h
  · cases h
    trivial
  split at h
  · cases h
    trivial
  split at h
  · cases h
    trivial
  rcases bind_eq_error.1 h with hforeign | ⟨foreignKey, -, h⟩
  · exact plainColumn_blames hforeign
  rcases bind_eq_error.1 h with hnames | ⟨names, -, h⟩
  · exact memberNames_blames hnames
  rcases bind_eq_error.1 h with horder | ⟨order, -, h⟩
  · exact orderTerms_blames horder
  · cases h

end Aggregate

theorem Relation.compile_blames {a : Allowlist} {d : Dialect} (hd : d ≠ .mssql) {r : Relation}
    {keys : List Literal} {e : CompileError} (h : r.compile a d keys = .error e) :
    e.BlamesClient := by
  unfold compile at h
  split at h
  · rename_i hcheck
    cases h
    exact Aggregate.check_blames hcheck
  · rename_i hfolding
    cases d
    case mssql => exact absurd rfl hd
    all_goals cases hfolding
  · cases h

theorem Payload.check_blames {a : Allowlist} {o : Override} {p : Payload String} {e : CompileError}
    (h : p.check a o none = .error e) : e.BlamesClient := by
  have hbreaks := check_breaks h
  cases e with
  | noAggregation d => exact hbreaks
  | _ => trivial

/-! ## Sound recipes -/

/-- What a recipe asks of the allowlist, beyond that its tables are listed: the primary key goes by a
column of the view, and the children have columns, which with the keys that they are found and sorted
by stand for plain columns of a table that is no view. -/
structure Recipe.Sound (a : Allowlist) (r : Recipe) : Prop where
  primaryKey : Column.Named (a.permitted r.view) r.primaryKey
  table : a.view? r.children.table = none
  columns : r.children.columns ≠ []
  foreignKey : (Column.plainName? (a.permitted r.children.table) r.children.foreignKey).isSome
  members : ∀ key ∈ r.children.columns,
    (Column.plainName? (a.permitted r.children.table) key).isSome
  order : ∀ t ∈ r.children.order, (Column.plainName? (a.permitted r.children.table) t.key).isSome

theorem Recipe.sound_iff {a : Allowlist} {r : Recipe} {keys : List Literal} (hkeys : keys ≠ [])
    (hlisted : (a.columns? r.children.table).isSome) : r.Sound a ↔
      Column.Named (a.permitted r.view) r.primaryKey ∧ r.children.Acceptable a keys :=
  ⟨fun ⟨hkey, htable, hcolumns, hforeign, hmembers, horder⟩ =>
    ⟨hkey, hkeys, hcolumns, hlisted, htable, hforeign, hmembers, horder⟩,
  fun ⟨hkey, _, hcolumns, _, htable, hforeign, hmembers, horder⟩ =>
    ⟨hkey, htable, hcolumns, hforeign, hmembers, horder⟩⟩

/-! ## Page limits -/

namespace PageLimits

variable {l : PageLimits}

theorem clamp_eq (h : l.usual ≤ l.greatest) (requested : Option UInt64) :
    l.clamp requested = requested.elim l.usual (min · l.greatest) := by
  cases requested with
  | none => exact if_pos h
  | some n => rfl

theorem clamp_ne_zero (hpositive : l.usual ≠ 0) (h : l.usual ≤ l.greatest)
    {requested : Option UInt64} (hrequested : requested ≠ some 0) : l.clamp requested ≠ 0 := by
  rw [clamp_eq h]
  cases requested with
  | none => exact hpositive
  | some n =>
    have hn : n ≠ 0 := fun hn => hrequested (congrArg some hn)
    have hgreatest : l.greatest ≠ 0 := by
      intro hzero
      rw [hzero] at h
      exact hpositive (UInt64.le_zero_iff.1 h)
    show (if n ≤ l.greatest then n else l.greatest) ≠ 0
    split
    · exact hn
    · exact hgreatest

end PageLimits

/-! ## Plans -/

/-- The payload without its limit. -/
def Payload.unlimited (p : Payload String) : Payload String := { p with limit := none }

/-- Where the server names the view, the payload fits its columns. -/
theorem Payload.Acceptable.fits {a : Allowlist} {view : String} {p : Payload String}
    (h : p.Acceptable a (.pin view)) :
    a.columns? view = some (a.permitted view) ∧ p.Fits a (.pin view) view (a.permitted view) := by
  obtain ⟨table, columns, htable, hcolumns, hfits⟩ := h.table
  obtain rfl : view = table := Option.some.inj htable
  have hpermitted : a.permitted view = columns := by
    rw [Allowlist.permitted, hcolumns]
    rfl
  rw [hpermitted]
  exact ⟨hcolumns, hfits⟩

/-- The statement of a payload ends in the clause of its window. -/
theorem Payload.compile_windowed {draft : Draft} {a : Allowlist} (ha : draft.check = .ok a)
    {d : Dialect} {o : Override} (ho : o.joins = []) {p : Payload String} {st : Statement}
    (h : p.compile a d o = .ok st) : ∃ text, st.Writes d (!p.order.isEmpty) text p.window := by
  have hagrees : DialectsAgree d d (!p.order.isEmpty) p.window (p.compile a d o) (p.compile a d o) :=
    check_agrees ha ho d d
  rw [h] at hagrees
  obtain ⟨-, -, text, hwrites, -⟩ := hagrees
  exact ⟨text, hwrites⟩

/-- The keys of a page are those of the payload with this limit, and the statement for them ends in
the clause of its window. -/
structure Plan.LimitedTo (a : Allowlist) (d : Dialect) (plan : Plan) (p : Payload String)
    (limit : UInt64) : Prop where
  keys : ({ p with select := [plan.recipe.primaryKey], limit := some limit } : Payload String).compile
    a d (.pin plan.recipe.view) = .ok plan.keysQuery
  window : ∃ text, plan.keysQuery.Writes d (!p.order.isEmpty) text
    ⟨some limit.toNat, p.offset.map UInt64.toNat⟩

namespace Loader

variable {l : Loader} {r : Recipe} {p : Payload String}

/-- The recipe can be planned for the payload: it is sound, and the limit of the page fits a signed
integer of 64 bits. -/
structure Usable (l : Loader) (r : Recipe) (p : Payload String) : Prop where
  sound : r.Sound l.allowlist
  fits : (l.limits.clamp p.limit).toNat ≤ 9223372036854775807

/-- The statement for keys is compiled just when the page has a limit that fits and the key has a
column. -/
theorem keysPayload_acceptable (hp : p.unlimited.Acceptable l.allowlist (.pin r.view))
    (hzero : l.limits.clamp p.limit ≠ 0) :
    (l.keysPayload r p).Acceptable l.allowlist (.pin r.view) ↔
      Column.Named (l.allowlist.permitted r.view) r.primaryKey ∧
        (l.limits.clamp p.limit).toNat ≤ 9223372036854775807 := by
  constructor
  · intro h
    exact ⟨h.fits.2.select r.primaryKey (List.mem_singleton_self _),
      h.bounds (l.limits.clamp p.limit) List.mem_cons_self⟩
  · rintro ⟨hkey, hfit⟩
    obtain ⟨hcolumns, hfits⟩ := hp.fits
    refine ⟨List.cons_ne_nil _ _, fun h => hzero (Option.some.inj h), fun n hn => ?_,
      r.view, _, rfl, hcolumns, hfits.joins, ?_, hfits.order, hfits.filters⟩
    · rcases List.mem_append.1 hn with hn | hn
      · rw [List.mem_singleton.1 hn]
        exact hfit
      · exact hp.bounds n (List.mem_append_right _ hn)
    · intro key hmem
      rw [List.mem_singleton.1 hmem]
      exact hkey

/-- The statement for parents is compiled if the key has a column. -/
theorem exists_detailQuery {draft : Draft} (ha : draft.check = .ok l.allowlist)
    (hp : p.unlimited.Acceptable l.allowlist (.pin r.view))
    (hkey : Column.Named (l.allowlist.permitted r.view) r.primaryKey) :
    ∃ st, l.detailQuery r p.select (.pin r.view) [someKey] = .ok st := by
  obtain ⟨hcolumns, hfits⟩ := hp.fits
  obtain ⟨key, hkey⟩ := Option.isSome_iff_exists.1 (Column.isSome_resolve?.2 hkey)
  obtain ⟨selection, hselection⟩ := Selection.exists_ofKeys hfits.select
  have hsound : ∀ c ∈ l.allowlist.permitted r.view, c.Sound := fun _ =>
    (Draft.check_sound ha).permitted
  obtain ⟨tested, htested, -⟩ := Column.resolve?_expression hsound (Column.resolve?_mem hkey)
  obtain ⟨source, joins, htarget⟩ : ∃ source joins, Target.find l.allowlist (some r.view) []
      (.pin r.view) = .ok ⟨r.view, l.allowlist.permitted r.view, source, joins⟩ := by
    unfold Target.find
    dsimp only
    rw [hcolumns]
    exact ⟨_, _, rfl⟩
  have hdepth : 1 ≤ l.allowlist.maxDepth.toNat := by
    obtain ⟨hdepth, -, -, heq⟩ := Draft.check_ok ha
    rw [← heq, ← UInt64.toNat_inj.ne] at hdepth
    exact Nat.one_le_iff_ne_zero.2 hdepth
  have hfinds : KeyLookup.Finds l.allowlist (.pin r.view)
      ⟨r.view, r.primaryKey, p.select, [someKey]⟩
      ⟨⟨r.view, l.allowlist.permitted r.view, source, joins⟩, key, selection, []⟩ :=
    ⟨htarget, hkey, hselection, rfl, hdepth⟩
  have hcheck := (KeyLookup.check_iff hp.select (List.cons_ne_nil _ _)).2
    ⟨_, tested, hfinds, htested, rfl⟩
  exact ⟨_, map_eq_ok.2 ⟨_, hcheck, rfl⟩⟩

theorem plan_eq (hlimit : p.limit ≠ some 0) : l.plan r p .none =
    (do
      let keysQuery ← (l.keysPayload r p).compile l.allowlist l.dialect (.pin r.view)
      let _ ← l.detailQuery r p.select (.pin r.view) [someKey]
      let _ ← l.childrenQuery r [someKey]
      return ⟨r, p.select, .pin r.view, keysQuery⟩ : Except CompileError Plan).mapError
        PublicError.ofCompileError := by
  rw [plan, compile, if_neg hlimit]
  rfl

section

variable {draft : Draft} (ha : draft.check = .ok l.allowlist) (hd : l.dialect ≠ .mssql)
  (hlisted : (l.allowlist.columns? r.children.table).isSome)
  (hp : p.unlimited.Acceptable l.allowlist (.pin r.view)) (hlimit : p.limit ≠ some 0)
  (hzero : l.limits.clamp p.limit ≠ 0)

include ha hd hlisted hp hlimit hzero

/-- **A usable recipe is planned** for every payload that is compiled on its own, and its page has the
clamped limit. -/
theorem plan_of_usable (h : l.Usable r p) :
    ∃ plan, l.plan r p .none = .ok plan ∧
      plan.LimitedTo l.allowlist l.dialect p (l.limits.clamp p.limit) := by
  obtain ⟨hkey, hchildren⟩ := (Recipe.sound_iff (List.cons_ne_nil someKey []) hlisted).1 h.sound
  obtain ⟨c, hc⟩ := ((keysPayload_acceptable hp hzero).2 ⟨hkey, h.fits⟩).exists_check
  have hkeys : (l.keysPayload r p).compile l.allowlist l.dialect (.pin r.view) =
    .ok (c.statement l.dialect) := map_eq_ok.2 ⟨c, hc, rfl⟩
  obtain ⟨detail, hdetail⟩ := exists_detailQuery ha hp hkey
  obtain ⟨children, hrelation⟩ := (Relation.exists_compile hd).2 hchildren
  have hchildrenQuery : l.childrenQuery r [someKey] = .ok children := hrelation
  refine ⟨⟨r, p.select, .pin r.view, c.statement l.dialect⟩, ?_, hkeys,
    Payload.compile_windowed ha rfl hkeys⟩
  rw [plan_eq hlimit, hkeys, hdetail, hchildrenQuery]
  rfl

/-- **A recipe that is not usable is never planned**, and the client is told that the request is
wrong. -/
theorem plan_of_unusable (h : ¬l.Usable r p) :
    ∃ e, e.BlamesClient ∧ l.plan r p .none = .error (.ofCompileError e) := by
  rw [plan_eq hlimit]
  cases hc : (l.keysPayload r p).check l.allowlist (.pin r.view) none with
  | error e =>
    refine ⟨e, Payload.check_blames hc, ?_⟩
    rw [Payload.compile, hc]
    rfl
  | ok c =>
    -- then the key has a column and the limit fits, so it is the children that are wrong
    obtain ⟨hkey, hfit⟩ := (keysPayload_acceptable hp hzero).1 (Payload.check_acceptable hc)
    have hkeys : (l.keysPayload r p).compile l.allowlist l.dialect (.pin r.view) =
      .ok (c.statement l.dialect) := map_eq_ok.2 ⟨c, hc, rfl⟩
    obtain ⟨detail, hdetail⟩ := exists_detailQuery ha hp hkey
    cases hrelation : l.childrenQuery r [someKey] with
    | ok children =>
      have hchildren := (Relation.exists_compile hd).1 ⟨children, hrelation⟩
      have hsound := (Recipe.sound_iff hchildren.keys hlisted).2 ⟨hkey, hchildren⟩
      exact absurd ⟨hsound, hfit⟩ h
    | error e =>
      refine ⟨e, Relation.compile_blames hd hrelation, ?_⟩
      rw [hkeys, hdetail]
      rfl

end

end Loader

end GuardedQuery
