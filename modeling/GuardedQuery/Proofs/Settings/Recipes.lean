import GuardedQuery.Proofs.Api.Answer
import GuardedQuery.Proofs.Batch.Usable
import GuardedQuery.Proofs.Decode.Record
import GuardedQuery.Settings.Basic

/-!
# Recipes of accepted settings

Settings are accepted with a checked allowlist, with page limits in order and with recipes whose tables
are listed (`Settings.load_accepted`). The keys of a recipe are looked up when a request names it, not
before: so a server serves the recipes whose keys have columns, and blames the clients of the others
(`Settings.load_serves`).
-/

namespace GuardedQuery

open Decode

/-! ## What is checked -/

/-- An allowlist that was decoded was checked. -/
theorem Allowlist.exists_draft {source : Source} {d : Document} {a : Allowlist}
    (h : decoder source d = .ok a) : ∃ draft : Draft, draft.check = .ok a := by
  obtain ⟨draft, -, hcheck⟩ := refine_eq_ok.1 h
  split at hcheck
  · rename_i hdraft
    cases hcheck
    exact ⟨draft, hdraft⟩
  · cases hcheck

namespace Settings

theorem checkRecipes_eq_ok {a : Allowlist} {pairs : List (String × Recipe)} :
    checkRecipes a pairs = .ok () ↔ ∀ p ∈ pairs,
      (a.columns? p.2.view).isSome ∧ (a.columns? p.2.children.table).isSome := by
  induction pairs with
  | nil => simp [checkRecipes]
  | cons p rest ih =>
    obtain ⟨name, r⟩ := p
    rw [checkRecipes, List.forall_mem_cons, ← ih]
    cases a.columns? r.view <;> cases a.columns? r.children.table <;> simp

/-- What holds of accepted settings: their allowlist is checked, the usual page is neither empty nor
larger than the greatest one, and the tables of every recipe are listed. -/
structure Accepted (s : Settings) : Prop where
  checked : ∃ draft : Draft, draft.check = .ok s.allowlist
  positive : s.limits.usual ≠ 0
  ordered : s.limits.usual ≤ s.limits.greatest
  listed : ∀ name recipe, s.recipes.find? name = some recipe →
    (s.allowlist.columns? recipe.view).isSome ∧ (s.allowlist.columns? recipe.children.table).isSome

variable {file : Option Document} {environment : List (String × String)} {s : Settings}

theorem decodeLayers_checked (h : decodeLayers file environment = .ok s) :
    ∃ draft : Draft, draft.check = .ok s.allowlist := by
  unfold decodeLayers at h
  split at h
  · cases h
  obtain ⟨fields, hrecord, rfl⟩ := convert_eq_ok.1 h
  obtain ⟨-, -, -, hquery, -⟩ := came_of_record hrecord
  obtain ⟨d, hd⟩ := Field.came_required hquery
  exact Allowlist.exists_draft hd

theorem load_accepted (h : load file environment = .ok s) : s.Accepted := by
  unfold load at h
  split at h
  · cases h
  rename_i settings hdecoded
  obtain ⟨⟨⟩, hcheck, rfl⟩ := map_eq_ok.1 h
  unfold check at hcheck
  split at hcheck
  · cases hcheck
  split at hcheck
  · cases hcheck
  rename_i hpositive hordered
  refine ⟨decodeLayers_checked hdecoded, hpositive, UInt64.not_lt.1 hordered, ?_⟩
  intro name recipe hrecipe
  exact checkRecipes_eq_ok.1 hcheck (name, recipe) (Keyed.find?_eq_some_iff.1 hrecipe)

/-! ## What is served -/

/-- Runs the recipes in a dialect. -/
def loader (s : Settings) (d : Dialect) : Loader := ⟨s.allowlist, d, s.limits⟩

/-- What a server with these settings answers requests from. -/
def service {σ : Type} (s : Settings) (db : Database σ) : Service σ :=
  ⟨db, s.allowlist, s.recipes, s.limits, s.server.exposesSql⟩

end Settings

/-- The request asks for a page of a recipe. -/
structure Request.Loads (r : Request) (name : String) (p : Payload String) : Prop where
  method : r.method = .post
  target : ∃ segment, Route.ofTarget? r.target = some (.batch segment) ∧
    Route.decode? segment = some name
  payload : r.payload = .ok p

namespace Settings

variable {file : Option Document} {environment : List (String × String)} {s : Settings}

/-- **Recipes of accepted settings are served if they are usable**, and only then. A payload that is
compiled on its own, without its limit, is planned for a page of the usual size, or of the size that is
asked for up to the greatest one, and its requests are not rejected; where the recipe is not usable the
payload is not planned, and the client is blamed before the database is asked for anything. -/
theorem load_serves (hload : load file environment = .ok s) {name : String} {recipe : Recipe}
    (hrecipe : s.recipes.find? name = some recipe) {d : Dialect} (hd : d ≠ .mssql)
    {p : Payload String}
    (hp : ∃ st, p.unlimited.compile s.allowlist d (.pin recipe.view) = .ok st)
    (hlimit : p.limit ≠ some 0) :
    s.Accepted ∧
    ((s.loader d).Usable recipe p →
      (∃ plan, (s.loader d).plan recipe p .none = .ok plan ∧ plan.LimitedTo s.allowlist d p
        (p.limit.elim s.limits.usual (min · s.limits.greatest))) ∧
      ∀ {σ : Type} (db : Database σ), db.dialect = d → ∀ now r state, r.Loads name p →
        ¬((s.service db).answer now r state).1.Rejects) ∧
    (¬(s.loader d).Usable recipe p →
      (∃ e, e.BlamesClient ∧ (s.loader d).plan recipe p .none = .error (.ofCompileError e)) ∧
      ∀ {σ : Type} (db : Database σ), db.dialect = d → ∀ now r state, r.Loads name p →
        ((s.service db).answer now r state).1.status = 400 ∧
          ((s.service db).answer now r state).2 = state) := by
  obtain ⟨⟨draft, ha⟩, hpositive, hordered, hlisted⟩ := load_accepted hload
  obtain ⟨st, hst⟩ := hp
  obtain ⟨c, hc, -⟩ := Payload.compile_ok hst
  have hacceptable : p.unlimited.Acceptable (s.loader d).allowlist (.pin recipe.view) :=
    Payload.check_acceptable hc
  have htable := (hlisted name recipe hrecipe).2
  have hzero : (s.loader d).limits.clamp p.limit ≠ 0 :=
    PageLimits.clamp_ne_zero hpositive hordered hlimit
  refine ⟨load_accepted hload, fun husable => ?_, fun husable => ?_⟩
  · obtain ⟨plan, hplan, hlimited⟩ :=
      Loader.plan_of_usable ha hd htable hacceptable hlimit hzero husable
    refine ⟨⟨plan, hplan, ?_⟩, ?_⟩
    · rw [← PageLimits.clamp_eq hordered]
      exact hlimited
    · rintro σ db rfl now r state ⟨hpost, ⟨segment, hroute, hname⟩, hpayload⟩
      have hdoes : (s.service db).Does r _ := .batch hpost hroute hname hpayload hrecipe hplan
      exact hdoes.not_rejects now state
  · obtain ⟨e, hblames, hplan⟩ :=
      Loader.plan_of_unusable ha hd htable hacceptable hlimit hzero husable
    refine ⟨⟨e, hblames, hplan⟩, ?_⟩
    rintro σ db rfl now r state ⟨hpost, ⟨segment, hroute, hname⟩, hpayload⟩
    have hanswer : (s.service db).answer now r state =
        (.failure now (.failed (.ofCompileError e)), state) :=
      Service.answer_unplanned (s := s.service db) hpost hroute hname hpayload hrecipe hplan now state
    rw [hanswer]
    exact ⟨hblames.status, rfl⟩

/-! ## Items with those of the same name -/

/-- Each item is served with one column of the others. -/
def sampleRecipe (column : String) : Recipe :=
  ⟨"item_with_category", "i.id", ⟨"items", "name", [column], []⟩, "items"⟩

def sample (column : String) (limits : PageLimits) : Settings where
  server := .standard
  database := ⟨"sqlite::memory:", .none⟩
  logging := .standard
  allowlist := .sample
  recipes := .ofList [("items", sampleRecipe column)]
  limits := limits

/-- A request for more rows than a page has. -/
def samplePayload : Payload String :=
  ⟨["category_name"], none, [], none, [⟨"i.id", .asc⟩], some 1000, none⟩

theorem usable_sample :
    ((sample "name" .standard).loader .sqlite).Usable (sampleRecipe "name") samplePayload where
  sound := {
    primaryKey := Column.isSome_resolve?.1 (by decide)
    table := rfl
    columns := by decide
    foreignKey := by decide
    members := by decide
    order := by decide }
  fits := by decide

/-- Settings are accepted as they are printed. -/
theorem load_serves_named :
    load (some (.ofJson (sample "name" .standard).toJson)) [] = .ok (sample "name" .standard) ∧
    (sample "name" .standard).recipes.find? "items" = some (sampleRecipe "name") ∧
    samplePayload.limit ≠ some 0 ∧
    (∃ plan, ((sample "name" .standard).loader .sqlite).plan (sampleRecipe "name") samplePayload .none =
      .ok plan ∧ plan.LimitedTo .sample .sqlite samplePayload 200) ∧
    ∀ {σ : Type} (db : Database σ), db.dialect = .sqlite → ∀ now r state,
      r.Loads "items" samplePayload →
        ¬(((sample "name" .standard).service db).answer now r state).1.Rejects := by
  have hload : load (some (.ofJson (sample "name" .standard).toJson)) [] =
    .ok (sample "name" .standard) := rfl
  have hrecipe : (sample "name" .standard).recipes.find? "items" = some (sampleRecipe "name") := rfl
  have hlimit : samplePayload.limit ≠ some 0 := by decide
  obtain ⟨-, hserves, -⟩ :=
    load_serves hload hrecipe (show Dialect.sqlite ≠ .mssql by decide) ⟨_, rfl⟩ hlimit
  obtain ⟨hplanned, hanswered⟩ := hserves usable_sample
  exact ⟨hload, hrecipe, hlimit, hplanned, hanswered⟩

/-- A column that is not listed, and pages of more rows than a database counts: both are accepted, and
no page of theirs is. -/
theorem load_serves_none :
    let limits : PageLimits := ⟨9223372036854775808, 9223372036854775808⟩
    let p := samplePayload.unlimited
    (∃ st, p.compile .sample .sqlite (.pin "item_with_category") = .ok st) ∧
    load (some (.ofJson (sample "price" .standard).toJson)) [] = .ok (sample "price" .standard) ∧
    ((sample "price" .standard).loader .sqlite).plan (sampleRecipe "price") p .none = .error .denied ∧
    load (some (.ofJson (sample "name" limits).toJson)) [] = .ok (sample "name" limits) ∧
    ((sample "name" limits).loader .sqlite).plan (sampleRecipe "name") p .none =
      .error (.malformed .windowTooLarge) :=
  ⟨⟨_, rfl⟩, rfl, rfl, rfl, rfl⟩

end Settings

end GuardedQuery
