import GuardedQuery.Proofs.Api.Answer
import GuardedQuery.Proofs.Database.Replay
import GuardedQuery.Proofs.Statement.Projection

/-!
# What an answer shows

An answer with rows shows the columns that the client selected, those that the recipe adds, and nothing
else that the database replied (`Service.Confined`). On a replayed database the answer is a function of
the cells in the result columns, and a row that lacks one of them is never answered with where that is
noticed (`Service.answer_confined`).
-/

namespace GuardedQuery

open Merge

/-! ## Loads -/

namespace Loader

variable {σ : Type} {l : Loader} {r : Recipe} {payload : Payload String} {o : Override} {p : Plan}

theorem load_strict (l : Loader) (p : Plan) : (l.load p).Strict := by
  unfold load
  cases p.keysQuery.keyColumn with
  | error e => exact .done _
  | ok keyColumn =>
    refine .bind (Work.strict_keys _) fun keys => ?_
    cases distinct keys with
    | nil => exact .done _
    | cons key rest =>
      simp only [loadKeys]
      cases l.detailQuery p.recipe p.select p.override (key :: rest) with
      | error e => exact .done _
      | ok parents =>
        cases l.childrenQuery p.recipe (key :: rest) with
        | error e => exact .done _
        | ok children =>
          refine .bind (Work.strict_step _ _) fun ps => ?_
          exact .bind (Work.strict_step _ _) fun cs => .done _

/-- A parent has the selected columns and the primary key. -/
theorem Asks.columns (ha : l.allowlist.Sound) (h : l.plan r payload o = .ok p)
    {keys : List Literal} {parents children : Statement} (hasks : l.Asks p keys parents children)
    (name : String) :
    name ∈ parents.outline.columns ↔
      l.allowlist.Shows r.view (payload.select ++ [r.primaryKey]) name := by
  obtain ⟨_, _, _, -, -, -, rfl⟩ := plan_ok h
  have hcompiled := hasks.compiledParents
  obtain ⟨c, hc, rfl⟩ := KeyLookup.compile_ok hcompiled
  have hview : (c.statement l.dialect).outline.table = r.view :=
    (Option.some.inj (KeyLookup.check_permitted hc).2).symm
  rw [KeyLookup.compile_columns ha hcompiled, hview]

variable {keyColumn : String} {driver : Driver σ} {t : Transaction} {s s' : σ}
  {requests : List Work.Request}

/-- A row of a load has the columns of a parent and the field of the children. -/
theorem Goes.contains {rows : List Row} (ha : l.allowlist.Sound) (h : l.plan r payload o = .ok p)
    (hgoes : l.Goes p keyColumn (t.executor driver) s requests (.ok rows) s') {row : Row}
    (hrow : row ∈ rows) (k : String) :
    row.contains k = true ↔
      l.allowlist.Shows r.view (payload.select ++ [r.primaryKey]) k ∨ k = r.childrenField := by
  have hrecipe : p.recipe = r := by
    obtain ⟨_, _, _, -, -, -, rfl⟩ := plan_ok h
    rfl
  cases hgoes with
  | noKeys => cases hrow
  | merged hcontinues _ _ hmerged =>
    obtain ⟨s₁, hopens, hparents⟩ := hcontinues.opens
    obtain ⟨i, hi, rfl⟩ := List.getElem_of_mem hrow
    obtain ⟨hlength, hall⟩ := List.forall₂_iff_get.1 hmerged
    obtain ⟨parent, items, hlast, -, heq⟩ := hall i (by omega) hi
    have hparent := Transaction.fetchAll_contains hparents (lastRow?_mem hlast).1 k
    rw [List.get_eq_getElem] at heq
    rw [heq, Keyed.contains_insert, hparent, hopens.asks.columns ha h, hrecipe]
    exact or_comm

/-- A load asks for the keys of the page and for rows. -/
theorem Goes.asked {x : Executor σ} {result : Except ExecutionError (List Row)}
    (hgoes : l.Goes p keyColumn x s requests result s') {q : Work.Request} (hq : q ∈ requests) :
    q = .keys p.keysQuery ∨ ∃ st, q = .rows st := by
  cases hgoes <;> simp only [List.mem_cons, List.not_mem_nil, or_false] at hq
  case keysFailed => exact .inl hq
  case noKeys => exact .inl hq
  case parentsFailed => exact hq.imp id fun h => ⟨_, h⟩
  case parentWithoutKey => exact hq.imp id fun h => ⟨_, h⟩
  case childrenFailed => exact hq.imp id (Or.rec (fun h => ⟨_, h⟩) fun h => ⟨_, h⟩)
  case noFamily => exact hq.imp id (Or.rec (fun h => ⟨_, h⟩) fun h => ⟨_, h⟩)
  case merged => exact hq.imp id (Or.rec (fun h => ⟨_, h⟩) fun h => ⟨_, h⟩)

end Loader

namespace Service

variable {σ : Type} {s : Service σ} {now : String} {r : Request} {job : Job}

/-! ## The rows of an answer -/

/-- An answer with rows that show nothing else than was selected. -/
inductive Confined (s : Service σ) (now : String) (r : Request) : Response → Prop
  | query {segment view : String} {p : Payload String} {st : Statement} {rows : List Row} :
      Route.ofTarget? r.target = some (.query segment) → Route.decode? segment = some view →
      r.payload = .ok p → p.compile s.allowlist s.database.dialect (.pin view) = .ok st →
      (∀ row ∈ rows, ∀ k, row.contains k = true ↔ k ∈ st.outline.columns) →
      (∀ k, k ∈ st.outline.columns ↔ s.allowlist.Shows view p.select k) →
      Confined s now r (.success now "Data retrieved successfully"
        (Outcome.toJson now s.exposesSql ⟨rows, st, st.outline.requested⟩))
  | batch {segment name : String} {p : Payload String} {recipe : Recipe} {plan : Plan}
      {rows : List Row} :
      Route.ofTarget? r.target = some (.batch segment) → Route.decode? segment = some name →
      r.payload = .ok p → s.recipes.find? name = some recipe →
      s.loader.plan recipe p .none = .ok plan →
      (∀ row ∈ rows, ∀ k, row.contains k = true ↔
        s.allowlist.Shows recipe.view (p.select ++ [recipe.primaryKey]) k ∨
          k = recipe.childrenField) →
      Confined s now r (.success now "Batch loaded successfully"
        (Outcome.toJson now s.exposesSql ⟨rows, plan.keysQuery, plan.select⟩))

theorem Does.confined (ha : s.allowlist.Sound) (h : s.Does r job) {t : Transaction}
    {state state' : σ} {rows : List Row}
    (hrun : job.work.run (t.executor s.database.driver) state = (.ok rows, state')) :
    s.Confined now r (job.response now s.exposesSql (.ok rows)) := by
  cases h with
  | query _ hroute hname hpayload hcompile =>
    refine .query hroute hname hpayload hcompile ?_ fun k => ?_
    · exact fun row hrow => Transaction.fetchAll_contains hrun hrow
    · obtain ⟨c, hc, rfl⟩ := Payload.compile_ok hcompile
      have hview := (Option.some.inj (Payload.check_permitted hc).2).symm
      rw [Payload.compile_columns ha hcompile, Payload.Checked.statement,
        Statement.outline_ofTemplate, hview]
  | batch _ hroute hname hpayload hrecipe hplan =>
    obtain ⟨key, -, hcolumn⟩ := Loader.plan_keyColumn hplan
    have hgoes := Loader.load_goes hplan hcolumn (t.executor s.database.driver) state
    rw [hrun] at hgoes
    exact .batch hroute hname hpayload hrecipe hplan fun row hrow => hgoes.contains ha hplan hrow

/-- An answer with rows is that of a job. -/
theorem does_of_ok (hhealth : Route.ofTarget? r.target ≠ some .health) {state : σ}
    (hok : (s.answer now r state).1.status = 200) : ∃ job, s.Does r job := by
  rcases refused_or_does s now r hhealth with ⟨response, hstatus, hrefused⟩ | hjob
  · have hanswer : s.answer now r state = (response, state) := hrefused s.database rfl state
    rw [hanswer] at hok
    exact absurd hok hstatus
  · exact hjob

theorem Does.shows (ha : s.allowlist.Sound) (h : s.Does r job) {state : σ}
    (hok : (s.answer now r state).1.status = 200) :
    s.Confined now r (s.answer now r state).1 := by
  rw [h.answer now state] at hok ⊢
  obtain ⟨rows, hrows⟩ := response_status_eq hok
  obtain ⟨state₁, state₂, -, hwork, -⟩ := Database.serve_ok hrows
  rw [hrows]
  exact h.confined ha hwork

/-! ## The replies of an answer -/

/-- What the work asks of the database in a transaction that is begun from a state. -/
def Job.asked (job : Job) (db : Database σ) (state : σ) : List Work.Request :=
  job.work.requests db.worker (db.driver.begin state).2

theorem Does.strict (h : s.Does r job) : job.work.Strict := by
  cases h with
  | query => exact Work.strict_rows _
  | batch => exact Loader.load_strict _ _

/-- All result columns of the statements are looked at. -/
theorem Does.asked_columns (h : s.Does r job) {db : Database σ} {state : σ} {q : Work.Request}
    (hq : q ∈ job.asked db state) : q.columns = q.statement.outline.columns := by
  cases h with
  | query =>
    rw [List.mem_singleton.1 hq]
    rfl
  | batch _ _ _ _ _ hplan =>
    obtain ⟨key, -, hcolumn⟩ := Loader.plan_keyColumn hplan
    have hgoes := Loader.load_goes hplan hcolumn db.worker (db.driver.begin state).2
    rcases hgoes.asked hq with rfl | ⟨st, rfl⟩
    · simp [Work.Request.columns, Work.Request.statement, hcolumn]
    · rfl

end Service

/-! ## Replayed databases -/

namespace Replay

variable {setup : Setup} {r r' : Replay} {α : Type} {w : Work ExecutionError α}

theorem begin_reply (setup : Setup) (r : Replay) (i : Nat) : (begin setup r).2.reply i = r.reply i := by
  unfold begin
  cases setup.beginCode <;> rfl

theorem begin_congr (setup : Setup) (r r' : Replay) :
    (begin setup r).1 = (begin setup r').1 ∧
    (begin setup r).2.severed = (begin setup r').2.severed := by
  unfold begin
  cases setup.beginCode <;> exact ⟨rfl, rfl⟩

/-- How a transaction ends is up to the connection, not to the script. -/
theorem finish_congr (e : Event) (code : Option String) (h : r.severed = r'.severed) :
    (finish e code r).1 = (finish e code r').1 := by
  unfold finish
  rw [h]
  split
  · rfl
  · cases code <;> rfl

/-- **Two scripts that agree where they are looked at are served alike.** -/
theorem serve_congr (h : w.Strict)
    (hmatches : Matches (w.requests (database setup).worker (begin setup r).2) r r') :
    ((database setup).serve w r').1 = ((database setup).serve w r).1 := by
  obtain ⟨hbegun, hconnected⟩ := begin_congr setup r r'
  have hbegin : Matches (w.requests (database setup).worker (begin setup r).2)
      (begin setup r).2 (begin setup r').2 := by
    intro i q hq
    rw [begin_reply, begin_reply]
    exact hmatches i q hq
  obtain ⟨hresult, hsevered⟩ := h.run_matches hconnected hbegin
  have hcommitted := finish_congr .commit setup.commitCode hsevered
  rw [Database.serve_result, Database.serve_result]
  exact congr (congr (congrArg Database.served hbegun.symm) hresult.symm) hcommitted.symm

end Replay

/-! ## Every answer -/

namespace Service

section

variable {s : Service Replay} {setup : Replay.Setup} {r : Request} {job : Job}
  {now : String} {state state' : Replay}

theorem Does.answer_congr (hdb : s.database = Replay.database setup) (h : s.Does r job)
    (hmatches : Replay.Matches (job.asked s.database state) state state') :
    (s.answer now r state').1 = (s.answer now r state).1 := by
  rw [h.answer now state, h.answer now state']
  rw [hdb] at hmatches ⊢
  rw [Replay.serve_congr h.strict hmatches]

theorem Does.answer_carries (hdb : s.database = Replay.database setup) (h : s.Does r job)
    (hok : (s.answer now r state).1.status = 200) {i : Nat} {q : Work.Request}
    (hq : (job.asked s.database state)[i]? = some q) (hnotices : q.Notices setup) :
    (state.reply i).Carries q.statement.outline.columns := by
  rw [h.answer now state] at hok
  obtain ⟨rows, hrows⟩ := response_status_eq hok
  obtain ⟨state₁, state₂, hbegin, hwork, -⟩ := Database.serve_ok hrows
  rw [← h.asked_columns (List.mem_of_getElem? hq)]
  unfold Job.asked at hq
  rw [hbegin] at hq
  rw [hdb] at hbegin hwork hq
  have hreply : state₁.reply i = state.reply i := by
    have hbegun := Replay.begin_reply setup state i
    have hstate : (Replay.begin setup state).2 = state₁ := congrArg Prod.snd hbegin
    rwa [hstate] at hbegun
  rw [← hreply]
  exact h.strict.run_carries (congrArg Prod.fst hwork) i q hq hnotices

end

/-- **What every answer shows.** For each request for rows: the rows of an answer have the columns that
were selected; the answer stays the same when other columns of the replies change; and no row that
lacks a result column is answered with: none at all where a missing column does not read as null, and
no row of keys anywhere. The `i`-th statement of a job is answered by the `i`-th reply, since the first
read that fails is its last. -/
theorem answer_confined {draft : Draft} {s : Service Replay} {setup : Replay.Setup}
    (ha : draft.check = .ok s.allowlist) (hdb : s.database = Replay.database setup) {r : Request}
    (hhealth : Route.ofTarget? r.target ≠ some .health) (now : String) (state : Replay) :
    ((s.answer now r state).1.status = 200 → s.Confined now r (s.answer now r state).1) ∧
      (∀ state', (∀ job, s.Does r job → Replay.Matches (job.asked s.database state) state state') →
        (s.answer now r state').1 = (s.answer now r state).1) ∧
      ((s.answer now r state).1.status = 200 → ∀ job, s.Does r job →
        ∀ i q, (job.asked s.database state)[i]? = some q → q.Notices setup →
          (state.reply i).Carries q.statement.outline.columns) := by
  refine ⟨fun hok => ?_, fun state' hmatches => ?_, fun hok job hdoes i q hq hnotices => ?_⟩
  · obtain ⟨job, hdoes⟩ := does_of_ok hhealth hok
    exact hdoes.shows (Draft.check_sound ha) hok
  · rcases refused_or_does s now r hhealth with ⟨response, -, hrefused⟩ | ⟨job, hdoes⟩
    · have hanswer (state : Replay) : s.answer now r state = (response, state) :=
        hrefused s.database rfl state
      rw [hanswer, hanswer]
    · exact hdoes.answer_congr hdb (hmatches job hdoes)
  · exact hdoes.answer_carries hdb hok hq hnotices

/-! ## Items by id and name -/

/-- A database that fails nothing by itself. -/
def sampleSetup (d : Dialect) : Replay.Setup := ⟨d, none, none, none, false⟩

def sample (d : Dialect) : Service Replay :=
  ⟨Replay.database (sampleSetup d), .sample, .ofList [("items", .sample)], .standard, false⟩

def sampleRequest : Request where
  method := .post
  target := "/api/v1/query/items"
  contentType := some "application/json"
  body := "\x7b\"payload\":\x7b\"select\":[\"id\",\"name\"]\x7d\x7d"

/-- A row in another order, with a column that was not asked for. -/
def sampleState : Replay :=
  .start [.result [.ofList [("secret", .text "s"), ("name", .text "hammer"), ("id", .int 1)]]]

theorem target_sampleRequest : Route.ofTarget? sampleRequest.target = some (.query "items") := by
  decide +kernel

theorem answer_confined_sample :
    Draft.sample.check = .ok (sample .sqlite).allowlist ∧
      (sample .sqlite).database = Replay.database (sampleSetup .sqlite) ∧
      Route.ofTarget? sampleRequest.target ≠ some .health ∧
      ((sample .sqlite).answer "now" sampleRequest sampleState).1.status = 200 ∧
      (((sample .sqlite).answer "now" sampleRequest sampleState).1.status = 200 →
        (sample .sqlite).Confined "now" sampleRequest
          ((sample .sqlite).answer "now" sampleRequest sampleState).1) ∧
      (∀ state', (∀ job, (sample .sqlite).Does sampleRequest job →
          Replay.Matches (job.asked (sample .sqlite).database sampleState) sampleState state') →
        ((sample .sqlite).answer "now" sampleRequest state').1 =
          ((sample .sqlite).answer "now" sampleRequest sampleState).1) ∧
      (((sample .sqlite).answer "now" sampleRequest sampleState).1.status = 200 →
        ∀ job, (sample .sqlite).Does sampleRequest job →
          ∀ i q, (job.asked (sample .sqlite).database sampleState)[i]? = some q →
            q.Notices (sampleSetup .sqlite) →
            (sampleState.reply i).Carries q.statement.outline.columns) :=
  have hhealth : Route.ofTarget? sampleRequest.target ≠ some .health := by
    rw [target_sampleRequest]
    decide
  ⟨Draft.check_sample, rfl, hhealth, by decide +kernel,
    answer_confined (s := sample .sqlite) Draft.check_sample rfl hhealth "now" sampleState⟩

def samplePayload : Payload String := ⟨["id", "name"], none, [], none, [], none, none⟩

def sampleStatement : Statement :=
  ⟨.postgres, "SELECT id, name FROM items", [], ⟨["id", "name"], ["id", "name"], false, false, "items"⟩⟩

def sampleJob : Job :=
  ⟨"Data retrieved successfully", Work.rows sampleStatement, sampleStatement, ["id", "name"]⟩

theorem payload_sampleRequest : sampleRequest.payload = .ok samplePayload := by
  have hread : sampleRequest.payload.toOption.any (fun p => p.select == ["id", "name"] &&
      p.source.isNone && p.joins.isEmpty && p.filter.isNone && p.order.isEmpty && p.limit.isNone &&
      p.offset.isNone) = true := by decide +kernel
  cases hpayload : sampleRequest.payload with
  | error e => simp [hpayload, Except.toOption] at hread
  | ok p =>
    obtain ⟨select, source, joins, filter, order, limit, offset⟩ := p
    simp_all [Except.toOption, samplePayload]

theorem does_sampleJob : (sample .postgres).Does sampleRequest sampleJob := by
  have hview : Route.decode? "items" = some "items" := by decide +kernel
  exact .query rfl target_sampleRequest hview payload_sampleRequest rfl

/-- Where a missing column reads as null a row without it is answered with all the same. -/
theorem answer_lacks_column :
    let state : Replay := .start [.result [.ofList [("id", .int 1)]]]
    (sample .postgres).Does sampleRequest sampleJob ∧
      ((sample .postgres).answer "now" sampleRequest state).1.status = 200 ∧
      (sampleJob.asked (sample .postgres).database state)[0]? = some (.rows sampleStatement) ∧
      ¬(state.reply 0).Carries sampleStatement.outline.columns := by
  refine ⟨does_sampleJob, by decide +kernel, rfl, fun hcarries => ?_⟩
  have hname := hcarries _ rfl _ List.mem_cons_self "name" (by decide)
  exact absurd hname (by decide +kernel)

end Service

end GuardedQuery
