import GuardedQuery.Api.Service
import GuardedQuery.Proofs.Batch.Load
import GuardedQuery.Proofs.Database.Blame
import GuardedQuery.Proofs.Database.Connection

/-!
# Requests for rows

A request for rows is refused before any transaction, or its statements are compiled and it is one
unit of work (`Service.refused_or_does`). Work that fails does not fail by the fault of the request any
more (`Service.Does.run_blame`), so a request that is rejected was refused before the database was
asked for anything. `Service.answer_asks` says what the database is asked, whatever it answers.
-/

namespace GuardedQuery

open Driver ExecutionError

/-! ## Statuses -/

namespace ApiError

theorem status_ne (e : ApiError) : e.status ≠ 200 := by
  cases e with
  | body e => simp [status]
  | failed e => cases e <;> simp [status]

end ApiError

/-- The request was rejected: it is wrong, or what it names is not there. -/
def Response.Rejects (r : Response) : Prop := r.status = 400 ∨ r.status = 404

theorem not_rejects_of_blames {e : ExecutionError} (h : e.blames = false) (now : String) :
    ¬(Response.failure now (.failed e.toPublic)).Rejects := by
  have hkind := told_of_blames h
  unfold Response.Rejects Response.failure
  cases hpublic : e.toPublic <;>
    simp_all [ErrorKind.IsServers, PublicError.kind, ApiError.status]

/-- A load that succeeds has read once or three times. -/
theorem Loader.Goes.reads {σ : Type} {l : Loader} {p : Plan} {keyColumn : String}
    {d : Driver σ} {t : Transaction} {s s' : σ × Trace} {requests : List Work.Request}
    {rows : List Row}
    (h : l.Goes p keyColumn (t.executor d.traced) s requests (.ok rows) s') :
    ∃ reads, (reads.length = 1 ∨ reads.length = 3) ∧ s'.2 = s.2 ++ Transaction.Reads reads := by
  cases h with
  | noKeys hkeys =>
    obtain ⟨c, hc⟩ := Transaction.fetchKeys_met hkeys
    exact ⟨[c], .inl rfl, hc⟩
  | merged hcontinues hchildren _ _ =>
    obtain ⟨s₁, hopens, hparents⟩ := hcontinues.opens
    obtain ⟨c₁, hc₁⟩ := Transaction.fetchKeys_met hopens.fetched
    obtain ⟨c₂, hc₂⟩ := Transaction.fetchAll_met hparents
    obtain ⟨c₃, hc₃⟩ := Transaction.fetchAll_met hchildren
    refine ⟨[c₁, c₂, c₃], .inr rfl, ?_⟩
    rw [hc₃, hc₂, hc₁]
    simp [Transaction.Reads]

namespace Service

variable {σ τ : Type}

/-- The service on another database. -/
def on (s : Service σ) (db : Database τ) : Service τ :=
  ⟨db, s.allowlist, s.recipes, s.limits, s.exposesSql⟩

/-- The service with a note of all that its database is asked. -/
def traced (s : Service σ) : Service (σ × Trace) := s.on s.database.traced

/-! ## Jobs -/

/-- A request for rows whose statements are compiled. -/
structure Job where
  message : String
  work : Work ExecutionError (List Row)
  /-- The statement and the columns that are shown with the rows. -/
  statement : Statement
  select : List String

def Job.response (job : Job) (now : String) (exposesSql : Bool) :
    Except PublicError (List Row) → Response
  | .error e => .failure now (.failed e)
  | .ok rows =>
    .success now job.message (Outcome.toJson now exposesSql ⟨rows, job.statement, job.select⟩)

/-- The job of a request. -/
inductive Does (s : Service σ) (r : Request) : Job → Prop
  | query {segment view : String} {p : Payload String} {st : Statement} :
      r.method = .post → Route.ofTarget? r.target = some (.query segment) →
      Route.decode? segment = some view → r.payload = .ok p →
      p.compile s.allowlist s.database.dialect (.pin view) = .ok st →
      Does s r ⟨"Data retrieved successfully", Work.rows st, st, st.outline.requested⟩
  | batch {segment name : String} {p : Payload String} {recipe : Recipe} {plan : Plan} :
      r.method = .post → Route.ofTarget? r.target = some (.batch segment) →
      Route.decode? segment = some name → r.payload = .ok p →
      s.recipes.find? name = some recipe → s.loader.plan recipe p .none = .ok plan →
      Does s r ⟨"Batch loaded successfully", s.loader.load plan, plan.keysQuery, plan.select⟩

/-- The request is answered so on every database, which is not asked for anything. -/
def Refused (s : Service σ) (now : String) (r : Request) (response : Response) : Prop :=
  ∀ {τ : Type} (db : Database τ), db.dialect = s.database.dialect → ∀ state,
    (s.on db).answer now r state = (response, state)

/-! ## Requests that name something -/

section

variable {s : Service σ} {now message parameter segment name : String} {r : Request}
  {p : Payload String} {operation : String → Payload String → σ → Except PublicError Outcome × σ}
  {state state' : σ}

theorem answerNamed_error {e : PublicError} (hpost : r.method = .post)
    (hname : Route.decode? segment = some name) (hpayload : r.payload = .ok p)
    (h : operation name p state = (.error e, state')) :
    s.answerNamed now message parameter segment r operation state =
      (.failure now (.failed e), state') := by
  simp [answerNamed, hpost, hname, answerRows, hpayload, h]

theorem answerNamed_ok (outcome : Outcome) (hpost : r.method = .post)
    (hname : Route.decode? segment = some name) (hpayload : r.payload = .ok p)
    (h : operation name p state = (.ok outcome, state')) :
    s.answerNamed now message parameter segment r operation state =
      (.success now message (outcome.toJson now s.exposesSql), state') := by
  simp [answerNamed, hpost, hname, answerRows, hpayload, h]

/-- Without a payload for something that the path names, no operation is begun. -/
theorem refused_or_named (now parameter segment : String) (r : Request) :
    (∃ response, response.status ≠ 200 ∧
      ∀ {τ : Type} (s : Service τ) message operation state,
        s.answerNamed now message parameter segment r operation state = (response, state)) ∨
    ∃ name p, r.method = .post ∧ Route.decode? segment = some name ∧ r.payload = .ok p := by
  by_cases hpost : r.method = .post
  · cases hname : Route.decode? segment with
    | none =>
      refine .inl ⟨.badName parameter, by simp [Response.badName], ?_⟩
      intro τ s message operation state
      simp [answerNamed, hpost, hname]
    | some name =>
      cases hpayload : r.payload with
      | error e =>
        refine .inl ⟨.failure now (.body e), (ApiError.body e).status_ne, ?_⟩
        intro τ s message operation state
        simp [answerNamed, hpost, hname, answerRows, hpayload]
      | ok p => exact .inr ⟨name, p, hpost, rfl, rfl⟩
  · refine .inl ⟨.bare 405, by simp [Response.bare], ?_⟩
    intro τ s message operation state
    unfold answerNamed
    cases hmethod : r.method with
    | post => exact absurd hmethod hpost
    | _ => rfl

end

/-! ## Refused or done -/

section

variable {s : Service σ} {r : Request} {job : Job}

theorem loader_on {db : Database τ} (hd : db.dialect = s.database.dialect) :
    (s.on db).loader = s.loader := by
  simp [loader, on, hd]

theorem Does.on (h : s.Does r job) {db : Database τ} (hd : db.dialect = s.database.dialect) :
    (s.on db).Does r job := by
  cases h with
  | query hpost hroute hname hpayload hcompile =>
    refine .query hpost hroute hname hpayload ?_
    rw [← hcompile, ← hd]
    rfl
  | batch hpost hroute hname hpayload hrecipe hplan =>
    rw [← loader_on hd] at hplan ⊢
    exact .batch hpost hroute hname hpayload hrecipe hplan

theorem Does.answer (h : s.Does r job) (now : String) (state : σ) :
    s.answer now r state =
      (job.response now s.exposesSql (s.database.serve job.work state).1,
        (s.database.serve job.work state).2) := by
  unfold Service.answer
  cases h with
  | @query _ view p st hpost hroute hname hpayload hcompile =>
    rw [hroute]
    rcases hserve : s.database.serve (Work.rows st) state with ⟨e | rows, state'⟩
    · refine answerNamed_error hpost hname hpayload ?_
      simp [Service.query, hcompile, hserve]
    · refine answerNamed_ok ⟨rows, st, st.outline.requested⟩ hpost hname hpayload ?_
      simp [Service.query, hcompile, hserve]
  | @batch _ name p _ plan hpost hroute hname hpayload hrecipe hplan =>
    rw [hroute]
    rcases hserve : s.database.serve (s.loader.load plan) state with ⟨e | rows, state'⟩
    · refine answerNamed_error hpost hname hpayload ?_
      simp [Service.batch, hrecipe, hplan, Loader.serve, hserve]
    · refine answerNamed_ok ⟨rows, plan.keysQuery, plan.select⟩ hpost hname hpayload ?_
      simp [Service.batch, hrecipe, hplan, Loader.serve, hserve]

/-- A batch that is not planned is refused, and the database is not asked for anything. -/
theorem answer_unplanned {segment name : String} {p : Payload String} {recipe : Recipe}
    {e : PublicError} (hpost : r.method = .post)
    (hroute : Route.ofTarget? r.target = some (.batch segment))
    (hname : Route.decode? segment = some name) (hpayload : r.payload = .ok p)
    (hrecipe : s.recipes.find? name = some recipe) (hplan : s.loader.plan recipe p .none = .error e)
    (now : String) (state : σ) : s.answer now r state = (.failure now (.failed e), state) := by
  unfold answer
  rw [hroute]
  refine answerNamed_error hpost hname hpayload ?_
  simp [batch, hrecipe, hplan]

/-- An operation that fails on every database without asking it refuses the request. -/
theorem refused_of_error {now : String} (e : PublicError)
    (h : ∀ {τ : Type} (db : Database τ), db.dialect = s.database.dialect → ∀ state,
      (s.on db).answer now r state = (.failure now (.failed e), state)) :
    ∃ response, response.status ≠ 200 ∧ s.Refused now r response :=
  ⟨.failure now (.failed e), (ApiError.failed e).status_ne, h⟩

/-- **A request for rows is refused or does a job.** -/
theorem refused_or_does (s : Service σ) (now : String) (r : Request)
    (hhealth : Route.ofTarget? r.target ≠ some .health) :
    (∃ response, response.status ≠ 200 ∧ s.Refused now r response) ∨ ∃ job, s.Does r job := by
  cases hroute : Route.ofTarget? r.target with
  | none =>
    refine .inl ⟨.bare 404, by simp [Response.bare], fun db _ state => ?_⟩
    simp [answer, hroute]
  | some route =>
    cases route with
    | health => exact absurd hroute hhealth
    | query segment =>
      rcases refused_or_named now "view" segment r with
        ⟨response, hstatus, hrefused⟩ | ⟨view, p, hpost, hname, hpayload⟩
      · refine .inl ⟨response, hstatus, fun db _ state => ?_⟩
        simp [answer, hroute, hrefused]
      cases hcompile : p.compile s.allowlist s.database.dialect (.pin view) with
      | ok st => exact .inr ⟨_, .query hpost hroute hname hpayload hcompile⟩
      | error e =>
        refine .inl (refused_of_error (.ofCompileError e) fun db hd state => ?_)
        unfold answer
        rw [hroute]
        refine answerNamed_error hpost hname hpayload ?_
        simp [query, on, hd, hcompile]
    | batch segment =>
      rcases refused_or_named now "recipe" segment r with
        ⟨response, hstatus, hrefused⟩ | ⟨name, p, hpost, hname, hpayload⟩
      · refine .inl ⟨response, hstatus, fun db _ state => ?_⟩
        simp [answer, hroute, hrefused]
      cases hrecipe : s.recipes.find? name with
      | none =>
        refine .inl (refused_of_error .notFound fun db hd state => ?_)
        unfold answer
        rw [hroute]
        refine answerNamed_error hpost hname hpayload ?_
        simp [batch, on, hrecipe]
      | some recipe =>
        cases hplan : s.loader.plan recipe p .none with
        | ok plan => exact .inr ⟨_, .batch hpost hroute hname hpayload hrecipe hplan⟩
        | error e =>
          refine .inl (refused_of_error e fun db hd state => ?_)
          rw [← loader_on hd] at hplan
          exact answer_unplanned (s := s.on db) hpost hroute hname hpayload hrecipe hplan now state

end

/-! ## What the database is asked -/

section

variable {s : Service σ} {r : Request} {job : Job} {d : Driver τ} {t : Transaction}

/-- Once a request does a job it is not to blame any more. -/
theorem Does.run_blame (h : s.Does r job) {state : τ} {e : ExecutionError}
    (he : (job.work.run (t.executor d) state).1 = .error e) : e.blames = false := by
  cases h with
  | query => exact Transaction.fetchAll_blame he
  | batch _ _ _ _ _ hplan =>
    obtain ⟨key, -, hcolumn⟩ := Loader.plan_keyColumn hplan
    have hgoes := Loader.load_goes hplan hcolumn (t.executor d) state
    rw [he] at hgoes
    rcases hgoes.failure with ⟨q, hq, hrefuses⟩ | ⟨rfl, -⟩ | ⟨rfl | ⟨fault, rfl⟩, -⟩
    · cases q with
      | rows st =>
        obtain ⟨state', hrows⟩ := hrefuses
        exact Transaction.fetchAll_blame hrows
      | keys st =>
        obtain ⟨state', hkeys⟩ := hrefuses
        exact Transaction.fetchKeys_blame hkeys
      | write st =>
        obtain ⟨state', hwrite⟩ := hrefuses
        exact Transaction.execute_blame hwrite
    · rfl
    · rfl
    · rfl

/-- A query reads once, a batch once or three times. -/
theorem Does.reads (h : s.Does r job) {state state' : τ × Trace} {rows : List Row}
    (hrun : job.work.run (t.executor d.traced) state = (.ok rows, state')) :
    ∃ reads, state'.2 = state.2 ++ Transaction.Reads reads ∧
      (∀ segment, Route.ofTarget? r.target = some (.query segment) → reads.length = 1) ∧
      ∀ segment, Route.ofTarget? r.target = some (.batch segment) →
        reads.length = 1 ∨ reads.length = 3 := by
  cases h with
  | query _ hroute =>
    obtain ⟨c, hc⟩ := Transaction.fetchAll_met hrun
    exact ⟨[c], hc, fun _ _ => rfl, fun _ _ => .inl rfl⟩
  | batch _ hroute _ _ _ hplan =>
    obtain ⟨key, -, hcolumn⟩ := Loader.plan_keyColumn hplan
    have hgoes := Loader.load_goes hplan hcolumn (t.executor d.traced) state
    rw [hrun] at hgoes
    obtain ⟨reads, hlength, hreads⟩ := hgoes.reads
    refine ⟨reads, hreads, fun segment hquery => ?_, fun _ _ => hlength⟩
    rw [hroute] at hquery
    cases hquery

end

theorem response_status_eq {job : Job} {now : String} {exposesSql : Bool}
    {result : Except PublicError (List Row)}
    (h : (job.response now exposesSql result).status = 200) : ∃ rows, result = .ok rows := by
  cases result with
  | error e => exact absurd h (ApiError.failed e).status_ne
  | ok rows => exact ⟨rows, rfl⟩

/-- The trace of a transaction in which everything was met, with some reads in it. -/
def transaction (reads : List Command) : Trace :=
  ⟨.begin, true⟩ :: Transaction.Reads reads ++ [⟨.commit, true⟩]

/-- The database is not asked for anything by a request that is rejected, and for one transaction by
one that is answered with rows. -/
structure Asks (s : Service σ) (now : String) (r : Request) (state : σ) (trace : Trace) : Prop where
  rejected : (s.answer now r state).1.Rejects → trace = [] ∧ (s.answer now r state).2 = state
  answered : (s.answer now r state).1.status = 200 → Route.ofTarget? r.target ≠ some .health →
    ∃ reads, trace = transaction reads ∧
      (∀ segment, Route.ofTarget? r.target = some (.query segment) → reads.length = 1) ∧
      ∀ segment, Route.ofTarget? r.target = some (.batch segment) →
        reads.length = 1 ∨ reads.length = 3

section

variable {s : Service σ} {now : String} {r : Request} {job : Job} {state : σ}

theorem Refused.asks {response : Response} (hstatus : response.status ≠ 200)
    (h : s.Refused now r response) :
    s.traced.answer now r (state, []) =
        ((s.answer now r state).1, (s.answer now r state).2, []) ∧
      s.Asks now r state [] := by
  have hplain : s.answer now r state = (response, state) := h s.database rfl state
  have htraced : s.traced.answer now r (state, []) = (response, state, []) :=
    h s.database.traced rfl (state, [])
  rw [hplain, htraced]
  refine ⟨rfl, fun _ => ⟨rfl, by rw [hplain]⟩, fun hok => ?_⟩
  rw [hplain] at hok
  exact absurd hok hstatus

/-- What fails once a request does a job fails by the fault of the server. -/
theorem Does.not_rejects (h : s.Does r job) (now : String) (state : σ) :
    ¬(s.answer now r state).1.Rejects := by
  rw [h.answer now state]
  cases hresult : (s.database.serve job.work state).1 with
  | ok rows => simp [Job.response, Response.success, Response.Rejects]
  | error p =>
    obtain ⟨e, rfl, hcause⟩ := s.database.serve_error hresult
    have hblame : e.blames = false := by
      rcases hcause with ⟨f, rfl⟩ | ⟨state₁, hwork⟩
      · rfl
      · exact h.run_blame hwork
    exact not_rejects_of_blames hblame now

theorem Does.asks (h : s.Does r job) :
    ∃ trace, s.traced.answer now r (state, []) =
        ((s.answer now r state).1, (s.answer now r state).2, trace) ∧
      s.Asks now r state trace := by
  have htracedDoes : s.traced.Does r job := h.on rfl
  obtain ⟨trace, hserve⟩ := s.database.serve_traced job.work state
  have htraced := htracedDoes.answer now (state, [])
  refine ⟨trace, ?_, fun hrejects => ?_, fun hok _ => ?_⟩
  · rw [htraced, h.answer now state]
    simp only [traced, Service.on, hserve]
  · exact absurd hrejects (h.not_rejects now state)
  · rw [h.answer now state] at hok
    obtain ⟨rows, hrows⟩ := response_status_eq hok
    have htracedRows : (s.database.traced.serve job.work (state, [])).1 = .ok rows := by
      rw [hserve, hrows]
    obtain ⟨state₁, state₂, hbegin, hwork, hcommit⟩ := Database.serve_ok htracedRows
    obtain ⟨reads, hreads, hcount⟩ := htracedDoes.reads hwork
    refine ⟨reads, ?_, hcount⟩
    have hend := note_met hcommit
    rw [hserve, hreads, note_met hbegin] at hend
    exact hend

theorem answerHealth_traced (s : Service σ) (now : String) (state : σ) :
    s.traced.answerHealth now (state, []) =
      ((s.answerHealth now state).1, (s.answerHealth now state).2,
        [⟨.ping, (s.database.driver.ping state).1.isOk⟩]) := by
  unfold answerHealth health Database.ping
  simp only [traced, Service.on, Database.traced, Driver.traced, note]
  rcases s.database.driver.ping state with ⟨f | u, state'⟩ <;> rfl

/-- A database that does not answer is no fault of the request. -/
theorem not_rejects_health (s : Service σ) (now : String) (state : σ) :
    ¬(s.answerHealth now state).1.Rejects := by
  unfold answerHealth health
  rcases s.database.ping state with ⟨e | u, state'⟩
  · simp [Response.Rejects, Response.failure, ApiError.status]
  · simp [Response.Rejects, Response.success]

theorem asks_health (hhealth : Route.ofTarget? r.target = some .health) :
    ∃ trace, s.traced.answer now r (state, []) =
        ((s.answer now r state).1, (s.answer now r state).2, trace) ∧
      s.Asks now r state trace := by
  have asked {trace : Trace} (h : ¬(s.answer now r state).1.Rejects) : s.Asks now r state trace :=
    ⟨fun h' => absurd h' h, fun _ h' => absurd hhealth h'⟩
  have hrejects := s.not_rejects_health now state
  unfold answer at asked ⊢
  rw [hhealth] at asked ⊢
  cases hmethod : r.method with
  | get =>
    simp only [hmethod] at asked ⊢
    exact ⟨_, s.answerHealth_traced now state, asked hrejects⟩
  | head =>
    simp only [hmethod] at asked ⊢
    exact ⟨_, by rw [s.answerHealth_traced now state], asked hrejects⟩
  | post =>
    simp only [hmethod] at asked ⊢
    exact ⟨[], rfl, asked (by simp [Response.Rejects, Response.bare])⟩
  | other =>
    simp only [hmethod] at asked ⊢
    exact ⟨[], rfl, asked (by simp [Response.Rejects, Response.bare])⟩

end

/-- **What every request asks of the database**, whatever the database answers. -/
theorem answer_asks (s : Service σ) (now : String) (r : Request) (state : σ) :
    ∃ trace, s.traced.answer now r (state, []) =
        ((s.answer now r state).1, (s.answer now r state).2, trace) ∧
      s.Asks now r state trace := by
  by_cases hhealth : Route.ofTarget? r.target = some .health
  · exact asks_health hhealth
  · rcases refused_or_does s now r hhealth with ⟨response, hstatus, hrefused⟩ | ⟨job, hdoes⟩
    · exact ⟨[], hrefused.asks hstatus⟩
    · exact hdoes.asks

end Service

end GuardedQuery
