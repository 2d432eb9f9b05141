import GuardedQuery.Proofs.Api.Confined
import GuardedQuery.Proofs.Batch.Plan
import GuardedQuery.Proofs.Json.Sorted
import GuardedQuery.Proofs.Statement.Children
import GuardedQuery.Proofs.Statement.Items

/-!
# Reported columns

An answer with rows says which columns were selected (`Response.columnsSelected?`), and so does the
outline of a statement. Main statement (`Service.reports_columns`): a query reports the keys of its
select as they are first seen, while a batch reports its select as it came and a relation its columns as
they stand. The two kinds of request report the same columns for the same select just when it has no
repetitions.
-/

namespace GuardedQuery

theorem Json.ofStrings_inj {xs ys : List String} (h : Json.ofStrings xs = .ofStrings ys) : xs = ys :=
  List.map_injective_iff.2 (fun _ _ => Json.string.inj) (Json.array.inj h)

/-- The columns that an answer with rows says were selected. -/
def Response.columnsSelected? (r : Response) : Option Json :=
  match r.content with
  | .json j =>
    ((j.member? "data").bind (·.member? "meta")).bind (·.member? "columns_selected")
  | _ => none

/-- A relation reports its columns as they stand. -/
theorem Relation.compile_requested {a : Allowlist} {d : Dialect} {r : Relation} {keys : List Literal}
    {st : Statement} (h : r.compile a d keys = .ok st) : st.outline.requested = r.columns := by
  unfold compile at h
  split at h
  · cases h
  · cases h
  · cases h
    rw [Statement.outline_ofTemplate]

namespace Service

variable {σ : Type} {s : Service σ} {r : Request} {job : Job} {now : String} {state : σ}
  {p : Payload String} {columns : List String}

theorem Job.columnsSelected?_response (job : Job) (now : String) (exposesSql : Bool)
    (rows : List Row) :
    (job.response now exposesSql (.ok rows)).columnsSelected? = some (.ofStrings job.select) := by
  have hdata (data : Json) : (Envelope.success now job.message data).member? "data" = some data := by
    rw [Envelope.success, Json.member?_ofMembers]
    simp [Keyed.find?_ofList_cons, Keyed.find?_ofList_nil, Envelope.written]
  simp only [Job.response, Response.success, Response.columnsSelected?, hdata, Option.bind_some,
    Outcome.toJson, Json.member?_ofMembers]
  cases exposesSql <;>
    simp [Keyed.find?_ofList_cons, Keyed.find?_ofList_nil, Json.member?_ofMembers]

/-- The request was answered with rows, and these columns are said to be selected. -/
def Reports (s : Service σ) (now : String) (r : Request) (state : σ) (p : Payload String)
    (columns : List String) : Prop :=
  r.payload = .ok p ∧ (s.answer now r state).1.status = 200 ∧
    (s.answer now r state).1.columnsSelected? = some (.ofStrings columns)

theorem Reports.unique {p' : Payload String} {columns' : List String}
    (h : s.Reports now r state p columns) (h' : s.Reports now r state p' columns') :
    p = p' ∧ columns = columns' := by
  obtain ⟨hp, -, hcolumns⟩ := h
  obtain ⟨hp', -, hcolumns'⟩ := h'
  exact ⟨Except.ok.inj (hp.symm.trans hp'),
    Json.ofStrings_inj (Option.some.inj (hcolumns.symm.trans hcolumns'))⟩

theorem Reports.select {keys : List String} (h : s.Reports now r state p columns)
    (hkeys : r.payload.toOption.map (·.select) = some keys) : p.select = keys := by
  rw [h.1] at hkeys
  exact Option.some.inj hkeys

theorem Does.select (h : s.Does r job) : ∃ p, r.payload = .ok p ∧
    (∀ segment, Route.ofTarget? r.target = some (.query segment) → FirstSeen id p.select job.select) ∧
    ∀ segment, Route.ofTarget? r.target = some (.batch segment) → job.select = p.select := by
  cases h with
  | @query _ _ p st _ hroute _ hpayload hcompile =>
    refine ⟨p, hpayload, fun _ _ => ?_, fun _ hbatch => ?_⟩
    · obtain ⟨c, hc, rfl⟩ := Payload.compile_ok hcompile
      obtain ⟨_, _, -, hselection, -, -, -, -, -, -, hrequested, -⟩ := Payload.check_ok hc
      show FirstSeen id p.select c.requested
      rw [hrequested]
      exact (Selection.ofKeys_follows hselection).listed
    · rw [hroute] at hbatch
      cases hbatch
  | @batch _ _ p _ plan _ hroute _ hpayload _ hplan =>
    refine ⟨p, hpayload, fun _ hquery => ?_, fun _ _ => ?_⟩
    · rw [hroute] at hquery
      cases hquery
    · obtain ⟨_, _, _, -, -, -, rfl⟩ := Loader.plan_ok hplan
      rfl

/-- What an answer with rows reports, by the kind of request. -/
theorem exists_reports (hhealth : Route.ofTarget? r.target ≠ some .health)
    (hok : (s.answer now r state).1.status = 200) : ∃ p columns, s.Reports now r state p columns ∧
    (∀ segment, Route.ofTarget? r.target = some (.query segment) → FirstSeen id p.select columns) ∧
    ∀ segment, Route.ofTarget? r.target = some (.batch segment) → columns = p.select := by
  obtain ⟨job, hdoes⟩ := does_of_ok hhealth hok
  obtain ⟨p, hpayload, hquery, hbatch⟩ := hdoes.select
  refine ⟨p, job.select, ⟨hpayload, hok, ?_⟩, hquery, hbatch⟩
  rw [hdoes.answer now state] at hok ⊢
  obtain ⟨rows, hrows⟩ := response_status_eq hok
  rw [hrows]
  exact job.columnsSelected?_response now s.exposesSql rows

/-- **What is reported as selected.** A relation reports its columns as they stand, which are those
first seen just when none is repeated. So it is with the answers to batches, whereas an answer to a query
reports the keys that are first seen; the two agree on a select just when it repeats no key. -/
theorem reports_columns (s : Service σ) (now : String) :
    (∀ (a : Allowlist) (d : Dialect) (rel : Relation) keys st, rel.compile a d keys = .ok st →
      st.outline.requested = rel.columns ∧
        (FirstSeen id rel.columns st.outline.requested ↔ rel.columns.Nodup)) ∧
    (∀ r state, Route.ofTarget? r.target ≠ some .health → (s.answer now r state).1.status = 200 →
      ∃ p columns, s.Reports now r state p columns ∧
        (∀ segment, Route.ofTarget? r.target = some (.query segment) →
          FirstSeen id p.select columns) ∧
        ∀ segment, Route.ofTarget? r.target = some (.batch segment) →
          columns = p.select ∧ (FirstSeen id p.select columns ↔ p.select.Nodup)) ∧
    ∀ query batch state state' p p' columns columns' segment segment',
      Route.ofTarget? query.target = some (.query segment) →
      Route.ofTarget? batch.target = some (.batch segment') → p.select = p'.select →
      s.Reports now query state p columns → s.Reports now batch state' p' columns' →
        (columns = columns' ↔ p.select.Nodup) := by
  refine ⟨fun a d rel keys st h => ?_, fun r state hhealth hok => ?_, ?_⟩
  · rw [Relation.compile_requested h]
    exact ⟨rfl, FirstSeen.self_iff⟩
  · obtain ⟨p, columns, hreports, hquery, hbatch⟩ := exists_reports hhealth hok
    refine ⟨p, columns, hreports, hquery, fun segment h => ?_⟩
    rw [hbatch segment h]
    exact ⟨rfl, FirstSeen.self_iff⟩
  · intro query batch state state' p p' columns columns' segment segment' hquery hbatch hselect
      hreports hreports'
    obtain ⟨q, listed, hlisted, hseen, -⟩ := exists_reports (by simp [hquery]) hreports.2.1
    obtain ⟨q', shown, hshown, -, hplain⟩ := exists_reports (by simp [hbatch]) hreports'.2.1
    obtain ⟨rfl, rfl⟩ := hreports.unique hlisted
    obtain ⟨rfl, rfl⟩ := hreports'.unique hshown
    have hfirst : FirstSeen id p.select columns := hseen segment hquery
    rw [hplain segment' hbatch, ← hselect, ← FirstSeen.self_iff]
    refine ⟨fun h => h ▸ hfirst, fun h => ?_⟩
    exact hfirst.unique h

/-! ## Items with their categories -/

/-- A request for rows with a select. -/
def selecting (target select : String) : Request where
  method := .post
  target := target
  contentType := some "application/json"
  body := "\x7b\"payload\":\x7b\"select\":" ++ select ++ "\x7d\x7d"

theorem target_selecting (select : String) :
    Route.ofTarget? (selecting "/api/v1/query/item_with_category" select).target =
        some (.query "item_with_category") ∧
      Route.ofTarget? (selecting "/api/v1/batch/items" select).target = some (.batch "items") := by
  simp only [selecting]
  decide +kernel

theorem reports_columns_once :
    let query := selecting "/api/v1/query/item_with_category" "[\"i.id\",\"category_name\"]"
    let batch := selecting "/api/v1/batch/items" "[\"i.id\",\"category_name\"]"
    (∃ st, tenantRows.compile .sample .sqlite [.int 7] = .ok st ∧
      st.outline.requested = tenantRows.columns) ∧
    ((sample .sqlite).answer "now" query (.start [])).1.status = 200 ∧
    ((sample .sqlite).answer "now" batch (.start [])).1.status = 200 ∧
    ∃ p columns, (sample .sqlite).Reports "now" query (.start []) p columns ∧
      (sample .sqlite).Reports "now" batch (.start []) p columns ∧ FirstSeen id p.select columns := by
  intro query batch
  obtain ⟨hrelation, hanswers, hagree⟩ := reports_columns (sample .sqlite) "now"
  obtain ⟨hquery, hbatch⟩ := target_selecting "[\"i.id\",\"category_name\"]"
  have hok : ((sample .sqlite).answer "now" query (.start [])).1.status = 200 := by decide +kernel
  have hok' : ((sample .sqlite).answer "now" batch (.start [])).1.status = 200 := by decide +kernel
  obtain ⟨p, columns, hreports, hseen, -⟩ := hanswers query (.start []) (by simp [query, hquery]) hok
  obtain ⟨p', columns', hreports', -, -⟩ := hanswers batch (.start []) (by simp [batch, hbatch]) hok'
  obtain rfl : p = p' := Except.ok.inj (hreports.1.symm.trans hreports'.1)
  have hselect : p.select = ["i.id", "category_name"] := hreports.select (by decide +kernel)
  have hnodup : p.select.Nodup := by
    rw [hselect]
    decide
  obtain rfl : columns = columns' :=
    (hagree _ _ _ _ _ _ _ _ _ _ hquery hbatch rfl hreports hreports').2 hnodup
  exact ⟨⟨_, rfl, (hrelation .sample .sqlite tenantRows [.int 7] _ rfl).1⟩, hok, hok', p, columns,
    hreports, hreports', hseen _ hquery⟩

/-- A relation that lists a column twice, and a select that lists a key twice. -/
theorem reports_columns_again :
    let query := selecting "/api/v1/query/item_with_category" "[\"i.id\",\"i.id\"]"
    let batch := selecting "/api/v1/batch/items" "[\"i.id\",\"i.id\"]"
    (∃ st, tenantRows.compile .sample .sqlite [.int 7] = .ok st ∧
      ¬FirstSeen id tenantRows.columns st.outline.requested) ∧
    ∃ p columns columns', (sample .sqlite).Reports "now" query (.start []) p columns ∧
      (sample .sqlite).Reports "now" batch (.start []) p columns' ∧
      ¬FirstSeen id p.select columns' ∧ columns ≠ columns' := by
  intro query batch
  obtain ⟨hquery, hbatch⟩ := target_selecting "[\"i.id\",\"i.id\"]"
  have hok : ((sample .sqlite).answer "now" query (.start [])).1.status = 200 := by decide +kernel
  have hok' : ((sample .sqlite).answer "now" batch (.start [])).1.status = 200 := by decide +kernel
  obtain ⟨p, columns, hreports, hseen, -⟩ := exists_reports (by simp [query, hquery]) hok
  obtain ⟨p', columns', hreports', -, hplain⟩ := exists_reports (by simp [batch, hbatch]) hok'
  obtain rfl : p = p' := Except.ok.inj (hreports.1.symm.trans hreports'.1)
  have hselect : p.select = ["i.id", "i.id"] := hreports.select (by decide +kernel)
  have hrepeated : ¬FirstSeen id p.select columns' := by
    rw [hplain _ hbatch, FirstSeen.self_iff, hselect]
    decide
  refine ⟨⟨_, rfl, ?_⟩, p, columns, columns', hreports, hreports', hrepeated, ?_⟩
  · show ¬FirstSeen id tenantRows.columns tenantRows.columns
    rw [FirstSeen.self_iff]
    decide
  · rintro rfl
    exact hrepeated (hseen _ hquery)

end Service

end GuardedQuery
