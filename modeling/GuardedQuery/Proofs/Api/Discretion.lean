import GuardedQuery.Proofs.Api.Confined
import GuardedQuery.Proofs.Payload.Wire

/-!
# What error answers tell

A query is refused before any service is asked, by every service in the same words, or it is one query
(`Service.refused_or_queried`). The error of a query is told by its kind alone, unless the request is
malformed; then the complaint is one about the request or about its depth (`Service.query_told`). So
the error answers of two services with the same bound on the depth are the same if their statuses and
error codes are (`Service.query_errors_alike`).
-/

namespace GuardedQuery

open Decode ExecutionError

/-! ## Masking -/

/-- Changes a member of an object. -/
def Json.update (key : String) (f : Json → Json) : Json → Json
  | .object members => .object (members.map fun p => (p.1, if p.1 = key then f p.2 else p.2))
  | j => j

theorem Json.update_ofMembers (key : String) (f : Json → Json) (members : List (String × Json)) :
    (ofMembers members).update key f =
      .ofMembers (members.map fun p => (p.1, if p.1 = key then f p.2 else p.2)) :=
  congrArg (Json.object ∘ Keyed.pairs)
    (Keyed.map_ofList (fun k j => if k = key then f j else j) members)

namespace Response

/-- The response without the time at which it was written. -/
def masked (r : Response) : Response :=
  { r with
    content := match r.content with
      | .json j => .json (j.update "meta" (Json.update "timestamp" fun _ => .null))
      | content => content }

/-- The code of an error envelope. -/
def errorCode? (r : Response) : Option String :=
  match r.content with
  | .json j =>
    match j.member? "error_code" with
    | some (.string code) => some code
    | _ => Option.none
  | _ => Option.none

theorem masked_failure (now now' : String) (e : ApiError) :
    (failure now e).masked = (failure now' e).masked := by
  have hmasked (time : String) :
      (Envelope.failure time e).update "meta" (Json.update "timestamp" fun _ => .null) =
        (Envelope.failure "" e).update "meta" (Json.update "timestamp" fun _ => .null) := by
    simp [Envelope.failure, Envelope.written, Json.update_ofMembers]
  simp only [masked, failure, hmasked now, hmasked now']

theorem errorCode?_failure (now : String) (e : ApiError) :
    (failure now e).errorCode? = some e.code.name := by
  have hmember : (Envelope.failure now e).member? "error_code" = some (.string e.code.name) := by
    rw [Envelope.failure, Json.member?_ofMembers, Keyed.find?_ofList_append,
      Keyed.find?_ofList_toList]
    simp [Keyed.find?_ofList_cons, Keyed.find?_ofList_nil, Envelope.written]
  simp only [errorCode?, failure, hmember]

end Response

namespace ApiError

/-- Status and code of an error envelope tell the kind of the error. -/
theorem kind_eq {e e' : PublicError} (hstatus : (failed e).status = (failed e').status)
    (hcode : (failed e).code.name = (failed e').code.name) : e.kind = e'.kind := by
  cases e <;> cases e' <;> simp_all [status, code, ErrorCode.name, PublicError.kind]

end ApiError

/-- The kind of an error says everything, unless it is malformed. -/
theorem PublicError.eq_of_kind {e e' : PublicError} (hkind : e.kind = e'.kind)
    (hmalformed : ∀ m m', e = .malformed m → e' = .malformed m' → m = m') : e = e' := by
  cases e <;> cases e' <;> first
    | rfl
    | exact congrArg malformed (hmalformed _ _ rfl rfl)
    | cases hkind

/-! ## Complaints -/

namespace Payload

/-- The complaint about a malformed payload whose filter is expressible in JSON: the first thing that
is wrong with the payload itself, or that its filter is nested too deep. -/
def complaint (maxDepth : Nat) (p : Payload String) : Malformation :=
  if p.select.isEmpty then .emptySelect
  else if p.limit = some 0 then .zeroLimit
  else if ∃ n ∈ p.bounds, 9223372036854775807 < n.toNat then .windowTooLarge
  else .tooDeep maxDepth

variable {a : Allowlist} {view : String} {p : Payload String}

/-- A malformed payload is complained about without a look at the allowlist, but for its bound on the
depth. -/
theorem check_malformed (hp : p.Expressible) {m : Malformation}
    (h : p.check a (.pin view) none = .error (.malformed m)) :
    m = p.complaint a.maxDepth.toNat := by
  have hbreaks := check_breaks h
  unfold complaint
  split
  case isTrue hselect =>
    unfold check at h
    rw [hselect] at h
    cases h
    rfl
  case isFalse hselect =>
    have hwindow := p.checkWindow_eq
    unfold check at h
    rw [if_neg hselect] at h
    split
    case isTrue hzero =>
      rw [if_pos hzero] at hwindow
      rw [hwindow] at h
      cases h
      rfl
    case isFalse hzero =>
      rw [if_neg hzero] at hwindow
      split
      case isTrue hlarge =>
        rw [if_pos hlarge] at hwindow
        rw [hwindow] at h
        cases h
        rfl
      case isFalse hlarge =>
        -- the window is in order, so what is broken is a name or the filter
        cases m with
        | emptySelect => exact absurd (List.isEmpty_iff.2 hbreaks) hselect
        | zeroLimit => exact absurd hbreaks hzero
        | windowTooLarge => exact absurd hbreaks hlarge
        | noTable => cases hbreaks
        | tooDeep bound => rw [hbreaks.1]
        | emptyList op =>
          obtain ⟨g, hg, x, hx, negated, hlist, -⟩ := hbreaks
          exact absurd hlist ((hp g (Option.mem_toList.1 hg) x hx).2 negated)
        | _ => exact hbreaks.elim

end Payload

/-- What was read from the body of a request is expressible in JSON. -/
theorem Request.expressible_of_payload {r : Request} {p : Payload String}
    (h : r.payload = .ok p) : p.Expressible := by
  unfold payload at h
  split at h
  · cases h
  · split at h
    · rename_i q hread
      cases h
      obtain ⟨d, hd⟩ := exists_of_ofText hread
      obtain ⟨⟨q, ⟨⟩⟩, hrecord, rfl⟩ := convert_eq_ok.1 hd
      obtain ⟨hpayload, -⟩ := came_of_record hrecord
      obtain ⟨d', hd'⟩ := Field.came_required hpayload
      exact Payload.expressible_of_decoder hd'
    · cases h

namespace Service

variable {σ τ : Type}

/-- A query is refused without a look at the service, or the service runs it on the payload. -/
theorem refused_or_queried (r : Request) {segment : String}
    (hroute : Route.ofTarget? r.target = some (.query segment)) :
    (∃ refusal : String → Response, (∀ now now', (refusal now).masked = (refusal now').masked) ∧
      ∀ {σ : Type} (s : Service σ) (now : String) (state : σ),
        (s.answer now r state).1 = refusal now) ∨
    ∃ view p, r.payload = .ok p ∧ ∀ {σ : Type} (s : Service σ) (now : String) (state : σ),
      (s.answer now r state).1 =
        match (s.query view p state).1 with
        | .error e => .failure now (.failed e)
        | .ok outcome =>
          .success now "Data retrieved successfully" (outcome.toJson now s.exposesSql) := by
  have hanswer : ∀ {σ : Type} (s : Service σ) (now : String) (state : σ),
      s.answer now r state =
        s.answerNamed now "Data retrieved successfully" "view" segment r s.query state := by
    intro σ s now state
    rw [answer, hroute]
  simp only [hanswer]
  by_cases hpost : r.method = .post
  · cases hname : Route.decode? segment with
    | none =>
      refine .inl ⟨fun _ => .badName "view", fun _ _ => rfl, fun s now state => ?_⟩
      simp [answerNamed, hpost, hname]
    | some view =>
      cases hpayload : r.payload with
      | error e =>
        refine .inl ⟨fun now => .failure now (.body e), fun now now' => ?_, fun s now state => ?_⟩
        · exact Response.masked_failure now now' _
        · simp [answerNamed, hpost, hname, answerRows, hpayload]
      | ok p =>
        refine .inr ⟨view, p, rfl, fun s now state => ?_⟩
        rcases hquery : s.query view p state with ⟨e | outcome, state'⟩
        · simp [answerNamed, hpost, hname, answerRows, hpayload, hquery]
        · simp [answerNamed, hpost, hname, answerRows, hpayload, hquery]
  · refine .inl ⟨fun _ => .bare 405, fun _ _ => rfl, fun s now state => ?_⟩
    unfold answerNamed
    split
    · exact absurd ‹r.method = .post› hpost
    · exact absurd ‹r.method = .post› hpost
    · rfl

/-- A query that fails as malformed was complained about before the database was asked. -/
theorem query_told {s : Service σ} {view : String} {p : Payload String} (hp : p.Expressible)
    {state : σ} {m : Malformation} (h : (s.query view p state).1 = .error (.malformed m)) :
    m = p.complaint s.allowlist.maxDepth.toNat := by
  unfold query at h
  split at h
  case h_1 e hcompile =>
    have hcheck := map_eq_error.1 hcompile
    cases e with
    | malformed m' =>
      cases h
      exact Payload.check_malformed hp hcheck
    | denied _ _ => cases h
    | noAggregation _ => cases h
  case h_2 st _ =>
    rcases hserve : s.database.serve (Work.rows st) state with ⟨e | rows, state'⟩
    · rw [hserve] at h
      cases h
      obtain ⟨e, he, hcause⟩ := s.database.serve_error (congrArg Prod.fst hserve)
      have hblame : e.blames = false := by
        rcases hcause with ⟨f, rfl⟩ | ⟨state₁, hwork⟩
        · rfl
        · exact Transaction.fetchAll_blame hwork
      have hservers := told_of_blames hblame
      rw [← he] at hservers
      simp [ErrorKind.IsServers, PublicError.kind] at hservers
    · rw [hserve] at h
      cases h

/-- **Error answers to queries tell nothing but their kind.** Two services with the same bound on the
depth of filters, whatever else they permit and whatever their databases answer, give the same answer,
but for the time, whenever they answer the same request with an error of the same status and code. -/
theorem query_errors_alike {s : Service σ} {t : Service τ}
    (hdepth : s.allowlist.maxDepth = t.allowlist.maxDepth) {r : Request} {segment : String}
    (hroute : Route.ofTarget? r.target = some (.query segment)) (now now' : String) (state : σ)
    (state' : τ) (herror : (s.answer now r state).1.status ≠ 200)
    (hstatus : (s.answer now r state).1.status = (t.answer now' r state').1.status)
    (hcode : (s.answer now r state).1.errorCode? = (t.answer now' r state').1.errorCode?) :
    (s.answer now r state).1.masked = (t.answer now' r state').1.masked := by
  rcases refused_or_queried r hroute with ⟨refusal, hsame, hrefused⟩ | ⟨view, p, hpayload, hquery⟩
  · rw [hrefused s, hrefused t]
    exact hsame now now'
  rw [hquery s] at herror hstatus hcode ⊢
  rw [hquery t] at hstatus hcode ⊢
  cases hs : (s.query view p state).1 with
  | ok outcome =>
    rw [hs] at herror
    exact absurd rfl herror
  | error e =>
    cases ht : (t.query view p state').1 with
    | ok outcome =>
      rw [hs] at herror hstatus
      rw [ht] at hstatus
      exact absurd hstatus herror
    | error e' =>
      rw [hs] at hstatus hcode
      rw [ht] at hstatus hcode
      rw [Response.errorCode?_failure, Response.errorCode?_failure, Option.some.injEq] at hcode
      have hp := Request.expressible_of_payload hpayload
      have heq : e = e' := by
        refine PublicError.eq_of_kind (ApiError.kind_eq hstatus hcode) fun m m' hm hm' => ?_
        subst hm hm'
        have hm : m = p.complaint s.allowlist.maxDepth.toNat := query_told hp hs
        have hm' : m' = p.complaint t.allowlist.maxDepth.toNat := query_told hp ht
        rw [hm, hm', hdepth]
      rw [heq]
      exact Response.masked_failure now now' _

/-- A service of another database that permits nothing. -/
def closed : Service Replay :=
  { sample .postgres with allowlist := { Allowlist.sample with tables := .empty, views := .empty } }

/-- A request for a column that is permitted nowhere. -/
def hiddenRequest : Request :=
  { sampleRequest with body := "\x7b\"payload\":\x7b\"select\":[\"hidden\"]\x7d\x7d" }

theorem query_errors_alike_hidden :
    (sample .sqlite).allowlist.maxDepth = closed.allowlist.maxDepth ∧
      Route.ofTarget? hiddenRequest.target = some (.query "items") ∧
      ((sample .sqlite).answer "now" hiddenRequest sampleState).1.status ≠ 200 ∧
      ((sample .sqlite).answer "now" hiddenRequest sampleState).1.status =
        (closed.answer "later" hiddenRequest (.start [])).1.status ∧
      ((sample .sqlite).answer "now" hiddenRequest sampleState).1.errorCode? =
        (closed.answer "later" hiddenRequest (.start [])).1.errorCode? ∧
      ((sample .sqlite).answer "now" hiddenRequest sampleState).1.masked =
        (closed.answer "later" hiddenRequest (.start [])).1.masked := by
  have hdepth : (sample .sqlite).allowlist.maxDepth = closed.allowlist.maxDepth := rfl
  have herror : ((sample .sqlite).answer "now" hiddenRequest sampleState).1.status ≠ 200 := by
    decide +kernel
  have hstatus : ((sample .sqlite).answer "now" hiddenRequest sampleState).1.status =
      (closed.answer "later" hiddenRequest (.start [])).1.status := by decide +kernel
  have hcode : ((sample .sqlite).answer "now" hiddenRequest sampleState).1.errorCode? =
      (closed.answer "later" hiddenRequest (.start [])).1.errorCode? := by decide +kernel
  have hroute : Route.ofTarget? hiddenRequest.target = some (.query "items") := target_sampleRequest
  exact ⟨hdepth, hroute, herror, hstatus, hcode,
    query_errors_alike hdepth hroute "now" "later" sampleState (.start []) herror hstatus hcode⟩

end Service

end GuardedQuery
