import GuardedQuery.Api.Response
import GuardedQuery.Api.Route

/-!
# The service

A service answers requests from one allowlist and one database. The view in the path is the table of
a query, whatever its payload says; a batch runs the recipe that the path names.
-/

namespace GuardedQuery

/-- What requests are answered from. -/
structure Service (σ : Type) where
  database : Database σ
  allowlist : Allowlist
  recipes : Keyed Recipe
  limits : PageLimits
  /-- Responses show the SQL text. -/
  exposesSql : Bool

namespace Service

variable {σ : Type}

/-- Runs batch recipes. -/
def loader (s : Service σ) : Loader := ⟨s.allowlist, s.database.dialect, s.limits⟩

/-! ## Operations -/

/-- The rows of a view. -/
def query (s : Service σ) (view : String) (p : Payload String) (state : σ) :
    Except PublicError Outcome × σ :=
  match p.compile s.allowlist s.database.dialect (.pin view) with
  | .error e => (.error (.ofCompileError e), state)
  | .ok st =>
    match s.database.serve (Work.rows st) state with
    | (.error e, state) => (.error e, state)
    | (.ok rows, state) => (.ok ⟨rows, st, st.outline.requested⟩, state)

/-- The parents and children of a recipe. -/
def batch (s : Service σ) (name : String) (p : Payload String) (state : σ) :
    Except PublicError Outcome × σ :=
  match s.recipes.find? name with
  | none => (.error .notFound, state)
  | some recipe =>
    match s.loader.plan recipe p .none with
    | .error e => (.error e, state)
    | .ok plan =>
      match s.loader.serve s.database plan state with
      | (.error e, state) => (.error e, state)
      | (.ok rows, state) => (.ok ⟨rows, plan.keysQuery, plan.select⟩, state)

/-- Whether the database answers. -/
def health (s : Service σ) (state : σ) : Except PublicError Unit × σ :=
  match s.database.ping state with
  | (.ok (), state) => (.ok (), state)
  | (.error _, state) => (.error .unavailable, state)

/-! ## Answers -/

/-- Answers a request for rows by an operation on the payload. -/
def answerRows (s : Service σ) (now message : String) (r : Request)
    (operation : Payload String → σ → Except PublicError Outcome × σ) (state : σ) : Response × σ :=
  match r.payload with
  | .error e => (.failure now (.body e), state)
  | .ok p =>
    match operation p state with
    | (.error e, state) => (.failure now (.failed e), state)
    | (.ok outcome, state) => (.success now message (outcome.toJson now s.exposesSql), state)

/-- Answers a request that names something in its path. -/
def answerNamed (s : Service σ) (now message parameter segment : String) (r : Request)
    (operation : String → Payload String → σ → Except PublicError Outcome × σ) (state : σ) :
    Response × σ :=
  match r.method, Route.decode? segment with
  | .post, none => (.badName parameter, state)
  | .post, some name => s.answerRows now message r (operation name) state
  | _, _ => (.bare 405, state)

/-- Answers whether the database answers. -/
def answerHealth (s : Service σ) (now : String) (state : σ) : Response × σ :=
  match s.health state with
  | (.error e, state) => (.failure now (.failed e), state)
  | (.ok (), state) =>
    (.success now "ok" (.ofMembers [("status", .string "healthy")]), state)

/-- Answers a request. -/
def answer (s : Service σ) (now : String) (r : Request) (state : σ) : Response × σ :=
  match Route.ofTarget? r.target with
  | none => (.bare 404, state)
  | some (.query segment) =>
    s.answerNamed now "Data retrieved successfully" "view" segment r s.query state
  | some (.batch segment) =>
    s.answerNamed now "Batch loaded successfully" "recipe" segment r s.batch state
  | some .health =>
    match r.method with
    | .get => s.answerHealth now state
    | .head =>
      let (response, state) := s.answerHealth now state
      (response.headOnly, state)
    | _ => (.bare 405, state)

end Service

end GuardedQuery
