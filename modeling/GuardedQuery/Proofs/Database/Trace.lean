import GuardedQuery.Database.Connection
import GuardedQuery.Proofs.Database.Read

/-!
# Traces

`Driver.traced d` answers as `d` does and notes every request in the order in which it is made, with
whether it was met. What a transaction asks of any driver is read off a run on the traced one. Reads
and writes ask for statements only, and nothing but the trace changes (`Work.run_traced`).
-/

namespace GuardedQuery

namespace Driver

/-- What a driver is asked. -/
inductive Request where
  | begin
  | commit
  | rollback
  | query (c : Command)
  | execute (c : Command)
  | abandon
  | ping
  deriving DecidableEq

/-- A request and whether it was met. -/
structure Exchange where
  request : Request
  met : Bool
  deriving DecidableEq

abbrev Trace := List Exchange

variable {σ α : Type}

/-- Notes a request with its answer. -/
def note (q : Request) (answer : Except Failure α × σ) (trace : Trace) :
    Except Failure α × σ × Trace :=
  (answer.1, answer.2, trace ++ [⟨q, answer.1.isOk⟩])

theorem note_met {q : Request} {answer : Except Failure α × σ} {trace : Trace} {a : α}
    {s : σ × Trace} (h : note q answer trace = (.ok a, s)) : s.2 = trace ++ [⟨q, true⟩] := by
  rcases answer with ⟨f | a', s'⟩
  · simp [note] at h
  · cases h
    rfl

/-- The driver with a note of every request. -/
def traced (d : Driver σ) : Driver (σ × Trace) where
  begin p := note .begin (d.begin p.1) p.2
  commit p := note .commit (d.commit p.1) p.2
  rollback p := note .rollback (d.rollback p.1) p.2
  query c p := note (.query c) (d.query c p.1) p.2
  execute c p := note (.execute c) (d.execute c p.1) p.2
  abandon p := (d.abandon p.1, p.2 ++ [⟨.abandon, true⟩])
  ping p := note .ping (d.ping p.1) p.2

/-- The exchange is about a statement. -/
def Exchange.IsStatement (x : Exchange) : Prop :=
  ∃ c, x.request = .query c ∨ x.request = .execute c

/-- Statements and nothing else were asked for. -/
def Statements (sent : Trace) : Prop := ∀ x ∈ sent, x.IsStatement

theorem Statements.nil : Statements [] := by simp [Statements]

theorem Statements.append {sent more : Trace} (h : Statements sent) (h' : Statements more) :
    Statements (sent ++ more) := by
  intro x hx
  rcases List.mem_append.1 hx with hx | hx
  · exact h x hx
  · exact h' x hx

theorem Statements.query (c : Command) (met : Bool) : Statements [⟨.query c, met⟩] := by
  intro x hx
  rw [List.mem_singleton.1 hx]
  exact ⟨c, .inl rfl⟩

theorem Statements.execute (c : Command) (met : Bool) : Statements [⟨.execute c, met⟩] := by
  intro x hx
  rw [List.mem_singleton.1 hx]
  exact ⟨c, .inr rfl⟩

/-- After any trace, what is given on the traced driver is what is given on the plain one, and the
same statements were sent. -/
def Sends (plain : α × σ) (noted : Trace → α × σ × Trace) : Prop :=
  ∃ sent, Statements sent ∧ ∀ trace, noted trace = (plain.1, plain.2, trace ++ sent)

theorem Sends.none (plain : α × σ) : Sends plain fun trace => (plain.1, plain.2, trace) :=
  ⟨[], .nil, by simp⟩

theorem Sends.after {plain : α × σ} {sent : Trace} {noted : Trace → α × σ × Trace}
    (h : Sends plain noted) (hsent : Statements sent) :
    Sends plain fun trace => noted (trace ++ sent) := by
  obtain ⟨more, hmore, hnoted⟩ := h
  refine ⟨sent ++ more, hsent.append hmore, fun trace => ?_⟩
  rw [← List.append_assoc]
  exact hnoted _

end Driver

open Driver

variable {σ ε α : Type} {d : Driver σ}

namespace Transaction

variable (t : Transaction) (st : Statement) (s : σ)

theorem records_traced (c : Command) :
    Sends (records d c s) fun trace => records d.traced c (s, trace) := by
  refine ⟨_, .query c (d.query c s).1.isOk, fun trace => ?_⟩
  unfold records
  simp only [traced, note]
  rcases d.query c s with ⟨f | rs, s'⟩ <;> rfl

theorem fetch_traced (read : Except ExecutionError (Read α)) :
    Sends (fetch d read s) fun trace => fetch d.traced read (s, trace) := by
  cases read with
  | error e => exact .none _
  | ok q =>
    obtain ⟨sent, hsent, hnoted⟩ := records_traced (d := d) s q.command
    refine ⟨sent, hsent, fun trace => ?_⟩
    simp only [fetch, hnoted]
    rcases records d q.command s with ⟨e | rs, s'⟩ <;> rfl

theorem fetchAll_traced :
    Sends (t.fetchAll d st s) fun trace => t.fetchAll d.traced st (s, trace) := by
  rw [fetchAll_eq, fetchAll_eq]
  exact fetch_traced s _

theorem fetchKeys_traced :
    Sends (t.fetchKeys d st s) fun trace => t.fetchKeys d.traced st (s, trace) := by
  rw [fetchKeys_eq, fetchKeys_eq]
  exact fetch_traced s _

theorem execute_traced :
    Sends (t.execute d st s) fun trace => t.execute d.traced st (s, trace) := by
  unfold execute
  cases t.command st with
  | error e => exact .none _
  | ok c =>
    refine ⟨_, .execute c (d.execute c s).1.isOk, fun trace => ?_⟩
    simp only [traced, note]
    rcases d.execute c s with ⟨f | n, s'⟩ <;> rfl

/-! ## Reads that succeed -/

/-- Reads that succeeded, in order. -/
def Reads (commands : List Command) : Trace := commands.map fun c => ⟨.query c, true⟩

variable {t st} {s s' : σ × Trace}

theorem records_met {c : Command} {rs : List Record}
    (h : records d.traced c s = (.ok rs, s')) : s'.2 = s.2 ++ Reads [c] := by
  unfold records at h
  rcases hquery : d.traced.query c s with ⟨f | rs', s₁⟩
  · simp [hquery] at h
  · simp only [hquery, Prod.mk.injEq] at h
    rw [← h.2]
    exact note_met hquery

theorem fetch_met {read : Except ExecutionError (Read α)} {as : List α}
    (h : fetch d.traced read s = (.ok as, s')) : ∃ c, s'.2 = s.2 ++ Reads [c] := by
  obtain ⟨q, rs, -, hrecords, -⟩ := fetch_ok h
  exact ⟨q.command, records_met hrecords⟩

theorem fetchAll_met {rows : List Row} (h : t.fetchAll d.traced st s = (.ok rows, s')) :
    ∃ c, s'.2 = s.2 ++ Reads [c] :=
  fetch_met (fetchAll_eq d.traced t st ▸ h)

theorem fetchKeys_met {keys : List Literal} (h : t.fetchKeys d.traced st s = (.ok keys, s')) :
    ∃ c, s'.2 = s.2 ++ Reads [c] :=
  fetch_met (fetchKeys_eq d.traced t st ▸ h)

end Transaction

/-- **Work on the traced driver goes as on the plain one**, and asks for statements only. -/
theorem Work.run_traced (t : Transaction) (w : Work ε α) (s : σ) :
    Sends (w.run (t.executor d) s) fun trace => w.run (t.executor d.traced) (s, trace) := by
  induction w generalizing s with
  | done result => exact .none (result, s)
  | fetchAll st next ih =>
    obtain ⟨sent, hsent, hnoted⟩ := t.fetchAll_traced (d := d) st s
    simp only [run, Transaction.executor, hnoted]
    exact (ih _ _).after hsent
  | fetchKeys st next ih =>
    obtain ⟨sent, hsent, hnoted⟩ := t.fetchKeys_traced (d := d) st s
    simp only [run, Transaction.executor, hnoted]
    exact (ih _ _).after hsent
  | execute st next ih =>
    obtain ⟨sent, hsent, hnoted⟩ := t.execute_traced (d := d) st s
    simp only [run, Transaction.executor, hnoted]
    exact (ih _ _).after hsent

end GuardedQuery
