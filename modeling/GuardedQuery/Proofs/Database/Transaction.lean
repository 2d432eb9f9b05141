import GuardedQuery.Proofs.Database.Trace

/-!
# Runs of a transaction

A new transaction is called any number of times, and the driver answers as it likes. `Lawful` is kept
by every call (`Lawful.call`) and so along every run (`Lawful.calls`): the driver's own transaction is
there just when the stage is active, and the stage tells what the driver has been asked so far
(`Trail`). `Refuses` is what follows at each stage about the calls that never reach the driver.
-/

namespace GuardedQuery

open Driver

namespace Transaction

variable {σ : Type}

/-! ## Calls -/

inductive Call where
  | begin
  | commit
  | rollback
  | fetchAll (st : Statement)
  | fetchKeys (st : Statement)
  | execute (st : Statement)

/-- The statement of a read or a write. -/
def Call.statement? : Call → Option Statement
  | .fetchAll st | .fetchKeys st | .execute st => some st
  | _ => none

inductive Answer where
  | done
  | rows (rows : List Row)
  | keys (keys : List Literal)
  | affected (n : UInt64)

/-- One call: its answer, the transaction after it and the state of the driver. -/
def call (driver : Driver σ) (t : Transaction) (s : σ) :
    Call → Except ExecutionError Answer × Transaction × σ
  | .begin => ((t.begin driver s).1.map fun _ => .done, (t.begin driver s).2)
  | .commit => ((t.commit driver s).1.map fun _ => .done, (t.commit driver s).2)
  | .rollback => ((t.rollback driver s).1.map fun _ => .done, (t.rollback driver s).2)
  | .fetchAll st => ((t.fetchAll driver st s).1.map .rows, t, (t.fetchAll driver st s).2)
  | .fetchKeys st => ((t.fetchKeys driver st s).1.map .keys, t, (t.fetchKeys driver st s).2)
  | .execute st => ((t.execute driver st s).1.map .affected, t, (t.execute driver st s).2)

/-- The transaction and the state after some calls. -/
def calls (driver : Driver σ) (t : Transaction) (s : σ) : List Call → Transaction × σ
  | [] => (t, s)
  | c :: rest => calls driver (t.call driver s c).2.1 (t.call driver s c).2.2 rest

/-! ## What is refused -/

/-- The calls that never reach the driver: their answers, after which all is as it was. -/
structure Refuses (driver : Driver σ) (t : Transaction) (s : σ) : Prop where
  never_left : t.stage.isTerminal → ∀ cs, t.calls driver s cs = (t, s)
  ended : t.stage.isTerminal → t.call driver s .commit = (.ok .done, t, s) ∧
    t.call driver s .rollback = (.ok .done, t, s)
  idle : t.stage = .idle → t.call driver s .rollback = (.ok .done, t, s) ∧
    t.call driver s .commit = (.error (.invalidChange .idle .commit), t, s)
  begun : t.stage ≠ .idle →
    t.call driver s .begin = (.error (.invalidChange t.stage .begin), t, s)
  inactive : t.stage ≠ .active → ∀ c st, c.statement? = some st →
    t.call driver s c = (.error (.notActive t.stage), t, s)
  foreign : t.stage = .active → ∀ c st, c.statement? = some st → st.dialect ≠ t.dialect →
    t.call driver s c = (.error (.dialectMismatch st.dialect t.dialect), t, s)

section

variable {driver : Driver σ} {t : Transaction} {s : σ}

theorem call_begin_of_ne (h : t.stage ≠ .idle) :
    t.call driver s .begin = (.error (.invalidChange t.stage .begin), t, s) := by
  unfold call begin
  cases hstage : t.stage with
  | idle => exact absurd hstage h
  | active => rfl
  | committed => rfl
  | rolledBack => rfl

theorem call_commit_idle (h : t.stage = .idle) :
    t.call driver s .commit = (.error (.invalidChange .idle .commit), t, s) := by
  simp [call, commit, h, Except.map]

theorem call_commit_over (h : t.stage.isTerminal) :
    t.call driver s .commit = (.ok .done, t, s) := by
  unfold call commit
  cases hstage : t.stage with
  | idle => simp [hstage, Stage.isTerminal] at h
  | active => simp [hstage, Stage.isTerminal] at h
  | committed => rfl
  | rolledBack => rfl

theorem call_rollback_of_ne (h : t.stage ≠ .active) :
    t.call driver s .rollback = (.ok .done, t, s) := by
  unfold call rollback
  cases hstage : t.stage with
  | idle => rfl
  | active => exact absurd hstage h
  | committed => rfl
  | rolledBack => rfl

/-- A statement that gives no command fails, and the driver is not asked. -/
theorem call_of_no_command {c : Call} {st : Statement} {e : ExecutionError}
    (hc : c.statement? = some st) (h : t.command st = .error e) :
    t.call driver s c = (.error e, t, s) := by
  cases c with
  | begin => cases hc
  | commit => cases hc
  | rollback => cases hc
  | fetchAll st' =>
    cases hc
    simp [call, fetchAll, h, Except.map]
  | fetchKeys st' =>
    cases hc
    simp [call, fetchKeys, h, Except.map]
  | execute st' =>
    cases hc
    simp [call, execute, h, Except.map]

theorem command_inactive (h : t.stage ≠ .active) (st : Statement) :
    t.command st = .error (.notActive t.stage) := by
  simp [command, h]

theorem command_foreign (hheld : t.held = true) (h : t.stage = .active) {st : Statement}
    (hne : st.dialect ≠ t.dialect) :
    t.command st = .error (.dialectMismatch st.dialect t.dialect) := by
  simp [command, Statement.command, hheld, h, hne]

theorem call_over (h : t.stage.isTerminal) (c : Call) :
    ∃ answer, ∀ {τ : Type} (driver : Driver τ) (s : τ), t.call driver s c = (answer, t, s) := by
  have hidle : t.stage ≠ .idle := by rintro he; simp [he, Stage.isTerminal] at h
  have hactive : t.stage ≠ .active := by rintro he; simp [he, Stage.isTerminal] at h
  cases c with
  | begin => exact ⟨_, fun driver s => call_begin_of_ne hidle⟩
  | commit => exact ⟨_, fun driver s => call_commit_over h⟩
  | rollback => exact ⟨_, fun driver s => call_rollback_of_ne hactive⟩
  | fetchAll st => exact ⟨_, fun driver s => call_of_no_command rfl (command_inactive hactive st)⟩
  | fetchKeys st => exact ⟨_, fun driver s => call_of_no_command rfl (command_inactive hactive st)⟩
  | execute st => exact ⟨_, fun driver s => call_of_no_command rfl (command_inactive hactive st)⟩

theorem calls_over (h : t.stage.isTerminal) (cs : List Call) : t.calls driver s cs = (t, s) := by
  induction cs with
  | nil => rfl
  | cons c rest ih =>
    obtain ⟨answer, hcall⟩ := call_over h c
    rw [calls, hcall]
    exact ih

theorem refuses (hheld : t.held = true ↔ t.stage = .active) : Refuses driver t s where
  never_left h cs := calls_over h cs
  ended h := by
    refine ⟨call_commit_over h, call_rollback_of_ne ?_⟩
    intro he
    simp [he, Stage.isTerminal] at h
  idle h := ⟨call_rollback_of_ne (by simp [h]), call_commit_idle h⟩
  begun h := call_begin_of_ne h
  inactive h c st hc := call_of_no_command hc (command_inactive h st)
  foreign h c st hc hne := call_of_no_command hc (command_foreign (hheld.2 h) h hne)

end

/-! ## What is kept -/

/-- What the driver has been asked by a transaction at some stage: begins that failed, then one that
did not, then statements, then one commit or rollback. -/
inductive Trail : Stage → Trace → Prop
  | idle (n : Nat) : Trail .idle (List.replicate n ⟨.begin, false⟩)
  | active (n : Nat) {sent : Trace} (hsent : Statements sent) :
      Trail .active (List.replicate n ⟨.begin, false⟩ ++ ⟨.begin, true⟩ :: sent)
  | committed {trace : Trace} : Trail .active trace →
      Trail .committed (trace ++ [⟨.commit, true⟩])
  | notCommitted {trace : Trace} : Trail .active trace →
      Trail .rolledBack (trace ++ [⟨.commit, false⟩])
  | rolledBack {trace : Trace} (met : Bool) : Trail .active trace →
      Trail .rolledBack (trace ++ [⟨.rollback, met⟩])

namespace Trail

variable {trace sent : Trace}

theorem notBegun (h : Trail .idle trace) : Trail .idle (trace ++ [⟨.begin, false⟩]) := by
  cases h with
  | idle n =>
    rw [← List.replicate_succ']
    exact .idle (n + 1)

theorem begun (h : Trail .idle trace) : Trail .active (trace ++ [⟨.begin, true⟩]) := by
  cases h with
  | idle n => exact .active n .nil

theorem send (h : Trail .active trace) (hsent : Statements sent) :
    Trail .active (trace ++ sent) := by
  cases h with
  | active n h =>
    rw [List.append_assoc]
    exact .active n (h.append hsent)

end Trail

/-- A transaction of some dialect after the driver was asked for all of a trace. -/
structure Lawful (d : Dialect) (t : Transaction) (trace : Trace) : Prop where
  dialect : t.dialect = d
  held : t.held = true ↔ t.stage = .active
  trail : Trail t.stage trace

variable {d : Dialect} {t : Transaction} {trace : Trace}

theorem lawful_idle (d : Dialect) : Lawful d (idle d) [] := ⟨rfl, by simp [idle], .idle 0⟩

/-- The call goes on the traced driver as on the plain one, and the law is kept. -/
def Keeps (driver : Driver σ) (d : Dialect) (t : Transaction) (trace : Trace) (s : σ) (c : Call) :
    Prop :=
  ∃ sent, t.call driver.traced (s, trace) c =
      ((t.call driver s c).1, (t.call driver s c).2.1, (t.call driver s c).2.2, trace ++ sent) ∧
    Lawful d (t.call driver s c).2.1 (trace ++ sent)

section

variable {driver : Driver σ} {s : σ}

/-- A call that no driver hears of. -/
theorem Lawful.unheard (h : Lawful d t trace) {c : Call} {answer : Except ExecutionError Answer}
    (hcall : ∀ {τ : Type} (driver : Driver τ) (s : τ), t.call driver s c = (answer, t, s)) :
    Keeps driver d t trace s c :=
  ⟨[], by simp [hcall], by simpa [hcall] using h⟩

theorem Lawful.begin (h : Lawful d t trace) (hstage : t.stage = .idle) :
    Keeps driver d t trace s .begin := by
  have htrail := h.trail
  rw [hstage] at htrail
  rcases hbegin : driver.begin s with ⟨f | u, s'⟩
  · refine ⟨[⟨.begin, false⟩], ?_, ?_⟩
    · simp [call, Transaction.begin, hstage, hbegin, traced, note, Except.isOk, Except.toBool]
    · have hafter : (t.call driver s .begin).2.1 = t := by
        simp [call, Transaction.begin, hstage, hbegin]
      rw [hafter]
      exact ⟨h.dialect, h.held, hstage ▸ htrail.notBegun⟩
  · refine ⟨[⟨.begin, true⟩], ?_, ?_⟩
    · simp [call, Transaction.begin, hstage, hbegin, traced, note, Except.isOk, Except.toBool]
    · have hafter : (t.call driver s .begin).2.1 = { t with stage := .active, held := true } := by
        simp [call, Transaction.begin, hstage, hbegin]
      rw [hafter]
      exact ⟨h.dialect, by simp, htrail.begun⟩

theorem Lawful.commit (h : Lawful d t trace) (hstage : t.stage = .active) :
    Keeps driver d t trace s .commit := by
  have hheld := h.held.2 hstage
  have htrail := h.trail
  rw [hstage] at htrail
  rcases hcommit : driver.commit s with ⟨f | u, s'⟩
  · refine ⟨[⟨.commit, false⟩], ?_, ?_⟩
    · simp [call, Transaction.commit, hstage, hheld, hcommit, traced, note, Except.isOk,
        Except.toBool]
    · have hafter : (t.call driver s .commit).2.1 =
          { t with stage := .rolledBack, held := false } := by
        simp [call, Transaction.commit, hstage, hheld, hcommit]
      rw [hafter]
      exact ⟨h.dialect, by simp, htrail.notCommitted⟩
  · refine ⟨[⟨.commit, true⟩], ?_, ?_⟩
    · simp [call, Transaction.commit, hstage, hheld, hcommit, traced, note, Except.isOk,
        Except.toBool]
    · have hafter : (t.call driver s .commit).2.1 =
          { t with stage := .committed, held := false } := by
        simp [call, Transaction.commit, hstage, hheld, hcommit]
      rw [hafter]
      exact ⟨h.dialect, by simp, htrail.committed⟩

theorem Lawful.rollback (h : Lawful d t trace) (hstage : t.stage = .active) :
    Keeps driver d t trace s .rollback := by
  have hheld := h.held.2 hstage
  have htrail := h.trail
  rw [hstage] at htrail
  refine ⟨[⟨.rollback, (driver.rollback s).1.isOk⟩], ?_, ?_⟩
  · rcases hrollback : driver.rollback s with ⟨f | u, s'⟩ <;>
      simp [call, Transaction.rollback, hstage, hheld, hrollback, traced, note]
  · have hafter : (t.call driver s .rollback).2.1 =
        { t with stage := .rolledBack, held := false } := by
      rcases hrollback : driver.rollback s with ⟨f | u, s'⟩ <;>
        simp [call, Transaction.rollback, hstage, hheld, hrollback]
    rw [hafter]
    exact ⟨h.dialect, by simp, htrail.rolledBack _⟩

/-- Reads and writes leave the transaction as it is. -/
theorem Lawful.statement (h : Lawful d t trace) (hstage : t.stage = .active) {c : Call}
    {st : Statement} (hc : c.statement? = some st) : Keeps driver d t trace s c := by
  have htrail := h.trail
  rw [hstage] at htrail
  have keeps {sent : Trace} (hsent : Statements sent) : Lawful d t (trace ++ sent) :=
    ⟨h.dialect, h.held, hstage ▸ htrail.send hsent⟩
  cases c with
  | begin => cases hc
  | commit => cases hc
  | rollback => cases hc
  | fetchAll st =>
    obtain ⟨sent, hsent, hnoted⟩ := t.fetchAll_traced (d := driver) st s
    exact ⟨sent, by simp [call, hnoted], keeps hsent⟩
  | fetchKeys st =>
    obtain ⟨sent, hsent, hnoted⟩ := t.fetchKeys_traced (d := driver) st s
    exact ⟨sent, by simp [call, hnoted], keeps hsent⟩
  | execute st =>
    obtain ⟨sent, hsent, hnoted⟩ := t.execute_traced (d := driver) st s
    exact ⟨sent, by simp [call, hnoted], keeps hsent⟩

/-- **Every call keeps the law**, whatever the driver answers. -/
theorem Lawful.call (h : Lawful d t trace) (driver : Driver σ) (s : σ) (c : Call) :
    Keeps driver d t trace s c := by
  by_cases hover : t.stage.isTerminal
  · obtain ⟨answer, hcall⟩ := call_over hover c
    exact h.unheard hcall
  by_cases hactive : t.stage = .active
  · cases c with
    | begin => exact h.unheard fun driver s => call_begin_of_ne (by simp [hactive])
    | commit => exact h.commit hactive
    | rollback => exact h.rollback hactive
    | fetchAll st => exact h.statement hactive rfl
    | fetchKeys st => exact h.statement hactive rfl
    | execute st => exact h.statement hactive rfl
  · have hidle : t.stage = .idle := by
      cases hstage : t.stage <;> simp_all [Stage.isTerminal]
    have unheard {st : Statement} (hc : c.statement? = some st) : Keeps driver d t trace s c :=
      h.unheard fun driver s => call_of_no_command hc (command_inactive hactive st)
    cases c with
    | begin => exact h.begin hidle
    | commit => exact h.unheard fun driver s => call_commit_idle hidle
    | rollback => exact h.unheard fun driver s => call_rollback_of_ne hactive
    | fetchAll st => exact unheard rfl
    | fetchKeys st => exact unheard rfl
    | execute st => exact unheard rfl

/-- **Every run keeps the law.** -/
theorem Lawful.calls (h : Lawful d t trace) (driver : Driver σ) (s : σ) (cs : List Call) :
    ∃ sent, t.calls driver.traced (s, trace) cs =
        ((t.calls driver s cs).1, (t.calls driver s cs).2, trace ++ sent) ∧
      Lawful d (t.calls driver s cs).1 (trace ++ sent) := by
  induction cs generalizing t s trace with
  | nil => exact ⟨[], by simp [Transaction.calls], by simpa [Transaction.calls] using h⟩
  | cons c rest ih =>
    obtain ⟨sent, hcall, hlaw⟩ := h.call driver s c
    obtain ⟨more, hcalls, hlaws⟩ := ih hlaw (t.call driver s c).2.2
    refine ⟨sent ++ more, ?_, ?_⟩
    · simp only [Transaction.calls, hcall, hcalls, List.append_assoc]
    · rw [← List.append_assoc]
      exact hlaws

end

/-- **The life of every transaction.** After any calls on a new transaction, noted or not, the law
holds of all that the driver was asked, and what is refused changes nothing and is not noted. -/
theorem calls_lawful (driver : Driver σ) (d : Dialect) (s : σ) (cs : List Call) :
    ∃ t s' trace, (idle d).calls driver s cs = (t, s') ∧
      (idle d).calls driver.traced (s, []) cs = (t, s', trace) ∧
      Lawful d t trace ∧ Refuses driver.traced t (s', trace) := by
  obtain ⟨sent, hcalls, hlaw⟩ := (lawful_idle d).calls driver s cs
  exact ⟨_, _, _, rfl, hcalls, hlaw, refuses hlaw.held⟩

end Transaction

end GuardedQuery
