import GuardedQuery.Proofs.Database.Trace

/-!
# Work in a transaction

What becomes of a unit of work in a transaction is up to three answers: whether the driver begins,
how the work ends, and whether the driver commits. `Database.transact_ends` says it for every driver,
every work and every way in which they may fail.
-/

namespace GuardedQuery

open Driver

namespace Database

variable {σ ε α : Type}

/-- The executor of work in a transaction that has begun. -/
def worker (db : Database σ) : Executor σ :=
  Transaction.executor db.driver ⟨db.dialect, .active, true⟩

/-- The database with a note of every request. -/
def traced (db : Database σ) : Database (σ × Trace) := ⟨db.dialect, db.driver.traced⟩

/-! ## How a transaction ends -/

section

variable {db : Database σ} {w : Work ε α} {s s₁ s₂ s₃ : σ} {f : Failure} {a : α} {e : ε}

theorem transact_not_begun (h : db.driver.begin s = (.error f, s₁)) :
    db.transact w s = (.error (.transaction (.driver f)), s₁) := by
  simp [transact, begin, Transaction.begin, Transaction.idle, Transaction.release, h]

theorem transact_begun (h : db.driver.begin s = (.ok (), s₁)) :
    db.transact w s = db.finish ⟨db.dialect, .active, true⟩ (w.run db.worker s₁).2
      (w.run db.worker s₁).1 := by
  simp [transact, begin, Transaction.begin, Transaction.idle, worker, h]

theorem transact_committed (hbegin : db.driver.begin s = (.ok (), s₁))
    (hwork : w.run db.worker s₁ = (.ok a, s₂)) (hcommit : db.driver.commit s₂ = (.ok (), s₃)) :
    db.transact w s = (.ok a, s₃) := by
  simp [transact_begun hbegin, hwork, finish, Transaction.commit, Transaction.release, hcommit]

theorem transact_not_committed (hbegin : db.driver.begin s = (.ok (), s₁))
    (hwork : w.run db.worker s₁ = (.ok a, s₂)) (hcommit : db.driver.commit s₂ = (.error f, s₃)) :
    db.transact w s = (.error (.transaction (.driver f)), s₃) := by
  simp [transact_begun hbegin, hwork, finish, Transaction.commit, Transaction.release, hcommit]

/-- The answer to the rollback is of no account. -/
theorem transact_failed (hbegin : db.driver.begin s = (.ok (), s₁))
    (hwork : w.run db.worker s₁ = (.error e, s₂)) :
    db.transact w s = (.error (.work e), (db.driver.rollback s₂).2) := by
  rcases hrollback : db.driver.rollback s₂ with ⟨f | u, s₃⟩ <;>
    simp [transact_begun hbegin, hwork, finish, Transaction.rollback, Transaction.release,
      hrollback]

end

/-- What the driver is asked while the work is done. -/
def sent (db : Database σ) (w : Work ε α) (s : σ) : Trace := (w.run db.traced.worker (s, [])).2.2

theorem run_worker_traced (db : Database σ) (w : Work ε α) (s : σ) (trace : Trace) :
    Statements (db.sent w s) ∧ w.run db.traced.worker (s, trace) =
      ((w.run db.worker s).1, (w.run db.worker s).2, trace ++ db.sent w s) := by
  obtain ⟨sent, hsent, hnoted⟩ := Work.run_traced (d := db.driver) ⟨db.dialect, .active, true⟩ w s
  have hnote : db.sent w s = sent := congrArg (fun p => p.2.2) (hnoted [])
  rw [hnote]
  exact ⟨hsent, hnoted trace⟩

/-- Whether the request was made. -/
def Asks (q : Driver.Request) (trace : Trace) : Prop := ∃ x ∈ trace, x.request = q

/-- The end of a transaction in which `w` is done from the state `s`: its result, the state after it
and what the driver was asked. -/
structure Ends (db : Database σ) (w : Work ε α) (s : σ) (result : Except (WorkError ε) α) (s' : σ)
    (trace : Trace) : Prop where
  ok_iff : ∀ a, result = .ok a ↔ ∃ s₁ s₂ s₃, db.driver.begin s = (.ok (), s₁) ∧
    w.run db.worker s₁ = (.ok a, s₂) ∧ db.driver.commit s₂ = (.ok (), s₃)
  notBegun : ∀ f s₁, db.driver.begin s = (.error f, s₁) →
    result = .error (.transaction (.driver f)) ∧ s' = s₁ ∧ trace = [⟨.begin, false⟩]
  failed : ∀ s₁ e s₂, db.driver.begin s = (.ok (), s₁) → w.run db.worker s₁ = (.error e, s₂) →
    result = .error (.work e) ∧ s' = (db.driver.rollback s₂).2 ∧ Statements (db.sent w s₁) ∧
    trace = ⟨.begin, true⟩ :: db.sent w s₁ ++ [⟨.rollback, (db.driver.rollback s₂).1.isOk⟩]
  committed : ∀ s₁ a s₂ s₃, db.driver.begin s = (.ok (), s₁) → w.run db.worker s₁ = (.ok a, s₂) →
    db.driver.commit s₂ = (.ok (), s₃) →
    s' = s₃ ∧ Statements (db.sent w s₁) ∧
    trace = ⟨.begin, true⟩ :: db.sent w s₁ ++ [⟨.commit, true⟩]
  notCommitted : ∀ s₁ a s₂ f s₃, db.driver.begin s = (.ok (), s₁) →
    w.run db.worker s₁ = (.ok a, s₂) → db.driver.commit s₂ = (.error f, s₃) →
    result = .error (.transaction (.driver f)) ∧ s' = s₃ ∧ Statements (db.sent w s₁) ∧
    trace = ⟨.begin, true⟩ :: db.sent w s₁ ++ [⟨.commit, false⟩]
  notBoth : ¬(Asks .commit trace ∧ Asks .rollback trace)

variable {db : Database σ} {w : Work ε α} {s s₁ s₂ s₃ : σ} {f : Failure} {a : α} {e : ε}

/-- A transaction asks for its begin, for statements and for its end, and for nothing else. -/
theorem asks_iff {sent : Trace} (hsent : Statements sent) (q last : Driver.Request) (met : Bool)
    (hq : q ≠ .begin) (hstatement : ∀ c, q ≠ .query c ∧ q ≠ .execute c) :
    Asks q (⟨.begin, true⟩ :: sent ++ [⟨last, met⟩]) ↔ q = last := by
  constructor
  · rintro ⟨x, hx, rfl⟩
    simp only [List.cons_append, List.mem_cons, List.mem_append, List.not_mem_nil, or_false] at hx
    rcases hx with rfl | hx | rfl
    · exact absurd rfl hq
    · obtain ⟨c, hc | hc⟩ := hsent x hx
      · exact absurd hc (hstatement c).1
      · exact absurd hc (hstatement c).2
    · rfl
  · rintro rfl
    exact ⟨⟨q, met⟩, by simp, rfl⟩

theorem not_both {sent : Trace} (hsent : Statements sent) {last : Driver.Request} {met : Bool} :
    ¬(Asks .commit (⟨.begin, true⟩ :: sent ++ [⟨last, met⟩]) ∧
      Asks .rollback (⟨.begin, true⟩ :: sent ++ [⟨last, met⟩])) := by
  rw [asks_iff hsent .commit last met nofun fun c => ⟨nofun, nofun⟩,
    asks_iff hsent .rollback last met nofun fun c => ⟨nofun, nofun⟩]
  rintro ⟨rfl, h⟩
  cases h

theorem Ends.of_not_begun (h : db.driver.begin s = (.error f, s₁)) :
    db.Ends w s (.error (.transaction (.driver f))) s₁ [⟨.begin, false⟩] where
  ok_iff a := by simp [h]
  notBegun f' s₁' h' := by
    cases h.symm.trans h'
    exact ⟨rfl, rfl, rfl⟩
  failed s₁' e s₂ h' := by cases h.symm.trans h'
  committed s₁' a s₂ s₃ h' := by cases h.symm.trans h'
  notCommitted s₁' a s₂ f' s₃ h' := by cases h.symm.trans h'
  notBoth := by simp [Asks]

theorem Ends.of_failed (hbegin : db.driver.begin s = (.ok (), s₁))
    (hwork : w.run db.worker s₁ = (.error e, s₂)) (hsent : Statements (db.sent w s₁)) :
    db.Ends w s (.error (.work e)) (db.driver.rollback s₂).2
      (⟨.begin, true⟩ :: db.sent w s₁ ++ [⟨.rollback, (db.driver.rollback s₂).1.isOk⟩]) where
  ok_iff a := by simp [hbegin, hwork]
  notBegun f s₁' h := by cases hbegin.symm.trans h
  failed s₁' e' s₂' h h' := by
    cases hbegin.symm.trans h
    cases hwork.symm.trans h'
    exact ⟨rfl, rfl, hsent, rfl⟩
  committed s₁' a s₂' s₃ h h' := by
    cases hbegin.symm.trans h
    cases hwork.symm.trans h'
  notCommitted s₁' a s₂' f s₃ h h' := by
    cases hbegin.symm.trans h
    cases hwork.symm.trans h'
  notBoth := not_both hsent

theorem Ends.of_committed (hbegin : db.driver.begin s = (.ok (), s₁))
    (hwork : w.run db.worker s₁ = (.ok a, s₂)) (hcommit : db.driver.commit s₂ = (.ok (), s₃))
    (hsent : Statements (db.sent w s₁)) :
    db.Ends w s (.ok a) s₃ (⟨.begin, true⟩ :: db.sent w s₁ ++ [⟨.commit, true⟩]) where
  ok_iff a' := by
    constructor
    · rintro ⟨⟩
      exact ⟨s₁, s₂, s₃, hbegin, hwork, hcommit⟩
    · rintro ⟨_, _, _, h, h', -⟩
      cases hbegin.symm.trans h
      cases hwork.symm.trans h'
      rfl
  notBegun f s₁' h := by cases hbegin.symm.trans h
  failed s₁' e s₂' h h' := by
    cases hbegin.symm.trans h
    cases hwork.symm.trans h'
  committed s₁' a' s₂' s₃' h h' h'' := by
    cases hbegin.symm.trans h
    cases hwork.symm.trans h'
    cases hcommit.symm.trans h''
    exact ⟨rfl, hsent, rfl⟩
  notCommitted s₁' a' s₂' f s₃' h h' h'' := by
    cases hbegin.symm.trans h
    cases hwork.symm.trans h'
    cases hcommit.symm.trans h''
  notBoth := not_both hsent

theorem Ends.of_not_committed (hbegin : db.driver.begin s = (.ok (), s₁))
    (hwork : w.run db.worker s₁ = (.ok a, s₂)) (hcommit : db.driver.commit s₂ = (.error f, s₃))
    (hsent : Statements (db.sent w s₁)) :
    db.Ends w s (.error (.transaction (.driver f))) s₃
      (⟨.begin, true⟩ :: db.sent w s₁ ++ [⟨.commit, false⟩]) where
  ok_iff a' := by simp [hbegin, hwork, hcommit]
  notBegun f' s₁' h := by cases hbegin.symm.trans h
  failed s₁' e s₂' h h' := by
    cases hbegin.symm.trans h
    cases hwork.symm.trans h'
  committed s₁' a' s₂' s₃' h h' h'' := by
    cases hbegin.symm.trans h
    cases hwork.symm.trans h'
    cases hcommit.symm.trans h''
  notCommitted s₁' a' s₂' f' s₃' h h' h'' := by
    cases hbegin.symm.trans h
    cases hwork.symm.trans h'
    cases hcommit.symm.trans h''
    exact ⟨rfl, rfl, hsent, rfl⟩
  notBoth := not_both hsent

/-! ## Every run -/

/-- The traced run of a transaction gives what the plain one gives. -/
theorem transact_traced (db : Database σ) (w : Work ε α) (s : σ) :
    ∃ trace, db.traced.transact w (s, []) = ((db.transact w s).1, (db.transact w s).2, trace) ∧
      db.Ends w s (db.transact w s).1 (db.transact w s).2 trace := by
  rcases hbegin : db.driver.begin s with ⟨f | u, s₁⟩
  · have hnoted : db.traced.driver.begin (s, []) = (.error f, s₁, [⟨.begin, false⟩]) := by
      simp [traced, Driver.traced, note, hbegin, Except.isOk, Except.toBool]
    rw [transact_not_begun hbegin]
    exact ⟨_, transact_not_begun hnoted, .of_not_begun hbegin⟩
  · have hnoted : db.traced.driver.begin (s, []) = (.ok (), s₁, [⟨.begin, true⟩]) := by
      simp [traced, Driver.traced, note, hbegin, Except.isOk, Except.toBool]
    obtain ⟨hsent, hrun⟩ := db.run_worker_traced w s₁ [⟨.begin, true⟩]
    rcases hwork : w.run db.worker s₁ with ⟨e | a, s₂⟩
    · rw [hwork] at hrun
      rw [transact_failed hbegin hwork]
      exact ⟨_, transact_failed hnoted hrun, .of_failed hbegin hwork hsent⟩
    · rw [hwork] at hrun
      rcases hcommit : db.driver.commit s₂ with ⟨f | u, s₃⟩
      · have hend : db.traced.driver.commit (s₂, ⟨.begin, true⟩ :: db.sent w s₁) =
            (.error f, s₃, ⟨.begin, true⟩ :: db.sent w s₁ ++ [⟨.commit, false⟩]) := by
          simp [traced, Driver.traced, note, hcommit, Except.isOk, Except.toBool]
        rw [transact_not_committed hbegin hwork hcommit]
        exact ⟨_, transact_not_committed hnoted hrun hend,
          .of_not_committed hbegin hwork hcommit hsent⟩
      · have hend : db.traced.driver.commit (s₂, ⟨.begin, true⟩ :: db.sent w s₁) =
            (.ok (), s₃, ⟨.begin, true⟩ :: db.sent w s₁ ++ [⟨.commit, true⟩]) := by
          simp [traced, Driver.traced, note, hcommit, Except.isOk, Except.toBool]
        rw [transact_committed hbegin hwork hcommit]
        exact ⟨_, transact_committed hnoted hrun hend,
          .of_committed hbegin hwork hcommit hsent⟩

/-! ## What is served -/

theorem serve_traced (db : Database σ) (w : Work ExecutionError α) (s : σ) :
    ∃ trace, db.traced.serve w (s, []) = ((db.serve w s).1, (db.serve w s).2, trace) := by
  obtain ⟨trace, htrace, -⟩ := db.transact_traced w s
  refine ⟨trace, ?_⟩
  unfold serve
  rw [htrace]
  rcases db.transact w s with ⟨e | a, s'⟩ <;> rfl

/-- What is served for the answer to the begin, the result of the work and the answer to the commit. -/
def served : Except Failure Unit → Except ExecutionError α → Except Failure Unit → Except PublicError α
  | .error f, _, _ => .error (ExecutionError.driver f).toPublic
  | .ok (), .error e, _ => .error e.toPublic
  | .ok (), .ok _, .error f => .error (ExecutionError.driver f).toPublic
  | .ok (), .ok a, .ok () => .ok a

theorem serve_result (db : Database σ) (w : Work ExecutionError α) (s : σ) :
    (db.serve w s).1 = served (db.driver.begin s).1 (w.run db.worker (db.driver.begin s).2).1
      (db.driver.commit (w.run db.worker (db.driver.begin s).2).2).1 := by
  unfold serve
  rcases hbegin : db.driver.begin s with ⟨f | u, s₁⟩
  · rw [transact_not_begun hbegin]
    rfl
  rcases hwork : w.run db.worker s₁ with ⟨e | a, s₂⟩
  · rw [transact_failed hbegin hwork]
    rfl
  rcases hcommit : db.driver.commit s₂ with ⟨f | u, s₃⟩
  · rw [transact_not_committed hbegin hwork hcommit]
    rfl
  · rw [transact_committed hbegin hwork hcommit]
    rfl

theorem serve_ok {w : Work ExecutionError α} (h : (db.serve w s).1 = .ok a) :
    ∃ s₁ s₂, db.driver.begin s = (.ok (), s₁) ∧ w.run db.worker s₁ = (.ok a, s₂) ∧
      db.driver.commit s₂ = (.ok (), (db.serve w s).2) := by
  unfold serve at h ⊢
  rcases hbegin : db.driver.begin s with ⟨f | u, s₁⟩
  · rw [transact_not_begun hbegin] at h
    cases h
  rcases hwork : w.run db.worker s₁ with ⟨e | a', s₂⟩
  · rw [transact_failed hbegin hwork] at h
    cases h
  rcases hcommit : db.driver.commit s₂ with ⟨f | u, s₃⟩
  · rw [transact_not_committed hbegin hwork hcommit] at h
    cases h
  · rw [transact_committed hbegin hwork hcommit] at h ⊢
    cases h
    exact ⟨s₁, s₂, rfl, hwork, hcommit⟩

/-- A client is told of a failure of the driver or of the work. -/
theorem serve_error {w : Work ExecutionError α} {p : PublicError}
    (h : (db.serve w s).1 = .error p) : ∃ e, p = e.toPublic ∧
      ((∃ f, e = .driver f) ∨ ∃ s₁, (w.run db.worker s₁).1 = .error e) := by
  unfold serve at h
  rcases hbegin : db.driver.begin s with ⟨f | u, s₁⟩
  · rw [transact_not_begun hbegin] at h
    cases h
    exact ⟨_, rfl, .inl ⟨f, rfl⟩⟩
  rcases hwork : w.run db.worker s₁ with ⟨e | a, s₂⟩
  · rw [transact_failed hbegin hwork] at h
    cases h
    exact ⟨e, rfl, .inr ⟨s₁, by rw [hwork]⟩⟩
  rcases hcommit : db.driver.commit s₂ with ⟨f | u, s₃⟩
  · rw [transact_not_committed hbegin hwork hcommit] at h
    cases h
    exact ⟨_, rfl, .inl ⟨f, rfl⟩⟩
  · rw [transact_committed hbegin hwork hcommit] at h
    cases h

/-- **How every transaction ends.** The traced run notes what any driver is asked, and a served
transaction gives the public form of the very error with which the work or the transaction failed. -/
theorem transact_ends (db : Database σ) (s : σ) :
    (∀ {ε α : Type} (w : Work ε α), ∃ trace,
      db.traced.transact w (s, []) = ((db.transact w s).1, (db.transact w s).2, trace) ∧
      db.Ends w s (db.transact w s).1 (db.transact w s).2 trace) ∧
    ∀ {α : Type} (w : Work ExecutionError α), (db.serve w s).2 = (db.transact w s).2 ∧
      (∀ a, (db.serve w s).1 = .ok a ↔ (db.transact w s).1 = .ok a) ∧
      ∀ p, (db.serve w s).1 = .error p ↔ ∃ e, p = e.toPublic ∧
        ((db.transact w s).1 = .error (.work e) ∨ (db.transact w s).1 = .error (.transaction e)) := by
  refine ⟨fun w => transact_traced db w s, fun w => ?_⟩
  unfold serve
  rcases db.transact w s with ⟨(e | e) | a, s'⟩
  · simp [WorkError.collapse, eq_comm]
  · simp [WorkError.collapse, eq_comm]
  · simp

end Database

end GuardedQuery
