import GuardedQuery.Proofs.Database.Row

/-!
# Whose fault it is

Two execution errors blame the request: that it was not compiled and that nothing was found. A
transaction answers statements with neither of them (`Transaction.fetchAll_blame` and so on), and every
other error is told to a client as a conflict, as unavailable or as internal
(`ExecutionError.told_of_blames`).
-/

namespace GuardedQuery

/-- The kinds of errors that are not for the request to mend. -/
def ErrorKind.IsServers (k : ErrorKind) : Prop :=
  k = .conflict ∨ k = .unavailable ∨ k = .internal

namespace Failure

theorem classifyCode_isServers {code : String} {k : ErrorKind} (h : classifyCode code = some k) :
    k.IsServers := by
  unfold classifyCode at h
  split at h
  · cases h
    exact .inl rfl
  · split at h
    · cases h
      exact .inr (.inl rfl)
    · cases h

theorem Violation.isServers (v : Violation) : v.kind.IsServers := by
  cases v <;> simp [Violation.kind, ErrorKind.IsServers]

theorem Cause.isServers (c : Cause) : c.kind.IsServers := by
  cases c with
  | reported code violation =>
    cases hcode : code.bind classifyCode with
    | none =>
      rw [Cause.kind, hcode]
      exact violation.isServers
    | some k =>
      rw [Cause.kind, hcode]
      obtain ⟨code', -, hk⟩ := Option.bind_eq_some_iff.1 hcode
      exact classifyCode_isServers hk
  | _ => simp [Cause.kind, ErrorKind.IsServers]

/-- The words of a driver never make a failure the fault of the request. -/
theorem classify_isServers (f : Failure) : f.classify.IsServers := by
  unfold classify
  split
  · exact .inr (.inl rfl)
  · exact .inr (.inl rfl)
  · exact Cause.isServers _
  · exact .inr (.inr rfl)

end Failure

namespace ExecutionError

/-- The request itself is to blame. -/
def blames : ExecutionError → Bool
  | .compile _ => true
  | .notFound => true
  | _ => false

theorem told_of_blames {e : ExecutionError} (h : e.blames = false) :
    e.toPublic.kind.IsServers := by
  cases e with
  | compile e => cases h
  | notFound => cases h
  | driver f =>
    rw [toPublic, PublicError.kind_ofKind]
    exact f.classify_isServers
  | _ => exact .inr (.inr rfl)

/-- A record is not the fault of the request. -/
theorem OfRow.blames {e : ExecutionError} (h : e.OfRow) : e.blames = false := by
  cases h <;> rfl

end ExecutionError

/-! ## What statements are answered with -/

open ExecutionError

variable {σ : Type} {driver : Driver σ} {d : Dialect} {t : Transaction} {st : Statement} {s : σ}
  {e : ExecutionError}

theorem Statement.command_blame (h : st.command d = .error e) : e.blames = false := by
  unfold command at h
  split at h
  · cases h
    rfl
  · split at h
    · cases h
      rfl
    · cases h

theorem Statement.keyColumn_blame (h : st.keyColumn = .error e) : e.blames = false := by
  unfold keyColumn at h
  split at h
  · cases h
    rfl
  · cases h

namespace Transaction

theorem command_blame (h : t.command st = .error e) : e.blames = false := by
  unfold command at h
  split at h
  · exact Statement.command_blame h
  · cases h
    rfl

theorem records_blame {c : Command} (h : (records driver c s).1 = .error e) :
    e.blames = false := by
  unfold records at h
  rcases hquery : driver.query c s with ⟨f | rs, s'⟩
  · rw [hquery] at h
    cases h
    rfl
  · rw [hquery] at h
    cases h

/-- A read fails by its own fault, by the driver's or by that of a record. -/
theorem fetch_blame {β : Type} {read : Except ExecutionError (Read β)}
    (hread : read = .error e → e.blames = false)
    (hdecode : ∀ q, read = .ok q → ∀ r, q.decode r = .error e → e.blames = false)
    (h : (fetch driver read s).1 = .error e) : e.blames = false := by
  cases read with
  | error e' =>
    cases h
    exact hread rfl
  | ok q =>
    rcases hrecords : records driver q.command s with ⟨e' | rs, s'⟩
    · simp only [fetch, hrecords] at h
      cases h
      exact records_blame (by rw [hrecords])
    · simp only [fetch, hrecords] at h
      obtain ⟨r, -, hr⟩ := exists_of_mapM_eq_error h
      exact hdecode q rfl r hr

theorem fetchAll_blame (h : (t.fetchAll driver st s).1 = .error e) : e.blames = false := by
  rw [fetchAll_eq] at h
  refine fetch_blame (fun hread => ?_) (fun q hq r hr => ?_) h
  · exact command_blame (map_eq_error.1 hread)
  · rw [decode_of_rowsRead hq] at hr
    exact (Record.toRow_ofRow hr).blames

theorem fetchKeys_blame (h : (t.fetchKeys driver st s).1 = .error e) : e.blames = false := by
  rw [fetchKeys_eq] at h
  refine fetch_blame (fun hread => ?_) (fun q hq r hr => ?_) h
  · rcases bind_eq_error.1 hread with hcommand | ⟨c, -, hread⟩
    · exact command_blame hcommand
    · rcases bind_eq_error.1 hread with hcolumn | ⟨column, -, hread⟩
      · exact Statement.keyColumn_blame hcolumn
      · cases hread
  · obtain ⟨column, -, hdecode⟩ := decode_of_keysRead hq
    rw [hdecode] at hr
    exact (Record.key_ofRow hr).blames

theorem execute_blame (h : (t.execute driver st s).1 = .error e) : e.blames = false := by
  unfold execute at h
  cases hcommand : t.command st with
  | error e' =>
    rw [hcommand] at h
    cases h
    exact command_blame hcommand
  | ok c =>
    simp only [hcommand] at h
    rcases hexecute : driver.execute c s with ⟨f | n, s'⟩
    · rw [hexecute] at h
      cases h
      rfl
    · rw [hexecute] at h
      cases h

end Transaction

end GuardedQuery
