import GuardedQuery.Database.Replay
import GuardedQuery.Proofs.Database.Row
import GuardedQuery.Proofs.Database.Work

/-!
# Runs on a replayed database

Work that ends with the first error (`Work.Strict`) has its requests answered by the replies of the
script, one each and in order. What a read gives is a function of its reply (`Replay.Reply.decoded`),
and this function looks at the result columns of the statement only (`Replay.LooksAt`). So two scripts
that agree on them give one result (`Work.Strict.run_matches`), and a run that succeeds has missed no
column where a missing one is noticed (`Work.Strict.run_carries`).
-/

namespace GuardedQuery

/-! ## Strict work -/

namespace Work

variable {ε α β : Type}

/-- The work reads, and the first read that fails ends it. -/
inductive Strict : Work ε α → Prop
  | done (result : Except ε α) : Strict (.done result)
  | fetchAll {st : Statement} {next : Except ExecutionError (List Row) → Work ε α} :
      (∀ e, ∃ e', next (.error e) = .done (.error e')) → (∀ rows, Strict (next (.ok rows))) →
      Strict (.fetchAll st next)
  | fetchKeys {st : Statement} {next : Except ExecutionError (List Literal) → Work ε α} :
      (∀ e, ∃ e', next (.error e) = .done (.error e')) → (∀ keys, Strict (next (.ok keys))) →
      Strict (.fetchKeys st next)

theorem Strict.bind {w : Work ε α} {f : α → Work ε β} (h : w.Strict) (hf : ∀ a, (f a).Strict) :
    (w.bind f).Strict := by
  induction h with
  | done result =>
    cases result with
    | error e => exact .done _
    | ok a => exact hf a
  | fetchAll hfails _ ih =>
    refine .fetchAll (fun e => ?_) ih
    obtain ⟨e', he⟩ := hfails e
    exact ⟨e', by rw [he]; rfl⟩
  | fetchKeys hfails _ ih =>
    refine .fetchKeys (fun e => ?_) ih
    obtain ⟨e', he⟩ := hfails e
    exact ⟨e', by rw [he]; rfl⟩

theorem strict_rows (st : Statement) : (rows st).Strict :=
  .fetchAll (fun e => ⟨e, rfl⟩) fun rows => .done (.ok rows)

theorem strict_keys (st : Statement) : (keys st).Strict :=
  .fetchKeys (fun e => ⟨e, rfl⟩) fun keys => .done (.ok keys)

/-- A read and a step that may fail. -/
theorem strict_step (st : Statement) (f : List Row → Except ExecutionError α) :
    (Work.fetchAll st fun answer => .done (answer.bind f)).Strict :=
  .fetchAll (fun e => ⟨e, rfl⟩) fun rows => .done (f rows)

/-- The statement of a request. -/
def Request.statement : Request → Statement
  | .rows st | .keys st | .write st => st

/-- The columns in which the answer to a request is looked at. -/
def Request.columns : Request → List String
  | .rows st => st.outline.columns
  | .keys st => st.outline.columns.take 1
  | .write _ => []

/-- A row that lacks a column is noticed. Where the column reads as null only keys notice it. -/
def Request.Notices (setup : Replay.Setup) : Request → Prop
  | .keys _ => True
  | _ => setup.dialect ≠ .postgres

theorem Request.columns_subset (q : Request) : q.columns ⊆ q.statement.outline.columns := by
  cases q with
  | rows st => exact List.Subset.refl _
  | keys st => exact List.take_subset _ _
  | write st => exact List.nil_subset _

end Work

theorem Statement.columns_keys {st : Statement} {column : String}
    (h : st.keyColumn = .ok column) : (Work.Request.keys st).columns = [column] := by
  unfold keyColumn at h
  split at h
  · cases h
  · rename_i hcolumns
    cases h
    rw [Work.Request.columns, hcolumns]
    rfl

/-! ## Replies -/

namespace Replay

/-- The replies agree on some columns. -/
inductive Reply.Agree (columns : List String) : Reply → Reply → Prop
  | rows {rows rows' : List (Keyed Cell)} :
      List.Forall₂ (fun cells cells' => ∀ c ∈ columns, cells.find? c = cells'.find? c) rows rows' →
      Agree columns (.result rows) (.result rows')
  | refl (reply : Reply) : Agree columns reply reply

/-- Every row of the reply has all the columns. -/
def Reply.Carries (columns : List String) (reply : Reply) : Prop :=
  ∀ rows, reply = .result rows → ∀ cells ∈ rows, ∀ c ∈ columns, cells.contains c = true

theorem Reply.Agree.mono {columns columns' : List String} {reply reply' : Reply}
    (h : reply.Agree columns reply') (hsub : columns' ⊆ columns) : reply.Agree columns' reply' := by
  cases h with
  | rows hrows => exact .rows (hrows.imp fun _ _ hcells c hc => hcells c (hsub hc))
  | refl => exact .refl _

/-- The reply to the `i`-th of the next statements; no rows when the script is at its end. -/
def reply (r : Replay) (i : Nat) : Reply := r.script.getD i (.result [])

/-- The answer that a reply gives. -/
def Reply.outcome {α : Type} (read : Reply → α) : Reply → Except Failure α
  | .failure code => .error (coded code)
  | .disconnect => .error broken
  | reply => .ok (read reply)

/-- The reply breaks the connection. -/
def Reply.severs (setup : Setup) : Reply → Bool
  | .disconnect => setup.dialect = .postgres
  | _ => false

/-- The state after a statement that has reached the database. -/
def after (setup : Setup) (c : Command) (r : Replay) : Replay :=
  ⟨r.script.tail, r.log ++ [.statement c], (r.reply 0).severs setup⟩

variable {setup : Setup} {r r' : Replay} {c : Command} {t : Transaction} {st : Statement}
  {columns : List String} {column : String}

theorem reply_after (i : Nat) : (r.after setup c).reply i = r.reply (i + 1) := by
  unfold reply after
  cases r.script with
  | nil => simp
  | cons reply rest => simp

theorem answer_severed {α : Type} {read : Reply → α} (h : r.severed = true) :
    answer setup read c r = (.error broken, r) := by
  simp [answer, h]

theorem answer_reached {α : Type} {read : Reply → α} (h : r.severed = false) :
    answer setup read c r = ((r.reply 0).outcome read, r.after setup c) := by
  obtain ⟨script, log, severed⟩ := r
  cases h
  cases script with
  | nil => rfl
  | cons first rest => cases first <;> rfl

/-- What a read makes of a reply. -/
def Reply.decoded {β : Type} (setup : Setup) (decode : Record → Except ExecutionError β)
    (reply : Reply) : Except ExecutionError (List β) :=
  match reply.outcome (Reply.records setup) with
  | .error f => .error (.driver f)
  | .ok rs => rs.mapM decode

/-! ## Replies that agree -/

theorem recordOf_congr {cells cells' : Keyed Cell} (h : cells.find? column = cells'.find? column) :
    recordOf setup cells column = recordOf setup cells' column := by
  simp [recordOf, h]

theorem Reply.Agree.decoded_congr {β : Type} {decode : Record → Except ExecutionError β}
    {reply reply' : Reply} (h : reply.Agree columns reply') (setup : Setup)
    (hdecode : ∀ x y : Record, (∀ c ∈ columns, x c = y c) → decode x = decode y) :
    reply.decoded setup decode = reply'.decoded setup decode := by
  cases h with
  | @rows rows rows' hrows =>
    show (rows.map (recordOf setup)).mapM decode = (rows'.map (recordOf setup)).mapM decode
    apply mapM_congr
    rw [List.forall₂_map_left_iff, List.forall₂_map_right_iff]
    exact hrows.imp fun _ _ hcells => hdecode _ _ fun c hc => recordOf_congr (hcells c hc)
  | refl => rfl

theorem Reply.Agree.severs {reply reply' : Reply} (h : reply.Agree columns reply') :
    reply.severs setup = reply'.severs setup := by
  cases h <;> rfl

/-! ## Replies that miss nothing -/

/-- A column that reads as a cell is there, unless the cell is the null of a missing column. -/
theorem contains_of_recordOf {cells : Keyed Cell} {cell : Cell}
    (h : recordOf setup cells column = some cell)
    (hcell : setup.dialect = .postgres → cell ≠ .null) : cells.contains column = true := by
  unfold recordOf at h
  split at h
  · rename_i cell' hfind
    simp [Keyed.contains, hfind]
  · split at h
    · rename_i hd
      cases h
      exact absurd rfl (hcell hd)
    · cases h

/-- The cells of a row have the columns, if that is needed to decode it. -/
theorem Reply.carries_of_decoded {β : Type} {decode : Record → Except ExecutionError β}
    {reply : Reply} {bs : List β}
    (hdecode : ∀ cells b, decode (recordOf setup cells) = .ok b →
      ∀ c ∈ columns, cells.contains c = true)
    (h : reply.decoded setup decode = .ok bs) : reply.Carries columns := by
  rintro rows rfl cells hcells
  have hmapM : (rows.map (recordOf setup)).mapM decode = .ok bs := h
  obtain ⟨b, hb⟩ := exists_mapM_iff.1 ⟨bs, hmapM⟩ _ (List.mem_map_of_mem hcells)
  exact hdecode cells b hb

/-! ## Reads through the script -/

/-- A request on a connection that is broken or not looks at the next reply in its columns: it fails
before it reaches the database, whatever the script, or its answer is made of that reply. -/
inductive LooksAt {β : Type} (setup : Setup) (q : Work.Request) (severed : Bool)
    (fetch : Replay → Except ExecutionError β × Replay) : Prop
  | unreached (e : ExecutionError) : (∀ r : Replay, r.severed = severed → fetch r = (.error e, r)) →
      LooksAt setup q severed fetch
  | reached (c : Command) (answer : Reply → Except ExecutionError β) :
      (∀ r : Replay, r.severed = severed → fetch r = (answer (r.reply 0), r.after setup c)) →
      (∀ reply reply', reply.Agree q.columns reply' → answer reply = answer reply') →
      (q.Notices setup → ∀ reply b, answer reply = .ok b → reply.Carries q.columns) →
      LooksAt setup q severed fetch

theorem looksAt_fetch {β : Type} {q : Work.Request} {read : Except ExecutionError (Read β)}
    (hcongr : ∀ p, read = .ok p → ∀ x y, (∀ c ∈ q.columns, x c = y c) → p.decode x = p.decode y)
    (hcarries : q.Notices setup → ∀ p, read = .ok p → ∀ cells b,
      p.decode (recordOf setup cells) = .ok b → ∀ c ∈ q.columns, cells.contains c = true)
    (severed : Bool) : LooksAt setup q severed (Transaction.fetch (driver setup) read) := by
  cases read with
  | error e => exact .unreached e fun r _ => rfl
  | ok p =>
    cases severed with
    | true =>
      refine .unreached (.driver broken) fun r hr => ?_
      simp [Transaction.fetch, Transaction.records, driver, answer_severed hr]
    | false =>
      refine .reached p.command (Reply.decoded setup p.decode) (fun r hr => ?_)
        (fun _ _ hagree => hagree.decoded_congr setup (hcongr p rfl))
        fun hnotices _ _ => Reply.carries_of_decoded (hcarries hnotices p rfl)
      simp only [Transaction.fetch, Transaction.records, driver, answer_reached hr, Reply.decoded]
      cases (r.reply 0).outcome (Reply.records setup) <;> rfl

theorem looksAt_fetchAll (setup : Setup) (t : Transaction) (st : Statement) (severed : Bool) :
    LooksAt setup (.rows st) severed ((t.executor (driver setup)).fetchAll st) := by
  show LooksAt setup (.rows st) severed (t.fetchAll (driver setup) st)
  rw [Transaction.fetchAll_eq]
  refine looksAt_fetch (fun p hp x y hxy => ?_) (fun hd p hp cells row hrow c hc => ?_) severed
  · rw [Transaction.decode_of_rowsRead hp]
    exact Record.toRow_congr hxy
  · rw [Transaction.decode_of_rowsRead hp] at hrow
    obtain ⟨cell, hcell⟩ := Record.toRow_reads hrow c hc
    exact contains_of_recordOf hcell fun hpostgres => absurd hpostgres hd

theorem looksAt_fetchKeys (setup : Setup) (t : Transaction) (st : Statement) (severed : Bool) :
    LooksAt setup (.keys st) severed ((t.executor (driver setup)).fetchKeys st) := by
  show LooksAt setup (.keys st) severed (t.fetchKeys (driver setup) st)
  rw [Transaction.fetchKeys_eq]
  refine looksAt_fetch (fun p hp x y hxy => ?_) (fun _ p hp cells key hkey c hc => ?_) severed
  · obtain ⟨column, hcolumn, hdecode⟩ := Transaction.decode_of_keysRead hp
    rw [hdecode]
    exact Record.key_congr (hxy column (by simp [Statement.columns_keys hcolumn]))
  · obtain ⟨column, hcolumn, hdecode⟩ := Transaction.decode_of_keysRead hp
    rw [hdecode] at hkey
    rw [Statement.columns_keys hcolumn, List.mem_singleton] at hc
    obtain ⟨cell, hcell, hnull⟩ := Record.key_reads hkey
    exact contains_of_recordOf (hc ▸ hcell) fun _ => hnull

/-- The replies to some requests agree in the result columns of their statements. -/
def Matches (asked : List Work.Request) (r r' : Replay) : Prop :=
  ∀ i q, asked[i]? = some q → (r.reply i).Agree q.statement.outline.columns (r'.reply i)

/-- The replies to some requests miss no column that is noticed. -/
def Carried (setup : Setup) (asked : List Work.Request) (r : Replay) : Prop :=
  ∀ i q, asked[i]? = some q → q.Notices setup → (r.reply i).Carries q.columns

/-- The runs have one result and leave the connections both broken or not. -/
def Alike {ε α : Type} (x : Executor Replay) (w w' : Work ε α) (r r' : Replay) : Prop :=
  (w.run x r).1 = (w'.run x r').1 ∧ (w.run x r).2.severed = (w'.run x r').2.severed

namespace LooksAt

variable {ε α β : Type} {q : Work.Request} {asked : List Work.Request} {x : Executor Replay}
  {fetch : Replay → Except ExecutionError β × Replay} {next : Except ExecutionError β → Work ε α}

theorem agrees (h : LooksAt setup q r'.severed fetch)
    (hsevered : r.severed = r'.severed) (hmatches : Matches (q :: asked) r r') :
    (fetch r).1 = (fetch r').1 ∧ (fetch r).2.severed = (fetch r').2.severed ∧
      ∀ b, (fetch r).1 = .ok b → Matches asked (fetch r).2 (fetch r').2 := by
  have hfirst : (r.reply 0).Agree q.columns (r'.reply 0) :=
    (hmatches 0 q rfl).mono q.columns_subset
  cases h with
  | unreached e hfetch =>
    rw [hfetch r hsevered, hfetch r' rfl]
    exact ⟨rfl, hsevered, fun _ hok => nomatch hok⟩
  | reached c answer hfetch hcongr _ =>
    rw [hfetch r hsevered, hfetch r' rfl]
    refine ⟨hcongr _ _ hfirst, hfirst.severs, fun _ _ i q' hq' => ?_⟩
    simp only [reply_after]
    exact hmatches (i + 1) q' (by simpa using hq')

/-- Work that goes on after a read of replies that agree. -/
theorem alike (h : LooksAt setup q r'.severed fetch)
    (hfails : ∀ e, ∃ e', next (.error e) = .done (.error e')) (hsevered : r.severed = r'.severed)
    (hmatches : Matches (q :: (next (fetch r).1).requests x (fetch r).2) r r')
    (hnext : ∀ b {s s' : Replay}, s.severed = s'.severed →
      Matches ((next (.ok b)).requests x s) s s' → Alike x (next (.ok b)) (next (.ok b)) s s') :
    Alike x (next (fetch r).1) (next (fetch r').1) (fetch r).2 (fetch r').2 := by
  obtain ⟨hanswer, hafter, hrest⟩ := h.agrees hsevered hmatches
  rw [← hanswer]
  cases hfetch : (fetch r).1 with
  | error e =>
    obtain ⟨e', he⟩ := hfails e
    rw [he]
    exact ⟨rfl, hafter⟩
  | ok b =>
    rw [hfetch] at hrest
    exact hnext b hafter (hrest b rfl)

theorem carries (h : LooksAt setup q r.severed fetch) {b : β} (hok : (fetch r).1 = .ok b) :
    (q.Notices setup → (r.reply 0).Carries q.columns) ∧
      ∀ i, (fetch r).2.reply i = r.reply (i + 1) := by
  cases h with
  | unreached e hfetch =>
    rw [hfetch r rfl] at hok
    cases hok
  | reached c answer hfetch _ hcarries =>
    rw [hfetch r rfl] at hok ⊢
    exact ⟨fun hnotices => hcarries hnotices _ _ hok, reply_after⟩

/-- Work that goes on after a read and succeeds. -/
theorem carried (h : LooksAt setup q r.severed fetch)
    (hfails : ∀ e, ∃ e', next (.error e) = .done (.error e')) {a : α}
    (hok : ((next (fetch r).1).run x (fetch r).2).1 = .ok a)
    (hnext : ∀ b {s : Replay}, ((next (.ok b)).run x s).1 = .ok a →
      Carried setup ((next (.ok b)).requests x s) s) :
    Carried setup (q :: (next (fetch r).1).requests x (fetch r).2) r := by
  cases hfetch : (fetch r).1 with
  | error e =>
    obtain ⟨e', he⟩ := hfails e
    rw [hfetch, he] at hok
    cases hok
  | ok b =>
    obtain ⟨hfirst, hrest⟩ := h.carries hfetch
    rw [hfetch] at hok
    intro i q' hq'
    cases i with
    | zero =>
      cases hq'
      exact hfirst
    | succ i =>
      rw [← hrest]
      exact hnext b hok i q' (by simpa using hq')

end LooksAt

end Replay

/-! ## Runs through the script -/

namespace Work.Strict

open Replay

variable {ε α : Type} {setup : Setup} {t : Transaction} {w : Work ε α} {r r' : Replay}

/-- **Replies that agree where they are looked at give one result.** -/
theorem run_matches (h : w.Strict) (hsevered : r.severed = r'.severed)
    (hmatches : Matches (w.requests (t.executor (driver setup)) r) r r') :
    Alike (t.executor (driver setup)) w w r r' := by
  induction h generalizing r r' with
  | done result => exact ⟨rfl, hsevered⟩
  | @fetchAll st next hfails _ ih =>
    exact (looksAt_fetchAll setup t st _).alike hfails hsevered hmatches ih
  | @fetchKeys st next hfails _ ih =>
    exact (looksAt_fetchKeys setup t st _).alike hfails hsevered hmatches ih

/-- **A run that succeeds has missed no column** that is noticed. -/
theorem run_carries (h : w.Strict) {a : α}
    (hok : (w.run (t.executor (driver setup)) r).1 = .ok a) :
    Carried setup (w.requests (t.executor (driver setup)) r) r := by
  induction h generalizing r with
  | done result =>
    intro i q hq
    simp at hq
  | @fetchAll st next hfails _ ih =>
    exact (looksAt_fetchAll setup t st _).carried hfails hok ih
  | @fetchKeys st next hfails _ ih =>
    exact (looksAt_fetchKeys setup t st _).carried hfails hok ih

end Work.Strict

end GuardedQuery
