import GuardedQuery.Proofs.Statement.Text

/-!
# Windows read back

`Dialect.window? d ordered` reads the clause of a window as a database of the dialect `d` does: each
takes bounds of its own range, SQLite takes a negative limit for none, and SQL Server wants an order
in front of the clause. The four clauses of a window are read back as windows that take the same
rows of every list of fewer than 2⁶³ rows (`Window.clause_read`).
-/

namespace GuardedQuery

open Text

/-! ## Reading clauses -/

/-- The number that a word writes in decimal. -/
def numeral? (w : List Char) : Option Nat :=
  if w.isEmpty then none
  else if w.all Char.isDigit then some (Nat.ofDigitChars 10 w 0) else none

/-- Whether the lexemes are these words. -/
def areWords (ss : List String) (ls : List Lexeme) : Bool := ls == ss.map fun s => .word s.toList

/-- The lexemes of the order that orders nothing. -/
def noOrder : List Lexeme := lex "ORDER BY (SELECT NULL)".toList

namespace Dialect

/-- The largest bound of a window: MySQL counts in unsigned integers of 64 bits, the others in signed
ones. -/
def maxBound : Dialect → Nat
  | .mysql => 2 ^ 64 - 1
  | _ => 2 ^ 63 - 1

/-- A bound of a window. -/
def bound? (d : Dialect) : Lexeme → Option Nat
  | .word w => (numeral? w).filter fun n => decide (n ≤ d.maxBound)
  | .mark _ => none

/-- The limit of a clause. For SQLite a negative number is no limit. -/
def limit? (d : Dialect) : Lexeme → Option (Option Nat)
  | .word ('-' :: w) => if d = .sqlite then (d.bound? (.word w)).map fun _ => none else none
  | l => (d.bound? l).map some

/-- Reads `OFFSET n ROWS`, perhaps with `FETCH NEXT m ROWS ONLY` behind it. -/
def offsetFetch? (d : Dialect) : List Lexeme → Option Window
  | [offset, n, rows] =>
    if areWords ["OFFSET", "ROWS"] [offset, rows] then
      (d.bound? n).map fun n => ⟨none, some n⟩
    else none
  | [offset, n, rows, fetch, next, m, rows', only] =>
    if areWords ["OFFSET", "ROWS", "FETCH", "NEXT", "ROWS", "ONLY"]
        [offset, rows, fetch, next, rows', only] then
      match d.bound? n, d.bound? m with
      -- SQL Server refuses to fetch no row
      | some n, some m => if d = .mssql ∧ m = 0 then none else some ⟨some m, some n⟩
      | _, _ => none
    else none
  | _ => none

/-- Reads `LIMIT m OFFSET n`. -/
def limitOffset? (d : Dialect) : List Lexeme → Option Window
  | [limit, m, offset, n] =>
    if areWords ["LIMIT", "OFFSET"] [limit, offset] then
      match d.limit? m, d.bound? n with
      | some m, some n => some ⟨m, some n⟩
      | _, _ => none
    else none
  | _ => none

/-- Reads what a statement has behind its order. `ordered` says whether it has one; SQL Server takes
a window only behind an order. -/
def window? (d : Dialect) (ordered : Bool) (ls : List Lexeme) : Option Window :=
  if ls.isEmpty then some ⟨none, none⟩
  else
    match d with
    | .postgres => d.offsetFetch? ls
    | .mssql =>
      if ordered then d.offsetFetch? ls
      else if ls.take noOrder.length = noOrder then d.offsetFetch? (ls.drop noOrder.length)
      else none
    | .mysql | .sqlite => d.limitOffset? ls

end Dialect

/-! ## Numbers -/

theorem numeral?_toString (n : Nat) : numeral? (toString n).toList = some n := by
  rw [Nat.toString_eq_repr, Nat.toList_repr]
  have hdigits : (Nat.toDigits 10 n).all Char.isDigit = true :=
    List.all_eq_true.2 fun c hc => Nat.isDigit_of_mem_toDigits (by decide) (by decide) hc
  rw [numeral?, if_neg (by simp [Nat.toDigits_ne_nil]), if_pos hdigits, Nat.ofDigitChars_ten_toDigits]

namespace Dialect

variable {d : Dialect} {n : Nat}

theorem le_maxBound (h : n < 2 ^ 63) : n ≤ d.maxBound := by
  cases d <;> simp only [maxBound] <;> omega

theorem bound?_toString (h : n ≤ d.maxBound) : d.bound? (.word (toString n).toList) = some n := by
  rw [bound?, numeral?_toString, Option.filter_some, if_pos (decide_eq_true h)]

theorem limit?_toString (h : n ≤ d.maxBound) :
    d.limit? (.word (toString n).toList) = some (some n) := by
  unfold limit?
  split
  · rename_i w heq
    have hdash : '-' ∈ (toString n).toList := by
      rw [Lexeme.word.inj heq]
      exact List.mem_cons_self
    rw [Nat.toString_eq_repr, Nat.toList_repr] at hdash
    exact absurd (Nat.isDigit_of_mem_toDigits (by decide) (by decide) hdash) (by decide)
  · rw [bound?_toString h]
    rfl

end Dialect

/-! ## Clauses -/

namespace Window

variable (w : Window)

/-- The lexemes of the clause of PostgreSQL and SQL Server. -/
theorem lex_fetchText : lex w.fetchText.toList =
    [.word "OFFSET".toList, .word (toString (w.offset.getD 0)).toList, .word "ROWS".toList] ++
      (w.limit.map fun n => [.word "FETCH".toList, .word "NEXT".toList, .word (toString n).toList,
        .word "ROWS".toList, .word "ONLY".toList]).getD [] := by
  have hoffset := isWord_toString (w.offset.getD 0)
  cases hl : w.limit with
  | none =>
    simp only [fetchText, hl, String.toList_append, List.append_assoc, Option.map_none,
      Option.getD_none]
    rw [lex_append_of_ends (by decide), lex_append (by decide), lex_word hoffset]
    rfl
  | some n =>
    simp only [fetchText, hl, String.toList_append, List.append_assoc, Option.map_some,
      Option.getD_some]
    rw [lex_append_of_ends (by decide), lex_append (by simp; decide), lex_word hoffset,
      lex_append (by simp; decide), lex_append_of_ends (by decide), lex_append (by decide),
      lex_word (isWord_toString n)]
    rfl

/-- The lexemes of the clause of MySQL and SQLite. -/
theorem lex_limitText {limit : String} (h : IsWord limit.toList) : lex (w.limitText limit).toList =
    [.word "LIMIT".toList, .word limit.toList, .word "OFFSET".toList,
      .word (toString (w.offset.getD 0)).toList] := by
  simp only [limitText, String.toList_append, List.append_assoc]
  rw [lex_append_of_ends (by decide), lex_append (by simp; decide), lex_word h,
    lex_append_of_ends (by decide), lex_word (isWord_toString _)]
  rfl

variable {w}

section Bounds

variable (hlimit : w.limit ≠ some 0) (hbounds : ∀ n ∈ w.limit.toList ++ w.offset.toList, n < 2 ^ 63)

include hbounds

theorem bound?_offset (d : Dialect) :
    d.bound? (.word (toString (w.offset.getD 0)).toList) = some (w.offset.getD 0) := by
  refine Dialect.bound?_toString (Dialect.le_maxBound ?_)
  cases ho : w.offset with
  | none => decide
  | some n => exact hbounds n (by simp [ho])

theorem bound?_limit (d : Dialect) {n : Nat} (h : w.limit = some n) :
    d.bound? (.word (toString n).toList) = some n :=
  Dialect.bound?_toString (Dialect.le_maxBound (hbounds n (by simp [h])))

include hlimit in
theorem offsetFetch?_fetchText (d : Dialect) :
    d.offsetFetch? (lex w.fetchText.toList) = some ⟨w.limit, some (w.offset.getD 0)⟩ := by
  have hoffset := bound?_offset hbounds d
  rw [lex_fetchText]
  cases hl : w.limit with
  | none =>
    simp only [Option.map_none, Option.getD_none, List.append_nil, Dialect.offsetFetch?, hoffset]
    exact if_pos (by decide)
  | some n =>
    have hn := bound?_limit hbounds d hl
    have hpositive : ¬ (d = .mssql ∧ n = 0) := by
      rintro ⟨-, rfl⟩
      exact hlimit hl
    simp only [Option.map_some, Option.getD_some, List.cons_append, List.nil_append,
      Dialect.offsetFetch?, hoffset, hn, if_neg hpositive]
    exact if_pos (by decide)

/-- The clause of MySQL and SQLite is read with the limit that its word says. -/
theorem limitOffset?_limitText (d : Dialect) {limit : String} (hword : IsWord limit.toList)
    {m : Option Nat} (hm : d.limit? (.word limit.toList) = some m) :
    d.limitOffset? (lex (w.limitText limit).toList) = some ⟨m, some (w.offset.getD 0)⟩ := by
  simp only [lex_limitText w hword, Dialect.limitOffset?, hm, bound?_offset hbounds d]
  exact if_pos (by decide)

end Bounds

/-! ## Rows -/

/-- Both windows take the same rows of every list that is not too long for a database. -/
def Agrees (v w : Window) : Prop :=
  ∀ (α : Type) (all : List α), all.length < 2 ^ 63 → v.rows all = w.rows all

/-- Skipping no row is the same as not skipping. -/
theorem agrees_skip (w : Window) : Agrees ⟨w.limit, some (w.offset.getD 0)⟩ w := fun _ _ _ => rfl

/-- A limit that no list reaches is no limit. -/
theorem agrees_unlimited {n offset : Nat} (h : 2 ^ 63 ≤ n) (hl : w.limit = none)
    (ho : w.offset.getD 0 = offset) : Agrees ⟨some n, some offset⟩ w := by
  intro α all hall
  have hrest : (all.drop offset).length ≤ n := by
    rw [List.length_drop]
    omega
  simp only [rows, hl, ho, Option.getD_some]
  exact List.take_of_length_le hrest

/-- There is no clause exactly if all rows are returned. -/
theorem clause_eq_empty_iff (d : Dialect) (ordered : Bool) :
    w.clause d ordered = "" ↔ w.isWhole = true := by
  refine ⟨fun h => ?_, fun h => clause_of_isWhole h d ordered⟩
  by_contra hwhole
  rw [Bool.not_eq_true] at hwhole
  have hfetch : w.fetchText ≠ "" := by simp [fetchText]
  have hlimit : ∀ limit, w.limitText limit ≠ "" := by simp [limitText]
  cases d
  case postgres => exact hfetch ((clause_postgres hwhole ordered).symm.trans h)
  case mssql =>
    rw [clause_mssql hwhole, String.append_eq_empty_iff] at h
    exact hfetch h.2
  case mysql => exact hlimit _ ((clause_mysql hwhole ordered).symm.trans h)
  case sqlite => exact hlimit _ ((clause_sqlite hwhole ordered).symm.trans h)

theorem isWhole_iff : w.isWhole = true ↔ w = ⟨none, none⟩ := by
  obtain ⟨limit, offset⟩ := w
  cases limit <;> cases offset <;> simp [isWhole]

theorem noOrder_ne_nil : noOrder ≠ [] := by decide

/-- **The clause of a window is read back** as one that takes the same rows, in every dialect. -/
theorem clause_read (hlimit : w.limit ≠ some 0)
    (hbounds : ∀ n ∈ w.limit.toList ++ w.offset.toList, n < 2 ^ 63) (d : Dialect) (ordered : Bool) :
    ∃ v, d.window? ordered (lex (w.clause d ordered).toList) = some v ∧ v.Agrees w := by
  by_cases hwhole : w.isWhole = true
  · rw [clause_of_isWhole hwhole, isWhole_iff.1 hwhole]
    exact ⟨⟨none, none⟩, rfl, fun _ _ _ => rfl⟩
  rw [Bool.not_eq_true] at hwhole
  -- a clause of one of the two forms is not empty
  have nonempty : ∀ {ls : List Lexeme} {v}, d.offsetFetch? ls = some v ∨ d.limitOffset? ls = some v →
      ¬ ls.isEmpty = true := by
    rintro (_ | l) v h
    · rcases h with h | h <;> cases h
    · exact Bool.false_ne_true
  have hfetch := offsetFetch?_fetchText hlimit hbounds d
  cases d
  case postgres =>
    rw [clause_postgres hwhole]
    refine ⟨_, ?_, agrees_skip w⟩
    rw [Dialect.window?, if_neg (nonempty (.inl hfetch))]
    exact hfetch
  case mssql =>
    rw [clause_mssql hwhole]
    refine ⟨_, ?_, agrees_skip w⟩
    cases ordered
    · have hls : lex (" ORDER BY (SELECT NULL)" ++ w.fetchText).toList =
          noOrder ++ lex w.fetchText.toList := by
        have hblank : lex " ORDER BY (SELECT NULL)".toList = noOrder := lex_blank (by decide) _
        rw [String.toList_append, lex_append w.apart_fetchText, hblank]
      show Dialect.window? .mssql false (lex (" ORDER BY (SELECT NULL)" ++ w.fetchText).toList) = _
      rw [hls, Dialect.window?, if_neg (by simp [noOrder_ne_nil]), if_neg Bool.false_ne_true,
        List.take_left, if_pos rfl, List.drop_left]
      exact hfetch
    · show Dialect.window? .mssql true (lex ("" ++ w.fetchText).toList) = _
      rw [String.empty_append, Dialect.window?, if_neg (nonempty (.inl hfetch)), if_pos rfl]
      exact hfetch
  case mysql =>
    rw [clause_mysql hwhole]
    have hword := isWord_toString (w.limit.getD unlimited)
    have hle : w.limit.getD unlimited ≤ Dialect.mysql.maxBound := by
      cases hl : w.limit with
      | none => exact Nat.le_refl _
      | some n => exact Dialect.le_maxBound (hbounds n (by simp [hl]))
    have hread := limitOffset?_limitText hbounds .mysql hword (Dialect.limit?_toString hle)
    refine ⟨⟨some (w.limit.getD unlimited), some (w.offset.getD 0)⟩, ?_, ?_⟩
    · rw [Dialect.window?, if_neg (nonempty (.inr hread))]
      exact hread
    · cases hl : w.limit with
      | none => exact agrees_unlimited (by decide) hl rfl
      | some n =>
        have := agrees_skip w
        rwa [hl] at this
  case sqlite =>
    rw [clause_sqlite hwhole]
    refine ⟨_, ?_, agrees_skip w⟩
    have hread : Dialect.limitOffset? .sqlite
        (lex (w.limitText ((w.limit.map toString).getD "-1")).toList) =
          some ⟨w.limit, some (w.offset.getD 0)⟩ := by
      cases hl : w.limit with
      | none => exact limitOffset?_limitText hbounds .sqlite (by decide) (by decide)
      | some n =>
        have hn := Dialect.le_maxBound (d := .sqlite) (hbounds n (by simp [hl]))
        exact limitOffset?_limitText hbounds .sqlite (isWord_toString n) (Dialect.limit?_toString hn)
    rw [Dialect.window?, if_neg (nonempty (.inr hread))]
    exact hread

end Window

end GuardedQuery
