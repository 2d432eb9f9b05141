import GuardedQuery.Json.Text
import GuardedQuery.Proofs.Number.Layout

/-!
# Texts tell scalars apart

The first character of a text tells its kind apart from the others, except that integers and floating
point numbers start alike: of these only the second have a point or an exponent. Within a kind the
text determines the value; in a string because no escape is the beginning of another
(`Json.escape_append_inj`). Together: `Json.text_inj`.
-/

namespace GuardedQuery.Json

/-! ## Strings -/

/-- What stands behind a backslash, and the character it stands for. -/
def shorthands : List (Char × Char) :=
  [('"', '"'), ('\\', '\\'), ('b', '\x08'), ('f', '\x0c'), ('n', '\n'), ('r', '\r'), ('t', '\t')]

theorem escape_cases (c : Char) :
    (escape c = [c] ∧ c ≠ '\\') ∨ (∃ m, escape c = ['\\', m] ∧ (m, c) ∈ shorthands) ∨
      (escape c = '\\' :: 'u' :: Binary64.hexDigits 4 c.toNat ∧ c.toNat < 32) := by
  unfold escape
  split
  case h_8 hquote hback _ _ _ _ _ =>
    split
    · rename_i hlow
      exact .inr (.inr ⟨rfl, hlow⟩)
    · exact .inl ⟨rfl, fun h => hback h⟩
  all_goals exact .inr (.inl ⟨_, rfl, by decide⟩)

theorem shorthands_unique : ∀ p ∈ shorthands, ∀ q ∈ shorthands, p.1 = q.1 → p.2 = q.2 := by decide

theorem shorthands_ne : ∀ p ∈ shorthands, p.1 ≠ 'u' := by decide

theorem hexDigits_inj :
    ∀ m < 32, ∀ n < 32, Binary64.hexDigits 4 m = Binary64.hexDigits 4 n → m = n := by
  decide

theorem length_hexDigits : ∀ n < 32, (Binary64.hexDigits 4 n).length = 4 := by decide

/-- No escape is the beginning of another. -/
theorem escape_append_inj {c d : Char} {xs ys : List Char} (h : escape c ++ xs = escape d ++ ys) :
    c = d ∧ xs = ys := by
  rcases escape_cases c with ⟨hc, hcne⟩ | ⟨m, hc, hm⟩ | ⟨hc, hclow⟩ <;>
    rcases escape_cases d with ⟨hd, hdne⟩ | ⟨n, hd, hn⟩ | ⟨hd, hdlow⟩ <;>
    rw [hc, hd] at h
  · simpa using h
  · exact absurd (List.cons.inj h).1 hcne
  · exact absurd (List.cons.inj h).1 hcne
  · exact absurd (List.cons.inj h).1.symm hdne
  · obtain ⟨rfl, hrest⟩ := List.cons.inj (List.cons.inj h).2
    exact ⟨shorthands_unique _ hm _ hn rfl, hrest⟩
  · obtain ⟨rfl, -⟩ := List.cons.inj (List.cons.inj h).2
    exact absurd rfl (shorthands_ne _ hm)
  · exact absurd (List.cons.inj h).1.symm hdne
  · obtain ⟨rfl, -⟩ := List.cons.inj (List.cons.inj h).2
    exact absurd rfl (shorthands_ne _ hn)
  · have hlength : (Binary64.hexDigits 4 c.toNat).length = (Binary64.hexDigits 4 d.toNat).length := by
      rw [length_hexDigits _ hclow, length_hexDigits _ hdlow]
    obtain ⟨hhex, hrest⟩ := List.append_inj (List.cons.inj (List.cons.inj h).2).2 hlength
    exact ⟨Char.toNat_inj.1 (hexDigits_inj _ hclow _ hdlow hhex), hrest⟩

theorem escape_ne_nil (c : Char) : escape c ≠ [] := by
  rcases escape_cases c with ⟨hc, -⟩ | ⟨m, hc, -⟩ | ⟨hc, -⟩ <;> simp [hc]

theorem flatMap_escape_inj {cs ds : List Char} (h : cs.flatMap escape = ds.flatMap escape) :
    cs = ds := by
  induction cs generalizing ds with
  | nil =>
    cases ds with
    | nil => rfl
    | cons d ds =>
      rw [List.flatMap_nil, List.flatMap_cons, eq_comm, List.append_eq_nil_iff] at h
      exact absurd h.1 (escape_ne_nil d)
  | cons c cs ih =>
    cases ds with
    | nil =>
      rw [List.flatMap_nil, List.flatMap_cons, List.append_eq_nil_iff] at h
      exact absurd h.1 (escape_ne_nil c)
    | cons d ds =>
      rw [List.flatMap_cons, List.flatMap_cons] at h
      obtain ⟨rfl, hrest⟩ := escape_append_inj h
      rw [ih hrest]

theorem quote_inj {s t : String} (h : quote s = quote t) : s = t := by
  have hbody := List.append_cancel_right (List.cons.inj h).2
  exact String.toList_inj.1 (flatMap_escape_inj hbody)

/-! ## Numbers -/

theorem toList_toString_int (i : Int) :
    (toString i).toList = (if i < 0 then ['-'] else []) ++ Nat.toDigits 10 i.natAbs := by
  rw [Int.toString_eq_repr, Int.repr_eq_if]
  split
  · rename_i hneg
    rw [if_neg (by omega)]
    have : i.toNat = i.natAbs := by omega
    rw [Nat.toList_repr, this]
    rfl
  · rename_i hneg
    rw [if_pos (by omega)]
    have : (-i).toNat = i.natAbs := by omega
    rw [String.toList_append, Nat.toList_repr, this]
    rfl

theorem toString_int_inj {i j : Int} (h : toString i = toString j) : i = j := by
  have hchars := congrArg String.toList h
  rw [toList_toString_int, toList_toString_int] at hchars
  obtain ⟨hsign, hdigits⟩ := Numeral.signed_inj (s := decide (i < 0)) (t := decide (j < 0))
    (Numeral.starts_toDigits _) (Numeral.starts_toDigits _) (by simpa using hchars)
  have habs : i.natAbs = j.natAbs := by
    rw [← Nat.ofDigitChars_ten_toDigits (n := i.natAbs), hdigits, Nat.ofDigitChars_ten_toDigits]
  rw [decide_eq_decide] at hsign
  omega

/-- The text of an integer has neither a point nor an exponent. -/
theorem not_mark_of_mem_int {i : Int} {c : Char} (h : c ∈ (toString i).toList) :
    c ≠ '.' ∧ c ≠ 'e' := by
  rw [toList_toString_int, List.mem_append] at h
  rcases h with h | h
  · split at h
    · rw [List.mem_singleton.1 h]
      decide
    · cases h
  · exact ⟨(Numeral.digits_toDigits _).ne (by decide) c h,
      (Numeral.digits_toDigits _).ne (by decide) c h⟩

/-! ## Scalars -/

/-- Neither an array nor an object. -/
inductive Scalar : Json → Prop
  | null : Scalar .null
  | bool (b : Bool) : Scalar (.bool b)
  | int (i : JsonInt) : Scalar (.int i)
  | float (x : FiniteBinary64) : Scalar (.float x)
  | string (s : String) : Scalar (.string s)

/-- What the first character of a text tells. -/
inductive Kind where
  | null
  | bool
  | number
  | string
  deriving DecidableEq

def Kind.ofChar (c : Char) : Kind :=
  if c = '"' then .string else if c = 't' ∨ c = 'f' then .bool else if c = 'n' then .null else .number

/-- The kind that a text starts like. -/
def Kind.ofChars (cs : List Char) : Kind := (cs.head?.map ofChar).getD .number

theorem kind_signed {s : Bool} {cs : List Char} (h : Numeral.Starts cs) :
    Kind.ofChars ((if s then ['-'] else []) ++ cs) = .number := by
  obtain ⟨c, rest, rfl, hc⟩ := h
  cases s
  · show Kind.ofChar c = .number
    unfold Kind.ofChar
    rw [if_neg, if_neg, if_neg]
    · rintro rfl
      cases hc
    · rintro (rfl | rfl) <;> cases hc
    · rintro rfl
      cases hc
  · rfl

/-- The kind of a scalar. -/
def kind : Json → Kind
  | .null => .null
  | .bool _ => .bool
  | .int _ | .float _ => .number
  | _ => .string

theorem kind_chars {j : Json} (h : Scalar j) : Kind.ofChars j.chars = j.kind := by
  cases h with
  | null => rfl
  | bool b => cases b <;> rfl
  | int i =>
    have hsigned := kind_signed (s := decide (i.val < 0)) (Numeral.starts_toDigits i.val.natAbs)
    rw [chars, toList_toString_int, kind]
    simpa using hsigned
  | float x =>
    rw [chars, Binary64.render_json x.2]
    exact kind_signed (Binary64.marked_body x.1).starts
  | string s => rfl

theorem int_ne_float (i : JsonInt) (x : FiniteBinary64) :
    (Json.int i).chars ≠ (Json.float x).chars := by
  intro h
  have hmark : ∀ c ∈ (Json.float x).chars, c ≠ '.' ∧ c ≠ 'e' := by
    rw [← h]
    exact fun c hc => not_mark_of_mem_int hc
  rw [chars, Binary64.render_json x.2] at hmark
  rcases (Binary64.marked_body x.1).mark with hpoint | hexponent
  · exact (hmark '.' (List.mem_append_right _ hpoint)).1 rfl
  · exact (hmark 'e' (List.mem_append_right _ hexponent)).2 rfl

/-- **The text of a scalar determines it.** -/
theorem text_inj {j k : Json} (hj : Scalar j) (hk : Scalar k) (h : j.text = k.text) : j = k := by
  have hchars : j.chars = k.chars := by
    have := congrArg String.toList h
    rwa [text, text, String.toList_ofList, String.toList_ofList] at this
  have hkind : j.kind = k.kind := by rw [← kind_chars hj, ← kind_chars hk, hchars]
  cases hj with
  | null =>
    cases hk with
    | null => rfl
    | _ => cases hkind
  | bool b =>
    cases hk with
    | bool c => cases b <;> cases c <;> first | rfl | cases hchars
    | _ => cases hkind
  | int i =>
    cases hk with
    | int i' =>
      obtain ⟨v, hlower, hupper⟩ := i
      obtain ⟨v', hlower', hupper'⟩ := i'
      cases toString_int_inj (String.toList_inj.1 hchars)
      rfl
    | float x => exact absurd hchars (int_ne_float i x)
    | _ => cases hkind
  | float x =>
    cases hk with
    | int i => exact absurd hchars.symm (int_ne_float i x)
    | float y =>
      have := Binary64.render_json_inj x.2 y.2 (String.toList_inj.1 hchars)
      rw [Subtype.ext this]
    | _ => cases hkind
  | string s =>
    cases hk with
    | string t => rw [quote_inj hchars]
    | _ => cases hkind

end GuardedQuery.Json
