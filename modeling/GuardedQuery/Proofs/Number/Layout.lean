import GuardedQuery.Number.Layout
import GuardedQuery.Proofs.Number.Shortest

/-!
# Texts tell numbers apart

`Numeral.value` reads digits with a point and an exponent as a rational number. The digits that JSON
text writes for a finite number are read as its shortest decimal (`Binary64.value_body`), and the sign
stands in front, so the text determines the number (`Binary64.render_json_inj`).
-/

namespace GuardedQuery

namespace Numeral

/-- The exponent behind an `e`, which always has a sign; 0 without one. -/
def exponent : List Char → Int
  | 'e' :: '-' :: digits => -Nat.ofDigitChars 10 digits 0
  | 'e' :: _ :: digits => Nat.ofDigitChars 10 digits 0
  | _ => 0

/-- The rational number that digits with a point and an exponent stand for. -/
def value (cs : List Char) : ℚ :=
  let mantissa := cs.takeWhile (· != 'e')
  let whole := mantissa.takeWhile (· != '.')
  let fraction := (mantissa.dropWhile (· != '.')).drop 1
  Nat.ofDigitChars 10 (whole ++ fraction) 0 *
    10 ^ (exponent (cs.dropWhile (· != 'e')) - fraction.length)

/-- Only decimal digits. -/
def Digits (cs : List Char) : Prop := ∀ c ∈ cs, c.isDigit = true

/-- Nothing, or an exponent. -/
def IsExponent (cs : List Char) : Prop := cs = [] ∨ ∃ rest, cs = 'e' :: rest

theorem digits_append {cs ds : List Char} : Digits (cs ++ ds) ↔ Digits cs ∧ Digits ds :=
  List.forall_mem_append

theorem digits_toDigits (n : Nat) : Digits (Nat.toDigits 10 n) := fun _ hc =>
  Nat.isDigit_of_mem_toDigits (by decide) (by decide) hc

theorem digits_replicate (n : Nat) : Digits (List.replicate n '0') := by
  intro c hc
  rw [List.eq_of_mem_replicate hc]
  decide

theorem Digits.ne {cs : List Char} (h : Digits cs) {stop : Char} (hstop : stop.isDigit = false) :
    ∀ c ∈ cs, c ≠ stop := by
  rintro c hc rfl
  rw [h c hc] at hstop
  cases hstop

/-- A text is read up to the first stop. -/
theorem split {cs rest : List Char} (stop : Char) (hcs : ∀ c ∈ cs, c ≠ stop)
    (hrest : rest.takeWhile (· != stop) = []) :
    (cs ++ rest).takeWhile (· != stop) = cs ∧ (cs ++ rest).dropWhile (· != stop) = rest := by
  have hne : ∀ c ∈ cs, (c != stop) = true := fun c hc => bne_iff_ne.2 (hcs c hc)
  have hdrop : rest.dropWhile (· != stop) = rest := by
    have := List.takeWhile_append_dropWhile (p := (· != stop)) (l := rest)
    rwa [hrest, List.nil_append] at this
  rw [List.takeWhile_append_of_pos hne, List.dropWhile_append_of_pos hne, hrest, hdrop,
    List.append_nil]
  exact ⟨rfl, rfl⟩

theorem IsExponent.takeWhile {e : List Char} (h : IsExponent e) : e.takeWhile (· != 'e') = [] := by
  rcases h with rfl | ⟨rest, rfl⟩ <;> rfl

theorem takeWhile_point (cs : List Char) : ('.' :: cs).takeWhile (· != '.') = [] := rfl

theorem value_whole {whole e : List Char} (hw : Digits whole) (he : IsExponent e) :
    value (whole ++ e) = Nat.ofDigitChars 10 whole 0 * 10 ^ exponent e := by
  obtain ⟨hmantissa, hrest⟩ := split 'e' (hw.ne (by decide)) he.takeWhile
  obtain ⟨hwhole, hfraction⟩ := split '.' (hw.ne (by decide)) (List.takeWhile_nil (p := (· != '.')))
  rw [List.append_nil] at hwhole hfraction
  unfold value
  dsimp only
  rw [hmantissa, hrest, hwhole, hfraction]
  simp

theorem value_point {whole fraction e : List Char} (hw : Digits whole) (hf : Digits fraction)
    (he : IsExponent e) : value (whole ++ '.' :: fraction ++ e) =
      Nat.ofDigitChars 10 (whole ++ fraction) 0 * 10 ^ (exponent e - fraction.length) := by
  have hne : ∀ c ∈ whole ++ '.' :: fraction, c ≠ 'e' := by
    intro c hc
    rcases List.mem_append.1 hc with hc | hc
    · exact hw.ne (by decide) c hc
    · rcases List.mem_cons.1 hc with rfl | hc
      · decide
      · exact hf.ne (by decide) c hc
  obtain ⟨hmantissa, hrest⟩ := split 'e' hne he.takeWhile
  obtain ⟨hwhole, hfraction⟩ := split '.' (hw.ne (by decide)) (takeWhile_point fraction)
  unfold value
  dsimp only
  rw [hmantissa, hrest, hwhole, hfraction]
  rfl

theorem exponent_signed (e : Int) :
    exponent ('e' :: ((if e < 0 then ['-'] else ['+']) ++ Nat.toDigits 10 e.natAbs)) = e := by
  split
  · show -((Nat.ofDigitChars 10 (Nat.toDigits 10 e.natAbs) 0 : Nat) : Int) = e
    rw [Nat.ofDigitChars_ten_toDigits]
    omega
  · show ((Nat.ofDigitChars 10 (Nat.toDigits 10 e.natAbs) 0 : Nat) : Int) = e
    rw [Nat.ofDigitChars_ten_toDigits]
    omega

/-- The text starts with a digit. -/
def Starts (cs : List Char) : Prop := ∃ c rest, cs = c :: rest ∧ c.isDigit = true

theorem starts_toDigits (n : Nat) : Starts (Nat.toDigits 10 n) := by
  obtain ⟨c, rest, hcons⟩ := List.exists_cons_of_ne_nil (Nat.toDigits_ne_nil (n := n) (b := 10))
  exact ⟨c, rest, hcons, digits_toDigits n c (by rw [hcons]; exact List.mem_cons_self)⟩

/-- What starts with a digit is told apart from its sign. -/
theorem signed_inj {s t : Bool} {cs ds : List Char} (hc : Starts cs) (hd : Starts ds)
    (h : (if s then ['-'] else []) ++ cs = (if t then ['-'] else []) ++ ds) : s = t ∧ cs = ds := by
  obtain ⟨c, cs, rfl, hc⟩ := hc
  obtain ⟨d, ds, rfl, hd⟩ := hd
  have hne : ∀ {e : Char}, e.isDigit = true → e ≠ '-' := by
    rintro e he rfl
    cases he
  cases s <;> cases t
  · exact ⟨rfl, h⟩
  · exact absurd (List.cons.inj h).1 (hne hc)
  · exact absurd (List.cons.inj h).1.symm (hne hd)
  · exact ⟨rfl, (List.cons.inj h).2⟩

end Numeral

/-! ## What is written is what is read -/

namespace Layout

open Numeral

variable {digits : List Char}

theorem ofDigitChars_zeros (digits : List Char) (n : Nat) :
    Nat.ofDigitChars 10 (List.replicate n '0' ++ digits) 0 = Nat.ofDigitChars 10 digits 0 := by
  rw [Nat.ofDigitChars_append, Nat.ofDigitChars_replicate_zero, Nat.mul_zero]

/-- Digits without an exponent stand for themselves, moved to the point. -/
theorem value_positional (hd : Digits digits) (k : Int) : value (json.positional digits k) =
    Nat.ofDigitChars 10 digits 0 * 10 ^ (k - digits.length) := by
  have hnone : IsExponent [] := .inl rfl
  unfold positional
  split
  · -- `0.` and zeros stand in front.
    rename_i hk
    have hzero : Digits ['0'] := digits_replicate 1
    have hfraction := digits_append.2 ⟨digits_replicate (-k).toNat, hd⟩
    have hvalue := value_point hzero hfraction hnone
    have hcoefficient : Nat.ofDigitChars 10 (['0'] ++ (List.replicate (-k).toNat '0' ++ digits)) 0 =
        Nat.ofDigitChars 10 digits 0 := by
      rw [← List.append_assoc, ← List.replicate_one, List.replicate_append_replicate,
        ofDigitChars_zeros]
    have hexponent : exponent [] - ((List.replicate (-k).toNat '0' ++ digits).length : Int) =
        k - digits.length := by
      rw [List.length_append, List.length_replicate]
      show (0 : Int) - _ = _
      omega
    rw [List.append_nil, hcoefficient, hexponent] at hvalue
    exact hvalue
  · split
    · -- Zeros and `.0` stand behind.
      rename_i hk hle
      have hzero : Digits ['0'] := digits_replicate 1
      have hwhole := digits_append.2 ⟨hd, digits_replicate (k.toNat - digits.length)⟩
      have hvalue := value_point hwhole hzero hnone
      have hcoefficient : Nat.ofDigitChars 10
          (digits ++ List.replicate (k.toNat - digits.length) '0' ++ ['0']) 0 =
            10 ^ (k.toNat - digits.length + 1) * Nat.ofDigitChars 10 digits 0 := by
        rw [List.append_assoc, ← List.replicate_succ', Nat.ofDigitChars_append,
          Nat.ofDigitChars_replicate_zero]
      have hexponent : k - (digits.length : Int) =
          (k.toNat - digits.length + 1 : Nat) + (exponent [] - (['0'].length : Int)) := by
        show _ = _ + ((0 : Int) - 1)
        omega
      rw [List.append_nil, hcoefficient] at hvalue
      refine hvalue.trans ?_
      rw [hexponent, zpow_add₀ (by norm_num), zpow_natCast]
      push_cast
      ring
    · -- The point stands between them.
      rename_i hk hlt
      have hparts : Digits (digits.take k.toNat) ∧ Digits (digits.drop k.toNat) := by
        rw [← digits_append, List.take_append_drop]
        exact hd
      have hvalue := value_point hparts.1 hparts.2 hnone
      have hexponent : exponent [] - ((digits.drop k.toNat).length : Int) = k - digits.length := by
        rw [List.length_drop]
        show (0 : Int) - _ = _
        omega
      rw [List.append_nil, List.take_append_drop, hexponent] at hvalue
      exact hvalue

/-- So do digits with an exponent. -/
theorem value_scientific (hd : Digits digits) (hne : digits ≠ []) (k : Int) :
    value (json.scientific digits k) =
      Nat.ofDigitChars 10 digits 0 * 10 ^ (k - digits.length) := by
  have hsome : IsExponent ('e' ::
      ((if k - 1 < 0 then ['-'] else ['+']) ++ Nat.toDigits 10 (k - 1).natAbs)) := .inr ⟨_, rfl⟩
  have hsigned := exponent_signed (k - 1)
  match digits, hne with
  | [d], _ =>
    have hvalue := value_whole hd hsome
    rw [hsigned] at hvalue
    exact hvalue
  | d :: d' :: rest, _ =>
    have hparts : Digits [d] ∧ Digits (d' :: rest) := digits_append.1 hd
    have hvalue := value_point hparts.1 hparts.2 hsome
    have hexponent : k - 1 - ((d' :: rest).length : Int) = k - (d :: d' :: rest).length := by
      simp only [List.length_cons]
      omega
    rw [hsigned, hexponent] at hvalue
    exact hvalue

/-- A text starts with a digit, and has a point or an exponent. -/
structure Marked (cs : List Char) : Prop where
  starts : Starts cs
  mark : '.' ∈ cs ∨ 'e' ∈ cs

theorem marked_positional (hd : Digits digits) (hne : digits ≠ []) (k : Int) :
    Marked (json.positional digits k) := by
  obtain ⟨d, rest, rfl⟩ := List.exists_cons_of_ne_nil hne
  have hdigit : d.isDigit = true := hd d List.mem_cons_self
  unfold positional
  split
  · exact ⟨⟨'0', _, rfl, rfl⟩, .inl (by simp)⟩
  · split
    · exact ⟨⟨d, _, rfl, hdigit⟩, .inl (by simp [json])⟩
    · rename_i hk _
      obtain ⟨n, hn⟩ : ∃ n, k.toNat = n + 1 := ⟨k.toNat - 1, by omega⟩
      rw [hn, List.take_succ_cons]
      exact ⟨⟨d, _, rfl, hdigit⟩, .inl (by simp)⟩

theorem marked_scientific (hd : Digits digits) (hne : digits ≠ []) (k : Int) :
    Marked (json.scientific digits k) := by
  unfold scientific
  dsimp only
  match digits, hne with
  | [d], _ => exact ⟨⟨d, _, rfl, hd d List.mem_cons_self⟩, .inr (by simp)⟩
  | d :: _ :: _, _ => exact ⟨⟨d, _, rfl, hd d List.mem_cons_self⟩, .inr (by simp)⟩

end Layout

/-! ## Texts of numbers -/

namespace Binary64

/-- The characters of the magnitude of a finite number in JSON text. -/
def body (x : Binary64) : List Char :=
  if x.isZero then ['0', '.', '0']
  else
    let d := x.shortest .even
    let digits := Nat.toDigits 10 d.coefficient
    let k := (digits.length : Int) + d.exponent
    if Layout.json.isPositional k then Layout.json.positional digits k
    else Layout.json.scientific digits k

theorem render_json {x : Binary64} (h : x.isFinite = true) :
    (x.render .json).toList = (if x.isNegative then ['-'] else []) ++ x.body := by
  have hnan : x.isNaN = false := by
    simp only [isFinite, bne_iff_ne] at h
    simp [isNaN, h]
  unfold render body
  rw [hnan, h, if_neg (by decide), if_neg (by decide), String.toList_ofList]
  rfl

theorem value_body (x : Binary64) : Numeral.value x.body = (x.shortest .even).value := by
  unfold body
  split
  · rename_i hzero
    have hdigit : Numeral.Digits ['0'] := Numeral.digits_replicate 1
    have hvalue := Numeral.value_point hdigit hdigit (.inl rfl)
    rw [shortest_zero .even (isZero_iff.1 hzero)]
    refine hvalue.trans ?_
    rw [← List.replicate_one, List.replicate_append_replicate, Nat.ofDigitChars_replicate_zero]
    simp
  · dsimp only
    have hdigits := Numeral.digits_toDigits (x.shortest .even).coefficient
    have hvalue : ((Nat.ofDigitChars 10 (Nat.toDigits 10 (x.shortest .even).coefficient) 0 : Nat) : ℚ) *
        10 ^ (((Nat.toDigits 10 (x.shortest .even).coefficient).length : Int) +
          (x.shortest .even).exponent - (Nat.toDigits 10 (x.shortest .even).coefficient).length) =
            (x.shortest .even).value := by
      rw [Nat.ofDigitChars_ten_toDigits, add_sub_cancel_left]
      rfl
    split
    · rw [Layout.value_positional hdigits, hvalue]
    · rw [Layout.value_scientific hdigits Nat.toDigits_ne_nil, hvalue]

theorem marked_body (x : Binary64) : Layout.Marked x.body := by
  unfold body
  split
  · exact ⟨⟨'0', _, rfl, rfl⟩, .inl (by simp)⟩
  · dsimp only
    split
    · exact Layout.marked_positional (Numeral.digits_toDigits _) Nat.toDigits_ne_nil _
    · exact Layout.marked_scientific (Numeral.digits_toDigits _) Nat.toDigits_ne_nil _

/-- **The JSON text of a finite number determines it.** -/
theorem render_json_inj {x y : Binary64} (hx : x.isFinite = true) (hy : y.isFinite = true)
    (h : x.render .json = y.render .json) : x = y := by
  have htext := congrArg String.toList h
  rw [render_json hx, render_json hy] at htext
  obtain ⟨hsign, hbody⟩ := Numeral.signed_inj (marked_body x).starts (marked_body y).starts htext
  have hvalue : (x.shortest .even).value = (y.shortest .even).value := by
    rw [← value_body, hbody, value_body]
  exact ext_magnitude hsign (magnitude_inj .even hvalue)

end Binary64

end GuardedQuery
