import RemoteJobs.Json.Reader.Number
import RemoteJobs.Proofs.Json.Strings

/-!
# Integers as text

An integer of 64 bits, signed or not, that has been written is read back, if
nothing follows that would belong to a number.
-/

namespace RemoteJobs.Json

/-- What may follow a value inside another one, or at the end of a text. -/
def Closes (rest : Bytes) : Prop :=
  ∀ b ∈ rest.head?, b = ascii ',' ∨ b = ascii ']' ∨ b = ascii '\x7d'

theorem closes_nil : Closes [] := fun _ h => by cases h

/-- Digits as bytes. -/
def digitBytes (ds : List Nat) : Bytes := ds.map fun d => UInt8.ofNat (48 + d)

theorem toNat_digit {d : Nat} (h : d < 10) : (UInt8.ofNat (48 + d)).toNat = 48 + d := by
  rw [UInt8.toNat_ofNat']
  omega

theorem isDigit_digit {d : Nat} (h : d < 10) : isDigit (UInt8.ofNat (48 + d)) = true := by
  rw [isDigit, toNat_digit h, decide_eq_true_eq]
  omega

theorem encodeChars_digits {ds : List Nat} (h : ∀ d ∈ ds, d < 10) :
    Utf8.encodeChars (Decimal.chars ds) = digitBytes ds := by
  induction ds with
  | nil => rfl
  | cons d ds ih =>
      have hd : d < 10 := h d List.mem_cons_self
      have hchar : (Decimal.digitChar d).toNat = 48 + d := by
        have hall : ∀ d : Fin 10, (Decimal.digitChar d.val).toNat = 48 + d.val := by decide
        exact hall ⟨d, hd⟩
      rw [Decimal.chars, List.map_cons, encodeChars_cons_ascii (by omega)]
      show _ :: Utf8.encodeChars (Decimal.chars ds) = _
      rw [ih fun d' hd' => h d' (List.mem_cons_of_mem d hd'), ascii, hchar]
      rfl

theorem takeDigits_digits {ds : List Nat} (h : ∀ d ∈ ds, d < 10) {rest : Bytes}
    (hrest : ∀ b ∈ rest.head?, isDigit b = false) :
    takeDigits (digitBytes ds ++ rest) = (ds, rest) := by
  have hall : ∀ b ∈ digitBytes ds, isDigit b = true := by
    intro b hb
    obtain ⟨d, hd, rfl⟩ := List.mem_map.mp hb
    exact isDigit_digit (h d hd)
  have hvalues : (digitBytes ds).map (·.toNat - 48) = ds := by
    rw [digitBytes, List.map_map]
    refine (List.map_congr_left fun d hd => ?_).trans (List.map_id ds)
    show (UInt8.ofNat (48 + d)).toNat - 48 = d
    rw [toNat_digit (h d hd)]
    omega
  have hnone : rest.takeWhile isDigit = [] ∧ rest.dropWhile isDigit = rest := by
    cases rest with
    | nil => exact ⟨rfl, rfl⟩
    | cons b rest =>
        have hb : isDigit b = false := hrest b rfl
        exact ⟨List.takeWhile_cons_of_neg (by simp [hb]), List.dropWhile_cons_of_neg (by simp [hb])⟩
  rw [takeDigits, List.takeWhile_append_of_pos hall, List.dropWhile_append_of_pos hall, hnone.1,
    hnone.2, List.append_nil, hvalues]

theorem digits_cons_zero {n : Nat} {ds : List Nat} (h : Decimal.digits n = 0 :: ds) :
    n = 0 ∧ ds = [] := by
  induction n using Decimal.digits.induct generalizing ds with
  | case1 n hn =>
      rw [Decimal.digits, if_pos hn] at h
      cases h
      exact ⟨rfl, rfl⟩
  | case2 n hn ih =>
      rw [Decimal.digits, if_neg hn] at h
      cases hd : Decimal.digits (n / 10) with
      | nil => exact absurd hd (Decimal.digits_ne_nil _)
      | cons d ds' =>
          rw [hd] at h
          cases h
          have := (ih hd).1
          omega

theorem Closes.not_digit {rest : Bytes} (h : Closes rest) : ∀ b ∈ rest.head?, isDigit b = false := by
  intro b hb
  rcases h b hb with rfl | rfl | rfl
  all_goals rfl

/-- What closes a value belongs to no number. -/
theorem afterWhole_of_closes {rest : Bytes} (h : Closes rest) (negative : Bool)
    (whole : List Nat) :
    afterWhole negative whole rest =
      match integer negative whole with
      | some v => .ok (v, rest)
      | none => .error (.here .numberOutOfRange rest) := by
  cases rest with
  | nil => rfl
  | cons b rest =>
      have hb : b ≠ ascii '.' ∧ isExponentMark b = false := by
        rcases h b rfl with rfl | rfl | rfl
        all_goals exact ⟨by decide, rfl⟩
      rw [afterWhole, if_neg hb.1, hb.2]
      rfl

theorem number_digits (negative : Bool) (n : Nat) {rest : Bytes} (h : Closes rest) :
    number negative (digitBytes (Decimal.digits n) ++ rest) =
      afterWhole negative (Decimal.digits n) rest := by
  cases hd : Decimal.digits n with
  | nil => exact absurd hd (Decimal.digits_ne_nil _)
  | cons d ds =>
      have hlt : ∀ d' ∈ d :: ds, d' < 10 := fun d' hd' => Decimal.digit_lt (hd ▸ hd')
      have hdlt : d < 10 := hlt d List.mem_cons_self
      by_cases hzero : d = 0
      · subst hzero
        rw [(digits_cons_zero hd).2]
        show number negative (ascii '0' :: rest) = _
        rw [number.eq_def]
        dsimp only
        rw [if_pos rfl]
        cases rest with
        | nil => rfl
        | cons b rest =>
            have hb : isDigit b = false := h.not_digit b rfl
            simp only [hb]
            rfl
      · have hfirst : UInt8.ofNat (48 + d) ≠ ascii '0' := by
          intro he
          have hn := toNat_digit hdlt
          rw [he] at hn
          have : (ascii '0').toNat = 48 := rfl
          omega
        show number negative (UInt8.ofNat (48 + d) :: (digitBytes ds ++ rest)) = _
        rw [number.eq_def]
        dsimp only
        rw [if_neg hfirst, if_pos (isDigit_digit hdlt), toNat_digit hdlt,
          takeDigits_digits (fun d' hd' => hlt d' (List.mem_cons_of_mem d hd')) h.not_digit,
          Nat.add_sub_cancel_left]

theorem gather_digits {n : Nat} (h : n ≤ wordMax) :
    gather 0 (Decimal.digits n) = (n, (Decimal.digits n).length) := by
  have hn : (Decimal.digits n).foldl (fun n d => 10 * n + d) 0 = n := Decimal.ofDigits_digits n
  rw [gather_of_le (by omega), hn]

/-- The integers that a text holds as such. -/
def InRange (n : Int) : Prop := -9223372036854775808 ≤ n ∧ n ≤ 18446744073709551615

theorem integer_digits {n : Int} (h : InRange n) :
    integer (decide (n < 0)) (Decimal.digits n.natAbs) = some (.int n) := by
  obtain ⟨hlo, hhi⟩ := h
  rw [integer, gather_digits (by rw [wordMax]; omega)]
  simp only [if_pos]
  by_cases hneg : n < 0
  · have hlarge : ¬(n.natAbs = 0 ∨ 9223372036854775808 < n.natAbs) := by omega
    have hint : -(n.natAbs : Int) = n := by omega
    simp only [hneg, decide_true, Bool.not_true, if_neg hlarge, hint]
    rfl
  · have hint : (n.natAbs : Int) = n := by omega
    simp only [hneg, decide_false, Bool.not_false, if_true, hint]

end RemoteJobs.Json
