import RemoteJobs.Json.Fault

/-!
# Reading numbers

A number without fraction and exponent is an integer if it fits into 64 bits,
signed or not; every other number, and `-0`, is a number of binary64. Its
significand keeps as many leading digits as fit into 64 bits: further digits
of the integer part only raise the exponent, and further digits of the
fraction count for nothing.
-/

namespace RemoteJobs.Json

def isDigit (b : UInt8) : Bool := decide (48 ≤ b.toNat ∧ b.toNat ≤ 57)

/-- The values of the leading digits, and the bytes after them. -/
def takeDigits (s : Bytes) : List Nat × Bytes :=
  ((s.takeWhile isDigit).map (·.toNat - 48), s.dropWhile isDigit)

theorem length_takeDigits (s : Bytes) : (takeDigits s).2.length ≤ s.length :=
  (List.dropWhile_sublist isDigit).length_le

/-- The greatest significand. -/
def wordMax : Nat := 18446744073709551615

/-- Adds digits to a significand as long as it fits; gives the significand and
the number of digits taken. -/
def gather : Nat → List Nat → Nat × Nat
  | m, [] => (m, 0)
  | m, d :: ds =>
    if 10 * m + d ≤ wordMax then ((gather (10 * m + d) ds).1, (gather (10 * m + d) ds).2 + 1)
    else (m, 0)

theorem le_foldl_digits (m : Nat) (ds : List Nat) : m ≤ ds.foldl (fun n d => 10 * n + d) m := by
  induction ds generalizing m with
  | nil => exact Nat.le_refl _
  | cons d ds ih => exact Nat.le_trans (by omega) (ih (10 * m + d))

/-- A number that fits is gathered whole. -/
theorem gather_of_le {m : Nat} {ds : List Nat}
    (h : ds.foldl (fun n d => 10 * n + d) m ≤ wordMax) :
    gather m ds = (ds.foldl (fun n d => 10 * n + d) m, ds.length) := by
  induction ds generalizing m with
  | nil => rfl
  | cons d ds ih =>
    rw [List.foldl_cons] at h
    have hm : 10 * m + d ≤ wordMax := Nat.le_trans (le_foldl_digits _ _) h
    rw [gather, if_pos hm, ih h, List.foldl_cons, List.length_cons]

/-- The significand and the exponent of a number's digits before and after the
point. -/
def significand (whole fraction : List Nat) : Nat × Int :=
  let (m, taken) := gather 0 whole
  let (m', taken') := gather m fraction
  (m', (whole.length - taken : Nat) - (taken' : Int))

/-- A number without fraction and exponent. -/
def integer (negative : Bool) (whole : List Nat) : Option Json :=
  let (n, taken) := gather 0 whole
  if taken = whole.length then
    if !negative then some (.int n)
    else if n = 0 ∨ 9223372036854775808 < n then (Binary64.ofDecimal true n 0).map .real
    else some (.int (-n))
  else (Binary64.ofDecimal negative n (whole.length - taken : Nat)).map .real

/-- The value of an exponent's digits, or the number of digits left where it
exceeds 31 bits. -/
def exponentValue : Nat → List Nat → Except Nat Nat
  | n, [] => .ok n
  | n, d :: ds => if 10 * n + d ≤ 2147483647 then exponentValue (10 * n + d) ds else .error ds.length

/-- The sign of an exponent, if it is written, and the bytes after it. -/
def takeSign : Bytes → Bool × Bytes
  | [] => (false, [])
  | b :: r =>
    if b = ascii '-' then (true, r) else if b = ascii '+' then (false, r) else (false, b :: r)

theorem length_takeSign (s : Bytes) : (takeSign s).2.length ≤ s.length := by
  unfold takeSign
  repeat' split
  all_goals simp

/-- What follows the mark of an exponent. -/
def exponent (negative : Bool) (whole fraction : List Nat) (s : Bytes) :
    Except Fault (Json × Bytes) :=
  match takeSign s with
  | (_, []) => .error (.here .endInValue [])
  | (down, b :: r) =>
    if isDigit b then
      let ds := (b.toNat - 48) :: (takeDigits r).1
      let rest := (takeDigits r).2
      let (m, e) := significand whole fraction
      match exponentValue 0 ds with
      | .ok n =>
        match Binary64.ofDecimal negative m (if down then e - n else e + n) with
        | some x => .ok (.real x, rest)
        | none => .error (.here .numberOutOfRange rest)
      | .error left =>
        if down || m = 0 then .ok (.real (.zero negative), rest)
        else .error ⟨.numberOutOfRange, left + rest.length, false⟩
    else .error (.here .invalidNumber r)

def isExponentMark (b : UInt8) : Bool := b = ascii 'e' || b = ascii 'E'

/-- What follows the digits of the integer part. -/
def afterWhole (negative : Bool) (whole : List Nat) (s : Bytes) : Except Fault (Json × Bytes) :=
  match s with
  | b :: r =>
    if b = ascii '.' then
      let (fraction, r) := takeDigits r
      if fraction.isEmpty then
        .error (.next (if r.isEmpty then .endInValue else .invalidNumber) r)
      else
        match r with
        | c :: r' => if isExponentMark c then exponent negative whole fraction r' else done whole fraction r
        | [] => done whole fraction []
    else if isExponentMark b then exponent negative whole [] r
    else plain
  | [] => plain
where
  plain : Except Fault (Json × Bytes) :=
    match integer negative whole with
    | some v => .ok (v, s)
    | none => .error (.here .numberOutOfRange s)
  done (whole fraction : List Nat) (r : Bytes) : Except Fault (Json × Bytes) :=
    let (m, e) := significand whole fraction
    match Binary64.ofDecimal negative m e with
    | some x => .ok (.real x, r)
    | none => .error (.here .numberOutOfRange r)

/-- A number, after its sign. A zero is followed by no further digit. -/
def number (negative : Bool) : Bytes → Except Fault (Json × Bytes)
  | [] => .error (.here .endInValue [])
  | b :: r =>
    if b = ascii '0' then
      match r with
      | c :: _ => if isDigit c then .error (.next .invalidNumber r) else afterWhole negative [0] r
      | [] => afterWhole negative [0] []
    else if isDigit b then
      afterWhole negative ((b.toNat - 48) :: (takeDigits r).1) (takeDigits r).2
    else .error (.here .invalidNumber r)

/-! ## A reader takes something -/

theorem length_exponent {negative : Bool} {whole fraction : List Nat} {s r : Bytes} {v : Json}
    (h : exponent negative whole fraction s = .ok (v, r)) : r.length ≤ s.length := by
  have hs := length_takeSign s
  unfold exponent at h
  split at h
  · simp at h
  · next down b t heq =>
    have ht := length_takeDigits t
    simp only [heq, List.length_cons] at hs
    dsimp only at h
    repeat' split at h
    all_goals simp only [Except.ok.injEq, Prod.mk.injEq, reduceCtorEq] at h
    all_goals (obtain ⟨_, rfl⟩ := h; omega)

theorem length_afterWhole {negative : Bool} {whole : List Nat} {s r : Bytes} {v : Json}
    (h : afterWhole negative whole s = .ok (v, r)) : r.length ≤ s.length := by
  have hplain : ∀ {s}, afterWhole.plain negative whole s = .ok (v, r) → r.length ≤ s.length := by
    intro s h
    unfold afterWhole.plain at h
    split at h
    · simp only [Except.ok.injEq, Prod.mk.injEq] at h
      exact h.2 ▸ Nat.le_refl _
    · simp at h
  have hdone : ∀ {f s}, afterWhole.done negative whole f s = .ok (v, r) → r.length ≤ s.length := by
    intro f s h
    unfold afterWhole.done at h
    dsimp only at h
    split at h
    · simp only [Except.ok.injEq, Prod.mk.injEq] at h
      exact h.2 ▸ Nat.le_refl _
    · simp at h
  unfold afterWhole at h
  split at h
  · next b t =>
    have ht := length_takeDigits t
    simp only [List.length_cons]
    split at h
    · dsimp only at h
      split at h
      · simp at h
      · split at h
        · next c u hu =>
          have hu' : (takeDigits t).2.length = u.length + 1 := by rw [hu]; rfl
          split at h
          · have := length_exponent h
            omega
          · have := hdone h
            omega
        · have := hdone h
          simp only [List.length_nil] at this
          omega
    · split at h
      · have := length_exponent h
        omega
      · have := hplain h
        simp only [List.length_cons] at this
        omega
  · exact hplain h

theorem length_number {negative : Bool} {s r : Bytes} {v : Json}
    (h : number negative s = .ok (v, r)) : r.length < s.length := by
  unfold number at h
  split at h
  · simp at h
  · next b t =>
    have ht := length_takeDigits t
    simp only [List.length_cons]
    split at h
    · split at h
      · split at h
        · simp at h
        · have := length_afterWhole h
          omega
      · have := length_afterWhole h
        omega
    · split at h
      · have := length_afterWhole h
        omega
      · simp at h

end RemoteJobs.Json
