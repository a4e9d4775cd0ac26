import RemoteJobs.Json.Reader

/-!
# Passing over values

A value that nobody wants is not built, only passed over. That is laxer than
reading it: lists and objects may be nested to any depth, numbers may be out
of range, and the text of a string need not be UTF-8 or have its surrogates in
pairs. It is stricter nowhere, though some faults get other names: after a
comma a bracket that closes is an unexpected value or key.
-/

namespace RemoteJobs.Json

/-- The escape after a backslash. -/
def skipEscape : Bytes → Except Fault Bytes
  | [] => .error (.here .endInString [])
  | b :: r =>
    if b = ascii 'u' then (takeHex r).map (·.2)
    else if (['"', '\\', '/', 'b', 'f', 'n', 'r', 't'].map ascii).contains b then .ok r
    else .error (.here .invalidEscape r)

theorem length_skipEscape {s r : Bytes} (h : skipEscape s = .ok r) : r.length < s.length := by
  unfold skipEscape at h
  split at h
  · simp at h
  · next b t =>
    simp only [List.length_cons]
    split at h
    · cases ht : takeHex t with
      | error f => simp [ht, Except.map] at h
      | ok p =>
        simp only [ht, Except.map, Except.ok.injEq] at h
        have := length_takeHex (n := p.1) (r := p.2) ht
        rw [← h]
        omega
    · split at h
      · simp only [Except.ok.injEq] at h
        rw [h]
        exact Nat.lt_succ_self _
      · simp at h

/-- A string, after its opening quote. A control character is not taken. -/
def skipString (s : Bytes) : Except Fault Bytes :=
  match s with
  | [] => .error (.here .endInString [])
  | b :: r =>
    if b = ascii '"' then .ok r
    else if b = ascii '\\' then
      match _h : skipEscape r with
      | .ok r' => skipString r'
      | .error f => .error f
    else if b.toNat < 0x20 then .error (.here .controlCharacter (b :: r))
    else skipString r
termination_by s.length
decreasing_by
  · have := length_skipEscape _h
    simp only [List.length_cons]
    omega
  · simp

def dropDigits (s : Bytes) : Bytes := (takeDigits s).2

/-- What follows the mark of an exponent. -/
def skipExponent (s : Bytes) : Except Fault Bytes :=
  match (takeSign s).2 with
  | [] => .error (.here .invalidNumber [])
  | b :: r => if isDigit b then .ok (dropDigits r) else .error (.here .invalidNumber r)

/-- What follows the integer part of a number. -/
def skipFraction (s : Bytes) : Except Fault Bytes :=
  match s with
  | [] => .ok []
  | b :: r =>
    if b = ascii '.' then
      match r with
      | c :: _ =>
        if isDigit c then
          match dropDigits r with
          | d :: r' => if isExponentMark d then skipExponent r' else .ok (d :: r')
          | [] => .ok []
        else .error (.next .invalidNumber r)
      | [] => .error (.next .invalidNumber [])
    else if isExponentMark b then skipExponent r
    else .ok s

/-- A number, after its sign. -/
def skipNumber (s : Bytes) : Except Fault Bytes :=
  match s with
  | [] => .error (.here .invalidNumber [])
  | b :: r =>
    if b = ascii '0' then
      match r with
      | c :: _ => if isDigit c then .error (.next .invalidNumber r) else skipFraction r
      | [] => .ok []
    else if isDigit b then skipFraction (dropDigits r)
    else .error (.here .invalidNumber r)

inductive Bracket where
  | list
  | object

namespace Bracket

def closing : Bracket → UInt8
  | .list => ascii ']'
  | .object => ascii '\x7d'

/-- The fault of a text that ends before the bracket is closed. -/
def unclosed : Bracket → Cause
  | .list => .endInList
  | .object => .endInObject

/-- The fault of a byte where a comma or the closing bracket is due. -/
def expected : Bracket → Cause
  | .list => .expectedListEnd
  | .object => .expectedObjectEnd

end Bracket

/-- Passes over a value without parts, or over an opening bracket, which it
gives. -/
def skipScalar (s : Bytes) : Except Fault (Option Bracket × Bytes) :=
  match s with
  | [] => .error (.next .endInValue [])
  | b :: r =>
    if b = ascii 'n' then whole (takeWord ['u', 'l', 'l'] r)
    else if b = ascii 't' then whole (takeWord ['r', 'u', 'e'] r)
    else if b = ascii 'f' then whole (takeWord ['a', 'l', 's', 'e'] r)
    else if b = ascii '-' then whole (skipNumber r)
    else if isDigit b then whole (skipNumber (b :: r))
    else if b = ascii '"' then whole (skipString r)
    else if b = ascii '[' then .ok (some .list, r)
    else if b = ascii '\x7b' then .ok (some .object, r)
    else .error (.next .expectedValue (b :: r))
where
  whole (r : Except Fault Bytes) : Except Fault (Option Bracket × Bytes) := r.map (none, ·)

/-! ## Passing over something takes bytes -/

theorem length_skipString {s r : Bytes} (h : skipString s = .ok r) : r.length < s.length := by
  fun_induction skipString s with
  | case1 => simp at h
  | case2 t =>
    simp only [Except.ok.injEq] at h
    rw [h]
    exact Nat.lt_succ_self _
  | case3 t t' ht hne ih =>
    have := ih h
    have := length_skipEscape ht
    simp only [List.length_cons]
    omega
  | case4 => simp at h
  | case5 => simp at h
  | case6 b t _ _ _ ih =>
    have := ih h
    simp only [List.length_cons]
    omega

theorem length_skipExponent {s r : Bytes} (h : skipExponent s = .ok r) :
    r.length ≤ s.length := by
  have hs := length_takeSign s
  unfold skipExponent at h
  split at h
  · simp at h
  · next b t heq =>
    have ht := length_takeDigits t
    rw [heq, List.length_cons] at hs
    split at h
    · simp only [Except.ok.injEq, dropDigits] at h
      rw [← h]
      omega
    · simp at h

theorem length_skipFraction {s r : Bytes} (h : skipFraction s = .ok r) :
    r.length ≤ s.length := by
  unfold skipFraction at h
  split at h
  · simp only [Except.ok.injEq] at h
    exact h ▸ Nat.le_refl _
  · next b t =>
    simp only [List.length_cons]
    split at h
    · split at h
      · next c u =>
        have ht := length_takeDigits (c :: u)
        split at h
        · split at h
          · next d r' heq =>
            simp only [dropDigits] at heq
            rw [heq, List.length_cons] at ht
            split at h
            · have := length_skipExponent h
              omega
            · simp only [Except.ok.injEq] at h
              rw [← h, List.length_cons]
              omega
          · simp only [Except.ok.injEq] at h
            rw [← h]
            exact Nat.zero_le _
        · simp at h
      · simp at h
    · split at h
      · have := length_skipExponent h
        omega
      · simp only [Except.ok.injEq] at h
        exact h ▸ Nat.le_refl _

theorem length_skipNumber {s r : Bytes} (h : skipNumber s = .ok r) : r.length < s.length := by
  unfold skipNumber at h
  split at h
  · simp at h
  · next b t =>
    have ht := length_takeDigits t
    simp only [List.length_cons]
    split at h
    · split at h
      · split at h
        · simp at h
        · have := length_skipFraction h
          omega
      · simp only [Except.ok.injEq] at h
        rw [← h]
        exact Nat.zero_lt_succ _
    · split at h
      · have := length_skipFraction h
        simp only [dropDigits] at this
        omega
      · simp at h

theorem length_skipScalar {s r : Bytes} {o : Option Bracket} (h : skipScalar s = .ok (o, r)) :
    r.length < s.length := by
  have hw : ∀ {x n}, skipScalar.whole x = .ok (o, r) → (∀ u, x = .ok u → u.length < n) →
      r.length < n := by
    intro x n h hx
    unfold skipScalar.whole at h
    cases x with
    | error f => simp [Except.map] at h
    | ok u =>
      simp only [Except.map, Except.ok.injEq, Prod.mk.injEq] at h
      rw [← h.2]
      exact hx u rfl
  unfold skipScalar at h
  split at h
  · simp at h
  · next b t =>
    simp only [List.length_cons]
    iterate 3
      split at h
      · exact hw h fun u hu => Nat.lt_succ_of_le (length_takeWord hu)
    split at h
    · exact hw h fun u hu => Nat.lt_succ_of_lt (length_skipNumber hu)
    split at h
    · exact hw h fun u hu => length_skipNumber hu
    split at h
    · exact hw h fun u hu => Nat.lt_succ_of_lt (length_skipString hu)
    iterate 2
      split at h
      · simp only [Except.ok.injEq, Prod.mk.injEq] at h
        rw [← h.2]
        exact Nat.lt_succ_self _
    simp at h

/-! ## Lists and objects -/

/-- Where a value stands that is passed over. -/
inductive Place where
  | value
  | opened (bracket : Bracket)
  | key
  | behind

/-- What follows inside a bracket: an element or the key of a member. -/
def Bracket.inside : Bracket → Place
  | .list => .value
  | .object => .key

/-- Passes over the rest of a value at some place in it; `outer` are the
brackets that are open around the place, the innermost first. A bracket just
opened is not yet among them. -/
def skipFrom (place : Place) (outer : List Bracket) (s : Bytes) : Except Fault Bytes :=
  match place with
  | .value =>
    match _h : skipScalar (skipBlanks s) with
    | .error f => .error f
    | .ok (none, r) => skipFrom .behind outer r
    | .ok (some bracket, r) => skipFrom (.opened bracket) outer r
  | .opened bracket =>
    match _hs : skipBlanks s with
    | [] => .error (.next bracket.unclosed [])
    | b :: r =>
      if b = bracket.closing then skipFrom .behind outer r
      else skipFrom bracket.inside (bracket :: outer) (b :: r)
  | .key =>
    match _hs : skipBlanks s with
    | [] => .error (.next .endInObject [])
    | b :: r =>
      if b = ascii '"' then
        match _hk : skipString r with
        | .error f => .error f
        | .ok r =>
          match _hc : takeColon r with
          | .error f => .error f
          | .ok r => skipFrom .value outer r
      else .error (.next .keyNotString (b :: r))
  | .behind =>
    match outer with
    | [] => .ok s
    | bracket :: outer =>
      match _hs : skipBlanks s with
      | [] => .error (.next bracket.unclosed [])
      | b :: r =>
        if b = ascii ',' then skipFrom bracket.inside (bracket :: outer) r
        else if b = bracket.closing then skipFrom .behind outer r
        else .error (.next bracket.expected (b :: r))
termination_by 2 * s.length + (match place with | .opened _ => 1 | _ => 0)
decreasing_by
  · have := length_skipScalar _h
    have := length_skipBlanks s
    omega
  · have := length_skipScalar _h
    have := length_skipBlanks s
    omega
  · have := lt_of_skipBlanks_eq _hs
    omega
  · have := lt_of_skipBlanks_eq _hs
    cases bracket <;> simp only [Bracket.inside, List.length_cons] <;> omega
  · have := lt_of_skipBlanks_eq _hs
    have := length_skipString _hk
    have := length_takeColon _hc
    omega
  · have := lt_of_skipBlanks_eq _hs
    cases bracket <;> simp only [Bracket.inside] <;> omega
  · have := lt_of_skipBlanks_eq _hs
    omega

/-- The bytes behind a value. -/
def skip (s : Bytes) : Except Fault Bytes := skipFrom .value [] s

theorem length_skipFrom {place : Place} {outer : List Bracket} {s r : Bytes}
    (h : skipFrom place outer s = .ok r) : r.length ≤ s.length := by
  fun_induction skipFrom place outer s with
  | case2 _ s t ht ih | case3 _ s _ t ht ih =>
    have := ih h
    have := length_skipScalar ht
    have := length_skipBlanks s
    omega
  | case5 _ _ _ _ hs ih | case15 _ _ _ _ hs _ ih =>
    have := ih h
    have := lt_of_skipBlanks_eq hs
    omega
  | case6 _ _ _ _ _ hs _ ih =>
    have := ih h
    have := lt_of_skipBlanks_eq hs
    simp only [List.length_cons] at *
    omega
  | case10 _ _ _ _ hk _ hc hs ih =>
    have := ih h
    have := length_skipString hk
    have := length_takeColon hc
    have := lt_of_skipBlanks_eq hs
    omega
  | case12 s =>
    simp only [Except.ok.injEq] at h
    exact h ▸ Nat.le_refl _
  | case14 _ _ _ _ hs ih =>
    have := ih h
    have := lt_of_skipBlanks_eq hs
    omega
  | _ => simp at h

theorem length_skip {s r : Bytes} (h : skip s = .ok r) : r.length ≤ s.length := length_skipFrom h

end RemoteJobs.Json
