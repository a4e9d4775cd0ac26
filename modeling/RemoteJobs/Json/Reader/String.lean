import RemoteJobs.Json.Fault

/-!
# Reading strings

A string is read from the byte after its opening quote. Its escapes are
resolved to bytes first; only when the closing quote is found are the bytes
read as UTF-8. A character outside the basic plane may be written as two
escapes, a leading and a trailing surrogate, and neither may stand alone.
-/

namespace RemoteJobs.Json

/-- The number of four hexadecimal digits. -/
def takeHex : Bytes → Except Fault (Nat × Bytes)
  | a :: b :: c :: d :: r =>
    match Bytes.hexValue? a, Bytes.hexValue? b, Bytes.hexValue? c, Bytes.hexValue? d with
    | some a, some b, some c, some d => .ok (4096 * a + 256 * b + 16 * c + d, r)
    | _, _, _, _ => .error (.here .invalidEscape r)
  | _ => .error (.here .endInString [])

def isLeading (n : Nat) : Bool := decide (0xD800 ≤ n ∧ n ≤ 0xDBFF)

def isTrailing (n : Nat) : Bool := decide (0xDC00 ≤ n ∧ n ≤ 0xDFFF)

def charBytes (code : Nat) : Bytes := String.utf8EncodeChar (Char.ofNat code)

/-- The byte in front, which has to be `c`. -/
def expectInEscape (c : Char) : Bytes → Except Fault Bytes
  | [] => .error (.here .endInString [])
  | b :: r => if b = ascii c then .ok r else .error (.here .endOfEscape r)

/-- The trailing half of a character, after its leading half. -/
def takeTrailing (leading : Nat) (s : Bytes) : Except Fault (Bytes × Bytes) := do
  let r ← expectInEscape '\\' s
  let r ← expectInEscape 'u' r
  let (n, r) ← takeHex r
  if isTrailing n then
    return (charBytes ((leading - 0xD800) * 1024 + (n - 0xDC00) + 0x10000), r)
  else .error (.here .loneSurrogate r)

/-- What follows the letter `u` of an escape. -/
def takeUnicode (s : Bytes) : Except Fault (Bytes × Bytes) := do
  let (n, r) ← takeHex s
  if isTrailing n then .error (.here .loneSurrogate r)
  else if isLeading n then takeTrailing n r
  else return (charBytes n, r)

/-- What follows a backslash: the bytes that the escape stands for. -/
def takeEscape : Bytes → Except Fault (Bytes × Bytes)
  | [] => .error (.here .endInString [])
  | b :: r =>
    if b = ascii '"' || b = ascii '\\' || b = ascii '/' then .ok ([b], r)
    else if b = ascii 'b' then .ok ([0x08], r)
    else if b = ascii 'f' then .ok ([0x0c], r)
    else if b = ascii 'n' then .ok ([0x0a], r)
    else if b = ascii 'r' then .ok ([0x0d], r)
    else if b = ascii 't' then .ok ([0x09], r)
    else if b = ascii 'u' then takeUnicode r
    else .error (.here .invalidEscape r)

theorem length_takeHex {s r : Bytes} {n : Nat} (h : takeHex s = .ok (n, r)) :
    r.length < s.length := by
  unfold takeHex at h
  repeat' split at h
  all_goals simp only [Except.ok.injEq, Prod.mk.injEq, reduceCtorEq] at h
  obtain ⟨_, rfl⟩ := h
  simp only [List.length_cons]
  omega

theorem length_expectInEscape {c : Char} {s r : Bytes} (h : expectInEscape c s = .ok r) :
    r.length < s.length := by
  unfold expectInEscape at h
  repeat' split at h
  all_goals simp only [Except.ok.injEq, reduceCtorEq] at h
  subst h
  simp

theorem length_takeTrailing {leading : Nat} {s r t : Bytes}
    (h : takeTrailing leading s = .ok (t, r)) : r.length < s.length := by
  unfold takeTrailing at h
  simp only [bind, Except.bind, pure, Except.pure] at h
  repeat' split at h
  all_goals simp only [Except.ok.injEq, Prod.mk.injEq, reduceCtorEq] at h
  next r₁ h₁ _ r₂ h₂ _ p h₃ _ =>
    obtain ⟨_, rfl⟩ := h
    have := length_expectInEscape h₁
    have := length_expectInEscape h₂
    have := length_takeHex (n := p.1) (r := p.2) h₃
    omega

theorem length_takeUnicode {s r t : Bytes} (h : takeUnicode s = .ok (t, r)) :
    r.length < s.length := by
  unfold takeUnicode at h
  simp only [bind, Except.bind, pure, Except.pure] at h
  split at h
  · simp at h
  · next p hp =>
    have hp := length_takeHex (n := p.1) (r := p.2) hp
    split at h
    · simp at h
    · split at h
      · have := length_takeTrailing h
        omega
      · simp only [Except.ok.injEq, Prod.mk.injEq] at h
        rw [← h.2]
        exact hp

theorem length_takeEscape {s r t : Bytes} (h : takeEscape s = .ok (t, r)) :
    r.length < s.length := by
  unfold takeEscape at h
  split at h
  · simp at h
  · next b u =>
    have hok : ∀ {x : Bytes}, Except.ok (ε := Fault) (x, u) = .ok (t, r) →
        r.length < (b :: u).length := by
      intro x h
      simp only [Except.ok.injEq, Prod.mk.injEq] at h
      rw [← h.2]
      simp
    split at h
    · exact hok h
    iterate 5
      split at h
      · exact hok h
    split at h
    · have := length_takeUnicode h
      simp only [List.length_cons]
      omega
    · simp at h

/-- The bytes of a string up to its closing quote, after those of `content`
(the last one first), and the bytes behind the quote. -/
def takeContent (content : Bytes) (s : Bytes) : Except Fault (Bytes × Bytes) :=
  match s with
  | [] => .error (.here .endInString [])
  | b :: r =>
    if b = ascii '"' then .ok (content.reverse, r)
    else if b = ascii '\\' then
      match _h : takeEscape r with
      | .ok (t, r') => takeContent (t.reverse ++ content) r'
      | .error f => .error f
    else if b.toNat < 0x20 then .error (.here .controlCharacter r)
    else takeContent (b :: content) r
termination_by s.length
decreasing_by
  · have := length_takeEscape _h
    simp only [List.length_cons]
    omega
  · simp

/-- A string, after its opening quote. -/
def string (s : Bytes) : Except Fault (String × Bytes) := do
  let (content, r) ← takeContent [] s
  match Utf8.decode content with
  | some t => return (t, r)
  | none => .error (.here (.notUtf8 (content.length - Utf8.validLength content)) r)

theorem length_takeContent {content s t r : Bytes} (h : takeContent content s = .ok (t, r)) :
    r.length < s.length := by
  induction content, s using takeContent.induct with
  | case1 => simp [takeContent] at h
  | case2 content s =>
    rw [takeContent, if_pos rfl] at h
    simp only [Except.ok.injEq, Prod.mk.injEq] at h
    rw [← h.2]
    simp
  | case3 content s u s' hu hb ih =>
    rw [takeContent, if_neg hb, if_pos rfl] at h
    split at h
    · next u' s'' hu' =>
      rw [hu] at hu'
      simp only [Except.ok.injEq, Prod.mk.injEq] at hu'
      obtain ⟨rfl, rfl⟩ := hu'
      have := ih h
      have := length_takeEscape hu
      simp only [List.length_cons]
      omega
    · simp at h
  | case4 content s f hf hb =>
    rw [takeContent, if_neg hb, if_pos rfl] at h
    split at h
    · next hu' => simp [hf] at hu'
    · simp at h
  | case5 content b s hb hb' hlt =>
    rw [takeContent, if_neg hb, if_neg hb', if_pos hlt] at h
    simp at h
  | case6 content b s hb hb' hlt ih =>
    rw [takeContent, if_neg hb, if_neg hb', if_neg hlt] at h
    have := ih h
    simp only [List.length_cons]
    omega

theorem length_string {s r : Bytes} {t : String} (h : string s = .ok (t, r)) :
    r.length < s.length := by
  unfold string at h
  simp only [bind, Except.bind, pure, Except.pure] at h
  repeat' split at h
  all_goals simp only [Except.ok.injEq, Prod.mk.injEq, reduceCtorEq] at h
  next p hp _ _ _ =>
    have := length_takeContent (t := p.1) (r := p.2) hp
    obtain ⟨_, rfl⟩ := h
    exact this

end RemoteJobs.Json
