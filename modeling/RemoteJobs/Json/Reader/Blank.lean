import RemoteJobs.Json.Fault

/-!
# Blanks and words

The blanks between the parts of a JSON text are space, tab, line feed and
carriage return. The words are `null`, `true` and `false`.
-/

namespace RemoteJobs.Json

def isJsonBlank (b : UInt8) : Bool :=
  b = ascii ' ' || b = ascii '\n' || b = ascii '\t' || b = ascii '\r'

def skipBlanks (s : Bytes) : Bytes := s.dropWhile isJsonBlank

theorem length_skipBlanks (s : Bytes) : (skipBlanks s).length ≤ s.length :=
  (List.dropWhile_sublist isJsonBlank).length_le

theorem lt_of_skipBlanks_eq {s r : Bytes} {b : UInt8} (h : skipBlanks s = b :: r) :
    r.length < s.length := by
  have := length_skipBlanks s
  rw [h, List.length_cons] at this
  exact this

/-- The rest of a word, letter by letter. -/
def takeWord : List Char → Bytes → Except Fault Bytes
  | [], s => .ok s
  | _ :: _, [] => .error (.here .endInValue [])
  | c :: cs, b :: r => if b = ascii c then takeWord cs r else .error (.here .expectedIdent r)

theorem length_takeWord {cs : List Char} {s r : Bytes} (h : takeWord cs s = .ok r) :
    r.length ≤ s.length := by
  induction cs generalizing s with
  | nil =>
    simp only [takeWord, Except.ok.injEq] at h
    exact h ▸ Nat.le_refl _
  | cons c cs ih =>
    cases s with
    | nil => simp [takeWord] at h
    | cons b s =>
      rw [takeWord] at h
      split at h
      · exact Nat.le_succ_of_le (ih h)
      · simp at h

/-- The colon after a key. -/
def takeColon (s : Bytes) : Except Fault Bytes :=
  match skipBlanks s with
  | [] => .error (.next .endInObject [])
  | b :: r => if b = ascii ':' then .ok r else .error (.next .expectedColon (b :: r))

theorem length_takeColon {s r : Bytes} (h : takeColon s = .ok r) : r.length < s.length := by
  unfold takeColon at h
  split at h
  · simp at h
  · next hb =>
    split at h
    · simp only [Except.ok.injEq] at h
      subst h
      exact lt_of_skipBlanks_eq hb
    · simp at h

end RemoteJobs.Json
