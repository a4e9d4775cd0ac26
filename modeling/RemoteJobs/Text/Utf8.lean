import RemoteJobs.Bytes

/-!
# UTF-8

A character takes one to four bytes. `take?` reads one character from the
front of some bytes; it refuses a byte that continues no character, a
character written longer than it needs, and the codes that are no characters.
`scan` reads as many characters as it can, so it also says where well-formed
text ends.

The main statement is `decode_encode`: what is written is read back.
-/

namespace RemoteJobs.Utf8

/-- A byte that can only stand inside a character. -/
def isTail (b : UInt8) : Bool := decide (0x80 ≤ b.toNat ∧ b.toNat < 0xC0)

/-- The character of a code, unless the code is below `least` and so has a
shorter form. -/
def scalar? (least code : Nat) : Option Char :=
  if least ≤ code ∧ code.isValidChar then some (Char.ofNat code) else none

/-- The first character and the bytes after it. -/
def take? : Bytes → Option (Char × Bytes)
  | [] => none
  | a :: r =>
    if a.toNat < 0x80 then some (Char.ofNat a.toNat, r)
    else if a.toNat < 0xC0 then none
    else if a.toNat < 0xE0 then
      match r with
      | b :: r =>
        if isTail b then
          (scalar? 0x80 (a.toNat % 32 * 64 + b.toNat % 64)).map (·, r)
        else none
      | _ => none
    else if a.toNat < 0xF0 then
      match r with
      | b :: c :: r =>
        if isTail b && isTail c then
          (scalar? 0x800 (a.toNat % 16 * 4096 + b.toNat % 64 * 64 + c.toNat % 64)).map (·, r)
        else none
      | _ => none
    else if a.toNat < 0xF8 then
      match r with
      | b :: c :: d :: r =>
        if isTail b && isTail c && isTail d then
          (scalar? 0x10000 (a.toNat % 8 * 262144 + b.toNat % 64 * 4096 + c.toNat % 64 * 64
            + d.toNat % 64)).map (·, r)
        else none
      | _ => none
    else none

theorem length_lt_of_take? {s r : Bytes} {c : Char} (h : take? s = some (c, r)) :
    r.length < s.length := by
  unfold take? at h
  repeat' split at h
  all_goals simp only [Option.map_eq_some_iff, Prod.mk.injEq, reduceCtorEq, Option.some.injEq] at h
  all_goals
    simp only [List.length_cons]
    grind

/-- The longest beginning that is well formed, in characters, and the bytes
after it. -/
def scan (s : Bytes) : List Char × Bytes :=
  match _h : take? s with
  | none => ([], s)
  | some (c, r) => (c :: (scan r).1, (scan r).2)
termination_by s.length
decreasing_by all_goals exact length_lt_of_take? _h

/-- The text of well-formed bytes. -/
def decode (s : Bytes) : Option String :=
  match scan s with
  | (cs, []) => some (String.ofList cs)
  | _ => none

/-- How many bytes from the front are well formed. -/
def validLength (s : Bytes) : Nat := s.length - (scan s).2.length

def encodeChars (cs : List Char) : Bytes := cs.flatMap String.utf8EncodeChar

def encode (t : String) : Bytes := encodeChars t.toList

/-! ## What is written is read back -/

theorem scalar?_toNat {c : Char} {least : Nat} (h : least ≤ c.toNat) :
    scalar? least c.toNat = some c := by
  have hv : c.toNat.isValidChar := c.valid
  simp [scalar?, h, hv]

theorem take?_utf8EncodeChar (c : Char) (r : Bytes) :
    take? (String.utf8EncodeChar c ++ r) = some (c, r) := by
  have hv : c.toNat.isValidChar := c.valid
  have hlt : c.toNat < 0x110000 := by
    rcases hv with h | h <;> omega
  have hn : c.val.toNat = c.toNat := rfl
  unfold String.utf8EncodeChar
  simp only [hn]
  split
  · next h =>
    simp only [List.cons_append, List.nil_append, take?, UInt8.toNat_ofNat']
    have : c.toNat % 2 ^ 8 = c.toNat := by omega
    rw [this, if_pos (by omega)]
    simp
  · split
    · next h1 h2 =>
      simp only [List.cons_append, List.nil_append, take?, UInt8.toNat_ofNat', isTail]
      rw [if_neg (by omega), if_neg (by omega), if_pos (by omega), if_pos (by
        simp only [decide_eq_true_eq]; omega)]
      have : (c.toNat / 64 % 32 + 192) % 2 ^ 8 % 32 * 64 + (c.toNat % 64 + 128) % 2 ^ 8 % 64
          = c.toNat := by omega
      rw [this, scalar?_toNat (by omega)]
      rfl
    · split
      · next h1 h2 h3 =>
        simp only [List.cons_append, List.nil_append, take?, UInt8.toNat_ofNat', isTail]
        rw [if_neg (by omega), if_neg (by omega), if_neg (by omega), if_pos (by omega), if_pos (by
          simp only [decide_eq_true_eq, Bool.and_eq_true]; omega)]
        have : (c.toNat / 4096 % 16 + 224) % 2 ^ 8 % 16 * 4096
            + (c.toNat / 64 % 64 + 128) % 2 ^ 8 % 64 * 64 + (c.toNat % 64 + 128) % 2 ^ 8 % 64
            = c.toNat := by omega
        rw [this, scalar?_toNat (by omega)]
        rfl
      · next h1 h2 h3 =>
        simp only [List.cons_append, List.nil_append, take?, UInt8.toNat_ofNat', isTail]
        rw [if_neg (by omega), if_neg (by omega), if_neg (by omega), if_neg (by omega),
          if_pos (by omega), if_pos (by
          simp only [decide_eq_true_eq, Bool.and_eq_true]; omega)]
        have : (c.toNat / 262144 % 8 + 240) % 2 ^ 8 % 8 * 262144
            + (c.toNat / 4096 % 64 + 128) % 2 ^ 8 % 64 * 4096
            + (c.toNat / 64 % 64 + 128) % 2 ^ 8 % 64 * 64 + (c.toNat % 64 + 128) % 2 ^ 8 % 64
            = c.toNat := by omega
        rw [this, scalar?_toNat (by omega)]
        rfl

theorem scan_encodeChars (cs : List Char) : scan (encodeChars cs) = (cs, []) := by
  induction cs with
  | nil =>
    rw [scan]
    split
    · rfl
    · next h => simp [encodeChars, take?] at h
  | cons c cs ih =>
    have hc : take? (encodeChars (c :: cs)) = some (c, encodeChars cs) :=
      take?_utf8EncodeChar c _
    rw [scan]
    split
    · next h => simp [hc] at h
    · next c' r h =>
      rw [hc] at h
      simp only [Option.some.injEq, Prod.mk.injEq] at h
      obtain ⟨rfl, rfl⟩ := h
      rw [ih]

theorem decode_encode (t : String) : decode (encode t) = some t := by
  simp [decode, encode, scan_encodeChars]

end RemoteJobs.Utf8
