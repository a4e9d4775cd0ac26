/-!
# Decimal digits of natural numbers

`digits` lists the digits of a number from the most significant one, and
`ofDigits` reads them back.
-/

namespace RemoteJobs.Decimal

/-- The digits of a number, most significant first; zero has one digit. -/
def digits (n : Nat) : List Nat :=
  if n < 10 then [n] else digits (n / 10) ++ [n % 10]
termination_by n

def ofDigits (ds : List Nat) : Nat :=
  ds.foldl (fun n d => 10 * n + d) 0

/-- The character of a digit. -/
def digitChar (d : Nat) : Char := Char.ofNat (48 + d)

def chars (ds : List Nat) : List Char := ds.map digitChar

/-- A natural number as text. -/
def natChars (n : Nat) : List Char := chars (digits n)

/-- A number as text, with a minus sign before a negative one. -/
def intChars (n : Int) : List Char :=
  if n < 0 then '-' :: natChars n.natAbs else natChars n.natAbs

def natText (n : Nat) : String := String.ofList (natChars n)

def intText (n : Int) : String := String.ofList (intChars n)

theorem digit_lt {n d : Nat} (h : d ∈ digits n) : d < 10 := by
  induction n using digits.induct with
  | case1 n hn =>
    rw [digits, if_pos hn, List.mem_singleton] at h
    omega
  | case2 n hn ih =>
    rw [digits, if_neg hn, List.mem_append, List.mem_singleton] at h
    rcases h with h | h
    · exact ih h
    · omega

@[simp] theorem ofDigits_digits (n : Nat) : ofDigits (digits n) = n := by
  induction n using digits.induct with
  | case1 n hn => simp [digits, ofDigits, hn]
  | case2 n hn ih =>
    rw [digits, if_neg hn]
    simp only [ofDigits, List.foldl_append, List.foldl_cons, List.foldl_nil] at ih ⊢
    rw [ih]
    omega

theorem digits_ne_nil (n : Nat) : digits n ≠ [] := by
  rw [digits]
  split <;> simp

end RemoteJobs.Decimal
