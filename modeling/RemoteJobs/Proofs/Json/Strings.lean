import RemoteJobs.Json.Printer
import RemoteJobs.Json.Reader.String

/-!
# Strings as text

A string that has been written is read back, whatever characters it holds. A
character is written as an escape or as its own bytes, and in either case the
reader comes to its bytes; what they make up is left to the law of UTF-8.
-/

namespace RemoteJobs.Json

/-! ## Bytes of characters -/

theorem encodeChars_append (cs ds : List Char) :
    Utf8.encodeChars (cs ++ ds) = Utf8.encodeChars cs ++ Utf8.encodeChars ds :=
  List.flatMap_append

theorem encodeChars_cons (c : Char) (cs : List Char) :
    Utf8.encodeChars (c :: cs) = String.utf8EncodeChar c ++ Utf8.encodeChars cs :=
  List.flatMap_cons

theorem utf8EncodeChar_ascii {c : Char} (h : c.toNat < 0x80) :
    String.utf8EncodeChar c = [ascii c] := by
  have hn : c.val.toNat = c.toNat := rfl
  unfold String.utf8EncodeChar
  simp only [hn]
  rw [if_pos (by omega)]
  rfl

theorem toNat_ascii {c : Char} (h : c.toNat < 0x80) : (ascii c).toNat = c.toNat := by
  rw [ascii, UInt8.toNat_ofNat']
  omega

theorem ascii_inj {c d : Char} (hc : c.toNat < 0x80) (hd : d.toNat < 0x80)
    (h : ascii c = ascii d) : c = d := by
  have hn : c.toNat = d.toNat := by rw [← toNat_ascii hc, h, toNat_ascii hd]
  exact Char.toNat_inj.mp hn

theorem encodeChars_cons_ascii {c : Char} (h : c.toNat < 0x80) (cs : List Char) :
    Utf8.encodeChars (c :: cs) = ascii c :: Utf8.encodeChars cs := by
  rw [encodeChars_cons, utf8EncodeChar_ascii h]
  rfl

/-- The bytes of a character outside ASCII are not bytes of ASCII. -/
theorem le_of_mem_utf8EncodeChar {c : Char} (h : 0x80 ≤ c.toNat) {b : UInt8}
    (hb : b ∈ String.utf8EncodeChar c) : 0x80 ≤ b.toNat := by
  have hn : c.val.toNat = c.toNat := rfl
  unfold String.utf8EncodeChar at hb
  simp only [hn] at hb
  rw [if_neg (by omega)] at hb
  split at hb
  · simp only [List.mem_cons, List.not_mem_nil, or_false] at hb
    rcases hb with rfl | rfl
    all_goals simp only [UInt8.toNat_ofNat']; omega
  · split at hb
    · simp only [List.mem_cons, List.not_mem_nil, or_false] at hb
      rcases hb with rfl | rfl | rfl
      all_goals simp only [UInt8.toNat_ofNat']; omega
    · simp only [List.mem_cons, List.not_mem_nil, or_false] at hb
      rcases hb with rfl | rfl | rfl | rfl
      all_goals simp only [UInt8.toNat_ofNat']; omega

/-! ## One character -/

/-- A byte that stands for itself in a string. -/
def isPlain (b : UInt8) : Prop := b ≠ ascii '"' ∧ b ≠ ascii '\\' ∧ 0x20 ≤ b.toNat

theorem isPlain_of_le {b : UInt8} (h : 0x80 ≤ b.toNat) : isPlain b := by
  have hne : ∀ {c : Char}, (ascii c).toNat < 0x80 → b ≠ ascii c := by
    intro c hc he
    rw [he] at h
    omega
  exact ⟨hne (by decide), hne (by decide), by omega⟩

theorem takeContent_plain {bs : Bytes} (h : ∀ b ∈ bs, isPlain b) (content s : Bytes) :
    takeContent content (bs ++ s) = takeContent (bs.reverse ++ content) s := by
  induction bs generalizing content with
  | nil => rfl
  | cons b bs ih =>
      obtain ⟨hq, hb, hn⟩ := h b List.mem_cons_self
      rw [List.cons_append, takeContent, if_neg hq, if_neg hb, if_neg (by omega),
        ih fun b' hb' => h b' (List.mem_cons_of_mem b hb'), List.reverse_cons, List.append_assoc]
      rfl

theorem takeContent_escape {r r' t : Bytes} (h : takeEscape r = .ok (t, r')) (content : Bytes) :
    takeContent content (ascii '\\' :: r) = takeContent (t.reverse ++ content) r' := by
  rw [takeContent, if_neg (by decide), if_pos rfl]
  split
  · next t' r'' h' =>
      rw [h] at h'
      cases h'
      rfl
  · next f h' =>
      rw [h] at h'
      cases h'

theorem hexValue?_hexDigit {n : Nat} (h : n < 16) :
    Bytes.hexValue? (ascii (Bytes.hexDigit n)) = some n := by
  have hall : ∀ n : Fin 16, Bytes.hexValue? (ascii (Bytes.hexDigit n.val)) = some n.val := by
    decide
  exact hall ⟨n, h⟩

/-- The escape by a number that a control character gets. -/
theorem takeEscape_control {n : Nat} (h : n < 0x20) (s : Bytes) :
    takeEscape (ascii 'u' :: ascii '0' :: ascii '0' :: ascii (Bytes.hexDigit (n / 16)) ::
      ascii (Bytes.hexDigit (n % 16)) :: s) = .ok (charBytes n, s) := by
  have hzero : Bytes.hexValue? (ascii '0') = some 0 := rfl
  have hhex : takeHex (ascii '0' :: ascii '0' :: ascii (Bytes.hexDigit (n / 16)) ::
      ascii (Bytes.hexDigit (n % 16)) :: s) = .ok (n, s) := by
    rw [takeHex, hzero, hexValue?_hexDigit (by omega), hexValue?_hexDigit (by omega)]
    have hn : 4096 * 0 + 256 * 0 + 16 * (n / 16) + n % 16 = n := by omega
    simp only [hn]
  have htrailing : isTrailing n = false := by
    rw [isTrailing, decide_eq_false_iff_not]
    omega
  have hleading : isLeading n = false := by
    rw [isLeading, decide_eq_false_iff_not]
    omega
  show takeUnicode _ = _
  rw [takeUnicode, hhex]
  simp only [bind, Except.bind, htrailing, hleading]
  rfl

/-- Whatever is written for a character, the reader comes to its bytes. -/
theorem takeContent_escapeChar (c : Char) (content s : Bytes) :
    takeContent content (Utf8.encodeChars (escapeChar c) ++ s) =
      takeContent ((String.utf8EncodeChar c).reverse ++ content) s := by
  unfold escapeChar
  iterate 7
    split
    · next h =>
        subst h
        exact takeContent_escape rfl content
  split
  · next h =>
      have hdigit : ∀ n, n < 16 → (Bytes.hexDigit n).toNat < 0x80 := by decide
      have hbytes : Utf8.encodeChars ['\\', 'u', '0', '0', Bytes.hexDigit (c.toNat / 16),
          Bytes.hexDigit (c.toNat % 16)] = ascii '\\' :: ascii 'u' :: ascii '0' :: ascii '0' ::
            ascii (Bytes.hexDigit (c.toNat / 16)) :: [ascii (Bytes.hexDigit (c.toNat % 16))] := by
        iterate 4 rw [encodeChars_cons_ascii (by decide)]
        rw [encodeChars_cons_ascii (hdigit _ (by omega)),
          encodeChars_cons_ascii (hdigit _ (by omega))]
        rfl
      have hc : charBytes c.toNat = String.utf8EncodeChar c := by
        rw [charBytes, Char.ofNat_toNat]
      rw [hbytes, ← hc]
      exact takeContent_escape (takeEscape_control h s) content
  · next hq hb _ _ _ _ _ hn =>
      have hplain : ∀ b ∈ String.utf8EncodeChar c, isPlain b := by
        intro b hmem
        by_cases hascii : c.toNat < 0x80
        · rw [utf8EncodeChar_ascii hascii, List.mem_singleton] at hmem
          subst hmem
          refine ⟨fun he => hq (ascii_inj hascii (by decide) he),
            fun he => hb (ascii_inj hascii (by decide) he), ?_⟩
          rw [toNat_ascii hascii]
          omega
        · have hle := le_of_mem_utf8EncodeChar (Nat.le_of_not_lt hascii) hmem
          exact isPlain_of_le hle
      have hone : Utf8.encodeChars [c] = String.utf8EncodeChar c := List.flatMap_singleton _ _
      rw [hone]
      exact takeContent_plain hplain content s

/-- A string is read back from its text. -/
theorem string_encodeChars (t : String) (rest : Bytes) :
    string (Utf8.encodeChars (t.toList.flatMap escapeChar) ++ ascii '"' :: rest) =
      .ok (t, rest) := by
  have hcontent : ∀ (cs : List Char) (content : Bytes),
      takeContent content (Utf8.encodeChars (cs.flatMap escapeChar) ++ ascii '"' :: rest) =
        .ok (content.reverse ++ Utf8.encodeChars cs, rest) := by
    intro cs
    induction cs with
    | nil =>
        intro content
        show takeContent content (ascii '"' :: rest) = _
        rw [takeContent, if_pos rfl]
        rw [show Utf8.encodeChars [] = [] from rfl, List.append_nil]
    | cons c cs ih =>
        intro content
        rw [List.flatMap_cons, encodeChars_append, List.append_assoc, takeContent_escapeChar, ih,
          encodeChars_cons, List.reverse_append, List.reverse_reverse, List.append_assoc]
  rw [string, hcontent]
  have hdecode : Utf8.decode (Utf8.encodeChars t.toList) = some t := Utf8.decode_encode t
  simp only [bind, Except.bind, List.reverse_nil, List.nil_append, hdecode]
  rfl

end RemoteJobs.Json
