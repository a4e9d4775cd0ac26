import RemoteJobs.Proofs.Json.Integers
import RemoteJobs.Proofs.Json.Ordered

/-!
# JSON as text and back

A value that `Fits` a text is read back from its text: its numbers are integers
of 64 bits, and its lists and objects are not nested too deep for the reader. The
induction is on the value; what follows a value in the text is either its end or
what stands behind a value in a list or an object.

The members of an object are read back in the order of their names, whatever the
order in which they have been written, and the last one of a name counts.
-/

namespace RemoteJobs.Json

/-! ## Values without parts -/

inductive Scalar : Json → Prop where
  | null : Scalar .null
  | bool (b : Bool) : Scalar (.bool b)
  | int {n : Int} : InRange n → Scalar (.int n)
  | str (t : String) : Scalar (.str t)

/-- A byte with which a value without parts may begin: it is no blank and no
bracket. -/
structure Starts (b : UInt8) : Prop where
  not_blank : isJsonBlank b = false
  ne_endList : b ≠ ascii ']'
  ne_list : b ≠ ascii '['
  ne_object : b ≠ ascii '\x7b'

theorem starts_digit {d : Nat} (h : d < 10) : Starts (UInt8.ofNat (48 + d)) := by
  have hall : ∀ d : Fin 10, isJsonBlank (UInt8.ofNat (48 + d.val)) = false ∧
      UInt8.ofNat (48 + d.val) ≠ ascii ']' ∧ UInt8.ofNat (48 + d.val) ≠ ascii '[' ∧
      UInt8.ofNat (48 + d.val) ≠ ascii '\x7b' := by decide
  obtain ⟨hblank, hend, hlist, hobject⟩ := hall ⟨d, h⟩
  exact ⟨hblank, hend, hlist, hobject⟩

theorem bytes_str (t : String) (rest : Bytes) :
    (Json.str t).bytes ++ rest =
      ascii '"' :: (Utf8.encodeChars (t.toList.flatMap escapeChar) ++ ascii '"' :: rest) := by
  rw [bytes, render, renderString, encodeChars_append, encodeChars_cons_ascii (by decide),
    List.append_assoc]
  rfl

theorem bytes_int (n : Int) :
    (Json.int n).bytes =
      if n < 0 then ascii '-' :: digitBytes (Decimal.digits n.natAbs)
      else digitBytes (Decimal.digits n.natAbs) := by
  have hdigits : Utf8.encodeChars (Decimal.natChars n.natAbs) =
      digitBytes (Decimal.digits n.natAbs) := encodeChars_digits fun d hd => Decimal.digit_lt hd
  rw [bytes, render, Decimal.intChars]
  split
  · rw [encodeChars_cons_ascii (by decide), hdigits]
  · exact hdigits

theorem exists_digits (n : Nat) :
    ∃ d ds, d < 10 ∧ digitBytes (Decimal.digits n) = UInt8.ofNat (48 + d) :: digitBytes ds := by
  cases hd : Decimal.digits n with
  | nil => exact absurd hd (Decimal.digits_ne_nil n)
  | cons d ds => exact ⟨d, ds, Decimal.digit_lt (hd ▸ List.mem_cons_self), rfl⟩

theorem Scalar.exists_bytes {v : Json} (h : Scalar v) : ∃ b s, v.bytes = b :: s ∧ Starts b := by
  cases h with
  | null => exact ⟨_, _, rfl, ⟨rfl, by decide, by decide, by decide⟩⟩
  | bool b =>
      cases b with
      | true => exact ⟨_, _, rfl, ⟨rfl, by decide, by decide, by decide⟩⟩
      | false => exact ⟨_, _, rfl, ⟨rfl, by decide, by decide, by decide⟩⟩
  | @int n _ =>
      rw [bytes_int]
      split
      · exact ⟨_, _, rfl, ⟨rfl, by decide, by decide, by decide⟩⟩
      · obtain ⟨d, ds, hd, hds⟩ := exists_digits n.natAbs
        exact ⟨_, _, hds, starts_digit hd⟩
  | str t =>
      exact ⟨ascii '"', _, (List.append_nil _).symm.trans (bytes_str t []),
        ⟨rfl, by decide, by decide, by decide⟩⟩

/-- A byte of a digit is none with which another value begins. -/
theorem scalar_digit {d : Nat} (h : d < 10) (r : Bytes) :
    scalar (UInt8.ofNat (48 + d) :: r) = number false (UInt8.ofNat (48 + d) :: r) := by
  have hall : ∀ d : Fin 10, UInt8.ofNat (48 + d.val) ≠ ascii 'n' ∧
      UInt8.ofNat (48 + d.val) ≠ ascii 't' ∧ UInt8.ofNat (48 + d.val) ≠ ascii 'f' ∧
      UInt8.ofNat (48 + d.val) ≠ ascii '-' := by decide
  obtain ⟨hn, ht, hf, hminus⟩ := hall ⟨d, h⟩
  rw [scalar, if_neg hn, if_neg ht, if_neg hf, if_neg hminus, if_pos (isDigit_digit h)]

/-- A value without parts is read back. -/
theorem scalar_bytes {v : Json} (h : Scalar v) {rest : Bytes} (hrest : Closes rest) :
    scalar (v.bytes ++ rest) = .ok (v, rest) := by
  cases h with
  | null => rfl
  | bool b =>
      cases b with
      | true => rfl
      | false => rfl
  | @int n hn =>
      have hinteger := integer_digits hn
      obtain ⟨d, ds, hd, hds⟩ := exists_digits n.natAbs
      rw [bytes_int]
      split
      · next hneg =>
          show number true (digitBytes (Decimal.digits n.natAbs) ++ rest) = _
          rw [number_digits true n.natAbs hrest, afterWhole_of_closes hrest]
          rw [decide_eq_true hneg] at hinteger
          rw [hinteger]
      · next hneg =>
          rw [hds, List.cons_append, scalar_digit hd, ← List.cons_append, ← hds,
            number_digits false n.natAbs hrest, afterWhole_of_closes hrest]
          rw [decide_eq_false hneg] at hinteger
          rw [hinteger]
  | str t =>
      rw [bytes_str, scalar, if_neg (by decide), if_neg (by decide), if_neg (by decide),
        if_neg (by decide), if_neg (by decide), if_pos rfl, string_encodeChars]

/-! ## Texts of lists and objects -/

/-- What stands behind a value in a list that is followed by `rest`. -/
def itemsTail : List Json → Bytes → Bytes
  | [], rest => ascii ']' :: rest
  | v :: vs, rest => ascii ',' :: (v.bytes ++ itemsTail vs rest)

/-- A member without its opening quote, and what follows it. -/
def memberTail (e : String × Json) (rest : Bytes) : Bytes :=
  Utf8.encodeChars (e.1.toList.flatMap escapeChar) ++
    ascii '"' :: ascii ':' :: (e.2.bytes ++ rest)

/-- What stands behind a member in an object that is followed by `rest`. -/
def membersTail : List (String × Json) → Bytes → Bytes
  | [], rest => ascii '\x7d' :: rest
  | e :: es, rest => ascii ',' :: ascii '"' :: memberTail e (membersTail es rest)

theorem closes_itemsTail (vs : List Json) (rest : Bytes) : Closes (itemsTail vs rest) := by
  intro b hb
  cases vs with
  | nil =>
      cases hb
      exact .inr (.inl rfl)
  | cons v vs =>
      cases hb
      exact .inl rfl

theorem closes_membersTail (es : List (String × Json)) (rest : Bytes) :
    Closes (membersTail es rest) := by
  intro b hb
  cases es with
  | nil =>
      cases hb
      exact .inr (.inr rfl)
  | cons e es =>
      cases hb
      exact .inl rfl

theorem bytes_arr_nil (rest : Bytes) :
    (Json.arr []).bytes ++ rest = ascii '[' :: ascii ']' :: rest := rfl

theorem bytes_arr_cons (v : Json) (vs : List Json) (rest : Bytes) :
    (Json.arr (v :: vs)).bytes ++ rest = ascii '[' :: (v.bytes ++ itemsTail vs rest) := by
  have hitems : ∀ (vs : List Json) (v : Json),
      Utf8.encodeChars (renderItems (v :: vs)) ++ ascii ']' :: rest =
        v.bytes ++ itemsTail vs rest := by
    intro vs
    induction vs with
    | nil =>
        intro v
        rfl
    | cons w vs ih =>
        intro v
        rw [renderItems, encodeChars_append, encodeChars_cons_ascii (by decide),
          List.append_assoc, List.cons_append, ih w]
        rfl
  rw [bytes, render, encodeChars_append, encodeChars_cons_ascii (by decide), List.append_assoc]
  exact congrArg (ascii '[' :: ·) (hitems vs v)

theorem bytes_obj_nil (rest : Bytes) :
    (Json.obj []).bytes ++ rest = ascii '\x7b' :: ascii '\x7d' :: rest := rfl

theorem encodeChars_member (k : String) (v : Json) (rest : Bytes) :
    Utf8.encodeChars (renderString k ++ ':' :: render v) ++ rest =
      ascii '"' :: memberTail (k, v) rest := by
  have hk := bytes_str k (ascii ':' :: (v.bytes ++ rest))
  rw [encodeChars_append, encodeChars_cons_ascii (by decide), List.append_assoc]
  exact hk

theorem bytes_obj_cons (e : String × Json) (es : List (String × Json)) (rest : Bytes) :
    (Json.obj (e :: es)).bytes ++ rest =
      ascii '\x7b' :: ascii '"' :: memberTail e (membersTail es rest) := by
  have hmembers : ∀ (es : List (String × Json)) (e : String × Json),
      Utf8.encodeChars (renderMembers (e :: es)) ++ ascii '\x7d' :: rest =
        ascii '"' :: memberTail e (membersTail es rest) := by
    intro es
    induction es with
    | nil =>
        intro e
        exact encodeChars_member e.1 e.2 (ascii '\x7d' :: rest)
    | cons f es ih =>
        intro e
        rw [renderMembers, encodeChars_append, encodeChars_cons_ascii (by decide),
          List.append_assoc, List.cons_append, ih f]
        exact encodeChars_member e.1 e.2 _
  rw [bytes, render, encodeChars_append, encodeChars_cons_ascii (by decide), List.append_assoc]
  exact congrArg (ascii '\x7b' :: ·) (hmembers es e)

/-! ## Reading them -/

theorem skipBlanks_cons {b : UInt8} (h : isJsonBlank b = false) (s : Bytes) :
    skipBlanks (b :: s) = b :: s := by
  rw [skipBlanks, List.dropWhile_cons_of_neg (by simp [h])]

section

variable {room : Nat} {outer s r t r' : Bytes} {b c : UInt8} {v : Json}

theorem value_scalar (hs : skipBlanks s = b :: r) (hb : Starts b)
    (hv : scalar (b :: r) = .ok (v, r')) (h : r'.length < s.length) :
    value room s = .ok (v, ⟨r', h⟩) := by
  rw [value]
  split
  · next hs' =>
      rw [hs] at hs'
      cases hs'
  · next hs' =>
      rw [hs] at hs'
      cases hs'
      rw [if_neg hb.ne_list, if_neg hb.ne_object]
      split
      · next hv' =>
          rw [hv] at hv'
          cases hv'
          rfl
      · next hv' =>
          rw [hv] at hv'
          cases hv'

theorem value_arr (hs : skipBlanks s = ascii '[' :: r) (hn : r.length < s.length)
    {vs : List Json} {q : Below s} (hvs : items room s [] true r hn = .ok (vs, q)) :
    value (room + 1) s = .ok (.arr vs, q) := by
  rw [value]
  split
  · next hs' =>
      rw [hs] at hs'
      cases hs'
  · next hs' =>
      rw [hs] at hs'
      cases hs'
      rw [if_pos rfl]
      dsimp only
      rw [hvs]

theorem value_obj (hs : skipBlanks s = ascii '\x7b' :: r) (hn : r.length < s.length)
    {ms : Keyed Json} {q : Below s} (hms : members room s [] true r hn = .ok (ms, q)) :
    value (room + 1) s = .ok (.obj ms, q) := by
  rw [value]
  split
  · next hs' =>
      rw [hs] at hs'
      cases hs'
  · next hs' =>
      rw [hs] at hs'
      cases hs'
      rw [if_neg (by decide), if_pos rfl]
      dsimp only
      rw [hms]

variable (hn : s.length < outer.length)
include hn

theorem items_end (done : List Json) (first : Bool) (hs : skipBlanks s = ascii ']' :: r)
    (h : r.length < outer.length) :
    items room outer done first s hn = .ok (done.reverse, ⟨r, h⟩) := by
  rw [items]
  split
  · next hs' =>
      rw [hs] at hs'
      cases hs'
  · next hs' =>
      rw [hs] at hs'
      cases hs'
      rw [if_pos rfl]

theorem items_first (done : List Json) (hs : skipBlanks s = b :: r) (hb : b ≠ ascii ']')
    {h : r'.length < (b :: r).length} (hv : value room (b :: r) = .ok (v, ⟨r', h⟩))
    (hn' : r'.length < outer.length) :
    items room outer done true s hn = items room outer (v :: done) false r' hn' := by
  rw [items]
  split
  · next hs' =>
      rw [hs] at hs'
      cases hs'
  · next hs' =>
      rw [hs] at hs'
      cases hs'
      rw [if_neg hb, if_pos rfl]
      simp only [hv]

theorem items_next (done : List Json) (hs : skipBlanks s = ascii ',' :: r)
    (hr : skipBlanks r = c :: t) (hc : c ≠ ascii ']') {h : r'.length < (c :: t).length}
    (hv : value room (c :: t) = .ok (v, ⟨r', h⟩)) (hn' : r'.length < outer.length) :
    items room outer done false s hn = items room outer (v :: done) false r' hn' := by
  rw [items]
  split
  · next hs' =>
      rw [hs] at hs'
      cases hs'
  · next hs' =>
      rw [hs] at hs'
      cases hs'
      rw [if_neg (by decide), if_neg (by decide), if_pos rfl]
      split
      · next hr' =>
          rw [hr] at hr'
          cases hr'
      · next hr' =>
          rw [hr] at hr'
          cases hr'
          rw [if_neg hc]
          simp only [hv]

theorem members_end (done : Keyed Json) (first : Bool) (hs : skipBlanks s = ascii '\x7d' :: r)
    (h : r.length < outer.length) :
    members room outer done first s hn = .ok (done, ⟨r, h⟩) := by
  rw [members]
  split
  · next hs' =>
      rw [hs] at hs'
      cases hs'
  · next hs' =>
      rw [hs] at hs'
      cases hs'
      rw [if_pos rfl]

theorem members_first (done : Keyed Json) (hs : skipBlanks s = ascii '"' :: r)
    (hn' : r.length < outer.length) :
    members room outer done true s hn = member room outer done r hn' := by
  rw [members]
  split
  · next hs' =>
      rw [hs] at hs'
      cases hs'
  · next hs' =>
      rw [hs] at hs'
      cases hs'
      rw [if_neg (by decide), if_pos rfl, if_pos rfl]

theorem members_next (done : Keyed Json) (hs : skipBlanks s = ascii ',' :: r)
    (hr : skipBlanks r = ascii '"' :: t) (hn' : t.length < outer.length) :
    members room outer done false s hn = member room outer done t hn' := by
  rw [members]
  split
  · next hs' =>
      rw [hs] at hs'
      cases hs'
  · next hs' =>
      rw [hs] at hs'
      cases hs'
      rw [if_neg (by decide), if_neg (by decide), if_pos rfl]
      split
      · next hr' =>
          rw [hr] at hr'
          cases hr'
      · next hr' =>
          rw [hr] at hr'
          cases hr'
          rw [if_pos rfl]

theorem member_eq (done : Keyed Json) {k : String} (hk : string s = .ok (k, r))
    (hc : takeColon r = .ok t) {h : r'.length < t.length}
    (hv : value room t = .ok (v, ⟨r', h⟩)) (hn' : r'.length < outer.length) :
    member room outer done s hn = members room outer (done.insert k v) false r' hn' := by
  rw [member]
  split
  · next hk' =>
      rw [hk] at hk'
      cases hk'
  · next hk' =>
      rw [hk] at hk'
      cases hk'
      split
      · next hc' =>
          rw [hc] at hc'
          cases hc'
      · next hc' =>
          rw [hc] at hc'
          cases hc'
          simp only [hv]

end

/-- The value is read back from its text in a room, whatever closes it. The
first byte tells that a value begins. -/
structure ReadsBack (room : Nat) (v : Json) : Prop where
  opens : ∃ b s, v.bytes = b :: s ∧ isJsonBlank b = false ∧ b ≠ ascii ']'
  reads : ∀ {rest s : Bytes}, Closes rest → v.bytes ++ rest = s →
    ∃ h, value room s = .ok (v, ⟨rest, h⟩)

theorem ReadsBack.exists_cons {room : Nat} {v : Json} (h : ReadsBack room v) {rest : Bytes}
    (hrest : Closes rest) :
    ∃ b s, skipBlanks (v.bytes ++ rest) = b :: s ∧ b ≠ ascii ']' ∧
      ∃ h, value room (b :: s) = .ok (v, ⟨rest, h⟩) := by
  obtain ⟨b, s, hb, hblank, hend⟩ := h.opens
  have hs : v.bytes ++ rest = b :: (s ++ rest) := by
    rw [hb]
    rfl
  refine ⟨b, s ++ rest, ?_, hend, h.reads hrest hs⟩
  rw [hs]
  exact skipBlanks_cons hblank _

theorem Scalar.readsBack {v : Json} (h : Scalar v) (room : Nat) : ReadsBack room v := by
  obtain ⟨b, s, hb, hstarts⟩ := h.exists_bytes
  refine ⟨⟨b, s, hb, hstarts.not_blank, hstarts.ne_endList⟩, fun {rest} _ hrest hs => ?_⟩
  have hv := scalar_bytes h hrest
  subst hs
  rw [hb] at hv ⊢
  exact ⟨length_scalar hv, value_scalar (skipBlanks_cons hstarts.not_blank _) hstarts hv _⟩

/-- Behind a value in a list the reader comes to the values that follow. -/
theorem items_itemsTail {room : Nat} {vs : List Json} (h : ∀ v ∈ vs, ReadsBack room v)
    {outer : Bytes} (done : List Json) (rest : Bytes)
    (hn : (itemsTail vs rest).length < outer.length) :
    ∃ hr, items room outer done false (itemsTail vs rest) hn =
      .ok (done.reverse ++ vs, ⟨rest, hr⟩) := by
  induction vs generalizing done with
  | nil =>
      have hr : rest.length < outer.length := Nat.lt_of_succ_lt hn
      refine ⟨hr, ?_⟩
      rw [items_end hn done false (skipBlanks_cons rfl rest) hr, List.append_nil]
  | cons v vs ih =>
      obtain ⟨b, s, hskip, hend, hlt, hv⟩ :=
        (h v List.mem_cons_self).exists_cons (closes_itemsTail vs rest)
      have hn' : (itemsTail vs rest).length < outer.length := by
        rw [itemsTail, List.length_cons, List.length_append] at hn
        omega
      obtain ⟨hr, hvs⟩ := ih (fun w hw => h w (List.mem_cons_of_mem v hw)) (v :: done) hn'
      refine ⟨hr, ?_⟩
      rw [items_next hn done (skipBlanks_cons rfl _) hskip hend hv hn', hvs, List.reverse_cons,
        List.append_assoc]
      rfl

/-- A member is entered, and the reader goes on behind it. -/
theorem member_memberTail {room : Nat} {e : String × Json} (he : ReadsBack room e.2)
    {outer rest : Bytes} (hrest : Closes rest) (done : Keyed Json)
    (hn : (memberTail e rest).length < outer.length) (hn' : rest.length < outer.length) :
    member room outer done (memberTail e rest) hn =
      members room outer (done.insert e.1 e.2) false rest hn' := by
  obtain ⟨hlt, hv⟩ := he.reads hrest rfl
  have hcolon : takeColon (ascii ':' :: (e.2.bytes ++ rest)) = .ok (e.2.bytes ++ rest) := by
    rw [takeColon, skipBlanks_cons rfl]
    exact if_pos rfl
  exact member_eq hn done (string_encodeChars e.1 _) hcolon hv hn'

/-- Behind a member of an object the reader enters the members that follow. -/
theorem members_membersTail {room : Nat} {es : List (String × Json)}
    (h : ∀ e ∈ es, ReadsBack room e.2) {outer : Bytes} (done : Keyed Json) (rest : Bytes)
    (hn : (membersTail es rest).length < outer.length) :
    ∃ hr, members room outer done false (membersTail es rest) hn =
      .ok (es.foldl (fun m e => m.insert e.1 e.2) done, ⟨rest, hr⟩) := by
  induction es generalizing done with
  | nil =>
      have hr : rest.length < outer.length := Nat.lt_of_succ_lt hn
      exact ⟨hr, members_end hn done false (skipBlanks_cons rfl rest) hr⟩
  | cons e es ih =>
      have hmember : (memberTail e (membersTail es rest)).length < outer.length := by
        rw [membersTail, List.length_cons, List.length_cons] at hn
        omega
      have hn' : (membersTail es rest).length < outer.length := by
        rw [memberTail, List.length_append, List.length_cons, List.length_cons,
          List.length_append] at hmember
        omega
      obtain ⟨hr, hes⟩ :=
        ih (fun f hf => h f (List.mem_cons_of_mem e hf)) (done.insert e.1 e.2) hn'
      refine ⟨hr, ?_⟩
      rw [members_next hn done (skipBlanks_cons rfl _) (skipBlanks_cons rfl _) hmember,
        member_memberTail (h e List.mem_cons_self) (closes_membersTail es rest) done hmember hn',
        hes]
      rfl

theorem readsBack_arr {room : Nat} {vs : List Json} (h : ∀ v ∈ vs, ReadsBack room v) :
    ReadsBack (room + 1) (.arr vs) := by
  refine ⟨⟨ascii '[', _, rfl, rfl, by decide⟩, fun {rest s} hrest hs => ?_⟩
  cases vs with
  | nil =>
      rw [bytes_arr_nil] at hs
      subst hs
      have hr : rest.length < (ascii '[' :: ascii ']' :: rest).length :=
        Nat.lt_of_succ_lt (Nat.lt_succ_self _)
      refine ⟨hr, value_arr (skipBlanks_cons rfl _) (Nat.lt_succ_self _) ?_⟩
      exact items_end _ [] true (skipBlanks_cons rfl rest) hr
  | cons v vs =>
      rw [bytes_arr_cons] at hs
      subst hs
      obtain ⟨b, s, hskip, hend, hlt, hv⟩ :=
        (h v List.mem_cons_self).exists_cons (closes_itemsTail vs rest)
      have hn : (itemsTail vs rest).length <
          (ascii '[' :: (v.bytes ++ itemsTail vs rest)).length := by
        rw [List.length_cons, List.length_append]
        omega
      obtain ⟨hr, hvs⟩ :=
        items_itemsTail (fun w hw => h w (List.mem_cons_of_mem v hw)) [v] rest hn
      refine ⟨hr, value_arr (skipBlanks_cons rfl _) (Nat.lt_succ_self _) ?_⟩
      rw [items_first _ [] hskip hend hv hn, hvs]
      rfl

/-- An object is read back in the order of its names, whatever the order of its
members in the text. -/
theorem value_obj_bytes {room : Nat} {es : List (String × Json)}
    (h : ∀ e ∈ es, ReadsBack room e.2) {rest s : Bytes} (hs : (Json.obj es).bytes ++ rest = s) :
    ∃ h, value (room + 1) s = .ok (.obj (Keyed.ofList es), ⟨rest, h⟩) := by
  cases es with
  | nil =>
      rw [bytes_obj_nil] at hs
      subst hs
      have hr : rest.length < (ascii '\x7b' :: ascii '\x7d' :: rest).length :=
        Nat.lt_of_succ_lt (Nat.lt_succ_self _)
      refine ⟨hr, value_obj (skipBlanks_cons rfl _) (Nat.lt_succ_self _) ?_⟩
      exact members_end _ [] true (skipBlanks_cons rfl rest) hr
  | cons e es =>
      rw [bytes_obj_cons] at hs
      subst hs
      have hmember : (memberTail e (membersTail es rest)).length <
          (ascii '\x7b' :: ascii '"' :: memberTail e (membersTail es rest)).length :=
        Nat.lt_of_succ_lt (Nat.lt_succ_self _)
      have hn : (membersTail es rest).length <
          (ascii '\x7b' :: ascii '"' :: memberTail e (membersTail es rest)).length := by
        refine Nat.lt_of_le_of_lt ?_ hmember
        rw [memberTail, List.length_append, List.length_cons, List.length_cons, List.length_append]
        omega
      obtain ⟨hr, hes⟩ := members_membersTail (fun f hf => h f (List.mem_cons_of_mem e hf))
        (Keyed.insert e.1 e.2 []) rest hn
      refine ⟨hr, value_obj (skipBlanks_cons rfl _) (Nat.lt_succ_self _) ?_⟩
      rw [members_first _ [] (skipBlanks_cons rfl _) hmember,
        member_memberTail (h e List.mem_cons_self) (closes_membersTail es rest) [] hmember hn]
      exact hes

/-! ## Whole values -/

/-- The value can be read back from its text: its numbers are integers of 64
bits, and it is nested at most `room` deep. The members of an object are always
in order. -/
inductive Fits : Nat → Json → Prop where
  | scalar {room : Nat} {v : Json} : Scalar v → Fits room v
  | arr {room : Nat} {items : List Json} : (∀ v ∈ items, Fits room v) → Fits (room + 1) (.arr items)
  | obj {room : Nat} {members : List (String × Json)} : Keyed.Ordered members →
      (∀ e ∈ members, Fits room e.2) → Fits (room + 1) (.obj members)

theorem Fits.readsBack {room : Nat} {v : Json} (h : Fits room v) : ReadsBack room v := by
  induction h with
  | scalar hv => exact hv.readsBack _
  | arr _ ih => exact readsBack_arr ih
  | obj hordered _ ih =>
      refine ⟨⟨ascii '\x7b', _, rfl, rfl, by decide⟩, fun hrest hs => ?_⟩
      have hvalue := value_obj_bytes ih hs
      rw [Keyed.ofList_of_ordered hordered] at hvalue
      exact hvalue

/-- What has been written as a whole text is read back. -/
theorem parse_bytes {v : Json} (h : Fits depth v) : parse v.bytes = .ok v := by
  obtain ⟨hr, hv⟩ := h.readsBack.reads closes_nil (List.append_nil v.bytes)
  rw [parse, hv]
  rfl

theorem parse_obj_bytes {es : List (String × Json)} (h : ∀ e ∈ es, Fits (depth - 1) e.2) :
    parse (Json.obj es).bytes = .ok (.obj (Keyed.ofList es)) := by
  obtain ⟨hr, hv⟩ := value_obj_bytes (fun e he => (h e he).readsBack) (List.append_nil _)
  have hv' : value depth (Json.obj es).bytes = .ok (.obj (Keyed.ofList es), ⟨[], hr⟩) := hv
  rw [parse, hv']
  rfl

end RemoteJobs.Json
