import KubePlugin.Text.Raw

namespace KubePlugin

namespace Utf8

theorem toNat_byte {n : Nat} (h : n < 256) : (UInt8.ofNat n).toNat = n :=
  UInt8.toNat_ofNat_of_lt' h

theorem decode.go_cons (s : State) (b : UInt8) (rest : List UInt8) :
    go s (b :: rest) = (step s b).1 ++ go (step s b).2 rest := rfl

theorem step_ascii {n : Nat} (h : n ≤ 0x7F) :
    step .start (UInt8.ofNat n) = ([.char (Char.ofNat n)], .start) := by
  simp only [step, lead]
  rw [toNat_byte (by omega), if_pos (by omega)]

theorem step_leadTwo {n : Nat} (h : 2 ≤ n) (h' : n < 0x20) :
    step .start (UInt8.ofNat (n + 0xC0))
      =
    ([], .inside [UInt8.ofNat (n + 0xC0)] n 0 0x80 0xBF) := by
  simp only [step, lead]
  rw [toNat_byte (by omega), if_neg (by omega), if_neg (by omega), if_pos (by omega)]
  simp

theorem step_leadThree {n : Nat} (h : n < 0x10) :
    step .start (UInt8.ofNat (n + 0xE0))
      =
    ([], .inside [UInt8.ofNat (n + 0xE0)] n 1 (if n = 0 then 0xA0 else 0x80)
      (if n = 0xD then 0x9F else 0xBF)) := by
  simp only [step, lead]
  rw [toNat_byte (by omega), if_neg (by omega), if_neg (by omega), if_neg (by omega)]
  by_cases hzero : n = 0
  . subst hzero
    simp
  . by_cases hd : n = 0xD
    . subst hd
      simp
    . rw [if_neg (by omega), if_neg (by omega), if_pos (by omega)]
      simp [hzero, hd]

theorem step_leadFour {n : Nat} (h : n ≤ 4) :
    step .start (UInt8.ofNat (n + 0xF0))
      =
    ([], .inside [UInt8.ofNat (n + 0xF0)] n 2 (if n = 0 then 0x90 else 0x80)
      (if n = 4 then 0x8F else 0xBF)) := by
  simp only [step, lead]
  rw [toNat_byte (by omega), if_neg (by omega), if_neg (by omega), if_neg (by omega),
    if_neg (by omega), if_neg (by omega), if_neg (by omega)]
  by_cases hzero : n = 0
  . subst hzero
    simp
  . by_cases hfour : n = 4
    . subst hfour
      simp
    . rw [if_neg (by omega), if_pos (by omega)]
      simp [hzero, hfour]

theorem step_middle {seen : List UInt8} {value more low high n : Nat} (h : low ≤ n + 0x80)
    (h' : n + 0x80 ≤ high) (hn : n < 0x80) :
    step (.inside seen value (more + 1) low high) (UInt8.ofNat (n + 0x80))
      =
    ([], .inside (seen ++ [UInt8.ofNat (n + 0x80)]) (value * 64 + n) more 0x80 0xBF) := by
  simp only [step]
  rw [toNat_byte (by omega), if_pos ⟨h, h'⟩, Nat.add_sub_cancel]

theorem step_last {seen : List UInt8} {value low high n : Nat} (h : low ≤ n + 0x80)
    (h' : n + 0x80 ≤ high) (hn : n < 0x80) :
    step (.inside seen value 0 low high) (UInt8.ofNat (n + 0x80))
      =
    ([.char (Char.ofNat (value * 64 + n))], .start) := by
  simp only [step]
  rw [toNat_byte (by omega), if_pos ⟨h, h'⟩, Nat.add_sub_cancel]

theorem decode.go_encodeChar (c : Char) (rest : List UInt8) :
    go .start (String.utf8EncodeChar c ++ rest) = .char c :: go .start rest := by
  have hvalid : c.val.toNat < 0xD800 ∨ 0xDFFF < c.val.toNat ∧ c.val.toNat < 0x110000 := c.valid
  have hchar : Char.ofNat c.val.toNat = c := Char.ofNat_toNat c
  unfold String.utf8EncodeChar
  generalize c.val.toNat = v at hvalid hchar
  dsimp only
  split
  . simp only [List.cons_append, List.nil_append, go_cons]
    rw [step_ascii (by omega), hchar]
    rfl
  . split
    . simp only [List.cons_append, List.nil_append, go_cons]
      rw [step_leadTwo (by omega) (by omega)]
      dsimp only
      rw [step_last (by omega) (by omega) (by omega)]
      have hv : v / 64 % 0x20 * 64 + v % 0x40 = v := by omega
      rw [hv, hchar]
      rfl
    . split
      . simp only [List.cons_append, List.nil_append, go_cons]
        rw [step_leadThree (by omega)]
        dsimp only
        rw [step_middle (by split <;> omega) (by split <;> omega) (by omega)]
        dsimp only
        rw [step_last (by omega) (by omega) (by omega)]
        have hv : (v / 4096 % 0x10 * 64 + v / 64 % 0x40) * 64 + v % 0x40 = v := by omega
        rw [hv, hchar]
        rfl
      . simp only [List.cons_append, List.nil_append, go_cons]
        rw [step_leadFour (by omega)]
        dsimp only
        rw [step_middle (by split <;> omega) (by split <;> omega) (by omega)]
        dsimp only
        rw [step_middle (by omega) (by omega) (by omega)]
        dsimp only
        rw [step_last (by omega) (by omega) (by omega)]
        have hv : ((v / 262144 % 0x08 * 64 + v / 4096 % 0x40) * 64 + v / 64 % 0x40) * 64 + v % 0x40
            = v := by omega
        rw [hv, hchar]
        rfl

@[simp]
theorem decode_encode (cs : List Char) : decode (encode cs) = cs.map .char := by
  unfold decode encode
  induction cs with
  | nil => rfl
  | cons c cs ih =>
    rw [List.flatMap_cons, decode.go_encodeChar, ih, List.map_cons]

@[simp]
theorem chars?_map_char (cs : List Char) : chars? (cs.map .char) = some cs := by
  induction cs with
  | nil => rfl
  | cons c cs ih => simp [chars?, ih]

@[simp]
theorem decode?_encode (cs : List Char) : decode? (encode cs) = some cs := by
  simp [decode?]

theorem encode_injective {cs ds : List Char} (h : encode cs = encode ds) : cs = ds := by
  have := congrArg decode? h
  simpa using this

theorem encode_toList_inj {s t : String} : encode s.toList = encode t.toList ↔ s = t := by
  constructor
  . intro h
    exact String.toList_injective (encode_injective h)
  . intro h
    rw [h]

theorem encodeChar_ascii {c : Char} (h : c.toNat ≤ 0x7F) :
    String.utf8EncodeChar c = [UInt8.ofNat c.toNat] := by
  unfold String.utf8EncodeChar
  exact if_pos h

theorem high_of_mem_encodeChar {c : Char} (h : 0x7F < c.toNat) {b : UInt8}
    (hb : b ∈ String.utf8EncodeChar c) : 0x80 ≤ b.toNat := by
  unfold String.utf8EncodeChar at hb
  change 0x7F < c.val.toNat at h
  generalize c.val.toNat = v at h hb
  dsimp only at hb
  rw [if_neg (by omega)] at hb
  split at hb
  . simp only [List.mem_cons, List.not_mem_nil, or_false] at hb
    rcases hb with rfl | rfl <;> rw [toNat_byte (by omega)] <;> omega
  . split at hb
    . simp only [List.mem_cons, List.not_mem_nil, or_false] at hb
      rcases hb with rfl | rfl | rfl <;> rw [toNat_byte (by omega)] <;> omega
    . simp only [List.mem_cons, List.not_mem_nil, or_false] at hb
      rcases hb with rfl | rfl | rfl | rfl <;> rw [toNat_byte (by omega)] <;> omega

theorem mem_encodeChar_ascii {a c : Char} (ha : a.toNat ≤ 0x7F) :
    UInt8.ofNat a.toNat ∈ String.utf8EncodeChar c ↔ c = a := by
  constructor
  . intro h
    by_cases hc : c.toNat ≤ 0x7F
    . rw [encodeChar_ascii hc, List.mem_singleton, ← UInt8.toNat_inj, toNat_byte (by omega),
        toNat_byte (by omega)] at h
      exact Char.toNat_inj.mp h.symm
    . have := high_of_mem_encodeChar (by omega) h
      rw [toNat_byte (by omega)] at this
      omega
  . intro h
    rw [h, encodeChar_ascii ha]
    apply List.mem_singleton_self

theorem mem_encode_ascii {a : Char} {cs : List Char} (ha : a.toNat ≤ 0x7F) :
    UInt8.ofNat a.toNat ∈ encode cs ↔ a ∈ cs := by
  simp only [encode, List.mem_flatMap, mem_encodeChar_ascii ha, exists_eq_right]

theorem head?_encode_ascii {a : Char} {cs : List Char} (ha : a.toNat ≤ 0x7F) :
    (encode cs).head? = some (UInt8.ofNat a.toNat) ↔ cs.head? = some a := by
  cases cs with
  | nil => simp
  | cons c cs =>
    have hmem : (encode (c :: cs)).head? = (String.utf8EncodeChar c).head? := by
      obtain ⟨b, bs, hb⟩ := List.exists_cons_of_ne_nil (String.utf8EncodeChar_ne_nil (c := c))
      rw [encode, List.flatMap_cons, hb]
      rfl
    rw [hmem, List.head?_cons, Option.some_inj]
    constructor
    . intro h
      exact (mem_encodeChar_ascii ha).mp (List.mem_of_head? h)
    . intro h
      rw [h, encodeChar_ascii ha]
      rfl

theorem val_ofNat {v : Nat} (h : v.isValidChar) : (Char.ofNat v).val.toNat = v := by
  unfold Char.ofNat
  rw [dif_pos h]
  rfl

theorem encodeChar_two {n m : Nat} (hn : 2 ≤ n) (hn' : n < 0x20) (hm : m < 0x40) :
    String.utf8EncodeChar (Char.ofNat (n * 64 + m))
      =
    [UInt8.ofNat (n + 0xC0), UInt8.ofNat (m + 0x80)] := by
  unfold String.utf8EncodeChar
  rw [val_ofNat (.inl (by omega))]
  dsimp only
  rw [if_neg (by omega), if_pos (by omega)]
  have hfirst : (n * 64 + m) / 64 % 0x20 = n := by omega
  have hlast : (n * 64 + m) % 0x40 = m := by omega
  rw [hfirst, hlast]

theorem encodeChar_three {n m k : Nat} (hn : n < 0x10) (hm : m < 0x40) (hk : k < 0x40)
    (hlow : 0x20 ≤ n * 64 + m) (hsurrogate : n * 64 + m < 0x360 ∨ 0x380 ≤ n * 64 + m) :
    String.utf8EncodeChar (Char.ofNat ((n * 64 + m) * 64 + k))
      =
    [UInt8.ofNat (n + 0xE0), UInt8.ofNat (m + 0x80), UInt8.ofNat (k + 0x80)] := by
  have hvalid : ((n * 64 + m) * 64 + k).isValidChar := by
    unfold Nat.isValidChar
    omega
  unfold String.utf8EncodeChar
  rw [val_ofNat hvalid]
  dsimp only
  rw [if_neg (by omega), if_neg (by omega), if_pos (by omega)]
  have hfirst : ((n * 64 + m) * 64 + k) / 4096 % 0x10 = n := by omega
  have hmiddle : ((n * 64 + m) * 64 + k) / 64 % 0x40 = m := by omega
  have hlast : ((n * 64 + m) * 64 + k) % 0x40 = k := by omega
  rw [hfirst, hmiddle, hlast]

theorem encodeChar_four {n m k l : Nat} (hm : m < 0x40) (hk : k < 0x40) (hl : l < 0x40)
    (hlow : 0x10 ≤ n * 64 + m) (hhigh : n * 64 + m < 0x110) :
    String.utf8EncodeChar (Char.ofNat (((n * 64 + m) * 64 + k) * 64 + l))
      =
    [UInt8.ofNat (n + 0xF0), UInt8.ofNat (m + 0x80), UInt8.ofNat (k + 0x80),
      UInt8.ofNat (l + 0x80)] := by
  unfold String.utf8EncodeChar
  rw [val_ofNat (.inr (by omega))]
  dsimp only
  rw [if_neg (by omega), if_neg (by omega), if_neg (by omega)]
  have hfirst : (((n * 64 + m) * 64 + k) * 64 + l) / 262144 % 0x08 = n := by omega
  have hsecond : (((n * 64 + m) * 64 + k) * 64 + l) / 4096 % 0x40 = m := by omega
  have hthird : (((n * 64 + m) * 64 + k) * 64 + l) / 64 % 0x40 = k := by omega
  have hlast : (((n * 64 + m) * 64 + k) * 64 + l) % 0x40 = l := by omega
  rw [hfirst, hsecond, hthird, hlast]

def State.seen : State → List UInt8
  | .start => []
  | .inside seen .. => seen

/-- The states that are reached from the start: the bytes so far are the first ones of a character,
and the bounds for the next one leave out what has a shorter form and what is no character. -/
inductive State.Reached : State → Prop where
  | start : Reached .start
  | two {n : Nat} : 2 ≤ n → n < 0x20 → Reached (.inside [UInt8.ofNat (n + 0xC0)] n 0 0x80 0xBF)
  | three {n : Nat} : n < 0x10 →
    Reached (.inside [UInt8.ofNat (n + 0xE0)] n 1 (if n = 0 then 0xA0 else 0x80)
      (if n = 0xD then 0x9F else 0xBF))
  | threeSecond {n m : Nat} : n < 0x10 → m < 0x40 → 0x20 ≤ n * 64 + m →
    n * 64 + m < 0x360 ∨ 0x380 ≤ n * 64 + m →
    Reached (.inside [UInt8.ofNat (n + 0xE0), UInt8.ofNat (m + 0x80)] (n * 64 + m) 0 0x80 0xBF)
  | four {n : Nat} : n ≤ 4 →
    Reached (.inside [UInt8.ofNat (n + 0xF0)] n 2 (if n = 0 then 0x90 else 0x80)
      (if n = 4 then 0x8F else 0xBF))
  | fourSecond {n m : Nat} : m < 0x40 → 0x10 ≤ n * 64 + m → n * 64 + m < 0x110 →
    Reached (.inside [UInt8.ofNat (n + 0xF0), UInt8.ofNat (m + 0x80)] (n * 64 + m) 1 0x80 0xBF)
  | fourThird {n m k : Nat} : m < 0x40 → 0x10 ≤ n * 64 + m → n * 64 + m < 0x110 → k < 0x40 →
    Reached (.inside [UInt8.ofNat (n + 0xF0), UInt8.ofNat (m + 0x80), UInt8.ofNat (k + 0x80)]
      ((n * 64 + m) * 64 + k) 0 0x80 0xBF)

inductive Advances (s : State) (b : UInt8) : Prop where
  | on {s' : State} : step s b = ([], s') → s'.Reached → s'.seen = s.seen ++ [b] → Advances s b
  | char {c : Char} : step s b = ([.char c], .start) → String.utf8EncodeChar c = s.seen ++ [b] →
    Advances s b
  | fault (bytes : List UInt8) : .fault bytes ∈ (step s b).1 → Advances s b

theorem exists_ofNat (b : UInt8) : ∃ n, n < 256 ∧ b = UInt8.ofNat n :=
  ⟨b.toNat, b.toNat_lt, UInt8.ofNat_toNat.symm⟩

theorem advances_start (b : UInt8) : Advances .start b := by
  obtain ⟨n, hn, rfl⟩ := exists_ofNat b
  rcases Nat.lt_or_ge n 0x80 with h | h
  . apply Advances.char (step_ascii (by omega))
    rw [encodeChar_ascii]
    . rw [show (Char.ofNat n).toNat = n from val_ofNat (.inl (by omega))]
      rfl
    . rw [show (Char.ofNat n).toNat = n from val_ofNat (.inl (by omega))]
      omega
  rcases Nat.lt_or_ge n 0xC2 with h2 | h2
  . apply Advances.fault [UInt8.ofNat n]
    simp [step, lead, toNat_byte hn, Nat.not_lt.mpr h, h2]
  rcases Nat.lt_or_ge n 0xE0 with h3 | h3
  . obtain ⟨m, rfl⟩ := Nat.exists_eq_add_of_le' (show 0xC0 ≤ n by omega)
    exact .on (step_leadTwo (by omega) (by omega)) (.two (by omega) (by omega)) rfl
  rcases Nat.lt_or_ge n 0xF0 with h4 | h4
  . obtain ⟨m, rfl⟩ := Nat.exists_eq_add_of_le' h3
    exact .on (step_leadThree (by omega)) (.three (by omega)) rfl
  rcases Nat.lt_or_ge n 0xF5 with h5 | h5
  . obtain ⟨m, rfl⟩ := Nat.exists_eq_add_of_le' h4
    exact .on (step_leadFour (by omega)) (.four (by omega)) rfl
  . apply Advances.fault [UInt8.ofNat n]
    simp only [step, lead, toNat_byte hn]
    rw [if_neg (by omega), if_neg (by omega), if_neg (by omega), if_neg (by omega),
      if_neg (by omega), if_neg (by omega), if_neg (by omega), if_neg (by omega),
      if_neg (by omega)]
    exact List.mem_singleton_self _

theorem advances_inside {seen : List UInt8} {value more low high : Nat} (hlow : 0x80 ≤ low)
    (hhigh : high ≤ 0xBF)
    (h : ∀ m, m < 0x40 → low ≤ m + 0x80 → m + 0x80 ≤ high →
      Advances (.inside seen value more low high) (UInt8.ofNat (m + 0x80)))
    (b : UInt8) : Advances (.inside seen value more low high) b := by
  obtain ⟨n, hn, rfl⟩ := exists_ofNat b
  by_cases hrange : low ≤ n ∧ n ≤ high
  . obtain ⟨m, rfl⟩ := Nat.exists_eq_add_of_le' (show 0x80 ≤ n by omega)
    exact h m (by omega) hrange.1 hrange.2
  . apply Advances.fault seen
    simp only [step, toNat_byte hn]
    rw [if_neg hrange]
    exact List.mem_cons_self

theorem State.Reached.advances {s : State} (h : s.Reached) (b : UInt8) : Advances s b := by
  cases h with
  | start => exact advances_start b
  | two hn hn' =>
    refine advances_inside (by omega) (by omega) ?_ b
    intro m hm hlow hhigh
    exact .char (step_last hlow hhigh (by omega)) (encodeChar_two hn hn' hm)
  | three hn =>
    -- The bounds leave out the characters with two bytes and the surrogates.
    refine advances_inside (by split <;> omega) (by split <;> omega) ?_ b
    intro m hm hlow hhigh
    refine .on (step_middle hlow hhigh (by omega)) (.threeSecond hn hm ?_ ?_) rfl
    . split at hlow <;> omega
    . split at hhigh <;> omega
  | threeSecond hn hm hlow hsurrogate =>
    refine advances_inside (by omega) (by omega) ?_ b
    intro k hk hlow' hhigh'
    exact .char (step_last hlow' hhigh' (by omega)) (encodeChar_three hn hm hk hlow hsurrogate)
  | four hn =>
    refine advances_inside (by split <;> omega) (by split <;> omega) ?_ b
    intro m hm hlow hhigh
    refine .on (step_middle hlow hhigh (by omega)) (.fourSecond hm ?_ ?_) rfl
    . split at hlow <;> omega
    . split at hhigh <;> omega
  | fourSecond hm hlow hhigh =>
    refine advances_inside (by omega) (by omega) ?_ b
    intro k hk hlow' hhigh'
    exact .on (step_middle hlow' hhigh' (by omega)) (.fourThird hm hlow hhigh hk) rfl
  | fourThird hm hlow hhigh hk =>
    refine advances_inside (by omega) (by omega) ?_ b
    intro l hl hlow' hhigh'
    exact .char (step_last hlow' hhigh' (by omega)) (encodeChar_four hm hk hl hlow hhigh)

theorem chars?_eq_none {pieces : List Piece} {bytes : List UInt8} (h : .fault bytes ∈ pieces) :
    chars? pieces = none := by
  induction pieces with
  | nil => contradiction
  | cons piece rest ih =>
    cases piece with
    | fault _ => rfl
    | char c =>
      have hrest : .fault bytes ∈ rest := by simpa using h
      simp [chars?, ih hrest]

theorem encode_of_go {s : State} (hs : s.Reached) {bytes : List UInt8} {cs : List Char}
    (h : chars? (decode.go s bytes) = some cs) : encode cs = s.seen ++ bytes := by
  -- Generalised over the state, since the induction is on bytes and not on characters.
  induction bytes generalizing s cs with
  | nil =>
    cases s with
    | start =>
      injection h with h
      rw [← h]
      rfl
    | inside _ _ _ _ _ => contradiction
  | cons b bytes ih =>
    rw [decode.go_cons] at h
    cases hs.advances b with
    | on hstep hs' hseen =>
      rw [hstep] at h
      rw [ih hs' h, hseen]
      simp
    | @char c hstep hc =>
      rw [hstep] at h
      simp only [List.cons_append, List.nil_append, chars?, Option.map_eq_some_iff] at h
      obtain ⟨cs', h, rfl⟩ := h
      have hrest := ih .start h
      rw [encode, List.flatMap_cons, hc, ← encode, hrest]
      simp [State.seen]
    | fault _ hmem =>
      rw [chars?_eq_none (List.mem_append_left _ hmem)] at h
      contradiction

theorem decode?_eq_some_iff {bytes : List UInt8} {cs : List Char} :
    decode? bytes = some cs ↔ bytes = encode cs := by
  constructor
  . intro h
    exact (encode_of_go .start h).symm
  . intro h
    rw [h, decode?_encode]

theorem length_lead_le (b : UInt8) : (lead b).1.length ≤ 1 := by
  unfold lead
  dsimp only
  repeat' split
  all_goals simp

theorem exists_step_eq_fault {s : State} {b : UInt8} {bytes : List UInt8}
    (h : .fault bytes ∈ (step s b).1) : ∃ first rest, (step s b).1 = .fault first :: rest := by
  cases s with
  | start =>
    have hlength : (step .start b).1.length ≤ 1 := length_lead_le b
    obtain ⟨before, rest, hpieces⟩ := List.append_of_mem h
    rw [hpieces, List.length_append, List.length_cons] at hlength
    have hbefore : before = [] := by
      apply List.eq_nil_of_length_eq_zero
      omega
    subst hbefore
    exact ⟨bytes, rest, hpieces⟩
  | inside seen value more low high =>
    simp only [step] at h ⊢
    by_cases hrange : low ≤ b.toNat ∧ b.toNat ≤ high
    . rw [if_pos hrange] at h
      cases more <;> simp at h
    . rw [if_neg hrange]
      exact ⟨_, _, rfl⟩

theorem exists_go_eq_cons {s : State} (hs : s.Reached) {bytes : List UInt8}
    (hne : s.seen ++ bytes ≠ []) :
    ∃ piece rest, decode.go s bytes = piece :: rest
      ∧ ∀ c, piece = .char c → String.utf8EncodeChar c <+: s.seen ++ bytes := by
  induction bytes generalizing s with
  | nil =>
    cases s with
    | start => contradiction
    | inside seen _ _ _ _ => exact ⟨.fault seen, [], rfl, by simp⟩
  | cons b bytes ih =>
    rw [decode.go_cons]
    cases hs.advances b with
    | on hstep hs' hseen =>
      obtain ⟨piece, rest, hgo, hpiece⟩ := ih hs' (by simp [hseen])
      refine ⟨piece, rest, ?_, ?_⟩
      . rw [hstep]
        exact hgo
      . intro c hc
        have := hpiece c hc
        rwa [hseen, List.append_assoc] at this
    | @char c hstep hc =>
      refine ⟨.char c, decode.go .start bytes, ?_, ?_⟩
      . rw [hstep]
        rfl
      . rintro c' ⟨⟩
        rw [hc]
        exact ⟨bytes, by simp⟩
    | fault _ hmem =>
      obtain ⟨first, rest, hstep⟩ := exists_step_eq_fault hmem
      refine ⟨.fault first, rest ++ decode.go (step s b).2 bytes, ?_, ?_⟩
      . rw [hstep]
        rfl
      . simp

theorem exists_decode_eq_cons {bytes : List UInt8} (hne : bytes ≠ []) :
    ∃ piece rest, decode bytes = piece :: rest
      ∧ ∀ c, piece = .char c → String.utf8EncodeChar c <+: bytes := by
  apply exists_go_eq_cons .start
  exact hne

end Utf8

namespace RawText

@[simp]
theorem text?_ofString (s : String) : (ofString s).text? = some s := by
  simp [text?, ofString]

@[simp]
theorem ofString_inj {s t : String} : ofString s = ofString t ↔ s = t := by
  constructor
  . intro h
    have := congrArg text? h
    simpa using this
  . intro h
    rw [h]

theorem text?_eq_some_iff {t : RawText} {s : String} : t.text? = some s ↔ t = ofString s := by
  constructor
  . intro h
    simp only [text?, Option.map_eq_some_iff, Utf8.decode?_eq_some_iff] at h
    obtain ⟨cs, hbytes, rfl⟩ := h
    rcases t with ⟨bytes⟩
    dsimp only at hbytes
    rw [hbytes, ofString, String.toList_ofList]
  . intro h
    rw [h, text?_ofString]

end RawText

end KubePlugin
