import KubePlugin.Text.Decimal

namespace KubePlugin

theorem digit?_of_isDigit {c : Char} (h : c.isDigit = true) :
    digit? c = some (c.toNat - '0'.toNat) := by
  rw [Char.isDigit_iff_toNat] at h
  unfold digit?
  rw [if_pos ⟨h.1, h.2⟩]

theorem le_ofDigitChars (cs : List Char) (acc : Nat) : acc ≤ Nat.ofDigitChars 10 cs acc := by
  induction cs generalizing acc with
  | nil => simp
  | cons c cs ih =>
    rw [Nat.ofDigitChars_cons]
    refine Nat.le_trans ?_ (ih _)
    omega

theorem readDigits_eq {limit acc : Nat} (beyond : NumberFault) {cs : List Char}
    (hdigits : ∀ c ∈ cs, c.isDigit = true) (hacc : acc ≤ limit) :
    readDigits limit beyond acc cs
      =
    if limit < Nat.ofDigitChars 10 cs acc then
      .error beyond
    else
      .ok (Nat.ofDigitChars 10 cs acc) := by
  induction cs generalizing acc with
  | nil =>
    rw [if_neg]
    . simp [readDigits]
    . simp
      omega
  | cons c cs ih =>
    have hnext : acc * 10 + (c.toNat - '0'.toNat) = 10 * acc + (c.toNat - '0'.toNat) := by omega
    have hle := le_ofDigitChars cs (10 * acc + (c.toNat - '0'.toNat))
    unfold readDigits
    rw [digit?_of_isDigit (hdigits c List.mem_cons_self), Nat.ofDigitChars_cons]
    dsimp only
    rw [hnext]
    split
    . next hover =>
      rw [if_pos (by omega)]
    . next hunder =>
      apply ih
      . intro d hd
        exact hdigits d (List.mem_cons_of_mem _ hd)
      . omega

theorem readDigits_toDigits {limit n : Nat} (beyond : NumberFault) (h : n ≤ limit) :
    readDigits limit beyond 0 (Nat.toDigits 10 n) = .ok n := by
  rw [readDigits_eq]
  . rw [Nat.ofDigitChars_ten_toDigits, if_neg (by omega)]
  . intro c hc
    exact Nat.isDigit_of_mem_toDigits (by decide) (by decide) hc
  . omega

theorem readInt64_digits {cs : List Char} (hdigits : ∀ c ∈ cs, c.isDigit = true) (hne : cs ≠ []) :
    readInt64 cs = (readDigits greatest64 .tooLarge 0 cs).map Int.ofNat := by
  unfold readInt64
  split
  . exact absurd rfl hne
  . simp at hdigits
  . simp at hdigits
  . simp at hdigits
  . simp at hdigits
  . rfl

theorem readCount_toString (n : UInt32) : readCount (toString n.toNat).toList = .ok n := by
  have hlt : n.toNat < 4294967296 := n.toNat_lt
  have hread : readInt64 (Nat.toDigits 10 n.toNat) = .ok (Int.ofNat n.toNat) := by
    rw [readInt64_digits]
    . rw [readDigits_toDigits]
      . rfl
      . unfold greatest64
        omega
    . intro c hc
      exact Nat.isDigit_of_mem_toDigits (by decide) (by decide) hc
    . exact Nat.toDigits_ne_nil
  unfold readCount
  rw [Nat.toString_eq_repr, Nat.toList_repr, hread]
  dsimp only
  rw [if_pos]
  . simp
  . simp
    omega

def digitsValue? (cs : List Char) : Option Nat :=
  if !cs.isEmpty && cs.all Char.isDigit then some (Nat.ofDigitChars 10 cs 0) else none

def decimal? : List Char → Option Int
  | '+' :: cs => (digitsValue? cs).map Int.ofNat
  | '-' :: cs => (digitsValue? cs).map fun n : Nat => -(n : Int)
  | cs => (digitsValue? cs).map Int.ofNat

theorem isDigit_of_digit? {c : Char} {d : Nat} (h : digit? c = some d) : c.isDigit = true := by
  unfold digit? at h
  split at h
  . next hc => exact Char.isDigit_iff_toNat.mpr hc
  . contradiction

theorem isDigit_of_readDigits {limit acc n : Nat} {beyond : NumberFault} {cs : List Char}
    (h : readDigits limit beyond acc cs = .ok n) : ∀ c ∈ cs, c.isDigit = true := by
  induction cs generalizing acc with
  | nil => simp
  | cons c cs ih =>
    unfold readDigits at h
    split at h
    . contradiction
    . next d hd =>
      split at h
      . contradiction
      . intro c' hc'
        rcases List.mem_cons.mp hc' with rfl | hc'
        . exact isDigit_of_digit? hd
        . exact ih h c' hc'

theorem readDigits_eq_ok_iff {limit n : Nat} {beyond : NumberFault} {cs : List Char}
    (hne : cs ≠ []) :
    readDigits limit beyond 0 cs = .ok n ↔ digitsValue? cs = some n ∧ n ≤ limit := by
  by_cases hdigits : ∀ c ∈ cs, c.isDigit = true
  . have hvalue : digitsValue? cs = some (Nat.ofDigitChars 10 cs 0) :=
      if_pos (by simpa [hne] using hdigits)
    rw [readDigits_eq beyond hdigits (Nat.zero_le limit), hvalue]
    split
    . simp
      omega
    . simp
      omega
  . have hvalue : digitsValue? cs = none := if_neg (by simpa [hne] using hdigits)
    rw [hvalue]
    constructor
    . intro h
      exact absurd (isDigit_of_readDigits h) hdigits
    . simp

theorem map_readDigits_eq_ok_iff {limit : Nat} {beyond : NumberFault} {cs : List Char}
    (hne : cs ≠ []) {f : Nat → Int} {i : Int} :
    (readDigits limit beyond 0 cs).map f = .ok i
      ↔
    ∃ n, digitsValue? cs = some n ∧ n ≤ limit ∧ f n = i := by
  have hmap : (readDigits limit beyond 0 cs).map f = .ok i
      ↔ ∃ n, readDigits limit beyond 0 cs = .ok n ∧ f n = i := by
    cases readDigits limit beyond 0 cs <;> simp [Except.map]
  rw [hmap]
  simp only [readDigits_eq_ok_iff hne, and_assoc]

theorem map_ofNat_readDigits_eq_ok_iff {cs : List Char} (hne : cs ≠ []) {i : Int} :
    (readDigits greatest64 .tooLarge 0 cs).map Int.ofNat = .ok i
      ↔
    (digitsValue? cs).map Int.ofNat = some i
      ∧ -9223372036854775808 ≤ i ∧ i ≤ 9223372036854775807 := by
  rw [map_readDigits_eq_ok_iff hne, Option.map_eq_some_iff]
  constructor
  . rintro ⟨n, hvalue, hle, rfl⟩
    unfold greatest64 at hle
    exact ⟨⟨n, hvalue, rfl⟩, by simp, by simp; omega⟩
  . rintro ⟨⟨n, hvalue, rfl⟩, _, hle⟩
    refine ⟨n, hvalue, ?_, rfl⟩
    unfold greatest64
    simp at hle
    omega

theorem readInt64_eq_ok_iff {cs : List Char} {i : Int} :
    readInt64 cs = .ok i
      ↔
    decimal? cs = some i ∧ -9223372036854775808 ≤ i ∧ i ≤ 9223372036854775807 := by
  unfold readInt64
  split
  . simp [decimal?, digitsValue?]
  . simp [decimal?, digitsValue?]
  . simp [decimal?, digitsValue?]
  . next rest hne => exact map_ofNat_readDigits_eq_ok_iff hne
  . next rest hne =>
    have hneg : ∀ x : Except NumberFault Nat,
        ((do let n ← x; pure (n : Int)) : Except NumberFault Int).map (fun n => -n)
          = x.map fun n : Nat => -(n : Int) := by
      intro x
      cases x <;> rfl
    rw [hneg, map_readDigits_eq_ok_iff hne, decimal?, Option.map_eq_some_iff]
    constructor
    . rintro ⟨n, hvalue, hle, rfl⟩
      unfold greatest64 at hle
      exact ⟨⟨n, hvalue, rfl⟩, by omega, by omega⟩
    . rintro ⟨⟨n, hvalue, rfl⟩, hle, _⟩
      refine ⟨n, hvalue, ?_, rfl⟩
      unfold greatest64
      omega
  . next hne _ _ hplus hminus =>
    rw [decimal?.eq_3 _ hplus hminus]
    exact map_ofNat_readDigits_eq_ok_iff hne

theorem readCount_eq_ok_iff {cs : List Char} {n : UInt32} :
    readCount cs = .ok n ↔ decimal? cs = some (n.toNat : Int) := by
  have hlt : n.toNat < 4294967296 := n.toNat_lt
  unfold readCount
  split
  . next fault hread =>
    constructor
    . intro h
      contradiction
    . intro h
      have hok := readInt64_eq_ok_iff.mpr ⟨h, by omega, by omega⟩
      rw [hread] at hok
      contradiction
  . next value hread =>
    obtain ⟨hvalue, _⟩ := readInt64_eq_ok_iff.mp hread
    rw [hvalue]
    split
    . next hrange =>
      constructor
      . intro h
        injection h with h
        rw [← h]
        simp
        omega
      . intro h
        injection h with h
        subst h
        simp
    . next hrange =>
      simp
      omega

end KubePlugin
