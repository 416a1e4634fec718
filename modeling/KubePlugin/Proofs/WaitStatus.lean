import KubePlugin.WaitStatus

namespace KubePlugin.WaitStatus

theorem raw_exited (code : Nat) : (exited code).raw.toNat = code % 256 * 256 := by
  unfold exited
  rw [UInt32.toNat_ofNat_of_lt']
  rw [UInt32.size]
  omega

@[simp]
theorem code?_exited (code : Nat) : (exited code).code? = some (code % 256) := by
  unfold code? low
  rw [raw_exited]
  rw [if_pos (by omega)]
  congr 1
  omega

theorem code_lt_of_code? {s : WaitStatus} {code : Nat} (h : s.code? = some code) : code < 256 := by
  unfold code? at h
  split at h
  . injection h with h
    omega
  . contradiction

theorem relay_cases (s : WaitStatus) :
    (∃ code, s.code? = some code ∧ code < 256 ∧ s.relay = code)
      ∨ s.code? = none ∧ (∃ signal, s.signal? = some signal ∧ signal < 127
        ∧ s.relay = 128 + signal)
      ∨ s.code? = none ∧ s.relay = -1 := by
  unfold relay
  cases hcode : s.code? with
  | some code => exact .inl ⟨code, rfl, code_lt_of_code? hcode, rfl⟩
  | none =>
    cases hsignal : s.signal? with
    | some signal =>
      refine .inr (.inl ⟨rfl, signal, rfl, ?_, rfl⟩)
      unfold signal? low at hsignal
      split at hsignal
      . contradiction
      . injection hsignal with hsignal
        omega
    | none => exact .inr (.inr ⟨rfl, rfl⟩)

theorem relay_of_code? {s : WaitStatus} {code : Nat} (h : s.code? = some code) :
    s.relay = code := by
  unfold relay
  rw [h]

theorem code?_exited_relay_iff {s : WaitStatus} {code : Nat} (hlt : code < 128) :
    (exited (s.relay % 256).toNat).code? = some code ↔ s.code? = some code := by
  rw [code?_exited]
  constructor
  . intro h
    injection h with h
    rcases relay_cases s with
      ⟨own, hown, hbound, hrelay⟩ | ⟨_, signal, _, hbound, hrelay⟩ | ⟨_, hrelay⟩
    . rw [hown]
      congr 1
      omega
    . omega
    . omega
  . intro h
    rw [relay_of_code? h]
    congr 1
    omega

def HasExited (s : WaitStatus) (code : UInt32) : Prop :=
  s.raw &&& 0x7F = 0 ∧ s.raw >>> 8 &&& 0xFF = code

def WasKilledBy (s : WaitStatus) (signal : UInt32) : Prop :=
  s.raw &&& 0x7F = signal ∧ signal ≠ 0 ∧ signal ≠ 0x7F

variable {s : WaitStatus} {code signal : UInt32}

theorem toNat_low_bits : (s.raw &&& 0x7F).toNat = s.low := by
  have hmask : (0x7F : UInt32).toNat = 2 ^ 7 - 1 := rfl
  rw [UInt32.toNat_and, hmask, Nat.and_two_pow_sub_one_eq_mod]
  rfl

theorem toNat_second_byte : (s.raw >>> 8 &&& 0xFF).toNat = s.raw.toNat / 256 % 256 := by
  have hmask : (0xFF : UInt32).toNat = 2 ^ 8 - 1 := rfl
  have hshift : (8 : UInt32).toNat % 32 = 8 := rfl
  rw [UInt32.toNat_and, hmask, Nat.and_two_pow_sub_one_eq_mod, UInt32.toNat_shiftRight, hshift,
    Nat.shiftRight_eq_div_pow]

theorem hasExited_iff : s.HasExited code ↔ s.code? = some code.toNat := by
  unfold HasExited code?
  rw [← UInt32.toNat_inj, ← UInt32.toNat_inj, toNat_low_bits, toNat_second_byte]
  split
  . next hlow => simp [hlow]
  . next hlow => simp [hlow]

theorem wasKilledBy_iff : s.WasKilledBy signal ↔ s.signal? = some signal.toNat := by
  unfold WasKilledBy signal?
  rw [ne_eq, ne_eq, ← UInt32.toNat_inj, ← UInt32.toNat_inj, ← UInt32.toNat_inj, toNat_low_bits]
  have hzero : (0 : UInt32).toNat = 0 := rfl
  have hall : (0x7F : UInt32).toNat = 127 := rfl
  rw [hzero, hall]
  split
  . next hlow =>
    simp only [reduceCtorEq, iff_false]
    omega
  . next hlow =>
    rw [Option.some_inj]
    omega

theorem HasExited.code_lt (h : s.HasExited code) : code.toNat < 256 :=
  code_lt_of_code? (hasExited_iff.mp h)

theorem HasExited.relay_eq (h : s.HasExited code) : s.relay = code.toNat :=
  relay_of_code? (hasExited_iff.mp h)

theorem WasKilledBy.signal_lt (h : s.WasKilledBy signal) : signal.toNat < 127 := by
  have hne : signal.toNat ≠ 127 := fun heq => h.2.2 (UInt32.toNat_inj.mp heq)
  have hlow : signal.toNat = s.low := by rw [← h.1, toNat_low_bits]
  unfold low at hlow
  omega

theorem WasKilledBy.relay_eq (h : s.WasKilledBy signal) : s.relay = 128 + signal.toNat := by
  have hcode : s.code? = none := by
    have hne : s.low ≠ 0 := by
      rw [← toNat_low_bits, h.1]
      exact fun heq => h.2.1 (UInt32.toNat_inj.mp heq)
    unfold code?
    rw [if_neg hne]
  unfold relay
  rw [hcode, wasKilledBy_iff.mp h]

theorem hasExited_or_wasKilledBy (h : s.raw &&& 0x7F ≠ 0x7F) :
    (∃ code, s.HasExited code) ∨ ∃ signal, s.WasKilledBy signal := by
  by_cases hlow : s.raw &&& 0x7F = 0
  . exact .inl ⟨_, hlow, rfl⟩
  . exact .inr ⟨_, rfl, hlow, h⟩

end KubePlugin.WaitStatus
