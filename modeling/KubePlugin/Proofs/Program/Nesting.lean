import Mathlib.Logic.Function.Iterate
import KubePlugin.Program
import KubePlugin.Proofs.WaitStatus
import KubePlugin.Supervision

namespace KubePlugin

namespace WaitStatus

def passedOn (color : Bool) (s : WaitStatus) : WaitStatus :=
  (Ending.ofOutcome color (Supervision.resultOf (.ok s))).status

variable {color : Bool} {s t : WaitStatus}

theorem passedOn_eq : s.passedOn color = exited (s.relay % 256).toNat := rfl

theorem relay_bounds (h : s.raw &&& 0x7F ≠ 0x7F) : 0 ≤ s.relay ∧ s.relay ≤ 255 := by
  rcases hasExited_or_wasKilledBy h with ⟨code, hcode⟩ | ⟨signal, hsignal⟩
  . have := hcode.code_lt
    rw [hcode.relay_eq]
    omega
  . have := hsignal.signal_lt
    rw [hsignal.relay_eq]
    omega

theorem raw_passedOn (h : s.raw &&& 0x7F ≠ 0x7F) :
    (s.passedOn color).raw.toNat = s.relay.toNat % 256 * 256 := by
  have hbounds := relay_bounds h
  have hmod : s.relay % 256 = s.relay := by omega
  rw [passedOn_eq, raw_exited, hmod]

theorem hasExited_passedOn (h : s.raw &&& 0x7F ≠ 0x7F) :
    (s.passedOn color).HasExited (UInt32.ofNat s.relay.toNat) := by
  have hbounds := relay_bounds h
  rw [hasExited_iff, passedOn_eq, code?_exited,
    UInt32.toNat_ofNat_of_lt' (by rw [UInt32.size]; omega)]
  congr 1
  omega

theorem relay_of_passedOn (h : s.raw &&& 0x7F ≠ 0x7F) : (s.passedOn color).relay = s.relay := by
  have hbounds := relay_bounds h
  rw [(hasExited_passedOn h).relay_eq, UInt32.toNat_ofNat_of_lt' (by rw [UInt32.size]; omega)]
  omega

theorem HasExited.has_ended {code : UInt32} (h : s.HasExited code) : s.raw &&& 0x7F ≠ 0x7F := by
  rw [h.1]
  decide

theorem relay_iterate_passedOn (h : s.raw &&& 0x7F ≠ 0x7F) (n : Nat) :
    ((passedOn color)^[n] s).relay = s.relay := by
  induction n generalizing s with
  | zero => rfl
  | succ n ih =>
    rw [Function.iterate_succ_apply, ih (hasExited_passedOn h).has_ended, relay_of_passedOn h]

theorem toNat_shell_code {signal : UInt32} (h : signal.toNat < 127) :
    (128 + signal).toNat = 128 + signal.toNat := by
  rw [UInt32.toNat_add, show (128 : UInt32).toNat = 128 from rfl]
  omega

theorem relay_eq_iff (hs : s.raw &&& 0x7F ≠ 0x7F) (ht : t.raw &&& 0x7F ≠ 0x7F) :
    s.relay = t.relay
      ↔
    (∃ code, s.HasExited code ∧ t.HasExited code)
      ∨ (∃ signal, s.WasKilledBy signal ∧ t.WasKilledBy signal)
      ∨ ∃ signal, s.WasKilledBy signal ∧ t.HasExited (128 + signal)
        ∨ t.WasKilledBy signal ∧ s.HasExited (128 + signal) := by
  constructor
  . intro h
    rcases hasExited_or_wasKilledBy hs with ⟨code, hcode⟩ | ⟨signal, hsignal⟩
    . rcases hasExited_or_wasKilledBy ht with ⟨code', hcode'⟩ | ⟨signal', hsignal'⟩
      . rw [hcode.relay_eq, hcode'.relay_eq] at h
        have heq : code = code' := UInt32.toNat_inj.mp (by omega)
        exact .inl ⟨code, hcode, heq ▸ hcode'⟩
      . have hnat := toNat_shell_code hsignal'.signal_lt
        rw [hcode.relay_eq, hsignal'.relay_eq] at h
        have heq : code = 128 + signal' := UInt32.toNat_inj.mp (by omega)
        exact .inr (.inr ⟨signal', .inr ⟨hsignal', heq ▸ hcode⟩⟩)
    . rcases hasExited_or_wasKilledBy ht with ⟨code', hcode'⟩ | ⟨signal', hsignal'⟩
      . have hnat := toNat_shell_code hsignal.signal_lt
        rw [hsignal.relay_eq, hcode'.relay_eq] at h
        have heq : code' = 128 + signal := UInt32.toNat_inj.mp (by omega)
        exact .inr (.inr ⟨signal, .inl ⟨hsignal, heq ▸ hcode'⟩⟩)
      . rw [hsignal.relay_eq, hsignal'.relay_eq] at h
        have heq : signal = signal' := UInt32.toNat_inj.mp (by omega)
        exact .inr (.inl ⟨signal, hsignal, heq ▸ hsignal'⟩)
  . rintro (⟨code, hs, ht⟩ | ⟨signal, hs, ht⟩ | ⟨signal, ⟨hkilled, hexited⟩ | ⟨hkilled, hexited⟩⟩)
    . rw [hs.relay_eq, ht.relay_eq]
    . rw [hs.relay_eq, ht.relay_eq]
    . rw [hkilled.relay_eq, hexited.relay_eq, toNat_shell_code hkilled.signal_lt]
      rfl
    . rw [hkilled.relay_eq, hexited.relay_eq, toNat_shell_code hkilled.signal_lt]
      rfl

/-- The code for a child that has ended fits into a byte, so the program's own end carries it, and
so does that of any program that waits for it in turn. Two ends have one code if they are the same
exit or the same signal, or if one is a signal and the other an exit with the code for it. -/
theorem relay_survives_nesting (color : Bool) {s : WaitStatus} (h : s.raw &&& 0x7F ≠ 0x7F) :
    (0 ≤ s.relay ∧ s.relay ≤ 255)
      ∧ (∀ code, s.HasExited code → s.relay = code.toNat)
      ∧ (∀ signal, s.WasKilledBy signal → s.relay = 128 + signal.toNat)
      ∧ (s.passedOn color).raw.toNat = s.relay.toNat % 256 * 256
      ∧ (s.passedOn color).HasExited (UInt32.ofNat s.relay.toNat)
      ∧ (∀ n, ((passedOn color)^[n] s).relay = s.relay)
      ∧ ∀ t : WaitStatus, t.raw &&& 0x7F ≠ 0x7F →
        (s.relay = t.relay ↔ (∃ code, s.HasExited code ∧ t.HasExited code)
          ∨ (∃ signal, s.WasKilledBy signal ∧ t.WasKilledBy signal)
          ∨ ∃ signal, s.WasKilledBy signal ∧ t.HasExited (128 + signal)
            ∨ t.WasKilledBy signal ∧ s.HasExited (128 + signal)) := by
  refine ⟨relay_bounds h, ?_, ?_, raw_passedOn h, hasExited_passedOn h, relay_iterate_passedOn h,
    ?_⟩
  . intro code hcode
    exact hcode.relay_eq
  . intro signal hsignal
    exact hsignal.relay_eq
  . intro t ht
    exact relay_eq_iff h ht

theorem relay_survives_nesting_dumped :
    (0xABCD008B : UInt32) &&& 0x7F ≠ 0x7F
      ∧ ((passedOn false)^[3] ⟨0xABCD008B⟩).relay = 139
      ∧ (⟨0xABCD008B⟩ : WaitStatus).relay = (exited 139).relay := by
  have h : (0xABCD008B : UInt32) &&& 0x7F ≠ 0x7F := by decide
  obtain ⟨_, _, hkilled, _, _, hnested, hsame⟩ := relay_survives_nesting false (s := ⟨0xABCD008B⟩) h
  have hsignal : WasKilledBy ⟨0xABCD008B⟩ 11 := ⟨by decide, by decide, by decide⟩
  refine ⟨h, ?_, ?_⟩
  . rw [hnested 3, hkilled 11 hsignal]
    rfl
  . apply (hsame (exited 139) (by decide)).mpr
    exact .inr (.inr ⟨11, .inl ⟨hsignal, by decide, by decide⟩⟩)

end WaitStatus

end KubePlugin
