import KubePlugin.Proofs.Supervision.Step

/-!
This module contains the proof that a signal to end a supervised run is not lost: as long as the
child was not waited for, the kill that the signal asks for was issued, or the listener still has
the signal and nothing can keep it from issuing the kill. A run whose child ends by nothing else
returns only after the kill, with the code for it.
-/

namespace KubePlugin.Supervision

structure State.Records (s : State) (past : List Move) : Prop where
  consistent : s.Consistent
  spawned : s.child ≠ .absent → .spawn (.ok s.group) ∈ past
  arrived : ∀ signal, .arrive signal ∈ past → s.catching = true ∧
    (signal ∈ s.pending ∨ s.listener = .roused signal ∨ s.listener = .finished)
  ended : ∀ status, s.child = .ended status ∨ s.child = .reaped status →
    .exit status ∈ past ∨
      status = .killed Signal.kill ∧ ∃ kill ∈ s.kills, kill.child = .alive
  awaited : (∀ cause, .waitFails cause ∉ past) → s.child.isUnreaped →
    s.flow = .spawned ∨ s.flow = .waiting

namespace State.Records

variable {i : Invocation} {s t : State} {move : Move} {past moves : List Move}

theorem init : Records {} [] := by
  constructor
  . exact .init
  . intro h
    contradiction
  . intro _ h
    contradiction
  . intro _ h
    rcases h with h | h <;> contradiction
  . intro _ h
    contradiction

theorem spawned_step (h : s.Records past) (hstep : Step i s move t) (hchild : t.child ≠ .absent) :
    .spawn (.ok t.group) ∈ past ++ [move] := by
  cases hstep with
  | spawn group _ => simp
  | reap _ hended => exact List.mem_append_left _ (h.spawned (by simp [hended]))
  | exit _ halive => exact List.mem_append_left _ (h.spawned (by simp [halive]))
  | die halive _ => exact List.mem_append_left _ (h.spawned (by simp [halive]))
  | _ => exact List.mem_append_left _ (h.spawned hchild)

theorem mem_addPending {signal new : Cancellation} {pending : List Cancellation}
    (h : signal = new ∨ signal ∈ pending) : signal ∈ addPending new pending := by
  unfold addPending
  split
  . next hmem =>
    rcases h with rfl | h
    . exact hmem
    . exact h
  . rcases h with rfl | h
    . simp
    . exact List.mem_append_left _ h

theorem arrived_step (h : s.Records past) (hstep : Step i s move t) {signal : Cancellation}
    (harrived : .arrive signal ∈ past ++ [move]) :
    t.catching = true ∧
      (signal ∈ t.pending ∨ t.listener = .roused signal ∨ t.listener = .finished) := by
  have hpast : move ≠ .arrive signal → .arrive signal ∈ past := by
    intro hne
    simpa [Ne.symm hne] using harrived
  cases hstep with
  | register succeeds hflow =>
    -- Nothing arrives before signals are caught.
    have hplace := h.consistent.inPlace
    simp only [InPlace, hflow] at hplace
    have hcatching := (h.arrived signal (hpast (by simp))).1
    rw [hplace.1] at hcatching
    contradiction
  | startListener hflow =>
    have hplace := h.consistent.inPlace
    simp only [InPlace, hflow] at hplace
    obtain ⟨hcatching, hpending⟩ := h.arrived signal (hpast (by simp))
    refine ⟨hcatching, .inl ?_⟩
    simpa [hplace.1] using hpending
  | abort hflow =>
    obtain ⟨hcatching, hpending⟩ := h.arrived signal (hpast (by simp))
    refine ⟨hcatching, ?_⟩
    rcases hpending with hpending | hlistener | hlistener
    . exact .inl hpending
    . simp [hlistener]
    . simp [hlistener]
  | rouse taken hlistener _ =>
    obtain ⟨hcatching, hpending⟩ := h.arrived signal (hpast (by simp))
    refine ⟨hcatching, ?_⟩
    by_cases heq : signal = taken
    . rw [heq]
      exact .inr (.inl rfl)
    . left
      simp only [hlistener, reduceCtorEq, or_self, or_false] at hpending
      exact (List.mem_erase_of_ne heq).mpr hpending
  | kill _ => exact ⟨(h.arrived signal (hpast (by simp))).1, .inr (.inr rfl)⟩
  | arrive new hcatching =>
    refine ⟨hcatching, ?_⟩
    by_cases heq : signal = new
    . exact .inl (mem_addPending (.inl heq))
    . rcases (h.arrived signal (hpast (by simpa using Ne.symm heq))).2 with hpending | hlistener
      . exact .inl (mem_addPending (.inr hpending))
      . exact .inr hlistener
  | _ => exact h.arrived signal (hpast (by simp))

theorem ended_step (h : s.Records past) (hstep : Step i s move t) {status : WaitStatus}
    (hended : t.child = .ended status ∨ t.child = .reaped status) :
    .exit status ∈ past ++ [move] ∨
      status = .killed Signal.kill ∧ ∃ kill ∈ t.kills, kill.child = .alive := by
  have hkept : s.child = .ended status ∨ s.child = .reaped status →
      (∀ kill ∈ s.kills, kill ∈ t.kills) → .exit status ∈ past ++ [move] ∨
        status = .killed Signal.kill ∧ ∃ kill ∈ t.kills, kill.child = .alive := by
    intro hs hkills
    rcases h.ended status hs with hexit | ⟨hstatus, kill, hkill, halive⟩
    . exact .inl (List.mem_append_left _ hexit)
    . exact .inr ⟨hstatus, kill, hkills kill hkill, halive⟩
  cases hstep with
  | spawn _ _ => simp at hended
  | @reap status' _ hchild =>
    apply hkept _ (fun _ hkill => hkill)
    simpa [hchild] using hended
  | kill _ => exact hkept hended fun _ hkill => List.mem_append_left _ hkill
  | exit status' _ =>
    left
    simp at hended
    simp [hended]
  | die halive hkills =>
    right
    simp at hended
    obtain ⟨kill, hkill⟩ := List.exists_mem_of_ne_nil _ hkills
    exact ⟨hended.symm, kill, hkill, h.consistent.alive_of_alive halive kill hkill⟩
  | _ => exact hkept hended fun _ hkill => hkill

theorem awaited_step (h : s.Records past) (hstep : Step i s move t)
    (hwait : ∀ cause, .waitFails cause ∉ past ++ [move]) (hunreaped : t.child.isUnreaped) :
    t.flow = .spawned ∨ t.flow = .waiting := by
  have hs : s.child.isUnreaped → s.flow = .spawned ∨ s.flow = .waiting := by
    apply h.awaited
    intro cause hmem
    exact hwait cause (List.mem_append_left _ hmem)
  have hplace := h.consistent.inPlace
  cases hstep with
  | register _ hflow =>
    simp only [InPlace, hflow] at hplace
    simp [hplace.2.2, Child.isUnreaped] at hunreaped
  | spawn _ _ => exact .inl rfl
  | spawnFails _ hflow =>
    simp only [InPlace, hflow] at hplace
    simp [hplace.2, Child.isUnreaped] at hunreaped
  | startListener _ => exact .inr rfl
  | reap _ _ => contradiction
  | waitFails cause _ => exact absurd (by simp) (hwait cause)
  | abort hflow => simpa [hflow] using hs hunreaped
  | join hflow _ => simpa [hflow] using hs hunreaped
  | dispose hflow => simpa [hflow] using hs hunreaped
  | finish hflow => simpa [hflow] using hs hunreaped
  | exit _ halive => exact hs (by rw [halive]; rfl)
  | die halive _ => exact hs (by rw [halive]; rfl)
  | _ => exact hs hunreaped

theorem step (h : s.Records past) (hstep : Step i s move t) : t.Records (past ++ [move]) where
  consistent := h.consistent.step hstep
  spawned := h.spawned_step hstep
  arrived _ := h.arrived_step hstep
  ended _ := h.ended_step hstep
  awaited := h.awaited_step hstep

theorem of_run (h : run i {} moves = some s) : s.Records moves :=
  run_induction (P := fun past s => s.Records past) (fun _ _ _ _ h hstep => h.step hstep) [] init h

end State.Records

def State.WasKilled (s : State) : Prop :=
  ∃ kill ∈ s.kills, kill.group = s.group ∧ kill.child.isUnreaped

def State.HasInHand (s : State) (signal : Cancellation) : Prop :=
  (s.flow = .spawned ∨ s.listener.isLive) ∧ (signal ∈ s.pending ∨ s.listener = .roused signal)

/-- Moves of the program alone lead to the kill: of starting the listener, taking the signal and
killing, those that are left. -/
def State.CanKill (i : Invocation) (s : State) (signal : Cancellation) : Prop :=
  ∃ rest, rest <:+ [.startListener, .rouse signal, .kill] ∧
    ∃ t, run i s rest = some t ∧ t.group = s.group ∧ t.WasKilled

namespace State

variable {i : Invocation} {s : State} {signal : Cancellation} {past moves : List Move}

theorem wasKilled_of_roused (hlistener : s.listener = .roused signal)
    (hunreaped : s.child.isUnreaped) :
    ∃ t, run i s [.kill] = some t ∧ t.group = s.group ∧ t.WasKilled := by
  refine ⟨{ s with listener := .finished, kills := s.kills ++ [⟨s.group, s.child⟩] }, ?_, rfl, ?_⟩
  . simp [run, Supervision.step, hlistener]
  . exact ⟨⟨s.group, s.child⟩, by simp, rfl, hunreaped⟩

theorem wasKilled_of_listening (hlistener : s.listener = .listening) (hpending : signal ∈ s.pending)
    (hunreaped : s.child.isUnreaped) :
    ∃ t, run i s [.rouse signal, .kill] = some t ∧ t.group = s.group ∧ t.WasKilled := by
  obtain ⟨t, hrun, ht⟩ := wasKilled_of_roused (i := i)
    (s := { s with listener := .roused signal, pending := s.pending.erase signal }) rfl hunreaped
  refine ⟨t, ?_, ht⟩
  rw [run_cons_eq_some]
  exact ⟨_, by simp [Supervision.step, hlistener, hpending], hrun⟩

theorem wasKilled_of_spawned (hflow : s.flow = .spawned) (hcatching : s.catching = true)
    (hpending : signal ∈ s.pending) (hunreaped : s.child.isUnreaped) :
    ∃ t, run i s [.startListener, .rouse signal, .kill] = some t ∧ t.group = s.group
      ∧ t.WasKilled := by
  obtain ⟨t, hrun, ht⟩ := wasKilled_of_listening (i := i)
    (s := { s with flow := .waiting, listener := .listening }) rfl hpending hunreaped
  refine ⟨t, ?_, ht⟩
  rw [run_cons_eq_some]
  exact ⟨_, by simp [Supervision.step, hflow, hcatching], hrun⟩

namespace Records

theorem wasKilled (h : s.Records past) (hunreaped : s.child.isUnreaped)
    (hlistener : s.listener = .finished) : s.WasKilled := by
  rcases h.consistent.kills with ⟨_, child, hkills⟩ | ⟨hne, _⟩
  . refine ⟨⟨s.group, child⟩, by simp [hkills], rfl, ?_⟩
    exact h.consistent.unreaped_of_unreaped hunreaped _ (by simp [hkills])
  . contradiction

theorem wasKilled_or_hasInHand (h : s.Records past) (hwait : ∀ cause, .waitFails cause ∉ past)
    (hunreaped : s.child.isUnreaped) (harrived : .arrive signal ∈ past) :
    s.WasKilled ∨ s.HasInHand signal := by
  obtain ⟨hcatching, hsignal⟩ := h.arrived signal harrived
  have hplace := h.consistent.inPlace
  rcases h.awaited hwait hunreaped with hflow | hflow
  . simp only [InPlace, hflow] at hplace
    right
    refine ⟨.inl hflow, ?_⟩
    simpa [hplace.1] using hsignal
  . simp only [InPlace, hflow] at hplace
    cases hlistener : s.listener with
    | absent =>
      rw [hplace.1.mp hlistener] at hcatching
      contradiction
    | listening =>
      right
      refine ⟨.inr (by rw [hlistener]; rfl), ?_⟩
      simpa [hlistener] using hsignal
    | roused taken =>
      right
      refine ⟨.inr (by rw [hlistener]; rfl), ?_⟩
      simpa [hlistener] using hsignal
    | finished => exact .inl (h.wasKilled hunreaped hlistener)
    | stopped => exact absurd hlistener hplace.2.1

theorem canKill (h : s.Records past) (hwait : ∀ cause, .waitFails cause ∉ past)
    (hunreaped : s.child.isUnreaped) (harrived : .arrive signal ∈ past) :
    s.CanKill i signal := by
  rcases h.wasKilled_or_hasInHand hwait hunreaped harrived with hkilled | ⟨hlistener, hsignal⟩
  . exact ⟨[], by simp, s, rfl, rfl, hkilled⟩
  . rcases hlistener with hflow | hlive
    . have hplace := h.consistent.inPlace
      simp only [InPlace, hflow] at hplace
      refine ⟨_, List.suffix_refl _, wasKilled_of_spawned hflow (h.arrived signal harrived).1 ?_
        hunreaped⟩
      simpa [hplace.1] using hsignal
    . cases hs : s.listener with
      | listening =>
        refine ⟨[.rouse signal, .kill], List.suffix_cons _ _,
          wasKilled_of_listening hs ?_ hunreaped⟩
        simpa [hs] using hsignal
      | roused taken =>
        exact ⟨[.kill], by simp [List.suffix_cons_iff], wasKilled_of_roused hs hunreaped⟩
      | _ => simp [hs, Listener.isLive] at hlive

theorem returned (h : s.Records past) (hwait : ∀ cause, .waitFails cause ∉ past)
    (hexit : ∀ status, .exit status ∉ past) (hchild : s.child ≠ .absent)
    {result : Except PluginError Int} (hflow : s.flow = .returned result) :
    result = .ok 137 ∧ ∃ kill ∈ s.kills, kill.group = s.group ∧ kill.child = .alive := by
  have hreaped : ¬ s.child.isUnreaped := by
    intro hunreaped
    simpa [hflow] using h.awaited hwait hunreaped
  have hplace := h.consistent.inPlace
  simp only [InPlace, hflow] at hplace
  rcases hplace.2 with ⟨_, habsent⟩ | ⟨outcome, hresult, hanswers⟩
  . exact absurd habsent hchild
  . cases outcome with
    | error cause => exact absurd hanswers hreaped
    | ok status =>
      rcases h.ended status (.inr hanswers) with hmem | ⟨hstatus, kill, hkill, halive⟩
      . exact absurd hmem (hexit status)
      . refine ⟨by rw [hresult, hstatus]; rfl, kill, hkill, ?_, halive⟩
        rcases h.consistent.kills with ⟨_, child, hkills⟩ | ⟨_, hkills⟩
        . rw [hkills, List.mem_singleton] at hkill
          rw [hkill]
        . simp [hkills] at hkill

end Records

end State

/-- After any moves in which waiting does not fail: until the child is reaped, the main flow neither
stops the listener nor returns, and every signal that arrived has led to the kill or can still do so
by moves of the program alone. If the child does not end on its own, the run returns only after the
kill, with the code of a killed child. -/
theorem run_keeps_cancellation (i : Invocation) {moves : List Move} {s : State}
    (hrun : run i {} moves = some s) (hwait : ∀ cause, .waitFails cause ∉ moves) :
    (s.child ≠ .absent → .spawn (.ok s.group) ∈ moves)
      ∧ (s.child.isUnreaped →
        (s.flow = .spawned ∨ s.flow = .waiting) ∧ s.listener ≠ .stopped
          ∧ ∀ signal, .arrive signal ∈ moves →
            (s.WasKilled ∨ s.HasInHand signal) ∧ s.CanKill i signal)
      ∧ ((∀ status, .exit status ∉ moves) → s.child ≠ .absent →
        ∀ result, s.flow = .returned result →
          result = .ok 137 ∧ ∃ kill ∈ s.kills, kill.group = s.group ∧ kill.child = .alive) := by
  have h := State.Records.of_run hrun
  refine ⟨h.spawned, ?_, ?_⟩
  . intro hunreaped
    have hflow := h.awaited hwait hunreaped
    refine ⟨hflow, ?_, ?_⟩
    . have hplace := h.consistent.inPlace
      rcases hflow with hflow | hflow
      . simp only [State.InPlace, hflow] at hplace
        simp [hplace.1]
      . simp only [State.InPlace, hflow] at hplace
        exact hplace.2.1
    . intro signal harrived
      exact ⟨h.wasKilled_or_hasInHand hwait hunreaped harrived,
        h.canKill hwait hunreaped harrived⟩
  . intro hexit hchild result hflow
    exact h.returned hwait hexit hchild hflow

theorem run_keeps_cancellation_early :
    (∃ s, run ⟨.neonCli, ⟨[]⟩, [], .supervised⟩ {}
        [.register true, .spawn (.ok 42), .arrive .interrupt, .startListener, .rouse .interrupt,
          .arrive .terminate] = some s
      ∧ s.HasInHand .interrupt ∧ s.CanKill ⟨.neonCli, ⟨[]⟩, [], .supervised⟩ .terminate)
    ∧ ∃ s, run ⟨.neonCli, ⟨[]⟩, [], .supervised⟩ {}
        [.register true, .spawn (.ok 42), .arrive .interrupt, .startListener, .rouse .interrupt,
          .arrive .terminate, .kill, .die, .reap, .abort, .join, .dispose, .finish] = some s
      ∧ s.flow = .returned (.ok 137) ∧ ∃ kill ∈ s.kills, kill.group = 42 ∧ kill.child = .alive := by
  constructor
  . have hrun : run ⟨.neonCli, ⟨[]⟩, [], .supervised⟩ {}
        [.register true, .spawn (.ok 42), .arrive .interrupt, .startListener, .rouse .interrupt,
          .arrive .terminate]
        = some { flow := .waiting, catching := true, listener := .roused .interrupt
                 child := .alive, group := 42, pending := [.terminate] } := by decide
    obtain ⟨_, hunreaped, _⟩ := run_keeps_cancellation _ hrun (by simp)
    obtain ⟨_, _, hsignal⟩ := hunreaped rfl
    refine ⟨_, hrun, ?_, (hsignal .terminate (by simp)).2⟩
    rcases (hsignal .interrupt (by simp)).1 with ⟨kill, hkill, _⟩ | hinHand
    . contradiction
    . exact hinHand
  . have hrun : run ⟨.neonCli, ⟨[]⟩, [], .supervised⟩ {}
        [.register true, .spawn (.ok 42), .arrive .interrupt, .startListener, .rouse .interrupt,
          .arrive .terminate, .kill, .die, .reap, .abort, .join, .dispose, .finish]
        = some { flow := .returned (.ok 137), catching := true, listener := .finished
                 child := .reaped (.killed Signal.kill), group := 42, pending := [.terminate]
                 kills := [⟨42, .alive⟩], disposals := 1 } := by decide
    obtain ⟨_, _, hreturned⟩ := run_keeps_cancellation _ hrun (by simp)
    exact ⟨_, hrun, rfl, (hreturned (by simp) (by simp) (.ok 137) rfl).2⟩

end KubePlugin.Supervision
