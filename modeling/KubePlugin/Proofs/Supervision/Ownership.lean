import KubePlugin.Proofs.Supervision.Cancellation

/-!
This module contains which kills go to a group that is still the child's. Until the child is waited
for, all of them do. From then on its number can be given to another process, and a kill can still
go to this number exactly if the listener was live at that moment.
-/

namespace KubePlugin.Supervision

/-- Every kill so far went to the child's group, before the child was waited for. -/
def State.Owned (s : State) : Prop :=
  ∀ kill ∈ s.kills, kill.group = s.group ∧ kill.child.isUnreaped

namespace State

variable {i : Invocation} {s t : State} {move : Move} {moves : List Move} {status : WaitStatus}

namespace Consistent

theorem group_of_mem (h : s.Consistent) {kill : Kill} (hkill : kill ∈ s.kills) :
    kill.group = s.group := by
  rcases h.kills with ⟨_, child, hkills⟩ | ⟨_, hkills⟩
  . rw [hkills, List.mem_singleton] at hkill
    rw [hkill]
  . simp [hkills] at hkill

theorem listener_eq_absent (h : s.Consistent) (hchild : s.child = .absent) :
    s.listener = .absent := by
  have hplace := h.inPlace
  unfold InPlace at hplace
  split at hplace
  . exact hplace.2.1
  . exact hplace.1
  . exact hplace.1
  . simp [hchild, Child.isUnreaped] at hplace
  . next outcome _ => cases outcome <;> simp [hchild, Child.Answers, Child.isUnreaped] at hplace
  . next outcome _ => cases outcome <;> simp [hchild, Child.Answers, Child.isUnreaped] at hplace
  . next outcome _ => cases outcome <;> simp [hchild, Child.Answers, Child.isUnreaped] at hplace
  . next outcome _ => cases outcome <;> simp [hchild, Child.Answers, Child.isUnreaped] at hplace
  . rcases hplace.2 with ⟨habsent, _⟩ | ⟨outcome, _, hanswers⟩
    . exact habsent
    . cases outcome <;> simp [hchild, Child.Answers, Child.isUnreaped] at hanswers

theorem owned (h : s.Consistent) (hchild : ∀ status, s.child ≠ .reaped status) : s.Owned := by
  intro kill hkill
  refine ⟨h.group_of_mem hkill, ?_⟩
  cases hs : s.child with
  | absent =>
    have hkills := h.kills_eq_nil (by simp [h.listener_eq_absent hs])
    simp [hkills] at hkill
  | alive => exact h.unreaped_of_unreaped (by rw [hs]; rfl) kill hkill
  | ended status => exact h.unreaped_of_unreaped (by rw [hs]; rfl) kill hkill
  | reaped status => exact absurd hs (hchild status)

theorem step_of_reaped (h : s.Consistent) (hchild : s.child = .reaped status)
    (hlive : s.listener.isLive = false) (hstep : Step i s move t) :
    t.child = .reaped status ∧ t.listener.isLive = false ∧ t.kills = s.kills ∧
      t.group = s.group := by
  have hplace := h.inPlace
  cases hstep with
  | spawn group hflow =>
    simp only [InPlace, hflow] at hplace
    simp [hchild] at hplace
  | startListener hflow =>
    simp only [InPlace, hflow] at hplace
    simp [hchild, Child.isUnreaped] at hplace
  | reap hflow hended => simp [hchild] at hended
  | abort hflow =>
    refine ⟨hchild, ?_, rfl, rfl⟩
    dsimp only
    split
    . rfl
    . exact hlive
  | rouse signal hlistener _ => simp [hlistener, Listener.isLive] at hlive
  | kill hlistener => simp [hlistener, Listener.isLive] at hlive
  | exit _ halive => simp [hchild] at halive
  | die halive _ => simp [hchild] at halive
  | _ => exact ⟨hchild, hlive, rfl, rfl⟩

theorem run_of_reaped (h : s.Consistent) (hchild : s.child = .reaped status)
    (hlive : s.listener.isLive = false) (hrun : Supervision.run i s moves = some t) :
    t.kills = s.kills ∧ t.group = s.group := by
  let Kept (u : State) : Prop :=
    u.Consistent ∧ u.child = .reaped status ∧ u.listener.isLive = false ∧ u.kills = s.kills ∧
      u.group = s.group
  have hkept : Kept t := by
    apply run_induction (P := fun _ u => Kept u) (i := i) _ [] ⟨h, hchild, hlive, rfl, rfl⟩ hrun
    intro _ u _ v ⟨hu, huchild, hulive, hukills, hugroup⟩ hstep
    obtain ⟨hvchild, hvlive, hvkills, hvgroup⟩ := hu.step_of_reaped huchild hulive hstep
    exact ⟨hu.step hstep, hvchild, hvlive, hvkills.trans hukills, hvgroup.trans hugroup⟩
  exact hkept.2.2.2

end Consistent

theorem run_kill (hchild : s.child = .reaped status) {signal : Cancellation}
    (hlistener : s.listener = .roused signal) :
    ∃ t, run i s [.kill] = some t ∧ ¬ t.Owned := by
  refine ⟨{ s with listener := .finished, kills := s.kills ++ [⟨s.group, s.child⟩] }, ?_, ?_⟩
  . simp [run, Supervision.step, hlistener]
  . intro howned
    have := (howned ⟨s.group, s.child⟩ (by simp)).2
    simp [hchild, Child.isUnreaped] at this

theorem exists_kill_of_isLive (hchild : s.child = .reaped status)
    (hcatching : s.catching = true) (hlive : s.listener.isLive) :
    ∃ after t, run i s after = some t ∧ ¬ t.Owned := by
  cases hlistener : s.listener with
  | roused signal =>
    obtain ⟨t, hrun, ht⟩ := run_kill (i := i) hchild hlistener
    exact ⟨_, t, hrun, ht⟩
  | listening =>
    -- A signal that arrives now is taken before the listener is told to stop.
    obtain ⟨t, hrun, ht⟩ := run_kill (i := i)
      (s := { s with
        listener := .roused .interrupt
        pending := (addPending .interrupt s.pending).erase .interrupt })
      hchild rfl
    refine ⟨[.arrive .interrupt, .rouse .interrupt, .kill], t, ?_, ht⟩
    have hpending : Cancellation.interrupt ∈ addPending .interrupt s.pending :=
      Records.mem_addPending (.inl rfl)
    rw [run_cons_eq_some]
    refine ⟨_, if_pos hcatching, ?_⟩
    rw [run_cons_eq_some]
    exact ⟨_, if_pos ⟨hlistener, hpending⟩, hrun⟩
  | _ => simp [hlistener, Listener.isLive] at hlive

end State

/-- Every kill goes to the number of the child. It goes there before the child is reaped, unless the
listener was live at the reaping: then, and only then, can a kill come after it. -/
theorem kills_owned_iff (i : Invocation) {moves : List Move} {s : State}
    (hrun : run i {} moves = some s) :
    (∀ kill ∈ s.kills, kill.group = s.group)
      ∧ ((∀ status, s.child ≠ .reaped status) → s.Owned)
      ∧ ∀ t, step i s .reap = some t →
        ((∀ after u, run i t after = some u → u.Owned) ↔ s.listener.isLive = false) := by
  have h : s.Consistent := State.Consistent.init.run hrun
  refine ⟨fun _ => h.group_of_mem, h.owned, ?_⟩
  intro t hreap
  have hstep := Step.of_step hreap
  have ht : t.Consistent := h.step hstep
  have hplace := h.inPlace
  cases hstep with
  | @reap status hflow hended =>
    simp only [State.InPlace, hflow] at hplace
    constructor
    . intro howned
      rw [← Bool.not_eq_true]
      intro hlive
      have hcatching : s.catching = true := by
        rw [← Bool.not_eq_false]
        intro hcatching
        rw [hplace.1.mpr hcatching] at hlive
        contradiction
      obtain ⟨after, u, hafter, hu⟩ :=
        State.exists_kill_of_isLive (i := i)
          (s := { s with flow := .waited (.ok status), child := .reaped status })
          rfl hcatching hlive
      exact hu (howned after u hafter)
    . intro hlive after u hafter
      obtain ⟨hkills, hgroup⟩ := ht.run_of_reaped rfl hlive hafter
      have howned : s.Owned := h.owned (by simp [hended])
      unfold State.Owned
      rw [hkills, hgroup]
      exact howned

theorem kills_owned_iff_killed :
    ∃ s t, run ⟨.neonCli, ⟨[]⟩, [], .supervised⟩ {}
        [.register true, .spawn (.ok 42), .startListener, .arrive .interrupt, .rouse .interrupt,
          .kill, .die] = some s
      ∧ s.kills = [⟨42, .alive⟩] ∧ s.Owned
      ∧ step ⟨.neonCli, ⟨[]⟩, [], .supervised⟩ s .reap = some t
      ∧ ∀ after u, run ⟨.neonCli, ⟨[]⟩, [], .supervised⟩ t after = some u → u.Owned := by
  have hrun : run ⟨.neonCli, ⟨[]⟩, [], .supervised⟩ {}
      [.register true, .spawn (.ok 42), .startListener, .arrive .interrupt, .rouse .interrupt,
        .kill, .die]
      = some { flow := .waiting, catching := true, listener := .finished
               child := .ended (.killed Signal.kill), group := 42, kills := [⟨42, .alive⟩] } := by
    decide
  obtain ⟨_, howned, hreap⟩ := kills_owned_iff _ hrun
  exact ⟨_, _, hrun, rfl, howned (by simp), rfl, (hreap _ rfl).mpr rfl⟩

/-- The signal arrives between the reaping and the end of the listener. -/
theorem not_owned_of_late_signal :
    ∃ s, run ⟨.neonCli, ⟨[]⟩, [], .supervised⟩ {}
        [.register true, .spawn (.ok 42), .startListener, .exit (.exited 0), .reap,
          .arrive .interrupt, .rouse .interrupt, .kill] = some s
      ∧ s.kills = [⟨42, .reaped (.exited 0)⟩] ∧ ¬ s.Owned := by
  refine ⟨{ flow := .waited (.ok (.exited 0)), catching := true, listener := .finished
            child := .reaped (.exited 0), group := 42, kills := [⟨42, .reaped (.exited 0)⟩] },
    by decide, rfl, ?_⟩
  intro howned
  have := (howned _ (List.mem_singleton_self _)).2
  contradiction

end KubePlugin.Supervision
