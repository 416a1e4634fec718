import KubePlugin.Supervision

namespace KubePlugin.Supervision

inductive Step (i : Invocation) (s : State) : Move → State → Prop where
  | register (succeeds : Bool) : s.flow = .start →
    Step i s (.register succeeds) { s with flow := .registered, catching := succeeds }
  | spawn (group : Nat) : s.flow = .registered →
    Step i s (.spawn (.ok group)) { s with flow := .spawned, child := .alive, group := group }
  | spawnFails (cause : IoError) : s.flow = .registered →
    Step i s (.spawn (.error cause))
      { s with flow := .returned (.error (.launch i.tool i.program cause)) }
  | startListener : s.flow = .spawned →
    Step i s .startListener
      { s with flow := .waiting, listener := if s.catching then .listening else .absent }
  | reap {status : WaitStatus} : s.flow = .waiting → s.child = .ended status →
    Step i s .reap { s with flow := .waited (.ok status), child := .reaped status }
  | waitFails (cause : IoError) : s.flow = .waiting →
    Step i s (.waitFails cause) { s with flow := .waited (.error cause) }
  | abort {outcome : Except IoError WaitStatus} : s.flow = .waited outcome →
    Step i s .abort
      { s with
        flow := .aborted outcome
        listener := if s.listener = .listening then .stopped else s.listener }
  | join {outcome : Except IoError WaitStatus} : s.flow = .aborted outcome →
    s.listener.isLive = false → Step i s .join { s with flow := .joined outcome }
  | dispose {outcome : Except IoError WaitStatus} : s.flow = .joined outcome →
    Step i s .dispose
      { s with
        flow := .disposed outcome
        disposals := if s.listener.isLive then s.disposals else s.disposals + 1 }
  | finish {outcome : Except IoError WaitStatus} : s.flow = .disposed outcome →
    Step i s .finish { s with flow := .returned (resultOf outcome) }
  | rouse (signal : Cancellation) : s.listener = .listening → signal ∈ s.pending →
    Step i s (.rouse signal)
      { s with listener := .roused signal, pending := s.pending.erase signal }
  | kill {signal : Cancellation} : s.listener = .roused signal →
    Step i s .kill { s with listener := .finished, kills := s.kills ++ [⟨s.group, s.child⟩] }
  | arrive (signal : Cancellation) : s.catching = true →
    Step i s (.arrive signal) { s with pending := addPending signal s.pending }
  | exit (status : WaitStatus) : s.child = .alive →
    Step i s (.exit status) { s with child := .ended status }
  | die : s.child = .alive → s.kills ≠ [] →
    Step i s .die { s with child := .ended (.killed Signal.kill) }

variable {i : Invocation} {s t : State} {move : Move}

theorem Step.of_step (h : step i s move = some t) : Step i s move t := by
  cases move with
  | register succeeds =>
    simp only [step, Option.ite_none_right_eq_some, Option.some.injEq] at h
    obtain ⟨hflow, rfl⟩ := h
    exact .register succeeds hflow
  | spawn outcome =>
    simp only [step, Option.ite_none_right_eq_some] at h
    obtain ⟨hflow, h⟩ := h
    cases outcome with
    | ok group =>
      cases h
      exact .spawn group hflow
    | error cause =>
      cases h
      exact .spawnFails cause hflow
  | startListener =>
    simp only [step, Option.ite_none_right_eq_some, Option.some.injEq] at h
    obtain ⟨hflow, rfl⟩ := h
    exact .startListener hflow
  | reap =>
    unfold step at h
    dsimp only at h
    split at h
    . next hflow hchild =>
      cases h
      exact .reap hflow hchild
    . contradiction
  | waitFails cause =>
    simp only [step, Option.ite_none_right_eq_some, Option.some.injEq] at h
    obtain ⟨hflow, rfl⟩ := h
    exact .waitFails cause hflow
  | abort =>
    unfold step at h
    dsimp only at h
    split at h
    . next hflow =>
      cases h
      exact .abort hflow
    . contradiction
  | join =>
    unfold step at h
    dsimp only at h
    split at h
    . next hflow =>
      split at h
      . contradiction
      . next hlive =>
        cases h
        exact .join hflow (by simpa using hlive)
    . contradiction
  | dispose =>
    unfold step at h
    dsimp only at h
    split at h
    . next hflow =>
      cases h
      exact .dispose hflow
    . contradiction
  | finish =>
    unfold step at h
    dsimp only at h
    split at h
    . next hflow =>
      cases h
      exact .finish hflow
    . contradiction
  | rouse signal =>
    simp only [step, Option.ite_none_right_eq_some, Option.some.injEq] at h
    obtain ⟨⟨hlistener, hpending⟩, rfl⟩ := h
    exact .rouse signal hlistener hpending
  | kill =>
    unfold step at h
    dsimp only at h
    split at h
    . next hlistener =>
      cases h
      exact .kill hlistener
    . contradiction
  | arrive signal =>
    simp only [step, Option.ite_none_right_eq_some, Option.some.injEq] at h
    obtain ⟨hcatching, rfl⟩ := h
    exact .arrive signal hcatching
  | exit status =>
    simp only [step, Option.ite_none_right_eq_some, Option.some.injEq] at h
    obtain ⟨hchild, rfl⟩ := h
    exact .exit status hchild
  | die =>
    simp only [step, Option.ite_none_right_eq_some, Option.some.injEq] at h
    obtain ⟨⟨hchild, hkills⟩, rfl⟩ := h
    exact .die hchild hkills

theorem run_cons_eq_some {moves : List Move} :
    run i s (move :: moves) = some t ↔ ∃ r, step i s move = some r ∧ run i r moves = some t := by
  rw [run]
  cases step i s move <;> simp

theorem run_induction {P : List Move → State → Prop}
    (hstep : ∀ past s move t, P past s → Step i s move t → P (past ++ [move]) t)
    (past : List Move) {moves : List Move} (hs : P past s) (h : run i s moves = some t) :
    P (past ++ moves) t := by
  induction moves generalizing past s with
  | nil =>
    cases h
    rwa [List.append_nil]
  | cons move moves ih =>
    obtain ⟨r, hmove, hrest⟩ := run_cons_eq_some.mp h
    have hr : P (past ++ [move]) r := hstep past s move r hs (.of_step hmove)
    have ht : P (past ++ [move] ++ moves) t := ih (past ++ [move]) hr hrest
    rwa [List.append_assoc] at ht

def Child.isUnreaped : Child → Bool
  | .alive => true
  | .ended _ => true
  | _ => false

def Child.Answers (c : Child) : Except IoError WaitStatus → Prop
  | .ok status => c = .reaped status
  | .error _ => c.isUnreaped

def State.InPlace (s : State) : Prop :=
  match s.flow with
  | .start => s.catching = false ∧ s.listener = .absent ∧ s.child = .absent
  | .registered => s.listener = .absent ∧ s.child = .absent
  | .spawned => s.listener = .absent ∧ s.child.isUnreaped
  | .waiting =>
    (s.listener = .absent ↔ s.catching = false) ∧ s.listener ≠ .stopped ∧ s.child.isUnreaped
  | .waited outcome =>
    (s.listener = .absent ↔ s.catching = false) ∧ s.listener ≠ .stopped ∧ s.child.Answers outcome
  | .aborted outcome =>
    (s.listener = .absent ↔ s.catching = false) ∧ s.listener ≠ .listening ∧ s.child.Answers outcome
  | .joined outcome => s.listener.isLive = false ∧ s.child.Answers outcome
  | .disposed outcome => s.listener.isLive = false ∧ s.child.Answers outcome
  | .returned result =>
    s.listener.isLive = false ∧
      (s.listener = .absent ∧ s.child = .absent
        ∨ ∃ outcome, result = resultOf outcome ∧ s.child.Answers outcome)

structure State.Consistent (s : State) : Prop where
  inPlace : s.InPlace
  kills : s.listener = .finished ∧ (∃ child, s.kills = [⟨s.group, child⟩])
    ∨ s.listener ≠ .finished ∧ s.kills = []
  alive_of_alive : s.child = .alive → ∀ kill ∈ s.kills, kill.child = .alive
  unreaped_of_unreaped : s.child.isUnreaped → ∀ kill ∈ s.kills, kill.child.isUnreaped

theorem State.InPlace.step (h : s.InPlace) (hstep : Step i s move t) : t.InPlace := by
  cases hstep with
  | register succeeds hflow =>
    simp only [InPlace, hflow] at h ⊢
    exact h.2
  | spawn group hflow =>
    simp only [InPlace, hflow] at h ⊢
    exact ⟨h.1, rfl⟩
  | spawnFails cause hflow =>
    simp only [InPlace, hflow] at h ⊢
    refine ⟨?_, .inl h⟩
    rw [h.1]
    rfl
  | startListener hflow =>
    simp only [InPlace, hflow] at h ⊢
    cases s.catching <;> simp [h.2]
  | reap hflow hchild =>
    simp only [InPlace, hflow] at h ⊢
    exact ⟨h.1, h.2.1, rfl⟩
  | waitFails cause hflow =>
    simp only [InPlace, hflow] at h ⊢
    exact h
  | abort hflow =>
    simp only [InPlace, hflow] at h ⊢
    obtain ⟨habsent, hstopped, hanswers⟩ := h
    refine ⟨?_, ?_, hanswers⟩
    . split <;> simp_all
    . split <;> simp_all
  | join hflow hlive =>
    simp only [InPlace, hflow] at h ⊢
    exact ⟨hlive, h.2.2⟩
  | dispose hflow =>
    simp only [InPlace, hflow] at h ⊢
    exact h
  | finish hflow =>
    simp only [InPlace, hflow] at h ⊢
    exact ⟨h.1, .inr ⟨_, rfl, h.2⟩⟩
  | rouse signal hlistener _ =>
    unfold InPlace at *
    cases hflow : s.flow <;> simp_all [Listener.isLive]
  | kill hlistener =>
    unfold InPlace at *
    cases hflow : s.flow <;> simp_all [Listener.isLive]
  | arrive signal _ => exact h
  | exit status hchild =>
    unfold InPlace at *
    cases hflow : s.flow <;> simp_all [Child.isUnreaped, Child.Answers]
  | die hchild _ =>
    unfold InPlace at *
    cases hflow : s.flow <;> simp_all [Child.isUnreaped, Child.Answers]

namespace State.Consistent

theorem init : Consistent {} := by
  constructor
  . exact ⟨rfl, rfl, rfl⟩
  . exact .inr ⟨by simp, rfl⟩
  . intro h
    contradiction
  . intro h
    contradiction

theorem kills_eq_nil (h : s.Consistent) (hlistener : s.listener ≠ .finished) : s.kills = [] := by
  rcases h.kills with ⟨hfinished, _⟩ | ⟨_, hkills⟩
  . contradiction
  . exact hkills

theorem of_eq (h : s.Consistent) (hplace : t.InPlace) (hchild : t.child = s.child)
    (hlistener : t.listener = s.listener) (hkills : t.kills = s.kills)
    (hgroup : t.group = s.group) : t.Consistent := by
  constructor
  . exact hplace
  . rw [hlistener, hkills, hgroup]
    exact h.kills
  . rw [hchild, hkills]
    exact h.alive_of_alive
  . rw [hchild, hkills]
    exact h.unreaped_of_unreaped

theorem of_kills_eq_nil (hplace : t.InPlace) (hlistener : t.listener ≠ .finished)
    (hkills : t.kills = []) : t.Consistent := by
  constructor
  . exact hplace
  . exact .inr ⟨hlistener, hkills⟩
  . intro _ kill hkill
    simp [hkills] at hkill
  . intro _ kill hkill
    simp [hkills] at hkill

theorem of_ended (h : s.Consistent) (hchild : s.child = .alive) {status : WaitStatus}
    (hplace : State.InPlace { s with child := .ended status }) :
    State.Consistent { s with child := .ended status } := by
  constructor
  . exact hplace
  . exact h.kills
  . intro halive
    contradiction
  . intro _
    exact h.unreaped_of_unreaped (by rw [hchild]; rfl)

theorem step (h : s.Consistent) (hstep : Step i s move t) : t.Consistent := by
  have hplace := h.inPlace.step hstep
  cases hstep with
  | spawn group hflow =>
    have habsent : s.listener = .absent := by
      have := h.inPlace
      simp only [InPlace, hflow] at this
      exact this.1
    have hlistener : s.listener ≠ .finished := by simp [habsent]
    exact of_kills_eq_nil hplace hlistener (h.kills_eq_nil hlistener)
  | startListener hflow =>
    have habsent : s.listener = .absent := by
      have := h.inPlace
      simp only [InPlace, hflow] at this
      exact this.1
    apply of_kills_eq_nil hplace
    . dsimp only
      split <;> simp
    . exact h.kills_eq_nil (by simp [habsent])
  | reap hflow hchild =>
    constructor
    . exact hplace
    . exact h.kills
    . intro halive
      contradiction
    . intro hunreaped
      contradiction
  | abort hflow =>
    by_cases hlistening : s.listener = .listening
    . apply of_kills_eq_nil hplace
      . simp [hlistening]
      . exact h.kills_eq_nil (by simp [hlistening])
    . exact h.of_eq hplace rfl (if_neg hlistening) rfl rfl
  | rouse signal hlistener _ =>
    apply of_kills_eq_nil hplace
    . simp
    . exact h.kills_eq_nil (by simp [hlistener])
  | kill hlistener =>
    have hkills := h.kills_eq_nil (by simp [hlistener])
    constructor
    . exact hplace
    . exact .inl ⟨rfl, s.child, by simp [hkills]⟩
    . intro halive kill hkill
      simp only [hkills, List.nil_append, List.mem_singleton] at hkill
      rw [hkill]
      exact halive
    . intro hunreaped kill hkill
      simp only [hkills, List.nil_append, List.mem_singleton] at hkill
      rw [hkill]
      exact hunreaped
  | exit status hchild => exact h.of_ended hchild hplace
  | die hchild _ => exact h.of_ended hchild hplace
  | _ => exact h.of_eq hplace rfl rfl rfl rfl

theorem run (h : s.Consistent) {moves : List Move} (hrun : Supervision.run i s moves = some t) :
    t.Consistent :=
  run_induction (P := fun _ s => s.Consistent) (fun _ _ _ _ h hstep => h.step hstep) [] h hrun

end State.Consistent

end KubePlugin.Supervision
