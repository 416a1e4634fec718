import KubePlugin.Proofs.Supervision.Ownership

/-!
This module contains how a supervised run ends: with the failure to start the child, with the
failure to learn of its end, or with the code of the status that was reported for it, whatever the
order of the moves. What has happened once cannot happen again, so at its end the child's group is
disposed of, the listener has stopped, and at most one kill was sent.
-/

namespace KubePlugin.Supervision

inductive Outcome where
  | notStarted (cause : IoError)
  | unknown (cause : IoError)
  | ended (status : WaitStatus)
deriving DecidableEq, Repr

def Outcome.result (i : Invocation) : Outcome → Except PluginError Int
  | notStarted cause => .error (.launch i.tool i.program cause)
  | unknown cause => .error (.wait cause)
  | ended status => .ok status.relay

def Move.started? : Move → Option Nat
  | .spawn (.ok group) => some group
  | _ => none

def Move.ending? : Move → Option WaitStatus
  | .exit status => some status
  | .die => some (.killed Signal.kill)
  | _ => none

def Outcome.OccursIn (moves : List Move) : Outcome → Prop
  | notStarted cause => .spawn (.error cause) ∈ moves
  | unknown cause => .waitFails cause ∈ moves
  | ended status => .reap ∈ moves ∧ status ∈ moves.filterMap Move.ending?

inductive Verdict where
  | notStarted (cause : IoError)
  | unknown (cause : IoError)
  | reaped
deriving DecidableEq, Repr

def Move.verdict? : Move → Option Verdict
  | .spawn (.error cause) => some (.notStarted cause)
  | .waitFails cause => some (.unknown cause)
  | .reap => some .reaped
  | _ => none

def Verdict.move : Verdict → Move
  | notStarted cause => .spawn (.error cause)
  | unknown cause => .waitFails cause
  | reaped => .reap

def Verdict.ofWait : Except IoError WaitStatus → Verdict
  | .ok _ => reaped
  | .error cause => unknown cause

def Flow.verdict? : Flow → Option Verdict
  | .waited outcome => some (.ofWait outcome)
  | .aborted outcome => some (.ofWait outcome)
  | .joined outcome => some (.ofWait outcome)
  | .disposed outcome => some (.ofWait outcome)
  | .returned (.ok _) => some .reaped
  | .returned (.error (.wait cause)) => some (.unknown cause)
  | .returned (.error (.launch _ _ cause)) => some (.notStarted cause)
  | _ => none

def Child.status? : Child → Option WaitStatus
  | .ended status => some status
  | .reaped status => some status
  | _ => none

def Caught (moves : List Move) (signal : Cancellation) : Prop :=
  ∃ earlier later, moves = earlier ++ .arrive signal :: later ∧ .register true ∈ earlier

def Move.isOwn : Move → Bool
  | .waitFails _ => false
  | .arrive _ => false
  | .exit _ => false
  | .die => false
  | _ => true

def Flow.rank : Flow → Nat
  | .start => 8
  | .registered => 7
  | .spawned => 6
  | .waiting => 5
  | .waited _ => 4
  | .aborted _ => 3
  | .joined _ => 2
  | .disposed _ => 1
  | .returned _ => 0

def Listener.rank : Listener → Nat
  | .absent => 2
  | .listening => 2
  | .roused _ => 1
  | .finished => 0
  | .stopped => 0

def State.rank (s : State) : Nat := s.flow.rank + s.listener.rank

def State.returned (s : State) : Bool :=
  match s.flow with
  | .returned _ => true
  | _ => false

variable {i : Invocation} {s t : State} {move : Move} {past moves : List Move}
  {signal : Cancellation}

theorem Child.Answers.ne_absent {c : Child} {outcome : Except IoError WaitStatus}
    (h : c.Answers outcome) : c ≠ .absent := by
  rintro rfl
  cases outcome <;> simp [Child.Answers, Child.isUnreaped] at h

theorem verdict?_resultOf (outcome : Except IoError WaitStatus) :
    (Flow.returned (resultOf outcome)).verdict? = some (.ofWait outcome) := by
  cases outcome <;> rfl

theorem Verdict.move_iff (verdict : Verdict) :
    move.verdict? = some verdict ↔ move = verdict.move := by
  constructor
  . intro h
    unfold Move.verdict? at h
    split at h
    all_goals cases h
    all_goals rfl
  . rintro rfl
    cases verdict <;> rfl

theorem run_append {first second : List Move} :
    run i s (first ++ second) = some t ↔ ∃ r, run i s first = some r ∧ run i r second = some t := by
  induction first generalizing s with
  | nil => simp [run]
  | cons move first ih =>
    rw [List.cons_append, run_cons_eq_some]
    constructor
    . rintro ⟨r, hstep, hrun⟩
      obtain ⟨u, hfirst, hsecond⟩ := ih.mp hrun
      exact ⟨u, run_cons_eq_some.mpr ⟨r, hstep, hfirst⟩, hsecond⟩
    . rintro ⟨u, hfirst, hsecond⟩
      obtain ⟨r, hstep, hrun⟩ := run_cons_eq_some.mp hfirst
      exact ⟨r, hstep, ih.mpr ⟨u, hrun, hsecond⟩⟩

namespace Caught

theorem append (h : Caught past signal) (rest : List Move) : Caught (past ++ rest) signal := by
  obtain ⟨earlier, later, rfl, hregister⟩ := h
  exact ⟨earlier, later ++ rest, by simp, hregister⟩

theorem arrive (h : .register true ∈ past) : Caught (past ++ [.arrive signal]) signal :=
  ⟨past, [], rfl, h⟩

end Caught

structure State.Accounts (i : Invocation) (s : State) (past : List Move) : Prop where
  consistent : s.Consistent
  verdicts : past.filterMap Move.verdict? = s.flow.verdict?.toList
  started : past.filterMap Move.started? = if s.child = .absent then [] else [s.group]
  endings : past.filterMap Move.ending? = s.child.status?.toList
  kills : past.count .kill = s.kills.length
  disposals : s.disposals = match s.flow with
    | .disposed _ => 1
    | .returned _ => if s.child = .absent then 0 else 1
    | _ => 0
  childless : s.child = .absent → .startListener ∉ past ∧
    ∀ result, s.flow = .returned result →
      ∃ cause, result = .error (.launch i.tool i.program cause)
  registered : s.catching = true → .register true ∈ past
  caught : ∀ signal, signal ∈ s.pending ∨ s.listener = .roused signal → Caught past signal
  work : past.countP Move.isOwn + s.rank ≤ 10

namespace State.Accounts

theorem init : Accounts i {} [] := by
  constructor
  . exact .init
  . rfl
  . rfl
  . rfl
  . rfl
  . rfl
  . simp
  . simp
  . simp
  . decide

theorem verdicts_step (h : s.Accounts i past) (hstep : Step i s move t) :
    (past ++ [move]).filterMap Move.verdict? = t.flow.verdict?.toList := by
  rw [List.filterMap_append, h.verdicts]
  cases hstep with
  | finish hflow =>
    dsimp only
    rw [verdict?_resultOf, hflow]
    rfl
  | register _ hflow => simp [hflow, Move.verdict?, Flow.verdict?]
  | spawn _ hflow => simp [hflow, Move.verdict?, Flow.verdict?]
  | spawnFails _ hflow => simp [hflow, Move.verdict?, Flow.verdict?]
  | startListener hflow => simp [hflow, Move.verdict?, Flow.verdict?]
  | reap hflow _ => simp [hflow, Move.verdict?, Flow.verdict?, Verdict.ofWait]
  | waitFails _ hflow => simp [hflow, Move.verdict?, Flow.verdict?, Verdict.ofWait]
  | abort hflow => simp [hflow, Move.verdict?, Flow.verdict?]
  | join hflow _ => simp [hflow, Move.verdict?, Flow.verdict?]
  | dispose hflow => simp [hflow, Move.verdict?, Flow.verdict?]
  | _ => simp [Move.verdict?]

theorem started_step (h : s.Accounts i past) (hstep : Step i s move t) :
    (past ++ [move]).filterMap Move.started? = if t.child = .absent then [] else [t.group] := by
  have hplace := h.consistent.inPlace
  rw [List.filterMap_append, h.started]
  cases hstep with
  | spawn group hflow =>
    simp only [InPlace, hflow] at hplace
    simp [hplace.2, Move.started?]
  | reap _ hchild => simp [hchild, Move.started?]
  | exit _ hchild => simp [hchild, Move.started?]
  | die hchild _ => simp [hchild, Move.started?]
  | _ => simp [Move.started?]

theorem endings_step (h : s.Accounts i past) (hstep : Step i s move t) :
    (past ++ [move]).filterMap Move.ending? = t.child.status?.toList := by
  have hplace := h.consistent.inPlace
  rw [List.filterMap_append, h.endings]
  cases hstep with
  | spawn group hflow =>
    simp only [InPlace, hflow] at hplace
    simp [hplace.2, Move.ending?, Child.status?]
  | reap _ hchild => simp [hchild, Move.ending?, Child.status?]
  | exit _ hchild => simp [hchild, Move.ending?, Child.status?]
  | die hchild _ => simp [hchild, Move.ending?, Child.status?]
  | _ => simp [Move.ending?]

theorem kills_step (h : s.Accounts i past) (hstep : Step i s move t) :
    (past ++ [move]).count .kill = t.kills.length := by
  rw [List.count_append, h.kills]
  cases hstep <;> simp

theorem disposals_step (h : s.Accounts i past) (hstep : Step i s move t) :
    t.disposals = match t.flow with
      | .disposed _ => 1
      | .returned _ => if t.child = .absent then 0 else 1
      | _ => 0 := by
  have hplace := h.consistent.inPlace
  have hdisposals := h.disposals
  cases hstep with
  | spawnFails _ hflow =>
    simp only [InPlace, hflow] at hplace hdisposals
    simp [hplace.2, hdisposals]
  | dispose hflow =>
    simp only [InPlace, hflow] at hplace hdisposals
    simp [hplace.1, hdisposals]
  | finish hflow =>
    simp only [InPlace, hflow] at hplace hdisposals
    simp [hplace.2.ne_absent, hdisposals]
  | _ => simp_all

theorem childless_step (h : s.Accounts i past) (hstep : Step i s move t)
    (habsent : t.child = .absent) :
    .startListener ∉ past ++ [move] ∧ ∀ result, t.flow = .returned result →
      ∃ cause, result = .error (.launch i.tool i.program cause) := by
  have hplace := h.consistent.inPlace
  cases hstep with
  | register _ _ => simpa using (h.childless habsent).1
  | spawn _ _ => contradiction
  | spawnFails cause _ =>
    refine ⟨by simpa using (h.childless habsent).1, ?_⟩
    rintro result ⟨⟩
    exact ⟨cause, rfl⟩
  | startListener hflow =>
    simp only [InPlace, hflow] at hplace
    rw [habsent] at hplace
    exact absurd hplace.2 (by simp [Child.isUnreaped])
  | reap _ _ => contradiction
  | waitFails _ _ => simpa using (h.childless habsent).1
  | abort _ => simpa using (h.childless habsent).1
  | join _ _ => simpa using (h.childless habsent).1
  | dispose _ => simpa using (h.childless habsent).1
  | finish hflow =>
    simp only [InPlace, hflow] at hplace
    exact absurd habsent hplace.2.ne_absent
  | exit _ _ => contradiction
  | die _ _ => contradiction
  | _ => simpa using h.childless habsent

theorem registered_step (h : s.Accounts i past) (hstep : Step i s move t)
    (hcatching : t.catching = true) : .register true ∈ past ++ [move] := by
  cases hstep with
  | register succeeds _ =>
    dsimp only at hcatching
    simp [hcatching]
  | _ => exact List.mem_append_left _ (h.registered hcatching)

theorem mem_of_mem_addPending {new : Cancellation} {pending : List Cancellation}
    (h : signal ∈ addPending new pending) : signal = new ∨ signal ∈ pending := by
  unfold addPending at h
  split at h
  . exact .inr h
  . simpa [or_comm] using h

theorem caught_step (h : s.Accounts i past) (hstep : Step i s move t)
    (hsignal : signal ∈ t.pending ∨ t.listener = .roused signal) :
    Caught (past ++ [move]) signal := by
  cases hstep with
  | startListener _ =>
    refine (h.caught signal (.inl ?_)).append _
    cases hcatching : s.catching <;> simpa [hcatching] using hsignal
  | abort _ =>
    refine (h.caught signal ?_).append _
    by_cases hlistening : s.listener = .listening
    . simpa [hlistening] using hsignal
    . simpa [hlistening] using hsignal
  | rouse taken _ hpending =>
    refine (h.caught signal (.inl ?_)).append _
    rcases hsignal with hsignal | hsignal
    . exact List.mem_of_mem_erase hsignal
    . injection hsignal with htaken
      rwa [← htaken]
  | kill _ =>
    refine (h.caught signal (.inl ?_)).append _
    simpa using hsignal
  | arrive new hcatching =>
    by_cases hnew : signal = new
    . subst hnew
      exact .arrive (h.registered hcatching)
    . refine (h.caught signal ?_).append _
      exact hsignal.imp_left fun hmem => (mem_of_mem_addPending hmem).resolve_left hnew
  | _ => exact (h.caught signal hsignal).append _

theorem rank_step (h : s.InPlace) (hstep : Step i s move t) :
    (if move.isOwn then 1 else 0) + t.rank ≤ s.rank := by
  unfold rank
  cases hstep with
  | startListener hflow =>
    simp only [InPlace, hflow] at h
    cases s.catching <;> simp [hflow, h.1, Move.isOwn, Flow.rank, Listener.rank]
  | abort hflow =>
    have hlistener :
        (if s.listener = .listening then Listener.stopped else s.listener).rank
          ≤ s.listener.rank := by
      split
      . exact Nat.zero_le _
      . exact Nat.le_refl _
    simp only [Move.isOwn, hflow, Flow.rank, ↓reduceIte]
    omega
  | rouse _ hlistener _ =>
    simp only [Move.isOwn, hlistener, Listener.rank, ↓reduceIte]
    omega
  | kill hlistener =>
    simp only [Move.isOwn, hlistener, Listener.rank, ↓reduceIte]
    omega
  | arrive _ _ => simp [Move.isOwn]
  | exit _ _ => simp [Move.isOwn]
  | die _ _ => simp [Move.isOwn]
  | _ =>
    simp only [Move.isOwn, *, Flow.rank, Bool.false_eq_true, ↓reduceIte]
    omega

theorem work_step (h : s.Accounts i past) (hstep : Step i s move t) :
    (past ++ [move]).countP Move.isOwn + t.rank ≤ 10 := by
  have hrank := rank_step h.consistent.inPlace hstep
  have hwork := h.work
  rw [List.countP_append, List.countP_singleton]
  omega

theorem step (h : s.Accounts i past) (hstep : Step i s move t) : t.Accounts i (past ++ [move]) where
  consistent := h.consistent.step hstep
  verdicts := h.verdicts_step hstep
  started := h.started_step hstep
  endings := h.endings_step hstep
  kills := h.kills_step hstep
  disposals := h.disposals_step hstep
  childless := h.childless_step hstep
  registered := h.registered_step hstep
  caught _ := h.caught_step hstep
  work := h.work_step hstep

theorem of_run (h : run i {} moves = some s) : s.Accounts i moves :=
  run_induction (P := fun past s => s.Accounts i past) (fun _ _ _ _ h hstep => h.step hstep) []
    init h

theorem move_mem_iff (h : s.Accounts i past) (verdict : Verdict) :
    verdict.move ∈ past ↔ s.flow.verdict? = some verdict := by
  rw [← Option.mem_toList, ← h.verdicts, List.mem_filterMap]
  constructor
  . intro hmem
    exact ⟨_, hmem, verdict.move_iff.mpr rfl⟩
  . rintro ⟨move, hmem, hverdict⟩
    rwa [← verdict.move_iff.mp hverdict]

theorem occursIn_iff (h : s.Accounts i past) (outcome : Outcome) :
    outcome.OccursIn past ↔ match outcome with
      | .notStarted cause => s.flow.verdict? = some (.notStarted cause)
      | .unknown cause => s.flow.verdict? = some (.unknown cause)
      | .ended status => s.flow.verdict? = some .reaped ∧ s.child.status? = some status := by
  cases outcome with
  | notStarted cause => exact h.move_mem_iff (.notStarted cause)
  | unknown cause => exact h.move_mem_iff (.unknown cause)
  | ended status =>
    unfold Outcome.OccursIn
    dsimp only
    rw [h.endings, Option.mem_toList]
    exact and_congr_left fun _ => h.move_mem_iff .reaped

theorem result_cases (h : s.Accounts i past) {result : Except PluginError Int}
    (hflow : s.flow = .returned result) :
    s.child = .absent ∧ (∃ cause, result = .error (.launch i.tool i.program cause))
      ∨ s.child.isUnreaped ∧ (∃ cause, result = .error (.wait cause))
      ∨ ∃ status, s.child = .reaped status ∧ result = .ok status.relay := by
  have hplace := h.consistent.inPlace
  simp only [InPlace, hflow] at hplace
  rcases hplace.2 with ⟨_, habsent⟩ | ⟨outcome, rfl, hanswers⟩
  . exact .inl ⟨habsent, (h.childless habsent).2 result hflow⟩
  . cases outcome with
    | ok status => exact .inr (.inr ⟨status, hanswers, rfl⟩)
    | error cause => exact .inr (.inl ⟨hanswers, cause, rfl⟩)

theorem exists_outcome (h : s.Accounts i past) {result : Except PluginError Int}
    (hflow : s.flow = .returned result) :
    ∃ outcome : Outcome, (∀ other : Outcome, other.OccursIn past ↔ other = outcome)
      ∧ result = outcome.result i := by
  rcases h.result_cases hflow with ⟨_, cause, rfl⟩ | ⟨_, cause, rfl⟩ | ⟨status, hchild, rfl⟩
  . refine ⟨.notStarted cause, ?_, rfl⟩
    intro other
    rw [h.occursIn_iff, hflow]
    cases other <;> simp [Flow.verdict?, eq_comm]
  . refine ⟨.unknown cause, ?_, rfl⟩
    intro other
    rw [h.occursIn_iff, hflow]
    cases other <;> simp [Flow.verdict?, eq_comm]
  . refine ⟨.ended status, ?_, rfl⟩
    intro other
    rw [h.occursIn_iff, hflow, hchild]
    cases other <;> simp [Flow.verdict?, Child.status?, eq_comm]

theorem of_not_started (h : s.Accounts i past) {cause : IoError}
    (hmem : .spawn (.error cause) ∈ past) :
    s.flow = .returned (.error (.launch i.tool i.program cause)) ∧ s.child = .absent := by
  have hverdict := (h.move_mem_iff (.notStarted cause)).mp hmem
  unfold Flow.verdict? at hverdict
  split at hverdict
  . next outcome _ => cases outcome <;> cases hverdict
  . next outcome _ => cases outcome <;> cases hverdict
  . next outcome _ => cases outcome <;> cases hverdict
  . next outcome _ => cases outcome <;> cases hverdict
  . cases hverdict
  . cases hverdict
  . next hflow =>
    cases hverdict
    rcases h.result_cases hflow with ⟨habsent, _, hlaunch⟩ | ⟨_, _, hwait⟩ | ⟨_, _, hok⟩
    . cases hlaunch
      exact ⟨hflow, habsent⟩
    . cases hwait
    . cases hok
  . cases hverdict

theorem count_kill_le (h : s.Accounts i past) : past.count .kill ≤ 1 := by
  rw [h.kills]
  rcases h.consistent.kills with ⟨_, child, hkills⟩ | ⟨_, hkills⟩
  . simp [hkills]
  . simp [hkills]

theorem started_eq (h : s.Accounts i past) (hchild : s.child ≠ .absent) :
    past.filterMap Move.started? = [s.group] := by
  rw [h.started, if_neg hchild]

end State.Accounts

theorem of_run_kill {before after : List Move}
    (hrun : run i {} (before ++ .kill :: after) = some s) :
    ∃ group signal, before.filterMap Move.started? = [group] ∧ Caught before signal
      ∧ ∃ child, s.kills = [⟨group, child⟩] := by
  have h := State.Accounts.of_run hrun
  obtain ⟨r, hbefore, hrest⟩ := run_append.mp hrun
  have hr := State.Accounts.of_run hbefore
  obtain ⟨u, hkill, _⟩ := run_cons_eq_some.mp hrest
  cases Step.of_step hkill with
  | @kill signal hlistener =>
    have hchild : r.child ≠ .absent := by
      intro habsent
      rw [hr.consistent.listener_eq_absent habsent] at hlistener
      contradiction
    have hstarted := hr.started_eq hchild
    refine ⟨r.group, signal, hstarted, hr.caught signal (.inr hlistener), ?_⟩
    have hgroup : s.group = r.group := by
      have := h.started
      rw [List.filterMap_append, hstarted] at this
      split at this
      . simp at this
      . simp at this
        exact this.1.symm
    rcases h.consistent.kills with ⟨_, child, hkills⟩ | ⟨_, hkills⟩
    . exact ⟨child, by rw [hkills, hgroup]⟩
    . have := h.kills
      simp [hkills] at this

theorem State.Consistent.exists_own_step (h : s.Consistent) (hreturned : s.returned = false)
    (hchild : s.flow = .waiting → s.child ≠ .alive) :
    ∃ move, move.isOwn ∧ (Supervision.step i s move).isSome := by
  have hplace := h.inPlace
  cases hflow : s.flow with
  | start => exact ⟨.register true, rfl, by simp [Supervision.step, hflow]⟩
  | registered => exact ⟨.spawn (.ok 0), rfl, by simp [Supervision.step, hflow]⟩
  | spawned => exact ⟨.startListener, rfl, by simp [Supervision.step, hflow]⟩
  | waiting =>
    simp only [InPlace, hflow] at hplace
    cases hs : s.child with
    | ended status => exact ⟨.reap, rfl, by simp [Supervision.step, hflow, hs]⟩
    | alive => exact absurd hs (hchild hflow)
    | _ => simp [hs, Child.isUnreaped] at hplace
  | waited outcome => exact ⟨.abort, rfl, by simp [Supervision.step, hflow]⟩
  | aborted outcome =>
    simp only [InPlace, hflow] at hplace
    -- A listener that can no longer be stopped has a kill to send first.
    cases hlistener : s.listener with
    | roused signal => exact ⟨.kill, rfl, by simp [Supervision.step, hlistener]⟩
    | listening => exact absurd hlistener hplace.2.1
    | _ => exact ⟨.join, rfl, by simp [Supervision.step, hflow, hlistener, Listener.isLive]⟩
  | joined outcome => exact ⟨.dispose, rfl, by simp [Supervision.step, hflow]⟩
  | disposed outcome => exact ⟨.finish, rfl, by simp [Supervision.step, hflow]⟩
  | returned result => simp [State.returned, hflow] at hreturned

/-- A run that has returned had exactly one outcome and gives its result, with the listener stopped
and the group of a child disposed of once. A child that is not started is the end of the run. A kill
is sent at most once, after a signal, and to the child that was started. The program makes at most
ten moves, and waits for nothing but a living child. -/
theorem run_outcome (i : Invocation) {moves : List Move} {s : State}
    (hrun : run i {} moves = some s) :
    (∀ result, s.flow = .returned result →
      (∃ outcome : Outcome, (∀ other : Outcome, other.OccursIn moves ↔ other = outcome)
        ∧ result = outcome.result i)
      ∧ ∀ group, .spawn (.ok group) ∈ moves → s.listener.isLive = false ∧ s.disposals = 1)
      ∧ (∀ cause, .spawn (.error cause) ∈ moves →
        s.flow = .returned (.error (.launch i.tool i.program cause))
          ∧ moves.filterMap Move.started? = [] ∧ .startListener ∉ moves ∧ .kill ∉ moves)
      ∧ moves.count .kill ≤ 1
      ∧ (∀ before after, moves = before ++ .kill :: after →
        ∃ group signal, before.filterMap Move.started? = [group] ∧ Caught before signal
          ∧ ∃ child, s.kills = [⟨group, child⟩])
      ∧ (s.returned = false → (s.flow = .waiting → s.child ≠ .alive) →
        ∃ move, move.isOwn ∧ (step i s move).isSome)
      ∧ moves.countP Move.isOwn ≤ 10 := by
  have h := State.Accounts.of_run hrun
  refine ⟨?_, ?_, h.count_kill_le, ?_, h.consistent.exists_own_step, ?_⟩
  . intro result hflow
    refine ⟨h.exists_outcome hflow, ?_⟩
    intro group hgroup
    have hchild : s.child ≠ .absent := by
      intro habsent
      have hstarted := h.started
      rw [if_pos habsent, List.filterMap_eq_nil_iff] at hstarted
      have := hstarted _ hgroup
      contradiction
    have hplace := h.consistent.inPlace
    have hdisposals := h.disposals
    simp only [State.InPlace, hflow] at hplace
    simp only [hflow, if_neg hchild] at hdisposals
    exact ⟨hplace.1, hdisposals⟩
  . intro cause hcause
    obtain ⟨hflow, habsent⟩ := h.of_not_started hcause
    refine ⟨hflow, ?_, (h.childless habsent).1, ?_⟩
    . rw [h.started, if_pos habsent]
    . have hlistener := h.consistent.listener_eq_absent habsent
      rw [← List.count_eq_zero, h.kills, h.consistent.kills_eq_nil (by simp [hlistener])]
      rfl
  . rintro before after rfl
    exact of_run_kill hrun
  . exact Nat.le_trans (Nat.le_add_right _ _) h.work

theorem run_outcome_ownEnd :
    ∃ s, run ⟨.neonCli, ⟨[]⟩, [], .supervised⟩ {}
        [.register true, .spawn (.ok 42), .arrive .interrupt, .startListener, .rouse .interrupt,
          .kill, .exit (.exited 3), .reap, .arrive .terminate, .abort, .join, .dispose, .finish]
        = some s
      ∧ s.flow = .returned (.ok 3) ∧ s.listener.isLive = false ∧ s.disposals = 1
      ∧ ∃ child, s.kills = [⟨42, child⟩] := by
  have hrun : run ⟨.neonCli, ⟨[]⟩, [], .supervised⟩ {}
      [.register true, .spawn (.ok 42), .arrive .interrupt, .startListener, .rouse .interrupt,
        .kill, .exit (.exited 3), .reap, .arrive .terminate, .abort, .join, .dispose, .finish]
      = some { flow := .returned (.ok 3), catching := true, listener := .finished
               child := .reaped (.exited 3), group := 42, pending := [.terminate]
               kills := [⟨42, .alive⟩], disposals := 1 } := by decide
  obtain ⟨hreturned, _, _, hkill, _⟩ := run_outcome _ hrun
  obtain ⟨_, hdone⟩ := hreturned (.ok 3) rfl
  obtain ⟨hlistener, hdisposals⟩ := hdone 42 (by simp)
  obtain ⟨group, _, hgroup, _, hkills⟩ := hkill
    [.register true, .spawn (.ok 42), .arrive .interrupt, .startListener, .rouse .interrupt] _ rfl
  cases (show [42] = [group] from hgroup)
  exact ⟨_, hrun, rfl, hlistener, hdisposals, hkills⟩

end KubePlugin.Supervision
