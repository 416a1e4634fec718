namespace KubePlugin.Stateful

variable {σ ε α β : Type}

def after (x : StateM σ α) (st : σ) : α × σ := x st

theorem after_bind (x : StateM σ α) (f : α → StateM σ β) (st : σ) :
    after (x >>= f) st = after (f (after x st).1) (after x st).2 := rfl

theorem after_pure (a : α) (st : σ) : after (pure a : StateM σ α) st = (a, st) := rfl

theorem after_lift_bind (x : StateM σ α) (f : α → ExceptT ε (StateM σ) β) (st : σ) :
    after (ExceptT.lift x >>= f).run st = after (f (after x st).1).run (after x st).2 := rfl

def Does (work : ExceptT ε (StateM σ) α) (st : σ) (a : α) (st' : σ) : Prop :=
  after work.run st = (.ok a, st')

variable {st st' : σ} {a : α}

theorem does_pure_iff {b : α} :
    Does (pure a : ExceptT ε (StateM σ) α) st b st' ↔ a = b ∧ st = st' := by
  unfold Does
  rw [ExceptT.run_pure, after_pure]
  simp

theorem does_throw_iff {e : ε} :
    Does (throw e : ExceptT ε (StateM σ) α) st a st' ↔ False := by
  unfold Does
  rw [ExceptT.run_throw, after_pure]
  simp

theorem does_bind_iff {x : ExceptT ε (StateM σ) α} {f : α → ExceptT ε (StateM σ) β} {b : β} :
    Does (x >>= f) st b st' ↔ ∃ a middle, Does x st a middle ∧ Does (f a) middle b st' := by
  unfold Does
  rw [ExceptT.run_bind, after_bind]
  rcases after x.run st with ⟨outcome, middle⟩
  cases outcome with
  | ok a =>
    constructor
    . intro h
      exact ⟨a, middle, rfl, h⟩
    . rintro ⟨a, middle, heq, h⟩
      cases heq
      exact h
  | error e =>
    dsimp only
    rw [after_pure]
    simp

theorem does_lift_iff {x : StateM σ α} :
    Does (ExceptT.lift x : ExceptT ε (StateM σ) α) st a st' ↔ after x st = (a, st') := by
  have hafter : after (ExceptT.lift x : ExceptT ε (StateM σ) α).run st
      = (.ok (after x st).1, (after x st).2) := rfl
  unfold Does
  rw [hafter, Prod.ext_iff, Prod.ext_iff]
  simp

theorem does_lift_bind_iff {x : StateM σ α} {f : α → ExceptT ε (StateM σ) β} {b : β} :
    Does (ExceptT.lift x >>= f) st b st'
      ↔
    Does (f (after x st).1) (after x st).2 b st' := by
  unfold Does
  rw [after_lift_bind]

end KubePlugin.Stateful
