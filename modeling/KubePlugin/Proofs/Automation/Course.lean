import Mathlib.Data.List.Forall2
import KubePlugin.Automation.Surface
import KubePlugin.Proofs.Stateful

/-!
This module contains the course that a task takes in a system whose requests end one way or another:
a plan is carried out one step after the other, up to the first step that fails. Work that carries
out two plans in turn carries out the longer plan, whether or not the first comes to its end.
-/

namespace KubePlugin.Automation

open Stateful

inductive Deed where
  | say (line : String)
  | note (line : String)
  | run (words : CommandWords)
  | makeFolder (path : Path)
  | copy (source target : Path)
  | setMode (path : Path) (mode : Nat)
deriving DecidableEq, Repr

structure Attempt where
  deed : Deed
  succeeded : Bool
deriving DecidableEq, Repr

/-- A system with files, or whatever else its state `σ` holds. Every request has an answer and
leaves a state. -/
structure Setting (σ : Type) where
  root : Path
  run : CommandWords → σ → Except IoError WaitStatus × σ
  isThere : Path → σ → Bool
  isFolder : Path → σ → Bool
  makeFolder : Path → σ → Except IoError Unit × σ
  copy : Path → Path → σ → Except IoError Unit × σ
  setMode : Path → Nat → σ → Except IoError Unit × σ

inductive Deed.IsDoneAs : Deed → Deed → Prop where
  | same (d : Deed) : IsDoneAs d d
  | below {source target name : Path} : Path.fileName? source = some name →
    IsDoneAs (.copy source target) (.copy source (Path.join target name))

def Deed.command? : Deed → Option CommandWords
  | .run words => some words
  | _ => none

def Deed.changesFiles : Deed → Bool
  | .makeFolder _ => true
  | .copy _ _ => true
  | .setMode _ _ => true
  | _ => false

theorem Deed.IsDoneAs.command?_eq {d made : Deed} (h : d.IsDoneAs made) :
    d.command? = made.command? := by
  cases h with
  | same => rfl
  | below => rfl

theorem filterMap_command?_eq {done : List Deed} {attempts : List Attempt}
    (h : List.Forall₂ (fun d a => d.IsDoneAs a.deed) done attempts) :
    done.filterMap Deed.command? = attempts.filterMap (·.deed.command?) := by
  induction h with
  | nil => rfl
  | cons hd _ ih => rw [List.filterMap_cons, List.filterMap_cons, hd.command?_eq, ih]

theorem Deed.IsDoneAs.eq_say {d : Deed} {line : String} (h : d.IsDoneAs (.say line)) :
    d = .say line := by
  cases h with
  | same => rfl

theorem Deed.IsDoneAs.exists_eq_copy {d : Deed} {source path : Path}
    (h : d.IsDoneAs (.copy source path)) : ∃ target, d = .copy source target := by
  cases h with
  | same => exact ⟨path, rfl⟩
  | below => exact ⟨_, rfl⟩

namespace Workshop

def copyPlace (isFolder : Bool) (source target : Path) : Path :=
  if isFolder then
    match Path.fileName? source with
    | some name => Path.join target name
    | none => target
  else target

theorem after_copyTarget {σ : Type} {w : Workshop (StateM σ)} {source target : Path} {st : σ}
    {isFolder : Bool} (h : after (w.isFolder target) st = (isFolder, st)) :
    after (w.copyTarget source target) st = (copyPlace isFolder source target, st) := by
  unfold copyTarget copyPlace
  rw [after_bind, h]
  dsimp only
  split
  . cases Path.fileName? source with
    | some name => exact after_pure _ _
    | none => exact after_pure _ _
  . exact after_pure _ _

end Workshop

namespace Setting

structure State (σ : Type) where
  files : σ
  attempts : List Attempt := []

variable {σ α β : Type}

def isSuccess : Except IoError WaitStatus → Bool
  | .ok status => status.succeeded
  | .error _ => false

def record (d : Deed) (succeeded : α → Bool) (request : σ → α × σ) : StateM (State σ) α :=
  fun st =>
    ((request st.files).1,
      ⟨(request st.files).2, st.attempts ++ [⟨d, succeeded (request st.files).1⟩]⟩)

def workshop (w : Setting σ) : Workshop (StateM (State σ)) where
  root := w.root
  say line := record (.say line) (fun _ => true) fun files => ((), files)
  note line := record (.note line) (fun _ => true) fun files => ((), files)
  run words := record (.run words) isSuccess (w.run words)
  isThere path := fun st => (w.isThere path st.files, st)
  isFolder path := fun st => (w.isFolder path st.files, st)
  makeFolder path := record (.makeFolder path) Except.isOk (w.makeFolder path)
  copy source target := record (.copy source target) Except.isOk (w.copy source target)
  setMode path mode := record (.setMode path mode) Except.isOk (w.setMode path mode)

def attempt (w : Setting σ) : Deed → σ → Bool × σ
  | .say _, files => (true, files)
  | .note _, files => (true, files)
  | .run words, files => (isSuccess (w.run words files).1, (w.run words files).2)
  | .makeFolder path, files => ((w.makeFolder path files).1.isOk, (w.makeFolder path files).2)
  | .copy source target, files =>
    ((w.copy source target files).1.isOk, (w.copy source target files).2)
  | .setMode path mode, files => ((w.setMode path mode files).1.isOk, (w.setMode path mode files).2)

def copyTarget (w : Setting σ) (files : σ) (source target : Path) : Path :=
  Workshop.copyPlace (w.isFolder target files) source target

def resolved (w : Setting σ) (files : σ) : Deed → Deed
  | .copy source target => .copy source (w.copyTarget files source target)
  | d => d

structure Course (σ : Type) where
  attempts : List Attempt
  files : σ
  isComplete : Bool

def course (w : Setting σ) : List Deed → σ → Course σ
  | [], files => ⟨[], files, true⟩
  | d :: plan, files =>
    let made := w.resolved files d
    match w.attempt made files with
    | (true, files) =>
      ⟨⟨made, true⟩ :: (course w plan files).attempts, (course w plan files).files,
        (course w plan files).isComplete⟩
    | (false, files) => ⟨[⟨made, false⟩], files, false⟩

def commandDeeds (words : CommandWords) : List Deed :=
  [.note ("$ " ++ shownCommand words), .run words]

section Course

variable {w : Setting σ} {d : Deed} {plan rest : List Deed} {files files' : σ}

theorem course_nil : w.course [] files = ⟨[], files, true⟩ := rfl

theorem course_cons_of_succeeds (h : w.attempt (w.resolved files d) files = (true, files')) :
    w.course (d :: plan) files
      =
    ⟨⟨w.resolved files d, true⟩ :: (w.course plan files').attempts, (w.course plan files').files,
      (w.course plan files').isComplete⟩ := by
  rw [course, h]

theorem course_cons_of_fails (h : w.attempt (w.resolved files d) files = (false, files')) :
    w.course (d :: plan) files = ⟨[⟨w.resolved files d, false⟩], files', false⟩ := by
  rw [course, h]

theorem attempt_cases (w : Setting σ) (d : Deed) (files : σ) :
    (∃ files', w.attempt d files = (true, files'))
      ∨ ∃ files', w.attempt d files = (false, files') := by
  rcases w.attempt d files with ⟨succeeded, files'⟩
  cases succeeded with
  | true => exact .inl ⟨files', rfl⟩
  | false => exact .inr ⟨files', rfl⟩

theorem course_singleton (w : Setting σ) (d : Deed) (files : σ) :
    w.course [d] files
      =
    ⟨[⟨w.resolved files d, (w.attempt (w.resolved files d) files).1⟩],
      (w.attempt (w.resolved files d) files).2, (w.attempt (w.resolved files d) files).1⟩ := by
  rcases w.attempt_cases (w.resolved files d) files with ⟨files', hd⟩ | ⟨files', hd⟩
  . rw [course_cons_of_succeeds hd, hd, course_nil]
  . rw [course_cons_of_fails hd, hd]

theorem course_append_of_isComplete (h : (w.course plan files).isComplete = true) :
    w.course (plan ++ rest) files
      =
    ⟨(w.course plan files).attempts ++ (w.course rest (w.course plan files).files).attempts,
      (w.course rest (w.course plan files).files).files,
      (w.course rest (w.course plan files).files).isComplete⟩ := by
  induction plan generalizing files with
  | nil => rfl
  | cons d plan ih =>
    rcases w.attempt_cases (w.resolved files d) files with ⟨files', hd⟩ | ⟨files', hd⟩
    . rw [course_cons_of_succeeds hd] at h
      rw [List.cons_append, course_cons_of_succeeds hd, course_cons_of_succeeds hd, ih h]
      rfl
    . rw [course_cons_of_fails hd] at h
      contradiction

theorem course_append_of_not_isComplete (h : (w.course plan files).isComplete = false) :
    w.course (plan ++ rest) files = w.course plan files := by
  induction plan generalizing files with
  | nil => contradiction
  | cons d plan ih =>
    rcases w.attempt_cases (w.resolved files d) files with ⟨files', hd⟩ | ⟨files', hd⟩
    . rw [course_cons_of_succeeds hd] at h
      rw [List.cons_append, course_cons_of_succeeds hd, course_cons_of_succeeds hd, ih h]
    . rw [List.cons_append, course_cons_of_fails hd, course_cons_of_fails hd]

theorem resolved_isDoneAs (w : Setting σ) (files : σ) (d : Deed) :
    d.IsDoneAs (w.resolved files d) := by
  unfold resolved copyTarget Workshop.copyPlace
  split
  . split
    . split
      . next hname => exact .below hname
      . exact .same _
    . exact .same _
  . exact .same _

theorem exists_done (w : Setting σ) (plan : List Deed) (files : σ) :
    ∃ done rest, plan = done ++ rest
      ∧ List.Forall₂ (fun d a => d.IsDoneAs a.deed) done (w.course plan files).attempts
      ∧ ((w.course plan files).isComplete = true → rest = []) := by
  induction plan generalizing files with
  | nil => exact ⟨[], [], rfl, .nil, fun _ => rfl⟩
  | cons d plan ih =>
    have hmade := w.resolved_isDoneAs files d
    rcases w.attempt_cases (w.resolved files d) files with ⟨files', hd⟩ | ⟨files', hd⟩
    . obtain ⟨done, rest, hplan, hdone, hcomplete⟩ := ih files'
      rw [course_cons_of_succeeds hd, hplan]
      rw [hplan] at hdone hcomplete
      exact ⟨d :: done, rest, rfl, .cons hmade hdone, hcomplete⟩
    . rw [course_cons_of_fails hd]
      exact ⟨[d], plan, rfl, .cons hmade .nil, nofun⟩

theorem forall₂_of_isComplete (h : (w.course plan files).isComplete = true) :
    List.Forall₂ (fun d a => d.IsDoneAs a.deed) plan (w.course plan files).attempts := by
  obtain ⟨done, rest, hplan, hdone, hrest⟩ := w.exists_done plan files
  rw [hrest h, List.append_nil] at hplan
  subst hplan
  exact hdone

theorem isComplete_iff (w : Setting σ) (plan : List Deed) (files : σ) :
    (w.course plan files).isComplete = true
      ↔
    ∀ a ∈ (w.course plan files).attempts, a.succeeded = true := by
  induction plan generalizing files with
  | nil => simp [course_nil]
  | cons d plan ih =>
    rcases w.attempt_cases (w.resolved files d) files with ⟨files', hd⟩ | ⟨files', hd⟩
    . rw [course_cons_of_succeeds hd, List.forall_mem_cons]
      simpa using ih files'
    . rw [course_cons_of_fails hd]
      simp

theorem pairwise_succeeded (w : Setting σ) (plan : List Deed) (files : σ) :
    (w.course plan files).attempts.Pairwise fun a _ => a.succeeded = true := by
  induction plan generalizing files with
  | nil => exact .nil
  | cons d plan ih =>
    rcases w.attempt_cases (w.resolved files d) files with ⟨files', hd⟩ | ⟨files', hd⟩
    . rw [course_cons_of_succeeds hd]
      exact .cons (fun _ _ => rfl) (ih files')
    . rw [course_cons_of_fails hd]
      exact List.pairwise_singleton _ _

theorem eq_nil_of_failed {before later : List Attempt} {a : Attempt}
    (h : (w.course plan files).attempts = before ++ a :: later) (hfailed : a.succeeded = false) :
    later = [] := by
  have hpairwise := w.pairwise_succeeded plan files
  rw [h, List.pairwise_append, List.pairwise_cons] at hpairwise
  apply List.eq_nil_iff_forall_not_mem.mpr
  intro b hb
  have hsucceeded := hpairwise.2.1.1 b hb
  rw [hfailed] at hsucceeded
  contradiction

theorem command?_prefix (w : Setting σ) (plan : List Deed) (files : σ) :
    (w.course plan files).attempts.filterMap (·.deed.command?)
      <+:
    plan.filterMap Deed.command? := by
  obtain ⟨done, rest, hplan, hdone, _⟩ := w.exists_done plan files
  rw [← filterMap_command?_eq hdone]
  conv_rhs => rw [hplan]
  rw [List.filterMap_append]
  exact List.prefix_append _ _

theorem exists_planned {a : Attempt} (h : a ∈ (w.course plan files).attempts) :
    ∃ d ∈ plan, d.IsDoneAs a.deed := by
  obtain ⟨done, rest, hplan, hdone, _⟩ := w.exists_done plan files
  obtain ⟨i, hi, rfl⟩ := List.getElem_of_mem h
  have hi' : i < done.length := by
    rw [hdone.length_eq]
    exact hi
  refine ⟨done[i], ?_, hdone.get hi' hi⟩
  rw [hplan]
  exact List.mem_append_left _ (List.getElem_mem _)

theorem say_mem_iff {line : String} (h : .say line ∉ plan) :
    .say line ∈ (w.course (plan ++ [.say line]) files).attempts.map (·.deed)
      ↔
    (w.course (plan ++ [.say line]) files).isComplete = true := by
  cases hcomplete : (w.course plan files).isComplete with
  | true =>
    rw [course_append_of_isComplete hcomplete, course_singleton]
    simp [resolved, attempt]
  | false =>
    rw [course_append_of_not_isComplete hcomplete, hcomplete]
    refine iff_of_false (fun hmem => ?_) Bool.false_ne_true
    obtain ⟨a, ha, hline⟩ := List.mem_map.mp hmem
    obtain ⟨d, hd, hdone⟩ := exists_planned ha
    rw [hline] at hdone
    rw [hdone.eq_say] at hd
    exact h hd

theorem course_append_of_failed {made : Deed}
    (h : ⟨made, false⟩ ∈ (w.course (plan ++ rest) files).attempts)
    (hrest : ∀ d ∈ rest, ¬ d.IsDoneAs made) :
    w.course (plan ++ rest) files = w.course plan files := by
  cases hcomplete : (w.course plan files).isComplete with
  | false => exact course_append_of_not_isComplete hcomplete
  | true =>
    rw [course_append_of_isComplete hcomplete] at h
    rcases List.mem_append.mp h with h | h
    . have hsucceeded := (w.isComplete_iff plan files).mp hcomplete _ h
      contradiction
    . obtain ⟨d, hd, hdone⟩ := exists_planned h
      exact absurd hdone (hrest d hd)

theorem course_of_failed_command {words : CommandWords}
    (h : isSuccess (w.run words files).1 = false) :
    w.course (commandDeeds words ++ rest) files
      =
    ⟨[⟨.note ("$ " ++ shownCommand words), true⟩, ⟨.run words, false⟩], (w.run words files).2,
      false⟩ := by
  have hnote : w.attempt (w.resolved files (.note ("$ " ++ shownCommand words))) files
      = (true, files) := rfl
  have hrun : w.attempt (w.resolved files (.run words)) files
      = (false, (w.run words files).2) := by
    rw [← h]
    rfl
  unfold commandDeeds
  rw [List.cons_append, course_cons_of_succeeds hnote, List.cons_append, course_cons_of_fails hrun]
  rfl

theorem course_command_say (w : Setting σ) (words : CommandWords) (line : String) (files : σ) :
    (w.course (commandDeeds words ++ [.say line]) files).isComplete
        = isSuccess (w.run words files).1
      ∧ (w.course (commandDeeds words ++ [.say line]) files).files = (w.run words files).2 := by
  cases h : isSuccess (w.run words files).1 with
  | false =>
    rw [course_of_failed_command h]
    exact ⟨rfl, rfl⟩
  | true =>
    have hnote : w.attempt (w.resolved files (.note ("$ " ++ shownCommand words))) files
        = (true, files) := rfl
    have hrun : w.attempt (w.resolved files (.run words)) files
        = (true, (w.run words files).2) := by
      rw [← h]
      rfl
    unfold commandDeeds
    rw [List.cons_append, course_cons_of_succeeds hnote, List.cons_append,
      course_cons_of_succeeds hrun, List.nil_append, course_singleton]
    exact ⟨rfl, rfl⟩

theorem course_says (w : Setting σ) (lines : List String) (plan : List Deed) (files : σ) :
    w.course (lines.map .say ++ plan) files
      =
    ⟨(lines.map fun line => ⟨.say line, true⟩) ++ (w.course plan files).attempts,
      (w.course plan files).files, (w.course plan files).isComplete⟩ := by
  induction lines with
  | nil => rfl
  | cons line lines ih =>
    have hsay : w.attempt (w.resolved files (.say line)) files = (true, files) := rfl
    rw [List.map_cons, List.cons_append, course_cons_of_succeeds hsay, ih]
    rfl

theorem course_induction {P : σ → Prop}
    (hstep : ∀ d ∈ plan, ∀ files, P files → P (w.attempt (w.resolved files d) files).2)
    (h : P files) : P (w.course plan files).files := by
  induction plan generalizing files with
  | nil => exact h
  | cons d plan ih =>
    rw [List.forall_mem_cons] at hstep
    have hd := hstep.1 files h
    rcases w.attempt_cases (w.resolved files d) files with ⟨files', heq⟩ | ⟨files', heq⟩
    . rw [heq] at hd
      rw [course_cons_of_succeeds heq]
      exact ih hstep.2 hd
    . rw [heq] at hd
      rw [course_cons_of_fails heq]
      exact hd

theorem of_isComplete_concat (h : (w.course (plan ++ [d]) files).isComplete = true) :
    (w.course plan files).isComplete = true
      ∧ (w.attempt (w.resolved (w.course plan files).files d) (w.course plan files).files).1 = true
      ∧ (w.course (plan ++ [d]) files).files
        = (w.attempt (w.resolved (w.course plan files).files d) (w.course plan files).files).2 := by
  cases hplan : (w.course plan files).isComplete with
  | true =>
    rw [course_append_of_isComplete hplan, course_singleton] at h ⊢
    exact ⟨rfl, h, rfl⟩
  | false =>
    rw [course_append_of_not_isComplete hplan, hplan] at h
    contradiction

end Course

/-- Work carries out a plan, and fails if a step does. -/
def Carries (w : Setting σ) (files : σ) (plan : List Deed)
    (work : Work (StateM (State σ)) Unit) : Prop :=
  ∀ attempts, ∃ outcome : Except Failure Unit,
    outcome.isOk = (w.course plan files).isComplete
      ∧ after work.run ⟨files, attempts⟩
        = (outcome, ⟨(w.course plan files).files, attempts ++ (w.course plan files).attempts⟩)

section Carries

variable {w : Setting σ} {files : σ} {plan plan' : List Deed}
  {work next : Work (StateM (State σ)) Unit}

theorem Carries.bind (h : w.Carries files plan work)
    (h' : w.Carries (w.course plan files).files plan' next) :
    w.Carries files (plan ++ plan') (do work; next) := by
  intro attempts
  obtain ⟨outcome, hok, hwork⟩ := h attempts
  rw [ExceptT.run_bind, after_bind, hwork]
  cases outcome with
  | ok u =>
    obtain ⟨outcome', hok', hnext⟩ := h' (attempts ++ (w.course plan files).attempts)
    rw [course_append_of_isComplete hok.symm]
    exact ⟨outcome', hok', by rw [hnext, List.append_assoc]⟩
  | error failure =>
    rw [course_append_of_not_isComplete hok.symm]
    exact ⟨.error failure, hok, rfl⟩

theorem carries_pure (w : Setting σ) (files : σ) : w.Carries files [] (pure ()) := by
  intro attempts
  exact ⟨.ok (), rfl, by rw [course_nil, List.append_nil]; rfl⟩

theorem carries_tell (w : Setting σ) (files : σ) (line : String) :
    w.Carries files [.say line] (w.workshop.tell line) :=
  fun _ => ⟨.ok (), rfl, rfl⟩

theorem carries_request {failure : IoError → Failure} {request : σ → Except IoError Unit × σ}
    {planned : Deed} (h : w.attempt (w.resolved files planned) files
      = ((request files).1.isOk, (request files).2)) :
    w.Carries files [planned] (do
      Workshop.orFail failure
        (← ExceptT.lift (record (w.resolved files planned) Except.isOk request))) := by
  intro attempts
  rw [course_singleton, h, after_lift_bind]
  unfold record after
  dsimp only
  cases (request files).1 with
  | ok u => exact ⟨.ok (), rfl, rfl⟩
  | error e => exact ⟨.error (failure e), rfl, rfl⟩

theorem carries_folder (w : Setting σ) (files : σ) (path : Path) :
    w.Carries files [.makeFolder (Path.join w.root path)] (w.workshop.folder path) :=
  carries_request rfl

theorem carries_copyFile (w : Setting σ) (files : σ) (source target : Path) :
    w.Carries files [.copy (Path.join w.root source) (Path.join w.root target)]
      (w.workshop.copyFile source target) := by
  intro attempts
  unfold Workshop.copyFile
  dsimp only
  rw [after_lift_bind, Workshop.after_copyTarget rfl]
  exact carries_request (by rfl) attempts

theorem carries_makeProgram (w : Setting σ) (files : σ) (path : Path) :
    w.Carries files [.setMode path 0o755] (w.workshop.makeProgram path) :=
  carries_request rfl

theorem exists_after_judge (words : CommandWords) (outcome : Except IoError WaitStatus)
    (st : State σ) :
    ∃ judged : Except Failure Unit, judged.isOk = isSuccess outcome
      ∧ after (do
          let status ← Workshop.orFail (.notStarted words) outcome
          if status.succeeded then pure () else throw (.ended words status) :
            Work (StateM (State σ)) Unit).run st = (judged, st) := by
  cases outcome with
  | error e => exact ⟨.error (.notStarted words e), rfl, rfl⟩
  | ok status =>
    have hjudge : after (do
          let status ← Workshop.orFail (.notStarted words) (.ok status)
          if status.succeeded then pure () else throw (.ended words status) :
            Work (StateM (State σ)) Unit).run st
        = after (if status.succeeded then pure () else throw (.ended words status) :
            Work (StateM (State σ)) Unit).run st := rfl
    rw [hjudge]
    cases hstatus : status.succeeded with
    | true => exact ⟨.ok (), hstatus.symm, rfl⟩
    | false => exact ⟨.error (.ended words status), hstatus.symm, rfl⟩

theorem carries_command (w : Setting σ) (files : σ) (words : CommandWords) :
    w.Carries files (commandDeeds words) (w.workshop.command words) := by
  intro attempts
  have hnote : w.attempt (.note ("$ " ++ shownCommand words)) files = (true, files) := rfl
  obtain ⟨judged, hok, hjudged⟩ := exists_after_judge words (w.run words files).1
    ⟨(w.run words files).2, attempts ++ [⟨.note ("$ " ++ shownCommand words), true⟩]
      ++ [⟨.run words, isSuccess (w.run words files).1⟩]⟩
  unfold Workshop.command commandDeeds
  rw [course_cons_of_succeeds hnote, course_singleton, after_lift_bind, after_lift_bind]
  refine ⟨judged, hok, hjudged.trans ?_⟩
  rw [List.append_assoc]
  rfl

theorem Carries.retold (wrap : Failure → Failure) (h : w.Carries files plan work) :
    w.Carries files plan (tryCatch work fun cause => throw (wrap cause)) := by
  intro attempts
  obtain ⟨outcome, hok, hwork⟩ := h attempts
  rw [ExceptT.run_tryCatch, after_bind, hwork]
  cases outcome with
  | ok u => exact ⟨.ok (), hok, rfl⟩
  | error cause => exact ⟨.error (wrap cause), hok, rfl⟩

end Carries

end Setting

end KubePlugin.Automation
