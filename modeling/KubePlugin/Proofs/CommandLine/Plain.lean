import KubePlugin.Proofs.CommandLine.Reading

/-!
This module contains what one word can do to the progress of a command, and from it what positional
arguments can be: unless two dashes come before it, the word for such an argument does not look like
an option, and it does not lead to another command where no option can come before it.
-/

namespace KubePlugin.CommandLine

inductive Scope.TakesOption (s : Scope) (p : Progress) : Progress → Prop where
  | complete {o : Opt} {value : Option RawText} {p' : Progress} : o ∈ s.spec.options →
    ({ p with begun := true, waiting := false } : Progress).settleThen o value = (p', none) →
      TakesOption s p p'
  | await {o : Opt} {q : Progress} : o ∈ s.spec.options →
    ({ p with begun := true, waiting := false } : Progress).settle = (q, none) →
      TakesOption s p { q with pending := some (.option o none), waiting := true }

inductive Scope.TakesOptions (s : Scope) : Progress → Progress → Prop where
  | nil (p : Progress) : TakesOptions s p p
  | cons {p q r : Progress} : s.TakesOption p q → TakesOptions s q r → TakesOptions s p r

inductive Scope.Takes (s : Scope) (p : Progress) (w : RawText) : Progress → Prop where
  | options {p' : Progress} : s.TakesOptions p p' → Takes s p w p'
  | value {o : Opt} {value : Option RawText} : p.waiting = true →
    p.pending = some (.option o value) →
      Takes s p w { p with pending := some (.option o (some w)), waiting := false }
  | positional {pos : Positional} {q : Progress} : Word.ofRaw w = .plain →
    s.spec.positional = some pos → p.filled = false → p.settle = (q, none) →
      Takes s p w
        { q with
          pending := some (.positional pos [w]), waiting := false, begun := true
          literal := q.literal || pos.verbatim, filled := !pos.verbatim }

namespace Scope

variable {s : Scope} {p p' : Progress}

theorem orRefuse_eq_ok {r : Progress × Option Cause} :
    s.orRefuse r = .ok p' ↔ r = (p', none) := by
  rcases r with ⟨q, _ | cause⟩
  . simp [orRefuse]
  . simp [orRefuse, refuse]

theorem answer_ne_ok {α : Type} {stop : Stop} {a : α} : s.answer p stop ≠ .ok a := by
  unfold answer
  cases s.orRefuse p.settle <;> simp [bind, Except.bind]

theorem mem_of_long? {c : Spec} {name : List UInt8} {o : Opt}
    (h : c.long? name = some (.declared o)) : o ∈ c.options := by
  simp only [Spec.long?, Option.map_eq_some_iff] at h
  obtain ⟨⟨long, named⟩, hfind, hnamed⟩ := h
  have hmem := List.mem_of_find?_eq_some hfind
  dsimp only at hnamed
  subst hnamed
  simp only [Spec.longNames, List.mem_append, List.mem_map] at hmem
  rcases hmem with (⟨o', ho', heq⟩ | hmem) | hmem
  . injection heq with _ heq
    injection heq with heq
    rwa [← heq]
  . split at hmem <;> simp at hmem
  . split at hmem <;> simp at hmem

theorem mem_of_short? {c : Spec} {letter : Char} {o : Opt}
    (h : c.short? letter = some (.declared o)) : o ∈ c.options := by
  unfold Spec.short? at h
  -- The letters for help and for the version come after those of the options.
  split at h
  . next o' hfind =>
    injection h with h
    injection h with h
    rw [← h]
    exact List.mem_of_find?_eq_some hfind
  . split at h
    . simp at h
    . split at h <;> simp at h

theorem bind_eq_ok {ε α β : Type} {x : Except ε α} {f : α → Except ε β} {b : β} :
    (x >>= f) = .ok b ↔ ∃ a, x = .ok a ∧ f a = .ok b := by
  cases x with
  | error e => simp [bind, Except.bind]
  | ok a => simp [bind, Except.bind]

theorem unknownLong_ne_ok {α : Type} {name : RawText} {rest : List RawText} {a : α} :
    s.unknownLong p name rest ≠ .ok a := by
  unfold unknownLong
  dsimp only
  split <;> simp

theorem takesOption_of_readLong {name : List UInt8} {value : Option (List UInt8)}
    {rest : List RawText} (h : s.readLong p name value rest = .ok p') : s.TakesOption p p' := by
  unfold readLong at h
  split at h
  . next long named hlong hnamed =>
    cases named with
    | help =>
      cases value with
      | none => exact absurd h answer_ne_ok
      | some v => contradiction
    | version =>
      cases value with
      | none => exact absurd h answer_ne_ok
      | some v => contradiction
    | declared o =>
      have ho := mem_of_long? hnamed
      dsimp only at h
      split at h
      . contradiction
      . exact .complete ho (orRefuse_eq_ok.mp h)
      . exact .complete ho (orRefuse_eq_ok.mp h)
      . exact .complete ho (orRefuse_eq_ok.mp h)
      . obtain ⟨q, hq, hp'⟩ := bind_eq_ok.mp h
        injection hp' with hp'
        rw [← hp']
        exact .await ho (orRefuse_eq_ok.mp hq)
  . exact absurd h unknownLong_ne_ok

theorem takesOptions_of_readLetters {pieces : List Utf8.Piece}
    (h : s.readLetters p pieces = .ok p') : s.TakesOptions p p' := by
  induction pieces generalizing p with
  | nil =>
    injection h with h
    rw [← h]
    exact .nil p
  | cons piece more ih =>
    unfold readLetters at h
    cases piece with
    | fault bytes => contradiction
    | char c =>
      dsimp only at h
      split at h
      . contradiction
      . next named hnamed =>
        cases named with
        | help => exact absurd h answer_ne_ok
        | version => exact absurd h answer_ne_ok
        | declared o =>
          have ho := mem_of_short? hnamed
          dsimp only at h
          split at h
          . obtain ⟨q, hq, hrest⟩ := bind_eq_ok.mp h
            exact .cons (.complete ho (orRefuse_eq_ok.mp hq)) (ih hrest)
          . split at h
            . obtain ⟨q, hq, hp'⟩ := bind_eq_ok.mp h
              injection hp' with hp'
              rw [← hp']
              exact .cons (.await ho (orRefuse_eq_ok.mp hq)) (.nil _)
            . exact .cons (.complete ho (orRefuse_eq_ok.mp h)) (.nil _)

theorem noRoom_ne_ok {α : Type} {w : RawText} {a : α} : s.noRoom p w ≠ .ok a := by
  unfold noRoom
  dsimp only
  split
  . simp [refuse]
  . split
    . simp [refuse]
    . split
      . split <;> simp [refuse]
      . simp [refuse]

variable {w : RawText}

theorem begin_eq_ok {pos : Positional} (h : takePositional.begin s p pos w = .ok p') :
    ∃ q, p.settle = (q, none) ∧ p' =
      { q with
        pending := some (.positional pos [w]), waiting := false, begun := true
        literal := q.literal || pos.verbatim, filled := !pos.verbatim } := by
  obtain ⟨q, hq, hp'⟩ := bind_eq_ok.mp h
  injection hp' with hp'
  exact ⟨q, orRefuse_eq_ok.mp hq, hp'.symm⟩

theorem takes_of_readPlain (hverbatim : ∀ pos ∈ s.spec.positional, pos.verbatim = false)
    (hw : Word.ofRaw w = .plain) (h : s.readPlain p w = .ok p') : s.Takes p w p' := by
  unfold readPlain at h
  split at h
  . next o value hwaiting hpending =>
    injection h with h
    rw [← h]
    exact .value hwaiting hpending
  . split at h
    . next pos hpos =>
      split at h
      . exact absurd h noRoom_ne_ok
      . next hfilled =>
        have hbegin : takePositional.begin s p pos w = .ok p' := by
          unfold takePositional at h
          split at h
          . rwa [if_neg (by simp [hverbatim pos hpos])] at h
          . exact h
        obtain ⟨q, hq, rfl⟩ := begin_eq_ok hbegin
        exact .positional hw hpos (by simpa using hfilled) hq
    . exact absurd h noRoom_ne_ok

theorem takes_of_readWord (hverbatim : ∀ pos ∈ s.spec.positional, pos.verbatim = false)
    (hliteral : p.literal = false) (hw : w ≠ RawText.ofString "--") {rest : List RawText}
    (h : s.readWord p w rest = .ok p') : s.Takes p w p' := by
  have htakes : (s.spec.positional.map Positional.verbatim).getD false = false := by
    cases hpos : s.spec.positional with
    | none => rfl
    | some pos => exact hverbatim pos hpos
  unfold readWord at h
  rw [if_neg (by simp [hliteral])] at h
  cases hword : Word.ofRaw w with
  | dashes => exact absurd ((Word.ofRaw_eq_dashes_iff w).mp hword) hw
  | long name value =>
    rw [hword] at h
    dsimp only at h
    rw [if_neg (by simp [takesOptions, htakes])] at h
    exact .options (.cons (takesOption_of_readLong h) (.nil _))
  | short letters =>
    rw [hword] at h
    dsimp only at h
    rw [if_neg (by simp [takesOptions, htakes])] at h
    exact .options (takesOptions_of_readLetters h)
  | plain =>
    rw [hword] at h
    exact takes_of_readPlain hverbatim hword h

end Scope

def Spec.Leaves (c : Spec) (w : RawText) : Prop :=
  Word.ofRaw w = .plain ∧ (c.options = [] → c.sub? w = none)

structure Progress.Keeps (p : Progress) (c : Spec) : Prop where
  not_literal : p.literal = false
  not_waiting : c.options = [] → p.waiting = false
  filled_of_begun : c.options = [] → p.begun = true → p.filled = true
  pending : ∀ pos words, p.pending = some (.positional pos words) → ∀ w ∈ words, c.Leaves w
  given : ∀ text, (ArgId.positional, Value.text text) ∈ p.given → c.Leaves (RawText.ofString text)

theorem Positional.read_eq_text {pos : Positional} {words : List RawText} {text : String}
    (h : pos.read words = .ok (.text text)) : words = [RawText.ofString text] := by
  unfold read at h
  split at h
  . injection h with h
    contradiction
  . split at h
    . next w =>
      split at h
      . next s hs =>
        injection h with h
        injection h with h
        rw [RawText.text?_eq_some_iff.mp hs, h]
      . contradiction
    . contradiction

namespace Progress.Keeps

variable {c : Spec} {p q : Progress}

theorem nil (c : Spec) : Keeps {} c := by
  constructor
  . rfl
  . intro _
    rfl
  . intro _ h
    contradiction
  . intro _ _ h
    contradiction
  . intro _ h
    contradiction

theorem completeOption (h : p.Keeps c) {o : Opt} {value : Option RawText}
    (hq : p.completeOption o value = (q, none)) : q.Keeps c := by
  rw [completeOption_eq_iff] at hq
  obtain ⟨_, v, _, rfl⟩ := hq
  constructor
  . exact h.not_literal
  . exact h.not_waiting
  . exact h.filled_of_begun
  . exact h.pending
  . intro text htext
    apply h.given
    simpa using htext

theorem settle (h : p.Keeps c) (hq : p.settle = (q, none)) : q.Keeps c := by
  have hdrop : Keeps { p with pending := none } c := by
    constructor
    . exact h.not_literal
    . exact h.not_waiting
    . exact h.filled_of_begun
    . intro _ _ hpending
      contradiction
    . exact h.given
  unfold Progress.settle at hq
  dsimp only at hq
  split at hq
  . injection hq with hq
    rw [← hq]
    exact hdrop
  . exact hdrop.completeOption hq
  . next pos words hpending =>
    rw [complete_eq_iff] at hq
    obtain ⟨_, v, hv, rfl⟩ := hq
    constructor
    . exact h.not_literal
    . exact h.not_waiting
    . exact h.filled_of_begun
    . exact hdrop.pending
    . intro text htext
      simp only [List.mem_append, List.mem_singleton, Prod.mk.injEq, true_and] at htext
      rcases htext with htext | rfl
      . exact h.given text htext
      . apply h.pending pos words hpending
        rw [Positional.read_eq_text hv]
        exact List.mem_singleton_self _

theorem begin (h : p.Keeps c) (hoptions : c.options ≠ []) :
    Keeps { p with begun := true, waiting := false } c := by
  constructor
  . exact h.not_literal
  . intro _
    rfl
  . intro hnil
    contradiction
  . exact h.pending
  . exact h.given

variable {s : Scope}

theorem takesOption (h : p.Keeps s.spec) (hq : s.TakesOption p q) : q.Keeps s.spec := by
  cases hq with
  | @complete o value _ ho hq =>
    have hbegin := h.begin (List.ne_nil_of_mem ho)
    unfold settleThen at hq
    split at hq
    . next hsettle => exact (hbegin.settle hsettle).completeOption hq
    . injection hq
      contradiction
  | @await o q ho hq =>
    have hsettle := (h.begin (List.ne_nil_of_mem ho)).settle hq
    constructor
    . exact hsettle.not_literal
    . intro hnil
      exact absurd hnil (List.ne_nil_of_mem ho)
    . exact hsettle.filled_of_begun
    . intro _ _ hpending
      injection hpending with hpending
      contradiction
    . exact hsettle.given

theorem takesOptions (h : p.Keeps s.spec) (hq : s.TakesOptions p q) : q.Keeps s.spec := by
  induction hq with
  | nil p => exact h
  | cons hoption _ ih => exact ih (h.takesOption hoption)

theorem leaves (h : p.Keeps s.spec) {w : RawText} (hw : Word.ofRaw w = .plain)
    (hfilled : p.filled = false) (hsub : s.subFor? p w = none) : s.spec.Leaves w := by
  refine ⟨hw, ?_⟩
  intro hnil
  -- Without options nothing but the positional argument itself can have begun.
  have hbegun : p.begun = false := by
    rw [← Bool.not_eq_true]
    intro hbegun
    have := h.filled_of_begun hnil hbegun
    rw [hfilled] at this
    contradiction
  unfold Scope.subFor? at hsub
  rwa [if_neg (by simp [h.not_literal, h.not_waiting hnil]), if_neg (by simp [hbegun])] at hsub

theorem takes (h : p.Keeps s.spec) (hverbatim : ∀ pos ∈ s.spec.positional, pos.verbatim = false)
    {w : RawText} (hsub : s.subFor? p w = none) (hq : s.Takes p w q) : q.Keeps s.spec := by
  cases hq with
  | options hq => exact h.takesOptions hq
  | value hwaiting _ =>
    constructor
    . exact h.not_literal
    . intro _
      rfl
    . exact h.filled_of_begun
    . intro _ _ hpending
      injection hpending with hpending
      contradiction
    . exact h.given
  | @positional pos q hw hpos hfilled hq =>
    have hsettle := h.settle hq
    constructor
    . simp [hsettle.not_literal, hverbatim pos hpos]
    . intro _
      rfl
    . intro _ _
      simp [hverbatim pos hpos]
    . intro _ words hpending w' hw'
      injection hpending with hpending
      injection hpending with _ hwords
      rw [← hwords, List.mem_singleton] at hw'
      rw [hw']
      exact h.leaves hw hfilled hsub
    . exact hsettle.given

end Progress.Keeps

inductive Spec.Below : Spec → List String → Spec → Prop where
  | refl (c : Spec) : Below c [] c
  | sub {c s t : Spec} {names : List String} :
    s ∈ c.allSubs → s.name ≠ helpCommand.name → Below s names t → Below c (s.name :: names) t

theorem Scope.helpFor_ne_ok {α : Type} {s : Scope} {words : List RawText} {a : α} :
    s.helpFor words ≠ .ok a := by
  induction words generalizing s with
  | nil => simp [helpFor]
  | cons w words ih =>
    unfold helpFor
    split
    . exact ih
    . simp [refuse]

theorem Scope.mem_allSubs_of_subFor? {s : Scope} {p : Progress} {w : RawText} {sub : Spec}
    (h : s.subFor? p w = some sub) : sub ∈ s.spec.allSubs := by
  unfold subFor? at h
  split at h
  . contradiction
  . split at h
    . contradiction
    . exact List.mem_of_find?_eq_some h

theorem Scope.leaves_of_read {s : Scope} {path : List String} {p : Progress} {words : List RawText}
    {m : Matched} (h : s.read path p words = .ok m) (hdashes : RawText.ofString "--" ∉ words)
    (hp : (∀ pos ∈ s.spec.positional, pos.verbatim = false) → p.Keeps s.spec) :
    ∃ names t, m.path = path ++ names ∧ s.spec.Below names t ∧
      ((∀ pos ∈ t.positional, pos.verbatim = false) →
        ∀ text, (ArgId.positional, Value.text text) ∈ m.given →
          t.Leaves (RawText.ofString text)) := by
  -- A command below starts with nothing read, so the invariant holds there again. Where the
  -- positional argument takes words as they are, nothing is claimed of them.
  induction words generalizing s path p with
  | nil =>
    refine ⟨[], s.spec, ?_⟩
    unfold read finish at h
    obtain ⟨q, hq, h⟩ := bind_eq_ok.mp h
    split at h
    . contradiction
    . injection h with h
      rw [← h]
      refine ⟨by simp, .refl _, ?_⟩
      intro hverbatim
      exact ((hp hverbatim).settle (orRefuse_eq_ok.mp hq)).given
  | cons w words ih =>
    rw [List.mem_cons, not_or] at hdashes
    unfold read at h
    split at h
    . next sub hsub =>
      split at h
      . exact absurd h helpFor_ne_ok
      . next hhelp =>
        obtain ⟨names, t, hpath, hbelow, hleaves⟩ := ih h hdashes.2 (fun _ => .nil _)
        refine ⟨sub.name :: names, t, by simpa using hpath, ?_, hleaves⟩
        exact .sub (mem_allSubs_of_subFor? hsub) hhelp hbelow
    . next hsub =>
      split at h
      . next p' hword =>
        apply ih h hdashes.2
        intro hverbatim
        have hkeeps := hp hverbatim
        exact hkeeps.takes hverbatim hsub
          (takes_of_readWord hverbatim hkeeps.not_literal (Ne.symm hdashes.1) hword)
      . contradiction

end KubePlugin.CommandLine
