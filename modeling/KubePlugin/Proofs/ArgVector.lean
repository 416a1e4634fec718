import KubePlugin.Proofs.Command.Given

namespace KubePlugin.ArgVector

open CommandLine

def Step.Appends : Step → Prop
  | .command _ => False
  | _ => True

def Step.alone (s : Step) : List String :=
  match ({} : ArgVector).apply s with
  | .ok v => v.toList
  | .error _ => []

def Step.missing? : Step → Option String
  | .required none name => some name
  | _ => none

/-- An argument for a flag and its value, which is not empty. The two are found again before and
after the first equals sign, by anyone and by the reader of a command line. -/
structure IsFlagWith (name value arg : String) : Prop where
  eq : arg = "--" ++ name ++ "=" ++ value
  value_ne : value ≠ ""
  splits : '=' ∉ name.toList →
    arg.toList.takeWhile (· ≠ '=') = "--".toList ++ name.toList
      ∧ arg.toList.dropWhile (· ≠ '=') = '=' :: value.toList
  reads : '=' ∉ name.toList →
    Word.ofRaw (RawText.ofString arg)
      = .long (RawText.ofString name).bytes (some (RawText.ofString value).bytes)

structure Step.IsAlone (s : Step) : Prop where
  length_le : s.alone.length ≤ 1
  fails_iff : ∀ (v : ArgVector) e, v.apply s = .error e
    ↔ ∃ name, s = .required none name ∧ e = .missingArgument name
  value_iff : ∀ name given, s = .value name given → ∀ arg,
    arg ∈ s.alone ↔ ∃ value, given = some value ∧ IsFlagWith name value arg
  optionalValue_iff : ∀ name given, s = .optionalValue name given → ∀ arg,
    arg ∈ s.alone ↔ given = some none ∧ arg = "--" ++ name
      ∨ ∃ value, given = some (some value) ∧ IsFlagWith name value arg

variable {v w : ArgVector} {s : Step} {steps : List Step} {name value arg : String}

theorem Step.missing?_eq_some_iff : s.missing? = some name ↔ s = .required none name := by
  cases s with
  | required value name' => cases value <;> simp [missing?]
  | _ => simp [missing?]

theorem apply_eq (v : ArgVector) (h : s.Appends) :
    v.apply s
      =
    match s.missing? with
    | some name => .error (.missingArgument name)
    | none => .ok ⟨v.toList ++ s.alone⟩ := by
  cases s with
  | command tokens => contradiction
  | positional given =>
    exact congrArg Except.ok (eq_mk_of_toList (by simp [Step.alone, apply]))
  | required given name =>
    cases given with
    | none => rfl
    | some value => rfl
  | switch name enabled =>
    exact congrArg Except.ok (eq_mk_of_toList (by simp [Step.alone, apply]))
  | value name given => exact congrArg Except.ok (eq_mk_of_toList (by simp [Step.alone, apply]))
  | optionalValue name given =>
    exact congrArg Except.ok (eq_mk_of_toList (by simp [Step.alone, apply]))
  | maxParallel n => exact congrArg Except.ok (eq_mk_of_toList (by simp [Step.alone, apply]))

theorem applyAll_eq (v : ArgVector) (h : ∀ s ∈ steps, s.Appends) :
    v.applyAll steps
      =
    match steps.findSome? Step.missing? with
    | some name => .error (.missingArgument name)
    | none => .ok ⟨v.toList ++ steps.flatMap Step.alone⟩ := by
  induction steps generalizing v with
  | nil => exact congrArg Except.ok (eq_mk_of_toList (by simp))
  | cons s steps ih =>
    rw [List.forall_mem_cons] at h
    rw [applyAll, apply_eq v h.1, List.findSome?_cons]
    cases s.missing? with
    | some name => rfl
    | none =>
      dsimp only
      rw [ih _ h.2, List.flatMap_cons, List.append_assoc]

theorem length_alone_le (s : Step) (h : s.Appends) : s.alone.length ≤ 1 := by
  cases s with
  | command tokens => contradiction
  | positional given => cases given <;> simp [Step.alone, apply]
  | required given name => cases given <;> simp [Step.alone, apply, required]
  | switch name enabled => cases enabled <;> simp [Step.alone, apply, switch]
  | value name given =>
    simp only [Step.alone, apply, value]
    split
    . split <;> simp
    . simp
  | optionalValue name given =>
    simp only [Step.alone, apply, optionalValue]
    split
    . simp
    . split <;> simp
    . simp
  | maxParallel n =>
    simp only [Step.alone, apply, maxParallel]
    split <;> simp

theorem apply_eq_error_iff {e : PluginError} :
    v.apply s = .error e ↔ ∃ name, s = .required none name ∧ e = .missingArgument name := by
  cases s with
  | required given name => cases given <;> simp [apply, required, eq_comm]
  | _ => simp [apply]

theorem isFlagWith_iff : IsFlagWith name value arg ↔ value ≠ "" ∧ arg = valueFlag name value := by
  constructor
  . intro h
    exact ⟨h.value_ne, h.eq⟩
  . rintro ⟨hvalue, rfl⟩
    have hlist : (valueFlag name value).toList
        = ("--".toList ++ name.toList) ++ '=' :: value.toList := by
      simp [valueFlag]
    refine ⟨rfl, hvalue, fun hname => ?_, fun hname => Word.ofRaw_valueFlag hname value⟩
    have hfront : ∀ c ∈ "--".toList ++ name.toList, decide (c ≠ '=') = true := by
      intro c hc
      rw [decide_eq_true_iff]
      rintro rfl
      rcases List.mem_append.mp hc with hc | hc
      . simp at hc
      . exact hname hc
    rw [hlist]
    constructor
    . rw [List.takeWhile_append_of_pos hfront, List.takeWhile_cons_of_neg (by simp),
        List.append_nil]
    . rw [List.dropWhile_append_of_pos hfront, List.dropWhile_cons_of_neg (by simp)]

theorem mem_alone_value_iff {given : Option String} :
    arg ∈ (Step.value name given).alone
      ↔
    ∃ value, given = some value ∧ IsFlagWith name value arg := by
  cases given with
  | none => simp [Step.alone, apply, value]
  | some given =>
    by_cases hempty : given = ""
    . simp [Step.alone, apply, value, isFlagWith_iff, hempty]
    . simp [Step.alone, apply, value, isFlagWith_iff, hempty]

theorem mem_alone_optionalValue_iff {given : Option (Option String)} :
    arg ∈ (Step.optionalValue name given).alone
      ↔
    given = some none ∧ arg = "--" ++ name
      ∨ ∃ value, given = some (some value) ∧ IsFlagWith name value arg := by
  rcases given with _ | _ | given
  . simp [Step.alone, apply, optionalValue]
  . simp [Step.alone, apply, optionalValue, bareFlag]
  . by_cases hempty : given = ""
    . simp [Step.alone, apply, optionalValue, isFlagWith_iff, hempty]
    . simp [Step.alone, apply, optionalValue, isFlagWith_iff, hempty]

theorem Step.Appends.isAlone (h : s.Appends) : s.IsAlone where
  length_le := length_alone_le s h
  fails_iff _ _ := apply_eq_error_iff
  value_iff := by
    rintro name given rfl arg
    exact mem_alone_value_iff
  optionalValue_iff := by
    rintro name given rfl arg
    exact mem_alone_optionalValue_iff

theorem findSome?_missing?_eq_some_iff :
    steps.findSome? Step.missing? = some name
      ↔
    ∃ before later, steps = before ++ .required none name :: later
      ∧ ∀ s ∈ before, s.missing? = none := by
  rw [List.findSome?_eq_some_iff]
  constructor
  . rintro ⟨before, s, later, hsteps, hs, hbefore⟩
    rw [Step.missing?_eq_some_iff.mp hs] at hsteps
    exact ⟨before, later, hsteps, hbefore⟩
  . rintro ⟨before, later, hsteps, hbefore⟩
    exact ⟨before, _, later, hsteps, rfl, hbefore⟩

theorem applyAll_eq_ok_iff (h : ∀ s ∈ steps, s.Appends) :
    v.applyAll steps = .ok w
      ↔
    (∀ s ∈ steps, s.missing? = none) ∧ w.toList = v.toList ++ steps.flatMap Step.alone := by
  rw [applyAll_eq v h, ← List.findSome?_eq_none_iff]
  cases steps.findSome? Step.missing? with
  | some name => simp
  | none =>
    simp only [Except.ok.injEq, true_and]
    exact ⟨fun heq => by rw [← heq], fun hlist => (eq_mk_of_toList hlist).symm⟩

theorem applyAll_eq_error_iff (h : ∀ s ∈ steps, s.Appends) {e : PluginError} :
    v.applyAll steps = .error e
      ↔
    ∃ name, steps.findSome? Step.missing? = some name ∧ e = .missingArgument name := by
  rw [applyAll_eq v h]
  cases steps.findSome? Step.missing? with
  | some name => simp [eq_comm]
  | none => simp

/-- Steps that append do not interact: each adds to the end what it adds to the empty vector, and
they fail exactly at the first required argument that is missing. -/
theorem applyAll_independent (v : ArgVector) {steps : List Step} (h : ∀ s ∈ steps, s.Appends) :
    (∀ w, v.applyAll steps = .ok w
      ↔ (∀ s ∈ steps, s.missing? = none) ∧ w.toList = v.toList ++ steps.flatMap Step.alone)
    ∧ (∀ e, v.applyAll steps = .error e
      ↔ ∃ before name later, steps = before ++ .required none name :: later
        ∧ (∀ s ∈ before, s.missing? = none) ∧ e = .missingArgument name)
    ∧ ∀ s ∈ steps, s.IsAlone := by
  refine ⟨fun w => applyAll_eq_ok_iff h, fun e => ?_, fun s hs => (h s hs).isAlone⟩
  rw [applyAll_eq_error_iff h]
  constructor
  . rintro ⟨name, hmissing, he⟩
    obtain ⟨before, later, hsteps, hbefore⟩ := findSome?_missing?_eq_some_iff.mp hmissing
    exact ⟨before, name, later, hsteps, hbefore, he⟩
  . rintro ⟨before, name, later, hsteps, hbefore, he⟩
    exact ⟨name, findSome?_missing?_eq_some_iff.mpr ⟨before, later, hsteps, hbefore⟩, he⟩

def preparation : List Step :=
  [ .required (some "c.yaml") "CLUSTERDEF", .value "base-image-name" (some ""),
    .switch "debug" true, .maxParallel 6, .value "package-cache" (some "a=b"),
    .optionalValue "use-staged" (some none) ]

theorem applyAll_independent_preparation :
    (∀ s ∈ preparation, s.Appends)
      ∧ (command ["cluster", "prepare"]).applyAll preparation
        = .ok ⟨["cluster", "prepare", "c.yaml", "--debug", "--package-cache=a=b", "--use-staged"]⟩
      ∧ IsFlagWith "package-cache" "a=b" "--package-cache=a=b" := by
  have happends : ∀ s ∈ preparation, s.Appends := by simp [preparation, Step.Appends]
  obtain ⟨hok, _, halone⟩ := applyAll_independent (command ["cluster", "prepare"]) happends
  have hcache := halone (.value "package-cache" (some "a=b")) (by simp [preparation])
  obtain ⟨value, hgiven, hflag⟩ :=
    (hcache.value_iff _ _ rfl "--package-cache=a=b").mp (by decide)
  cases hgiven
  exact ⟨happends, (hok _).mpr ⟨by decide, by decide⟩, hflag⟩

end KubePlugin.ArgVector
