import KubePlugin.Proofs.Command.Given

namespace KubePlugin

namespace CommandLine

namespace Value

def text? : Value → Option String
  | .text s => some s
  | _ => none

def count? : Value → Option UInt32
  | .count n => some n
  | _ => none

def optional? : Value → Option (Option String)
  | .on => some none
  | .text s => some (some s)
  | _ => none

end Value

namespace Given

theorem textOf?_eq (g : Given) (id : ArgId) : g.textOf? id = (g.get? id).bind Value.text? := by
  unfold textOf?
  rcases g.get? id with _ | _ | _ | _ | _ <;> rfl

theorem count?_eq (g : Given) (long : String) :
    g.count? long = (g.get? (.option long)).bind Value.count? := by
  unfold count?
  rcases g.get? (.option long) with _ | _ | _ | _ | _ <;> rfl

theorem optional?_eq (g : Given) (long : String) :
    g.optional? long = (g.get? (.option long)).bind Value.optional? := by
  unfold optional?
  rcases g.get? (.option long) with _ | _ | _ | _ | _ <;> rfl

@[simp]
theorem isSome_switchValue (on : Bool) : (switchValue on).isSome = on := by
  cases on <;> rfl

@[simp]
theorem text?_textValue (v : Option String) : (textValue v).bind Value.text? = dropEmpty v := by
  unfold textValue
  cases dropEmpty v <;> rfl

@[simp]
theorem optional?_optionalValue (v : Option (Option String)) :
    (optionalValue v).bind Value.optional? = dropEmptyBranch v := by
  unfold optionalValue
  rcases dropEmptyBranch v with _ | _ | _ <;> rfl

@[simp]
theorem count?_countValue (n : UInt32) :
    ((countValue n).bind Value.count?).getD ArgVector.defaultParallel = n := by
  unfold countValue
  split
  . next h =>
    rw [h]
    rfl
  . rfl

@[simp]
theorem text?_map_text (v : Option String) : (v.map Value.text).bind Value.text? = v := by
  cases v <;> rfl

end Given

inductive Given.Follow : List Opt → Given → Prop where
  | nil : Follow [] []
  | skip {o : Opt} {options : List Opt} {g : Given} : Follow options g → Follow (o :: options) g
  | take {o : Opt} {v : Value} {options : List Opt} {g : Given} :
    o.Holds v → Follow options g → Follow (o :: options) ((.option o.long, v) :: g)

namespace Given

variable {o : Opt} {options : List Opt} {g : Given}

theorem Follow.ofOption {v : Option Value} (hv : ∀ x ∈ v, o.Holds x) (h : Follow options g) :
    Follow (o :: options) (ofOption o.long v ++ g) := by
  cases v with
  | none => exact h.skip
  | some x => exact h.take (hv x rfl)

theorem Follow.switchValue (htakes : o.takes = .nothing) {on : Bool} (h : Follow options g) :
    Follow (o :: options) (Given.ofOption o.long (Given.switchValue on) ++ g) := by
  apply h.ofOption
  cases on <;> simp [Given.switchValue, Opt.Holds, htakes]

theorem Follow.textValue {name : String} (htakes : o.takes = .value name)
    (hread : o.reading = .text) {v : Option String} (h : Follow options g) :
    Follow (o :: options) (Given.ofOption o.long (Given.textValue v) ++ g) := by
  apply h.ofOption
  intro x hx
  simp only [Given.textValue, Option.mem_def, Option.map_eq_some_iff] at hx
  obtain ⟨s, _, rfl⟩ := hx
  simp [Opt.Holds, htakes, hread]

theorem Follow.optionalValue {name : String} (htakes : o.takes = .optional name)
    (hread : o.reading = .text) {v : Option (Option String)} (h : Follow options g) :
    Follow (o :: options) (Given.ofOption o.long (Given.optionalValue v) ++ g) := by
  apply h.ofOption
  intro x hx
  simp only [Given.optionalValue, Option.mem_def, Option.map_eq_some_iff] at hx
  obtain ⟨branch, _, rfl⟩ := hx
  cases branch <;> simp [Opt.Holds, htakes, hread]

theorem Follow.countValue {name : String} (htakes : o.takes = .value name)
    (hread : o.reading = .count) {n : UInt32} (h : Follow options g) :
    Follow (o :: options) (Given.ofOption o.long (Given.countValue n) ++ g) := by
  apply h.ofOption
  intro x hx
  unfold Given.countValue at hx
  split at hx
  . contradiction
  . simp only [Option.mem_def, Option.some.injEq] at hx
    subst hx
    simp [Opt.Holds, htakes, hread]

theorem Follow.sublist (h : Follow options g) :
    List.Sublist (g.map Prod.fst) (options.map fun o => .option o.long) := by
  induction h with
  | nil => exact List.Sublist.refl []
  | skip _ ih => exact ih.cons _
  | take _ _ ih => exact ih.cons_cons _

theorem Follow.holds (h : Follow options g) :
    ∀ e ∈ g, ∃ o ∈ options, e.1 = .option o.long ∧ o.Holds e.2 := by
  induction h with
  | nil => simp
  | skip _ ih =>
    intro e he
    obtain ⟨o, ho, hid⟩ := ih e he
    exact ⟨o, List.mem_cons_of_mem _ ho, hid⟩
  | @take o v _ _ hv _ ih =>
    intro e he
    rcases List.mem_cons.mp he with rfl | he
    . exact ⟨o, List.mem_cons_self, rfl, hv⟩
    . obtain ⟨o', ho', hid⟩ := ih e he
      exact ⟨o', List.mem_cons_of_mem _ ho', hid⟩

end Given

end CommandLine

open CommandLine CommandLine.Given

structure Command.DescribedBy (c : Command) (s : Spec) : Prop where
  ordinary : s.IsOrdinary
  needsSub : s.needsSub = false
  leaf : s.subs = [] ∨ ∃ name, c = .login (.enter name)
  positional : c.positional?.isSome → s.positional.isSome
  flags : Given.Follow s.options c.flags

namespace Command.DescribedBy

variable {c : Command} {s : Spec}

theorem accepts_flags (h : c.DescribedBy s) : ∀ e ∈ c.flags, s.Accepts e := by
  intro e he
  rcases e with ⟨id, v⟩
  obtain ⟨o, ho, hid, hholds⟩ := h.flags.holds _ he
  dsimp only at hid
  subst hid
  exact ⟨o, ho, rfl, hholds⟩

theorem accepts (h : c.DescribedBy s) (hplain : ∀ text, c.positional? = some text → IsPlain text) :
    ∀ e ∈ c.given, s.Accepts e := by
  intro e he
  rcases List.mem_append.mp he with hpos | hflag
  . simp only [ofPositional, List.mem_map, Option.mem_toList] at hpos
    obtain ⟨text, htext, rfl⟩ := hpos
    refine ⟨h.positional ?_, hplain text htext⟩
    rw [htext]
    rfl
  . exact h.accepts_flags e hflag

theorem nodup_flags (h : c.DescribedBy s) : (c.flags.map Prod.fst).Nodup := by
  apply h.flags.sublist.nodup
  have hlong := h.ordinary.nodup_long
  unfold List.Nodup at *
  rw [List.pairwise_map] at *
  apply hlong.imp
  intro a b hne heq
  injection heq with heq
  exact hne heq

theorem positional_notMem (h : c.DescribedBy s) : ArgId.positional ∉ c.flags.map Prod.fst := by
  intro hmem
  obtain ⟨e, he, hid⟩ := List.mem_map.mp hmem
  obtain ⟨o, _, hoption, _⟩ := h.flags.holds e he
  rw [hid] at hoption
  contradiction

theorem nodup (h : c.DescribedBy s) : (c.given.map Prod.fst).Nodup := by
  unfold given
  rw [List.map_append]
  cases c.positional? with
  | none => exact h.nodup_flags
  | some text => exact List.nodup_cons.mpr ⟨h.positional_notMem, h.nodup_flags⟩

theorem stays (h : c.DescribedBy s)
    (henter : ∀ name, c = .login (.enter (some name)) → s.sub? (RawText.ofString name) = none) :
    ∀ e ∈ c.given, s.sub? (RawText.ofString (entryWord e)) = none := by
  intro e he
  rcases h.leaf with hleaf | ⟨name, rfl⟩
  . exact Spec.sub?_of_leaf hleaf _
  -- Only at a bare login can the word for the positional argument lead to a command.
  . cases name with
    | none => contradiction
    | some name =>
      rw [List.mem_singleton.mp he]
      exact henter name rfl

theorem read {sc : Scope} (h : c.DescribedBy sc.spec)
    (hplain : ∀ text, c.positional? = some text → IsPlain text)
    (henter : ∀ name, c = .login (.enter (some name)) → sc.spec.sub? (RawText.ofString name) = none)
    (path : List String) :
    sc.read path {} (entryWords c.given) = .ok ⟨path, c.given⟩ :=
  Scope.read_entryWords h.ordinary h.needsSub path (h.accepts hplain) (h.stays henter) h.nodup
    Progress.hasRead_nil

end Command.DescribedBy

namespace ClusterCommand

open Given.Follow in
theorem flags_follow {c : ClusterCommand} {s : Spec} (h : Surface.cluster.Leads [c.name] s) :
    Given.Follow s.options c.flags := by
  -- One step for each option of the description; a command leaves out what it was not given.
  rw [← List.append_nil c.flags]
  cases c with
  | check o =>
    rw [h.unique (t := Surface.check) (Spec.Leads.single rfl rfl (by decide))]
    simp only [flags, List.append_assoc]
    exact switchValue rfl (switchValue rfl (switchValue rfl (switchValue rfl (switchValue rfl
      nil))))
  | delete o =>
    rw [h.unique (t := Surface.delete) (Spec.Leads.single rfl rfl (by decide))]
    simp only [flags]
    exact switchValue rfl nil
  | deploy o =>
    rw [h.unique (t := Surface.deploy) (Spec.Leads.single rfl rfl (by decide))]
    simp only [flags, List.append_assoc]
    exact switchValue rfl (switchValue rfl (countValue rfl rfl (switchValue rfl
      (textValue rfl rfl (switchValue rfl (switchValue rfl (switchValue rfl
      (optionalValue rfl rfl nil))))))))
  | prepare o =>
    rw [h.unique (t := Surface.prepare) (Spec.Leads.single rfl rfl (by decide))]
    simp only [flags, List.append_assoc]
    exact textValue rfl rfl (switchValue rfl (switchValue rfl (switchValue rfl
      (countValue rfl rfl (textValue rfl rfl (textValue rfl rfl (switchValue rfl
      (textValue rfl rfl (switchValue rfl (switchValue rfl (optionalValue rfl rfl nil)))))))))))
  | reset o =>
    rw [h.unique (t := Surface.reset) (Spec.Leads.single rfl rfl (by decide))]
    simp only [flags, List.append_assoc]
    exact switchValue rfl (switchValue rfl (switchValue rfl (switchValue rfl (textValue rfl rfl
      (switchValue rfl (switchValue rfl nil))))))
  | setup o =>
    rw [h.unique (t := Surface.setup) (Spec.Leads.single rfl rfl (by decide))]
    simp only [flags, List.append_assoc]
    exact switchValue rfl (switchValue rfl (switchValue rfl (switchValue rfl (countValue rfl rfl
      (switchValue rfl (switchValue rfl (switchValue rfl (switchValue rfl (optionalValue rfl rfl
      nil)))))))))
  | stop o =>
    rw [h.unique (t := Surface.stop) (Spec.Leads.single rfl rfl (by decide))]
    simp only [flags, List.append_assoc]
    exact switchValue rfl (switchValue rfl nil)
  | _ =>
    rw [h.unique (Spec.Leads.single rfl rfl (by decide))]
    exact nil

theorem exists_describedBy (c : ClusterCommand) :
    ∃ s, Surface.cluster.Leads [c.name] s ∧ (Command.cluster c).DescribedBy s := by
  have hleads : ∃ s, Surface.cluster.Leads [c.name] s ∧ s.IsOrdinary ∧ s.needsSub = false ∧
      s.subs = [] ∧ (c.positional?.isSome → s.positional.isSome) := by
    -- Everything but the flags is read off the description.
    cases c <;>
    refine ⟨_, Spec.Leads.single rfl rfl (by decide), by decide, rfl, rfl, ?_⟩ <;>
    first | exact fun _ => rfl | exact nofun
  obtain ⟨s, hleads, hordinary, hsub, hleaf, hpos⟩ := hleads
  exact ⟨s, hleads, hordinary, hsub, .inl hleaf, hpos, flags_follow hleads⟩

theorem clusterCommand?_given (c : ClusterCommand) :
    Surface.clusterCommand? c.name (Command.cluster c).given = some c.normalize := by
  cases c <;>
  simp [Surface.clusterCommand?, name, normalize, Command.given, Command.positional?, positional?,
    Command.flags, flags, has, Given.text?, Given.positional?, textOf?_eq, count?_eq, optional?_eq]

end ClusterCommand

namespace LoginCommand

open Given.Follow in
theorem flags_follow {c : LoginCommand} {s : Spec} (h : Surface.login.Leads c.name?.toList s) :
    Given.Follow s.options c.flags := by
  rw [← List.append_nil c.flags]
  cases c with
  | enter name =>
    rw [h.unique (.refl _)]
    exact nil
  | delete o =>
    rw [h.unique (t := Surface.loginDelete) (Spec.Leads.single rfl rfl (by decide))]
    exact switchValue rfl nil
  | exportContext o =>
    rw [h.unique (t := Surface.loginExport) (Spec.Leads.single rfl rfl (by decide))]
    exact textValue rfl rfl nil
  | importContext o =>
    rw [h.unique (t := Surface.loginImport) (Spec.Leads.single rfl rfl (by decide))]
    simp only [flags, List.append_assoc]
    exact switchValue rfl (switchValue rfl nil)
  | list output =>
    rw [h.unique (t := Surface.loginList) (Spec.Leads.single rfl rfl (by decide))]
    exact textValue rfl rfl nil

theorem exists_describedBy (c : LoginCommand) :
    ∃ s, Surface.login.Leads c.name?.toList s ∧ (Command.login c).DescribedBy s := by
  have hleads : ∃ s, Surface.login.Leads c.name?.toList s ∧ s.IsOrdinary ∧ s.needsSub = false ∧
      (s.subs = [] ∨ ∃ name, c = .enter name) ∧ (c.positional?.isSome → s.positional.isSome) := by
    cases c with
    | enter name => exact ⟨_, .refl _, by decide, rfl, .inr ⟨name, rfl⟩, fun _ => rfl⟩
    | list output => exact ⟨_, .single rfl rfl (by decide), by decide, rfl, .inl rfl, nofun⟩
    | _ => exact ⟨_, .single rfl rfl (by decide), by decide, rfl, .inl rfl, fun _ => rfl⟩
  obtain ⟨s, hleads, hordinary, hsub, hleaf, hpos⟩ := hleads
  refine ⟨s, hleads, hordinary, hsub, ?_, hpos, flags_follow hleads⟩
  rcases hleaf with hleaf | ⟨name, rfl⟩
  . exact .inl hleaf
  . exact .inr ⟨name, rfl⟩

theorem loginCommand?_given (c : LoginCommand) {name : String} (h : c.name? = some name) :
    Surface.loginCommand? name (Command.login c).given = some c.normalize := by
  cases c <;> simp only [name?, Option.some.injEq, reduceCtorEq] at h <;> subst h <;>
  simp [Surface.loginCommand?, normalize, Command.given, Command.positional?, positional?,
    Command.flags, flags, has, Given.text?, Given.positional?, textOf?_eq]

theorem positional?_given_enter (name : Option String) :
    (Command.login (.enter name)).given.positional? = name := by
  simp [Command.given, Command.positional?, positional?, Command.flags, flags, Given.positional?,
    textOf?_eq]

end LoginCommand

namespace Command

theorem exists_describedBy {c : Command} (h : c.neonCliArgs?.isSome) :
    ∃ s, Surface.plugin.Leads c.path s ∧ c.DescribedBy s := by
  have hfind : ∀ name, Surface.plugin.sub? (RawText.ofString name) =
      Surface.plugin.allSubs.find? fun s => decide (name ∈ s.name :: s.aliases) :=
    Surface.plugin.sub?_ofString
  cases c with
  | cluster c =>
    obtain ⟨s, hleads, hs⟩ := c.exists_describedBy
    exact ⟨s, .sub (hfind "cluster") rfl (by decide) hleads, hs⟩
  | login c =>
    obtain ⟨s, hleads, hs⟩ := c.exists_describedBy
    exact ⟨s, .sub (hfind "login") rfl (by decide) hleads, hs⟩
  | logout => exact ⟨_, .single rfl rfl (by decide), by decide, rfl, .inl rfl, nofun, .nil⟩
  | helm args => contradiction
  | version output => contradiction

theorem command?_given {c : Command} (h : c.neonCliArgs?.isSome) :
    Surface.command? ⟨c.path, c.given⟩ = some c.normalize := by
  cases c with
  | cluster c => simp [Surface.command?, path, normalize, c.clusterCommand?_given]
  | login c =>
    cases hname : c.name? with
    | none =>
      cases c with
      | enter name =>
        unfold Surface.command?
        dsimp only [path, LoginCommand.name?, Option.toList]
        rw [LoginCommand.positional?_given_enter]
        rfl
      | _ => contradiction
    | some name => simp [Surface.command?, path, normalize, hname, c.loginCommand?_given hname]
  | logout => rfl
  | helm args => contradiction
  | version output => contradiction

end Command

end KubePlugin
