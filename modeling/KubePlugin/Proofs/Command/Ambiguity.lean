import KubePlugin.Proofs.Command.Positional

namespace KubePlugin

open CommandLine CommandLine.Given

namespace Command

/-- The positional argument of the first command is written as the second command writes a flag or
its name. -/
inductive Clash : Command → Command → Prop where
  | clusterDelete :
    Clash (.cluster (.delete { clusterName := some "--force" }))
      (.cluster (.delete { force := true }))
  | loginDelete :
    Clash (.login (.delete { contextName := some "--force" })) (.login (.delete { force := true }))
  | loginExport {context : String} : context ≠ "" →
    Clash (.login (.exportContext { path := some ("--context=" ++ context) }))
      (.login (.exportContext { context := some context }))
  | enterDelete : Clash (.login (.enter (some "delete"))) (.login (.delete {}))
  | enterExport : Clash (.login (.enter (some "export"))) (.login (.exportContext {}))
  | enterList : Clash (.login (.enter (some "list"))) (.login (.list none))

theorem written_normalize (c : Command) : c.normalize.written = c.written := by
  simp [written, given]

theorem textValue_of_ne {s : String} (h : s ≠ "") : textValue (some s) = some (.text s) := by
  simp [textValue, dropEmpty, Option.filter, h]

theorem Clash.written_eq {c d : Command} (h : Clash c d) : c.written = d.written := by
  cases h with
  | @loginExport context hne =>
    show _ = ["login", "export"] ++ (ofOption "context" (textValue (some context))).map entryWord
    rw [textValue_of_ne hne]
    rfl
  | _ => rfl

namespace DescribedBy

variable {c d : Command} {s : Spec}

theorem stays_flags (h : c.DescribedBy s) :
    ∀ e ∈ c.flags, s.sub? (RawText.ofString (entryWord e)) = none := by
  intro e he
  rcases h.leaf with hleaf | ⟨name, rfl⟩
  . exact Spec.sub?_of_leaf hleaf _
  . contradiction

theorem read_flags (h : c.DescribedBy s) :
    (Scope.top s none).read [] {} (entryWords c.flags) = .ok ⟨[], c.flags⟩ := by
  exact Scope.read_entryWords (s := Scope.top s none) h.ordinary h.needsSub [] h.accepts_flags
    h.stays_flags h.nodup_flags Progress.hasRead_nil

theorem flags_eq (hc : c.DescribedBy s) (hd : d.DescribedBy s)
    (h : c.flags.map entryWord = d.flags.map entryWord) : c.flags = d.flags := by
  have hwords : entryWords c.flags = entryWords d.flags := by
    have := congrArg (List.map RawText.ofString) h
    rwa [List.map_map, List.map_map] at this
  have hread := hc.read_flags
  rw [hwords, hd.read_flags] at hread
  injection hread with hread
  injection hread with _ hread
  exact hread.symm

end DescribedBy

theorem given_of_none {c : Command} (h : c.positional? = none) : c.given = c.flags := by
  simp [given, h, ofPositional]

theorem given_of_some {c : Command} {text : String} (h : c.positional? = some text) :
    c.given = (.positional, .text text) :: c.flags := by
  simp [given, h, ofPositional]

theorem normalize_eq_of_given {c d : Command} (hc : c.neonCliArgs?.isSome)
    (hd : d.neonCliArgs?.isSome) (hpath : c.path = d.path) (hgiven : c.given = d.given) :
    c.normalize = d.normalize := by
  have h := command?_given hc
  rw [hpath, hgiven, command?_given hd] at h
  injection h with h
  exact h.symm

theorem normalize_eq_of_path {c d : Command} (hc : c.neonCliArgs?.isSome)
    (hd : d.neonCliArgs?.isSome) (hpath : c.path = d.path)
    (hpos : c.positional?.isSome = d.positional?.isSome)
    (hwords : c.given.map entryWord = d.given.map entryWord) : c.normalize = d.normalize := by
  -- The names lead to one description, so both are written for the same options.
  obtain ⟨s, hleads, hcs⟩ := exists_describedBy hc
  obtain ⟨t, hleads', hdt⟩ := exists_describedBy hd
  rw [hpath] at hleads
  rw [hleads'.unique hleads] at hdt
  apply normalize_eq_of_given hc hd hpath
  cases hctext : c.positional? with
  | none =>
    have hdtext : d.positional? = none := by
      simpa [hctext] using hpos.symm
    rw [given_of_none hctext, given_of_none hdtext] at *
    exact hcs.flags_eq hdt hwords
  | some text =>
    obtain ⟨text', hdtext⟩ : ∃ text', d.positional? = some text' := by
      apply Option.isSome_iff_exists.mp
      rw [← hpos, hctext]
      rfl
    rw [given_of_some hctext, given_of_some hdtext] at *
    injection hwords with htext hflags
    rw [hcs.flags_eq hdt hflags, show text = text' from htext]

def positionalPaths : List (List String) :=
  (["dashboard", "delete", "deploy", "prepare", "purpose", "setup", "validate"].map
    fun name => ["cluster", name]) ++
      [["login"], ["login", "delete"], ["login", "export"], ["login", "import"]]

theorem path_mem_positionalPaths {d : Command} (h : d.positional?.isSome) :
    d.path ∈ positionalPaths := by
  rcases d with d | d | _ | _ | _
  . cases d <;> first | contradiction | simp [path, positionalPaths, ClusterCommand.name]
  . cases d <;> first | contradiction | simp [path, positionalPaths, LoginCommand.name?]
  all_goals contradiction

theorem eq_of_optional {c : Command} (hpath : c.path ∈ positionalPaths)
    (hcomplete : c.missing? = none) (hnone : c.positional? = none) (hflags : c.flags ≠ []) :
    c = .cluster (.delete { force := true }) ∨ c = .login (.delete { force := true }) ∨
      ∃ context, context ≠ "" ∧ c = .login (.exportContext { context := some context }) := by
  unfold missing? at hcomplete
  rw [hnone] at hcomplete
  rcases c with c | c | _ | _ | _
  . cases c with
    | delete o =>
      rcases o with ⟨name, _ | _⟩
      . contradiction
      . left
        rw [show name = none from hnone]
    | dashboard name => contradiction
    | deploy o => contradiction
    | prepare o => contradiction
    | purpose value => contradiction
    | setup o => contradiction
    | validate clusterDef => contradiction
    | _ =>
      simp [path, positionalPaths, ClusterCommand.name] at hpath
  . cases c with
    | enter name => contradiction
    | delete o =>
      rcases o with ⟨name, _ | _⟩
      . contradiction
      . right
        left
        rw [show name = none from hnone]
    | exportContext o =>
      rcases o with ⟨name, _ | context⟩
      . contradiction
      . right
        right
        refine ⟨context, ?_, ?_⟩
        . intro hempty
          subst hempty
          contradiction
        . rw [show name = none from hnone]
    | importContext o => contradiction
    | list output => simp [path, positionalPaths, LoginCommand.name?] at hpath
  all_goals simp [path, positionalPaths] at hpath

theorem command?_of_word {d : Command} {path : List String} {text word : String}
    (h : d.neonCliArgs?.isSome) (hpath : d.path = path) (hsome : d.positional? = some text)
    (hwords : entryWord (.positional, .text text) :: d.flags.map entryWord = [word]) :
    Surface.command? ⟨path, [(.positional, .text word)]⟩ = some d.normalize := by
  injection hwords with htext hflags
  rw [← command?_given h, given_of_some hsome, List.map_eq_nil_iff.mp hflags, hpath,
    show text = word from htext]

theorem clash_of_positional {c d : Command} {text : String} (hd : d.neonCliArgs?.isSome)
    (hpath : d.path = c.path) (hcomplete : c.missing? = none) (hnone : c.positional? = none)
    (hsome : d.positional? = some text)
    (hwords : d.given.map entryWord = c.given.map entryWord) :
    Clash d.normalize c.normalize := by
  rw [given_of_none hnone, given_of_some hsome, List.map_cons] at hwords
  have hmem : c.path ∈ positionalPaths := by
    rw [← hpath]
    apply path_mem_positionalPaths
    rw [hsome]
    rfl
  have hflags : c.flags ≠ [] := by
    intro hnil
    rw [hnil] at hwords
    contradiction
  -- The first flag of the one has to be the whole positional argument of the other.
  rcases eq_of_optional hmem hcomplete hnone hflags with rfl | rfl | ⟨context, hne, rfl⟩
  . have hnormalize := command?_of_word hd hpath hsome hwords
    injection hnormalize with hnormalize
    rw [← hnormalize]
    exact .clusterDelete
  . have hnormalize := command?_of_word hd hpath hsome hwords
    injection hnormalize with hnormalize
    rw [← hnormalize]
    exact .loginDelete
  . have hcontext : (login (.exportContext { context := some context })).flags
        = [(.option "context", .text context)] := by
      show ofOption "context" (textValue (some context)) = _
      rw [textValue_of_ne hne]
      rfl
    have hkept : (login (.exportContext { context := some context })).normalize
        = login (.exportContext { context := some context }) := by
      simp [normalize, LoginCommand.normalize, dropEmpty, Option.filter, hne]
    rw [hcontext] at hwords
    have hnormalize := command?_of_word hd hpath hsome hwords
    injection hnormalize with hnormalize
    rw [← hnormalize, hkept]
    exact .loginExport hne

theorem clash_of_enter {name : Option String} {l : LoginCommand} (hname : l.name?.isSome)
    (hcomplete : (login l).missing? = none)
    (hwords : (login (.enter name)).written = (login l).written) :
    Clash (login (.enter name)).normalize (login l).normalize := by
  obtain ⟨word, hword⟩ := Option.isSome_iff_exists.mp hname
  rw [LoginCommand.written_eq, LoginCommand.written_eq, hword] at hwords
  injection hwords with _ hwords
  cases name with
  | none => contradiction
  | some name =>
    injection hwords with hname hrest
    rw [show name = word from hname]
    have hpos : l.positional? = none := by
      cases hp : l.positional? with
      | none => rfl
      | some text =>
        rw [hp] at hrest
        contradiction
    have hflags : l.flags = [] := by
      rw [hpos] at hrest
      exact List.map_eq_nil_iff.mp hrest.symm
    have hl : Surface.command? ⟨["login", word], []⟩ = some (login l).normalize := by
      rw [← command?_given (c := login l) rfl, given_of_none (c := login l) hpos,
        show (login l).flags = [] from hflags, path, hword]
      rfl
    cases l with
    | enter name => contradiction
    | delete o =>
      injection hword with hword
      subst hword
      injection hl with hl
      rw [← hl]
      exact .enterDelete
    | exportContext o =>
      injection hword with hword
      subst hword
      injection hl with hl
      rw [← hl]
      exact .enterExport
    | importContext o =>
      unfold missing? at hcomplete
      rw [show (login (.importContext o)).positional? = none from hpos] at hcomplete
      contradiction
    | list output =>
      injection hword with hword
      subst hword
      injection hl with hl
      rw [← hl]
      exact .enterList

theorem path_eq_or_enter {c d : Command} (hc : c.neonCliArgs?.isSome) (hd : d.neonCliArgs?.isSome)
    (h : c.written = d.written) :
    c.path = d.path
      ∨ (∃ name l, c = login (.enter name) ∧ d = login l ∧ l.name?.isSome)
      ∨ ∃ name l, d = login (.enter name) ∧ c = login l ∧ l.name?.isSome := by
  have henter : ∀ {l : LoginCommand}, l.name? = none → ∃ name, l = .enter name := by
    intro l hl
    cases l with
    | enter name => exact ⟨name, rfl⟩
    | _ => contradiction
  -- The first word tells the group. The second is a name, unless it comes from a bare login.
  cases c with
  | cluster c =>
    cases d with
    | cluster d =>
      injection h with _ h
      injection h with hname _
      left
      rw [path, path, hname]
    | login d => injection h with h _; contradiction
    | logout => injection h with h _; contradiction
    | helm args => contradiction
    | version output => contradiction
  | login c =>
    cases d with
    | cluster d => injection h with h _; contradiction
    | login d =>
      cases hcname : c.name? with
      | none =>
        obtain ⟨name, rfl⟩ := henter hcname
        cases hdname : d.name? with
        | none =>
          obtain ⟨name', rfl⟩ := henter hdname
          left
          rfl
        | some word => exact .inr (.inl ⟨name, d, rfl, rfl, by rw [hdname]; rfl⟩)
      | some word =>
        cases hdname : d.name? with
        | none =>
          obtain ⟨name, rfl⟩ := henter hdname
          exact .inr (.inr ⟨name, c, rfl, rfl, by rw [hcname]; rfl⟩)
        | some word' =>
          left
          rw [LoginCommand.written_eq, LoginCommand.written_eq, hcname, hdname] at h
          injection h with _ h
          injection h with hword _
          rw [path, path, hcname, hdname, hword]
    | logout => injection h with h _; contradiction
    | helm args => contradiction
    | version output => contradiction
  | logout =>
    cases d with
    | logout => exact .inl rfl
    | cluster d => injection h with h _; contradiction
    | login d => injection h with h _; contradiction
    | helm args => contradiction
    | version output => contradiction
  | helm args => contradiction
  | version output => contradiction

theorem written_eq_iff {c d : Command} (hc : c.neonCliArgs?.isSome) (hd : d.neonCliArgs?.isSome)
    (hccomplete : c.missing? = none) (hdcomplete : d.missing? = none) :
    c.written = d.written
      ↔
    c.normalize = d.normalize ∨ Clash c.normalize d.normalize ∨ Clash d.normalize c.normalize := by
  constructor
  . intro h
    -- Either the names are the same, and then a positional argument on one side only is the
    -- trouble, or the positional argument of a bare login stands where the other has a name.
    rcases path_eq_or_enter hc hd h with hpath | ⟨name, l, rfl, rfl, hl⟩ | ⟨name, l, rfl, rfl, hl⟩
    . have hwords : c.given.map entryWord = d.given.map entryWord := by
        unfold written at h
        rw [hpath] at h
        exact List.append_cancel_left h
      cases hctext : c.positional? with
      | none =>
        cases hdtext : d.positional? with
        | none =>
          left
          exact normalize_eq_of_path hc hd hpath (by rw [hctext, hdtext]) hwords
        | some text =>
          right
          right
          exact clash_of_positional hd hpath.symm hccomplete hctext hdtext hwords.symm
      | some text =>
        cases hdtext : d.positional? with
        | none =>
          right
          left
          exact clash_of_positional hc hpath hdcomplete hdtext hctext hwords
        | some text' =>
          left
          exact normalize_eq_of_path hc hd hpath (by rw [hctext, hdtext]; rfl) hwords
    . right
      left
      exact clash_of_enter hl hdcomplete h
    . right
      right
      exact clash_of_enter hl hccomplete h.symm
  . intro h
    rw [← c.written_normalize, ← d.written_normalize]
    rcases h with h | h | h
    . rw [h]
    . exact h.written_eq
    . exact h.written_eq.symm

theorem Clash.positional {c d : Command} (h : Clash c d) :
    ∃ text, c.positional? = some text ∧
      (¬IsPlain text ∨ c = .login (.enter (some text)) ∧ text ∈ Surface.loginWords) := by
  cases h with
  | clusterDelete => exact ⟨_, rfl, .inl (by decide)⟩
  | loginDelete => exact ⟨_, rfl, .inl (by decide)⟩
  | @loginExport context _ =>
    refine ⟨_, rfl, .inl ?_⟩
    intro hplain
    rcases hplain with heq | hhead
    . have := congrArg String.toList heq
      simp at this
    . simp at hhead
  | enterDelete => exact ⟨_, rfl, .inr ⟨rfl, by decide⟩⟩
  | enterExport => exact ⟨_, rfl, .inr ⟨rfl, by decide⟩⟩
  | enterList => exact ⟨_, rfl, .inr ⟨rfl, by decide⟩⟩

theorem eq_enter_of_normalize {c : Command} {name : Option String}
    (h : c.normalize = .login (.enter name)) : c = .login (.enter name) := by
  cases c with
  | login l =>
    injection h with h
    cases l with
    | enter name => exact congrArg login h
    | _ => contradiction
  | _ => contradiction

theorem Clash.dashes_mem {line : List RawText} {c d : Command} (h : Clash c.normalize d)
    (hc : Surface.parse line = .ok c) (hforward : c.neonCliArgs?.isSome) :
    RawText.ofString "--" ∈ line.drop 1 := by
  obtain ⟨text, htext, hclash⟩ := h.positional
  rw [positional?_normalize] at htext
  apply Decidable.byContradiction
  intro hdashes
  obtain ⟨hplain, henter⟩ := Surface.plain_of_parse hc hforward hdashes htext
  rcases hclash with hnot | ⟨hname, hmem⟩
  . exact hnot hplain
  . exact henter (eq_enter_of_normalize hname) hmem

theorem collected_of_neonCliArgs? {c : Command} {v : ArgVector}
    (h : c.neonCliArgs? = some (.ok v)) :
    c.neonCliArgs?.isSome ∧ c.missing? = none ∧ v.toList = c.written := by
  have hforward : c.neonCliArgs?.isSome := by
    rw [h]
    rfl
  rw [neonCliArgs?_eq hforward] at h
  injection h with h
  exact ⟨hforward, collected_eq_ok_iff.mp h⟩

/-- Commands of two lines are forwarded as the same words only if they are the same up to empty
values, or if they clash. The line of a command that clashes has two dashes, since without them a
positional argument is taken neither for an option nor for a command. -/
theorem forwarded_eq_iff {l l' : List RawText} {c d : Command} {v w : ArgVector}
    (hc : Surface.parse l = .ok c) (hd : Surface.parse l' = .ok d)
    (hv : c.neonCliArgs? = some (.ok v)) (hw : d.neonCliArgs? = some (.ok w)) :
    (v = w ↔ c.normalize = d.normalize ∨ Clash c.normalize d.normalize
      ∨ Clash d.normalize c.normalize)
      ∧ (c.normalize = d.normalize → c.launchMode = d.launchMode)
      ∧ (Clash c.normalize d.normalize → RawText.ofString "--" ∈ l.drop 1)
      ∧ (Clash d.normalize c.normalize → RawText.ofString "--" ∈ l'.drop 1)
      ∧ (RawText.ofString "--" ∉ l.drop 1 → ∀ text, c.positional? = some text →
        IsPlain text ∧ (c = .login (.enter (some text)) → text ∉ Surface.loginWords)) := by
  obtain ⟨hcforward, hccomplete, hcwritten⟩ := collected_of_neonCliArgs? hv
  obtain ⟨hdforward, hdcomplete, hdwritten⟩ := collected_of_neonCliArgs? hw
  refine ⟨?_, ?_, ?_, ?_, ?_⟩
  . rw [← written_eq_iff hcforward hdforward hccomplete hdcomplete, ← hcwritten, ← hdwritten]
    constructor
    . intro h
      rw [h]
    . exact ArgVector.eq_mk_of_toList
  . intro h
    rw [← launchMode_normalize c, h, launchMode_normalize]
  . intro h
    exact h.dashes_mem hc hcforward
  . intro h
    exact h.dashes_mem hd hdforward
  . intro hdashes text htext
    exact Surface.plain_of_parse hc hcforward hdashes htext

theorem forwarded_eq_iff_export :
    Surface.parse (["neon", "login", "export", "--context=", "a"].map RawText.ofString)
        = .ok (login (.exportContext { path := some "a", context := some "" }))
      ∧ Surface.parse (["neon", "login", "export", "--", "a"].map RawText.ofString)
        = .ok (login (.exportContext { path := some "a" }))
      ∧ ((⟨["login", "export", "a"]⟩ : ArgVector) = ⟨["login", "export", "a"]⟩
        ↔ (login (.exportContext { path := some "a", context := some "" })).normalize
            = (login (.exportContext { path := some "a" })).normalize
          ∨ Clash (login (.exportContext { path := some "a", context := some "" })).normalize
            (login (.exportContext { path := some "a" })).normalize
          ∨ Clash (login (.exportContext { path := some "a" })).normalize
            (login (.exportContext { path := some "a", context := some "" })).normalize) := by
  have hfirst : Surface.parse (["neon", "login", "export", "--context=", "a"].map RawText.ofString)
      = .ok (login (.exportContext { path := some "a", context := some "" })) := rfl
  have hsecond : Surface.parse (["neon", "login", "export", "--", "a"].map RawText.ofString)
      = .ok (login (.exportContext { path := some "a" })) := rfl
  exact ⟨hfirst, hsecond, (forwarded_eq_iff hfirst hsecond rfl rfl).1⟩

theorem forwarded_eq_of_dashes :
    Surface.parse (["neon", "cluster", "delete", "--", "--force"].map RawText.ofString)
        = .ok (cluster (.delete { clusterName := some "--force" }))
      ∧ Surface.parse (["neon", "cluster", "delete", "--force"].map RawText.ofString)
        = .ok (cluster (.delete { force := true }))
      ∧ (cluster (.delete { clusterName := some "--force" })).neonCliArgs?
        = (cluster (.delete { force := true })).neonCliArgs?
      ∧ (cluster (.delete { clusterName := some "--force" })).neonCliArgs?
        = some (.ok ⟨["cluster", "delete", "--force"]⟩)
      ∧ cluster (.delete { clusterName := some "--force" }) ≠ cluster (.delete { force := true })
      ∧ Surface.parse (["neon", "login", "--", "delete"].map RawText.ofString)
        = .ok (login (.enter (some "delete")))
      ∧ Surface.parse (["neon", "login", "delete"].map RawText.ofString)
        = .ok (login (.delete {}))
      ∧ (login (.enter (some "delete"))).neonCliArgs? = (login (.delete {})).neonCliArgs?
      ∧ (login (.enter (some "delete"))).neonCliArgs? = some (.ok ⟨["login", "delete"]⟩)
      ∧ (login (.enter (some "delete"))).launchMode ≠ (login (.delete {})).launchMode := by
  refine ⟨rfl, rfl, rfl, rfl, ?_, rfl, rfl, rfl, rfl, ?_⟩
  . decide
  . decide

end Command

end KubePlugin
