import KubePlugin.Proofs.Command.Described

namespace KubePlugin

open CommandLine CommandLine.Given

def Surface.loginWords : List String := ["delete", "export", "import", "list", "ls", "help"]

theorem Surface.login_sub?_eq_none_iff (name : String) :
    login.sub? (RawText.ofString name) = none ↔ name ∉ loginWords := by
  rw [Spec.sub?_ofString, List.find?_eq_none]
  simp [login, loginWords, loginDelete, loginExport, loginImport, loginList, helpCommand,
    Spec.allSubs, Spec.subs, Spec.leaf, Spec.name, Spec.aliases, and_assoc]

namespace CommandLine.Given

@[simp]
theorem textValue_dropEmpty (v : Option String) : textValue (dropEmpty v) = textValue v := by
  simp [textValue, dropEmpty, Option.filter_filter]

@[simp]
theorem optionalValue_dropEmptyBranch (v : Option (Option String)) :
    Given.optionalValue (dropEmptyBranch v) = Given.optionalValue v := by
  simp [Given.optionalValue, dropEmptyBranch, Option.filter_filter]

end CommandLine.Given

namespace Command

@[simp]
theorem positional?_normalize (c : Command) : c.normalize.positional? = c.positional? := by
  rcases c with c | c | _ | _ | _
  . cases c <;> rfl
  . cases c <;> rfl
  all_goals rfl

@[simp]
theorem path_normalize (c : Command) : c.normalize.path = c.path := by
  rcases c with c | c | _ | _ | _
  . cases c <;> rfl
  . cases c <;> rfl
  all_goals rfl

@[simp]
theorem required?_normalize (c : Command) : c.normalize.required? = c.required? := by
  rcases c with c | c | _ | _ | _
  . cases c <;> rfl
  . cases c <;> rfl
  all_goals rfl

@[simp]
theorem launchMode_normalize (c : Command) : c.normalize.launchMode = c.launchMode := by
  rcases c with c | c | _ | _ | _
  . rfl
  . cases c <;> rfl
  all_goals rfl

@[simp]
theorem flags_normalize (c : Command) : c.normalize.flags = c.flags := by
  rcases c with c | c | _ | _ | _
  . cases c <;> simp [normalize, ClusterCommand.normalize, flags, ClusterCommand.flags]
  . cases c <;> simp [normalize, LoginCommand.normalize, flags, LoginCommand.flags]
  all_goals rfl

theorem collected_normalize (c : Command) : c.normalize.collected = c.collected := by
  simp [collected, missing?, written, given]

theorem isSome_neonCliArgs?_normalize (c : Command) :
    c.normalize.neonCliArgs?.isSome = c.neonCliArgs?.isSome := by
  cases c <;> rfl

variable {c : Command}

theorem parse_written (h : c.neonCliArgs?.isSome)
    (hplain : ∀ text, c.positional? = some text → IsPlain text)
    (henter : ∀ name, c = .login (.enter (some name)) → name ∉ Surface.loginWords)
    (program : RawText) :
    Surface.parse (program :: c.written.map RawText.ofString) = .ok c.normalize := by
  obtain ⟨s, hleads, hs⟩ := exists_describedBy h
  have hstay : ∀ name, c = .login (.enter (some name)) → s.sub? (RawText.ofString name) = none := by
    intro name hc
    subst hc
    rw [hleads.unique (t := Surface.login) (Spec.Leads.single rfl rfl (by decide)),
      Surface.login_sub?_eq_none_iff]
    exact henter name rfl
  have hwords : c.written.map RawText.ofString
      = c.path.map RawText.ofString ++ entryWords c.given := by
    simp [written, entryWords]
  have hparse : Surface.plugin.parse (program :: c.written.map RawText.ofString)
      = .ok ⟨c.path, c.given⟩ := by
    obtain ⟨sc, rfl, hread⟩ := hleads.exists_parse program (entryWords c.given)
    rw [hwords, hread]
    exact hs.read hplain hstay c.path
  unfold Surface.parse
  rw [hparse]
  dsimp only
  rw [command?_given h]

/-- The vector for neon-cli is read as the command that it was built for, without its empty
values, and this command has the same vector and the same way to be run. -/
theorem parse_neonCliArgs (c : Command) (hforward : c.neonCliArgs?.isSome)
    (hcomplete : c.missing? = none)
    (hplain : ∀ text, c.positional? = some text → IsPlain text)
    (henter : ∀ name, c = .login (.enter (some name)) → name ∉ Surface.loginWords)
    (program : RawText) :
    ∃ v : ArgVector, c.neonCliArgs? = some (.ok v)
      ∧ Surface.parse (program :: v.toList.map RawText.ofString) = .ok c.normalize
      ∧ c.normalize.neonCliArgs? = some (.ok v)
      ∧ c.normalize.launchMode = c.launchMode := by
  have hcollected : c.collected = .ok ⟨c.written⟩ := collected_eq hcomplete rfl
  refine ⟨⟨c.written⟩, ?_, ?_, ?_, ?_⟩
  . rw [neonCliArgs?_eq hforward, hcollected]
  . exact parse_written hforward hplain henter program
  . rw [neonCliArgs?_eq (by rw [isSome_neonCliArgs?_normalize, hforward]), collected_normalize,
      hcollected]
  . exact launchMode_normalize c

theorem parse_neonCliArgs_deploy :
    ∃ v : ArgVector,
      (cluster (.deploy
        { clusterDef := some "-", maxParallel := 12, packageCache := some "a=--b:1"
          useStaged := some (some "") })).neonCliArgs? = some (.ok v)
      ∧ Surface.parse (RawText.ofString "neon" :: v.toList.map RawText.ofString)
        = .ok (cluster (.deploy
            { clusterDef := some "-", maxParallel := 12, packageCache := some "a=--b:1" }))
      ∧ (cluster (.deploy
          { clusterDef := some "-", maxParallel := 12
            packageCache := some "a=--b:1" })).neonCliArgs? = some (.ok v)
      ∧ (cluster (.deploy
          { clusterDef := some "-", maxParallel := 12
            packageCache := some "a=--b:1" })).launchMode = .supervised := by
  apply parse_neonCliArgs
    (.cluster (.deploy
      { clusterDef := some "-", maxParallel := 12, packageCache := some "a=--b:1"
        useStaged := some (some "") }))
  . rfl
  . rfl
  . intro text h
    injection h with h
    subst h
    decide
  . intro name h
    injection h

end Command

end KubePlugin
