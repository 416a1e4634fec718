import KubePlugin.Proofs.Command.RoundTrip
import KubePlugin.Proofs.CommandLine.Plain

namespace KubePlugin

open CommandLine CommandLine.Given

theorem CommandLine.Given.mem_of_positional? {g : Given} {text : String}
    (h : g.positional? = some text) : (ArgId.positional, Value.text text) ∈ g := by
  unfold Given.positional? textOf? at h
  split at h
  . next s hget =>
    injection h with h
    rw [← h]
    obtain ⟨l₁, l₂, hg, _⟩ := List.lookup_eq_some_iff.mp hget
    rw [hg]
    simp
  . contradiction

theorem Surface.mem_of_clusterCommand? {name text : String} {g : Given} {c : ClusterCommand}
    (h : clusterCommand? name g = some c) (htext : c.positional? = some text) :
    (ArgId.positional, Value.text text) ∈ g := by
  apply mem_of_positional?
  unfold clusterCommand? at h
  split at h
  all_goals cases h
  all_goals first | exact htext | contradiction

theorem Surface.mem_of_loginCommand? {name text : String} {g : Given} {c : LoginCommand}
    (h : loginCommand? name g = some c) (htext : c.positional? = some text) :
    (ArgId.positional, Value.text text) ∈ g := by
  apply mem_of_positional?
  unfold loginCommand? at h
  split at h
  all_goals cases h
  all_goals first | exact htext | contradiction

theorem Surface.loginCommand?_ne_enter {name : String} {g : Given} {word : Option String} :
    loginCommand? name g ≠ some (.enter word) := by
  unfold loginCommand?
  split <;> simp

theorem CommandLine.Spec.Below.cons_inv {c t : Spec} {name : String} {names : List String}
    (h : c.Below (name :: names) t) : ∃ s ∈ c.subs, s.name = name ∧ s.Below names t := by
  cases h with
  | @sub _ s _ _ hmem hhelp hrest =>
    refine ⟨s, ?_, rfl, hrest⟩
    unfold Spec.allSubs at hmem
    split at hmem
    . contradiction
    . rcases List.mem_append.mp hmem with hmem | hmem
      . exact hmem
      . rw [List.mem_singleton.mp hmem] at hhelp
        contradiction

theorem CommandLine.Spec.Below.nil_inv {c t : Spec} (h : c.Below [] t) : t = c := by
  cases h
  rfl

theorem CommandLine.Spec.Below.pair_inv {c t : Spec} {name name' : String}
    (h : c.Below [name, name'] t) : ∃ s ∈ c.subs, s.name = name ∧ t ∈ s.subs := by
  obtain ⟨s, hs, hname, hrest⟩ := h.cons_inv
  obtain ⟨s', hs', _, hrest'⟩ := hrest.cons_inv
  rw [hrest'.nil_inv]
  exact ⟨s, hs, hname, hs'⟩

theorem Surface.eq_of_name {s : Spec} (hs : s ∈ plugin.subs) :
    (s.name = "cluster" → s = cluster) ∧ (s.name = "login" → s = login) := by
  simp only [plugin, Spec.group, Spec.subs, List.mem_cons, List.not_mem_nil, or_false] at hs
  rcases hs with rfl | rfl | rfl | rfl | rfl
  . exact ⟨fun _ => rfl, fun h => absurd h (by decide)⟩
  . exact ⟨fun h => absurd h (by decide), fun _ => rfl⟩
  all_goals exact ⟨fun h => absurd h (by decide), fun h => absurd h (by decide)⟩

theorem Surface.not_verbatim :
    ∀ s ∈ cluster.subs ++ login :: login.subs, ∀ pos ∈ s.positional, pos.verbatim = false := by
  decide

theorem Surface.exists_of_command? {m : Matched} {t : Spec} {c : Command}
    (h : command? m = some c) (hforward : c.neonCliArgs?.isSome) (hbelow : plugin.Below m.path t)
    {text : String} (htext : c.positional? = some text) :
    (ArgId.positional, Value.text text) ∈ m.given
      ∧ (∀ pos ∈ t.positional, pos.verbatim = false)
      ∧ ∀ name, c = .login (.enter name) → t = login := by
  rcases m with ⟨path, given⟩
  unfold command? at h
  dsimp only at h hbelow
  split at h
  . next name =>
    simp only [Option.map_eq_some_iff] at h
    obtain ⟨c', hc', rfl⟩ := h
    obtain ⟨s, hs, hname, ht⟩ := hbelow.pair_inv
    rw [(eq_of_name hs).1 hname] at ht
    refine ⟨mem_of_clusterCommand? hc' htext, not_verbatim t ?_, by simp⟩
    exact List.mem_append_left _ ht
  . obtain ⟨s, hs, hname, hrest⟩ := hbelow.cons_inv
    injection h with h
    subst h
    rw [hrest.nil_inv, (eq_of_name hs).2 hname]
    exact ⟨mem_of_positional? htext, not_verbatim login (by simp), fun _ _ => rfl⟩
  . next name =>
    simp only [Option.map_eq_some_iff] at h
    obtain ⟨c', hc', rfl⟩ := h
    obtain ⟨s, hs, hname, ht⟩ := hbelow.pair_inv
    rw [(eq_of_name hs).2 hname] at ht
    refine ⟨mem_of_loginCommand? hc' htext, not_verbatim t ?_, ?_⟩
    . exact List.mem_append_right _ (List.mem_cons_of_mem _ ht)
    . intro _ henter
      injection henter with henter
      subst henter
      exact absurd hc' loginCommand?_ne_enter
  all_goals
    cases h
  . contradiction
  . contradiction
  . contradiction

theorem Surface.plain_of_parse {line : List RawText} {c : Command} (h : parse line = .ok c)
    (hforward : c.neonCliArgs?.isSome) (hdashes : RawText.ofString "--" ∉ line.drop 1)
    {text : String} (htext : c.positional? = some text) :
    IsPlain text ∧ (c = .login (.enter (some text)) → text ∉ loginWords) := by
  unfold parse at h
  split at h
  . next m hm =>
    split at h
    . next c' hc =>
      injection h with h
      subst h
      obtain ⟨names, t, hpath, hbelow, hleaves⟩ :=
        Scope.leaves_of_read (s := Scope.top plugin (calledName? line)) hm hdashes (fun _ => .nil _)
      rw [List.nil_append] at hpath
      subst hpath
      obtain ⟨hmem, hverbatim, hlogin⟩ := exists_of_command? hc hforward hbelow htext
      obtain ⟨hplain, hsub⟩ := hleaves hverbatim text hmem
      refine ⟨(Word.ofRaw_eq_plain_iff text).mp hplain, ?_⟩
      intro henter
      have ht := hlogin _ henter
      subst ht
      exact (login_sub?_eq_none_iff text).mp (hsub rfl)
    . contradiction
  . contradiction

end KubePlugin
