import KubePlugin.Proofs.Command.Described
import KubePlugin.Proofs.CommandLine.Regular

/-!
This module contains the proof that the order of the words after a cluster or login command does
not matter. Which lines of items are accepted, and which words neon-cli is given for them, is stated
for the items as a multiset.
-/

namespace KubePlugin

open CommandLine CommandLine.Given

namespace CommandLine

namespace Item

def assignedWord? (long value : String) : Option String :=
  if long = "max-parallel" then
    (decimal? value.toList).bind fun n =>
      if n = 6 then none else some (ArgVector.valueFlag long (toString n))
  else if value = "" then none
  else some (ArgVector.valueFlag long value)

def forwarded? : Item → Option String
  | bare long => some (ArgVector.bareFlag long)
  | assigned long value => assignedWord? long value
  | apart long value => assignedWord? long value
  | plain text => some text

end Item

def Value.isForwarded : Value → Bool
  | .text s => s ≠ ""
  | .count n => n ≠ ArgVector.defaultParallel
  | _ => true

def Given.isForwarded (e : ArgId × Value) : Bool := e.1 = .positional || e.2.isForwarded

def Opt.forwarded (o : Opt) (g : Given) : Option Value :=
  match o.takes, o.reading with
  | .nothing, _ => switchValue (g.has o.long)
  | .optional _, _ => optionalValue (g.optional? o.long)
  | .value _, .count => countValue ((g.count? o.long).getD ArgVector.defaultParallel)
  | .value _, _ => textValue (g.text? o.long)

theorem Opt.forwarded_eq {o : Opt} (ho : o.isRegular) {g : Given}
    (hg : ∀ v ∈ g.get? (.option o.long), o.Holds v) :
    o.forwarded g = (g.get? (.option o.long)).filter Value.isForwarded := by
  unfold forwarded Given.has Given.text? Given.textOf? Given.count? Given.optional?
  cases hget : g.get? (.option o.long) with
  | none => split <;> rfl
  | some v =>
    have hv := hg v hget
    rcases o.isRegular_cases ho with ⟨⟨name, htakes⟩, hreading, _⟩ | ⟨hreading, _⟩
    . rw [htakes, hreading]
      cases v with
      | count n => simp [countValue, Option.filter, Value.isForwarded]
      | _ => simp [Opt.Holds, htakes, hreading] at hv
    . cases htakes : o.takes with
      | nothing =>
        cases v with
        | on => rfl
        | _ => simp [Opt.Holds, htakes, hreading] at hv
      | value name =>
        rw [hreading]
        cases v with
        | text s =>
          by_cases hs : s = "" <;>
          simp [textValue, dropEmpty, Option.filter, Value.isForwarded, hs]
        | _ => simp [Opt.Holds, htakes, hreading] at hv
      | optional name =>
        cases v with
        | on => rfl
        | text s =>
          by_cases hs : s = "" <;>
          simp [optionalValue, dropEmptyBranch, Option.filter, Value.isForwarded, hs]
        | _ => simp [Opt.Holds, htakes, hreading] at hv

theorem Spec.IsRegular.map_given? {c : Spec} (hc : c.IsRegular) {item : Item}
    (hallows : c.Allows item) (hsome : (c.given? item).isSome) :
    ((c.given? item).filter Given.isForwarded).map entryWord = item.forwarded? := by
  have hassigned : ∀ o ∈ c.options, ∀ value, (c.assigned? o.long value).isSome →
      ((c.assigned? o.long value).filter Given.isForwarded).map entryWord
        = Item.assignedWord? o.long value := by
    intro o ho value hsome
    obtain ⟨e, he⟩ := Option.isSome_iff_exists.mp hsome
    obtain ⟨v, hv, rfl⟩ := (hc.ordinary.assigned?_eq_some_iff ho).mp he
    rw [he]
    unfold Item.assignedWord?
    rcases o.isRegular_cases (hc.options o ho) with ⟨_, hreading, hlong⟩ | ⟨hreading, hlong⟩
    . obtain ⟨n, rfl, hn⟩ := (Opt.read_eq_ok_of_count hreading).mp hv
      have hsix : (n.toNat : Int) = 6 ↔ n = ArgVector.defaultParallel := by
        rw [← UInt32.toNat_inj]
        exact Int.ofNat_inj
      rw [if_pos hlong, hn, Option.bind_some]
      by_cases hn' : n = ArgVector.defaultParallel
      . rw [if_pos (hsix.mpr hn')]
        simp [Option.filter, Given.isForwarded, Value.isForwarded, hn']
      . rw [if_neg (mt hsix.mp hn')]
        simp [Option.filter, Given.isForwarded, Value.isForwarded, hn', entryWord]
        rfl
    . rw [(Opt.read_eq_ok_of_text hreading value).mp hv, if_neg hlong]
      by_cases hvalue : value = "" <;>
      simp [Option.filter, Given.isForwarded, Value.isForwarded, entryWord, hvalue]
  cases item with
  | bare long => rfl
  | plain text =>
    simp only [given?, Option.isSome_map] at hsome
    obtain ⟨pos, hpos⟩ := Option.isSome_iff_exists.mp hsome
    rw [given?, hpos]
    rfl
  | assigned long value =>
    obtain ⟨o, ho, rfl, _⟩ := hallows
    exact hassigned o ho value hsome
  | apart long value =>
    obtain ⟨o, ho, rfl, _⟩ := hallows
    exact hassigned o ho value hsome

theorem Spec.IsRegular.map_filterMap_given? {c : Spec} (hc : c.IsRegular) {items : List Item}
    (hitems : ∀ i ∈ items, c.Allows i) (hsome : ∀ i ∈ items, (c.given? i).isSome) :
    ((items.filterMap c.given?).filter Given.isForwarded).map entryWord
      =
    items.filterMap Item.forwarded? := by
  rw [List.filter_filterMap, List.map_filterMap]
  apply List.filterMap_congr
  intro i hi
  exact hc.map_given? (hitems i hi) (hsome i hi)

end CommandLine

/-- What a command below `cluster` or `login` makes of what is given to it. -/
structure Command.Takes (c : Command) (leaf : Spec) (g : Given) : Prop where
  isSome_neonCliArgs? : c.neonCliArgs?.isSome
  positional?_eq : c.positional? = if leaf.positional.isSome then g.positional? else none
  flags_eq : c.flags = leaf.options.flatMap fun o => ofOption o.long (o.forwarded g)

namespace Command.Takes

variable {c : Command} {leaf : Spec} {g : Given}

theorem mem_flags_iff (h : c.Takes leaf g) (hleaf : leaf.IsRegular)
    (hg : ∀ e ∈ g, leaf.Accepts e) (hnodup : (g.map Prod.fst).Nodup) {e : ArgId × Value} :
    e ∈ c.flags ↔ e ∈ g ∧ e.1 ≠ .positional ∧ e.2.isForwarded := by
  have hforwarded : ∀ o ∈ leaf.options, ∀ v, o.forwarded g = some v
      ↔ (ArgId.option o.long, v) ∈ g ∧ v.isForwarded := by
    intro o ho v
    have hholds : ∀ v ∈ g.get? (.option o.long), o.Holds v := by
      intro v hv
      obtain ⟨o', ho', hlong, hholds⟩ := hg _ ((get?_eq_some_iff hnodup).mp hv)
      rw [List.inj_on_of_nodup_map hleaf.ordinary.nodup_long ho ho' hlong.symm]
      exact hholds
    rw [Opt.forwarded_eq (hleaf.options o ho) hholds, Option.filter_eq_some_iff,
      get?_eq_some_iff hnodup]
  rcases e with ⟨id, v⟩
  rw [h.flags_eq, List.mem_flatMap]
  simp only [ofOption, List.mem_map, Option.mem_toList, Prod.mk.injEq]
  constructor
  . rintro ⟨o, ho, v', hv', rfl, rfl⟩
    obtain ⟨hmem, hkept⟩ := (hforwarded o ho _).mp hv'
    exact ⟨hmem, by simp, hkept⟩
  . rintro ⟨hmem, hid, hkept⟩
    cases id with
    | positional => contradiction
    | option long =>
      obtain ⟨o, ho, rfl, _⟩ := hg _ hmem
      exact ⟨o, ho, v, (hforwarded o ho v).mpr ⟨hmem, hkept⟩, rfl, rfl⟩

theorem mem_ofPositional_iff (h : c.Takes leaf g) (hg : ∀ e ∈ g, leaf.Accepts e)
    (hnodup : (g.map Prod.fst).Nodup) {e : ArgId × Value} :
    e ∈ ofPositional c.positional? ↔ e ∈ g ∧ e.1 = .positional := by
  have htext : ∀ s, g.positional? = some s ↔ (ArgId.positional, Value.text s) ∈ g := by
    intro s
    rw [Given.positional?, textOf?_eq, Option.bind_eq_some_iff]
    simp only [get?_eq_some_iff hnodup]
    constructor
    . rintro ⟨v, hv, hs⟩
      cases v <;> simp [Value.text?] at hs
      rwa [← hs]
    . intro hmem
      exact ⟨_, hmem, rfl⟩
  rcases e with ⟨id, v⟩
  simp only [ofPositional, List.mem_map, Option.mem_toList, Prod.mk.injEq, h.positional?_eq]
  constructor
  . rintro ⟨s, hs, rfl, rfl⟩
    split at hs
    . exact ⟨(htext s).mp hs, rfl⟩
    . contradiction
  . rintro ⟨hmem, rfl⟩
    have haccepts := hg _ hmem
    cases v with
    | text s => exact ⟨s, by rw [if_pos haccepts.1, htext]; exact hmem, rfl, rfl⟩
    | _ => contradiction

theorem given_perm (h : c.Takes leaf g) (hleaf : leaf.IsRegular) (hg : ∀ e ∈ g, leaf.Accepts e)
    (hnodup : (g.map Prod.fst).Nodup) : c.given.Perm (g.filter isForwarded) := by
  obtain ⟨s, _, hs⟩ := exists_describedBy h.isSome_neonCliArgs?
  -- Nothing is given twice on either side, so it is enough that the same is given.
  apply (List.perm_ext_iff_of_nodup hs.nodup.of_map (hnodup.of_map.filter _)).mpr
  intro e
  unfold given
  rw [List.mem_append, h.mem_flags_iff hleaf hg hnodup, h.mem_ofPositional_iff hg hnodup,
    List.mem_filter, isForwarded]
  by_cases hpos : e.1 = .positional <;> simp [hpos]

theorem missing?_eq_none (h : c.Takes leaf g) (hg : ∀ e ∈ g, leaf.Accepts e)
    (hnodup : (g.map Prod.fst).Nodup) {e : ArgId × Value} (he : e ∈ g)
    (hpositional : e.1 = .positional) : c.missing? = none := by
  have hmem := (h.mem_ofPositional_iff hg hnodup).mpr ⟨he, hpositional⟩
  unfold missing?
  cases hc : c.positional? with
  | none =>
    rw [hc] at hmem
    contradiction
  | some text => rfl

end Command.Takes

namespace Surface

theorem isRegular_of_mem {group leaf : Spec} (hgroup : group ∈ [cluster, login])
    (hleaf : leaf ∈ group.subs) : leaf.IsRegular := by
  have hall : ∀ group ∈ [cluster, login], ∀ leaf ∈ group.subs, leaf.IsOrdinary
      ∧ leaf.subs.isEmpty ∧ leaf.needsSub = false ∧ ∀ o ∈ leaf.options, o.isRegular := by
    decide
  obtain ⟨hordinary, hsubs, hneeds, hoptions⟩ := hall group hgroup leaf hleaf
  exact ⟨hordinary, by simpa using hsubs, hneeds, hoptions⟩

theorem exists_clusterCommand? {leaf : Spec} (h : leaf ∈ cluster.subs) (g : Given) :
    ∃ c, clusterCommand? leaf.name g = some c ∧ c.name = leaf.name
      ∧ (Command.cluster c).Takes leaf g := by
  simp only [cluster, Spec.group, Spec.subs, List.mem_cons, List.not_mem_nil, or_false] at h
  -- Command by command, the flags are those of the description but for how the list is nested.
  rcases h with rfl | rfl | rfl | rfl | rfl | rfl | rfl | rfl | rfl | rfl | rfl | rfl | rfl | rfl
    | rfl | rfl | rfl
  all_goals
    refine ⟨_, rfl, rfl, rfl, rfl, ?_⟩
    refine (List.append_nil _).symm.trans ?_
    simp only [Command.flags, ClusterCommand.flags, List.append_assoc]
    rfl

theorem exists_loginCommand? {leaf : Spec} (h : leaf ∈ login.subs) (g : Given) :
    ∃ c, loginCommand? leaf.name g = some c ∧ c.name? = some leaf.name
      ∧ (Command.login c).Takes leaf g := by
  simp only [login, Spec.subs, List.mem_cons, List.not_mem_nil, or_false] at h
  rcases h with rfl | rfl | rfl | rfl
  all_goals
    refine ⟨_, rfl, rfl, rfl, rfl, ?_⟩
    refine (List.append_nil _).symm.trans ?_
    simp only [Command.flags, LoginCommand.flags, List.append_assoc]
    rfl

theorem exists_command? {group leaf : Spec} (hgroup : group ∈ [cluster, login])
    (hleaf : leaf ∈ group.subs) (g : Given) :
    ∃ c, command? ⟨[group.name, leaf.name], g⟩ = some c ∧ c.path = [group.name, leaf.name]
      ∧ c.Takes leaf g := by
  simp only [List.mem_cons, List.not_mem_nil, or_false] at hgroup
  rcases hgroup with rfl | rfl
  . obtain ⟨c, hc, hname, htakes⟩ := exists_clusterCommand? hleaf g
    refine ⟨.cluster c, ?_, ?_, htakes⟩
    . show (clusterCommand? leaf.name g).map Command.cluster = _
      rw [hc]
      rfl
    . simp [Command.path, hname, cluster, Spec.group, Spec.name]
  . obtain ⟨c, hc, hname, htakes⟩ := exists_loginCommand? hleaf g
    refine ⟨.login c, ?_, ?_, htakes⟩
    . show (loginCommand? leaf.name g).map Command.login = _
      rw [hc]
      rfl
    . simp [Command.path, hname, login, Spec.name]

theorem command?_congr {g g' : Given} (h : ∀ id, g.get? id = g'.get? id) (path : List String) :
    command? ⟨path, g⟩ = command? ⟨path, g'⟩ := by
  have hhas : g.has = g'.has := by
    funext long
    rw [has, has, h]
  have htext : g.textOf? = g'.textOf? := by
    funext id
    rw [textOf?, textOf?, h]
  have hcount : g.count? = g'.count? := by
    funext long
    rw [count?, count?, h]
  have hoptional : g.optional? = g'.optional? := by
    funext long
    rw [optional?, optional?, h]
  have hwords : g.words = g'.words := by
    rw [words, words, h]
  simp only [command?, clusterCommand?, loginCommand?, Given.text?, Given.positional?, hhas, htext,
    hcount, hoptional, hwords]

def line (program : RawText) (group : Spec) (word : String) (items : List Item) : List RawText :=
  program :: RawText.ofString group.name :: RawText.ofString word :: Item.line items

variable {group leaf : Spec} {word : String} {items : List Item}

theorem sub?_group (h : group ∈ [cluster, login]) :
    plugin.sub? (RawText.ofString group.name) = some group := by
  apply Spec.sub?_of_mem (by decide) _ List.mem_cons_self
  simp only [List.mem_cons, List.not_mem_nil, or_false] at h
  rcases h with rfl | rfl
  . exact List.mem_cons_self
  . exact List.mem_cons_of_mem _ List.mem_cons_self

theorem sub?_leaf (hgroup : group ∈ [cluster, login]) (hleaf : leaf ∈ group.subs)
    (hword : word ∈ leaf.name :: leaf.aliases) :
    group.sub? (RawText.ofString word) = some leaf := by
  have hnames : ∀ group ∈ [cluster, login],
      (group.allSubs.flatMap fun s => s.name :: s.aliases).Nodup := by
    decide
  exact Spec.sub?_of_mem (hnames group hgroup) hleaf hword

theorem name_ne_help (hgroup : group ∈ [cluster, login]) :
    group.name ≠ helpCommand.name ∧ ∀ leaf ∈ group.subs, leaf.name ≠ helpCommand.name := by
  have hall : ∀ group ∈ [cluster, login], group.name ≠ helpCommand.name
      ∧ ∀ leaf ∈ group.subs, leaf.name ≠ helpCommand.name := by
    decide
  exact hall group hgroup

theorem plugin_parse_line_eq_ok_iff (hgroup : group ∈ [cluster, login])
    (hleaf : leaf ∈ group.subs) (hword : word ∈ leaf.name :: leaf.aliases)
    (hitems : ∀ i ∈ items, leaf.Allows i) (program : RawText) {m : Matched} :
    plugin.parse (line program group word items) = .ok m
      ↔
    (∀ i ∈ items, (leaf.given? i).isSome) ∧ (items.map Item.id).Nodup
      ∧ m = ⟨[group.name, leaf.name], items.filterMap leaf.given?⟩ := by
  have hregular : leaf.IsRegular := isRegular_of_mem hgroup hleaf
  obtain ⟨hhelp, hhelp'⟩ := name_ne_help hgroup
  unfold Spec.parse
  -- The name that the program was called by is for messages only.
  generalize calledName? _ = called
  rw [line, List.drop_one, List.tail_cons, Scope.read_sub (sub?_group hgroup) hhelp,
    Scope.read_sub (sub?_leaf hgroup hleaf hword) (hhelp' leaf hleaf),
    Scope.read_line_eq_ok_iff hregular.ordinary hregular.leaf hregular.not_needsSub
      Progress.IsAfter.nil List.nodup_nil hitems]
  simp only [List.map_nil, List.nil_append, List.singleton_append]
  rfl

theorem parse_eq_ok_iff {argv : List RawText} {c : Command} :
    parse argv = .ok c ↔ ∃ m, plugin.parse argv = .ok m ∧ command? m = some c := by
  unfold parse
  cases plugin.parse argv with
  | error stop => simp
  | ok m =>
    dsimp only
    cases hc : command? m with
    | none => simp [hc]
    | some c' => simp [hc]

theorem parse_line_eq_ok_iff (hgroup : group ∈ [cluster, login]) (hleaf : leaf ∈ group.subs)
    (hword : word ∈ leaf.name :: leaf.aliases) (hitems : ∀ i ∈ items, leaf.Allows i)
    (program : RawText) {c : Command} :
    parse (line program group word items) = .ok c
      ↔
    ((∀ i ∈ items, (leaf.given? i).isSome) ∧ (items.map Item.id).Nodup)
      ∧ command? ⟨[group.name, leaf.name], items.filterMap leaf.given?⟩ = some c := by
  rw [parse_eq_ok_iff]
  constructor
  . rintro ⟨m, hm, hc⟩
    obtain ⟨hsome, hnodup, rfl⟩ :=
      (plugin_parse_line_eq_ok_iff hgroup hleaf hword hitems program).mp hm
    exact ⟨⟨hsome, hnodup⟩, hc⟩
  . rintro ⟨⟨hsome, hnodup⟩, hc⟩
    exact ⟨_, (plugin_parse_line_eq_ok_iff hgroup hleaf hword hitems program).mpr
      ⟨hsome, hnodup, rfl⟩, hc⟩

theorem takes_of_parse_line (hgroup : group ∈ [cluster, login]) (hleaf : leaf ∈ group.subs)
    (hword : word ∈ leaf.name :: leaf.aliases) (hitems : ∀ i ∈ items, leaf.Allows i)
    {program : RawText} {c : Command} (h : parse (line program group word items) = .ok c) :
    (∀ i ∈ items, (leaf.given? i).isSome)
      ∧ ((items.filterMap leaf.given?).map Prod.fst).Nodup
      ∧ (∀ e ∈ items.filterMap leaf.given?, leaf.Accepts e)
      ∧ c.path = [group.name, leaf.name] ∧ c.Takes leaf (items.filterMap leaf.given?) := by
  have hregular := isRegular_of_mem hgroup hleaf
  obtain ⟨⟨hsome, hnodup⟩, hc⟩ := (parse_line_eq_ok_iff hgroup hleaf hword hitems program).mp h
  rw [← leaf.map_fst_filterMap_given? hsome] at hnodup
  obtain ⟨c', hc', hpath, htakes⟩ := exists_command? hgroup hleaf (items.filterMap leaf.given?)
  rw [hc] at hc'
  injection hc' with heq
  subst heq
  refine ⟨hsome, hnodup, ?_, hpath, htakes⟩
  intro e he
  obtain ⟨i, hi, hie⟩ := List.mem_filterMap.mp he
  exact hregular.accepts_of_given? (hitems i hi) hie

theorem toList_perm_of_parse_line (hgroup : group ∈ [cluster, login]) (hleaf : leaf ∈ group.subs)
    (hword : word ∈ leaf.name :: leaf.aliases) (hitems : ∀ i ∈ items, leaf.Allows i)
    {program : RawText} {c : Command} (h : parse (line program group word items) = .ok c)
    {v : ArgVector} (hv : c.collected = .ok v) :
    v.toList.Perm (group.name :: leaf.name :: items.filterMap Item.forwarded?) := by
  have hregular := isRegular_of_mem hgroup hleaf
  obtain ⟨hsome, hnodup, hgiven, hpath, htakes⟩ :=
    takes_of_parse_line hgroup hleaf hword hitems h
  rw [(Command.collected_eq_ok_iff.mp hv).2, Command.written, hpath,
    ← hregular.map_filterMap_given? hitems hsome]
  exact ((htakes.given_perm hregular hgiven hnodup).map entryWord).append_left _

theorem filterMap_text?_of_parse_line (hgroup : group ∈ [cluster, login])
    (hleaf : leaf ∈ group.subs) (hword : word ∈ leaf.name :: leaf.aliases)
    (hitems : ∀ i ∈ items, leaf.Allows i) {program : RawText} {c : Command}
    (h : parse (line program group word items) = .ok c) {e : PluginError}
    (he : c.collected = .error e) : items.filterMap Item.text? = [] := by
  obtain ⟨hsome, hnodup, hgiven, _, htakes⟩ := takes_of_parse_line hgroup hleaf hword hitems h
  by_contra hne
  obtain ⟨text, htext⟩ := List.exists_mem_of_ne_nil _ hne
  obtain ⟨item, hitem, htext⟩ := List.mem_filterMap.mp htext
  rw [Item.eq_plain_of_text? htext] at hitem
  obtain ⟨e', he'⟩ := Option.isSome_iff_exists.mp (hsome _ hitem)
  have hmem := List.mem_filterMap.mpr ⟨_, hitem, he'⟩
  have hmissing := htakes.missing?_eq_none hgiven hnodup hmem (Spec.id_of_given? he')
  rw [Command.collected_eq hmissing rfl] at he
  contradiction

/-- The order of the items after a command below `cluster` or `login` does not matter, nor does the
word for the command, or whether values stand in words of their own. The line is accepted if no
option comes twice, if there is a place for its plain words, and if numbers are in range. Then the
words for neon-cli are those for the items, each once, unless a plain word is missing. -/
theorem parse_line_perm (hgroup : group ∈ [cluster, login]) (hleaf : leaf ∈ group.subs)
    {word' : String} {items' : List Item} (hword : word ∈ leaf.name :: leaf.aliases)
    (hword' : word' ∈ leaf.name :: leaf.aliases) (hitems : ∀ i ∈ items, leaf.Allows i)
    (hitems' : ∀ i ∈ items', leaf.Allows i)
    (hperm : (items.map Item.joined).Perm (items'.map Item.joined)) (program program' : RawText) :
    (∀ c, parse (line program group word items) = .ok c
        ↔ parse (line program' group word' items') = .ok c)
      ∧ ((∃ c, parse (line program group word items) = .ok c)
        ↔ (items.filterMap Item.flag?).Nodup
          ∧ (items.filterMap Item.text?).length ≤ (if leaf.positional.isSome then 1 else 0)
          ∧ ∀ value ∈ items.filterMap Item.number?, IsCount value)
      ∧ ∀ c, parse (line program group word items) = .ok c →
        ∃ result, c.neonCliArgs? = some result
          ∧ (∀ v, result = .ok v →
            v.toList.Perm (group.name :: leaf.name :: items.filterMap Item.forwarded?))
          ∧ ∀ e, result = .error e → items.filterMap Item.text? = [] := by
  refine ⟨?_, ?_, ?_⟩
  . intro c
    rw [parse_line_eq_ok_iff hgroup hleaf hword hitems,
      parse_line_eq_ok_iff hgroup hleaf hword' hitems',
      ← Item.forall_isSome_given?_of_perm hperm leaf, ← (Item.ids_perm hperm).nodup_iff]
    apply and_congr_right
    intro ⟨hsome, hnodup⟩
    rw [← leaf.map_fst_filterMap_given? hsome] at hnodup
    rw [command?_congr (get?_of_perm (Item.filterMap_given?_perm hperm leaf) hnodup)]
  . rw [← (isRegular_of_mem hgroup hleaf).accepts_iff hitems]
    obtain ⟨c, hc, _⟩ := exists_command? hgroup hleaf (items.filterMap leaf.given?)
    simp only [parse_line_eq_ok_iff hgroup hleaf hword hitems, hc]
    simp
  . intro c h
    obtain ⟨_, _, _, _, htakes⟩ := takes_of_parse_line hgroup hleaf hword hitems h
    refine ⟨_, Command.neonCliArgs?_eq htakes.isSome_neonCliArgs?, ?_, ?_⟩
    . intro v hv
      exact toList_perm_of_parse_line hgroup hleaf hword hitems h hv
    . intro e he
      exact filterMap_text?_of_parse_line hgroup hleaf hword hitems h he

theorem parse_line_perm_setup :
    ∃ c, parse (line "neon" cluster "setup"
          [.bare "use-staged", .apart "max-parallel" "+012", .plain "-"]) = .ok c
      ∧ parse (line "neon" cluster "setup"
          [.plain "-", .bare "use-staged", .assigned "max-parallel" "+012"]) = .ok c := by
  have hsetup : setup ∈ cluster.subs := by simp [cluster, Spec.group, Spec.subs]
  have hstaged : setup.Allows (.bare "use-staged") := by
    simp [Spec.Allows, setup, Spec.leaf, Spec.options, useStaged, flag, maxParallel]
  have hparallel : maxParallel ∈ setup.options := by simp [setup, Spec.leaf, Spec.options]
  have hplain : setup.Allows (.plain "-") := .inl rfl
  have hitems : ∀ i ∈ [.bare "use-staged", .apart "max-parallel" "+012", .plain "-"],
      setup.Allows i := by
    simp only [List.forall_mem_cons]
    exact ⟨hstaged, ⟨maxParallel, hparallel, rfl, ⟨_, rfl⟩, by decide⟩, hplain, by simp⟩
  have hitems' : ∀ i ∈ [.plain "-", .bare "use-staged", .assigned "max-parallel" "+012"],
      setup.Allows i := by
    simp only [List.forall_mem_cons]
    exact ⟨hplain, hstaged, ⟨maxParallel, hparallel, rfl, by decide⟩, by simp⟩
  obtain ⟨hsame, haccepted, _⟩ := parse_line_perm (by simp) hsetup List.mem_cons_self
    List.mem_cons_self hitems hitems' (by decide) "neon" "neon"
  have hcount : IsCount "+012" := ⟨12, by decide, by decide, by decide⟩
  obtain ⟨c, hc⟩ := haccepted.mpr ⟨by decide, by decide, by simpa [Item.number?] using hcount⟩
  exact ⟨c, hc, (hsame c).mp hc⟩

end Surface

end KubePlugin
