import KubePlugin.Proofs.Command.Order
import KubePlugin.Proofs.CommandLine.Line
import KubePlugin.Proofs.Program.ExitCode

namespace KubePlugin

open CommandLine CommandLine.Given

def ArgVector.isMaxParallel (word : String) : Bool :=
  "--max-parallel".toList.isPrefixOf word.toList

def ArgVector.parallelWords (n : UInt32) : List String :=
  if n = 6 then [] else ["--max-parallel=" ++ toString n.toNat]

theorem CommandLine.isMaxParallel_of_isPlain {text : String} (h : IsPlain text) :
    ArgVector.isMaxParallel text = false := by
  unfold ArgVector.isMaxParallel
  rcases h with rfl | h
  . decide
  . rw [show "--max-parallel".toList = '-' :: "-max-parallel".toList by decide]
    cases htext : text.toList with
    | nil => rfl
    | cons c cs =>
      rw [htext] at h
      have hc : ('-' == c) = false := by
        rw [beq_eq_false_iff_ne]
        rintro rfl
        exact h rfl
      simp [List.isPrefixOf, hc]

theorem CommandLine.isMaxParallel_entryWord {o : Opt} (hne : o.long ≠ "")
    (hlong : o.long.toList.head? ≠ some 'm') (v : Value) :
    ArgVector.isMaxParallel (entryWord (.option o.long, v)) = false := by
  obtain ⟨c, cs, hname⟩ : ∃ c cs, o.long.toList = c :: cs := by
    rw [← List.ne_nil_iff_exists_cons]
    exact fun hnil => hne (String.toList_eq_nil_iff.mp hnil)
  have hc : ('m' == c) = false := by
    rw [beq_eq_false_iff_ne]
    rintro rfl
    exact hlong (by rw [hname]; rfl)
  unfold ArgVector.isMaxParallel
  cases v with
  | on => simp [entryWord, ArgVector.bareFlag, hname, List.isPrefixOf, hc]
  | text s => simp [entryWord, ArgVector.valueFlag, hname, List.isPrefixOf, hc]
  | count n => simp [entryWord, ArgVector.valueFlag, hname, List.isPrefixOf, hc]
  | words l => rfl

namespace Surface

variable {leaf : Spec}

theorem cluster_mem_groups : cluster ∈ [cluster, login] := List.mem_cons_self

theorem mem_cluster_of_parallel (h : leaf ∈ [deploy, prepare, setup]) : leaf ∈ cluster.subs := by
  simp only [List.mem_cons, List.not_mem_nil, or_false] at h
  rcases h with rfl | rfl | rfl <;> simp [cluster, Spec.group, Spec.subs]

theorem exists_options_eq (h : leaf ∈ [deploy, prepare, setup]) :
    ∃ front back, leaf.options = front ++ maxParallel :: back
      ∧ ∀ o ∈ front ++ back, o.long.toList.head? ≠ some 'm' := by
  simp only [List.mem_cons, List.not_mem_nil, or_false] at h
  rcases h with rfl | rfl | rfl
  . exact ⟨deploy.options.take 2, deploy.options.drop 3, rfl, by decide⟩
  . exact ⟨prepare.options.take 4, prepare.options.drop 5, rfl, by decide⟩
  . exact ⟨setup.options.take 4, setup.options.drop 5, rfl, by decide⟩

theorem positional_of_parallel (h : leaf ∈ [deploy, prepare, setup]) :
    leaf.positional.isSome := by
  simp only [List.mem_cons, List.not_mem_nil, or_false] at h
  rcases h with rfl | rfl | rfl <;> rfl

theorem plugin_leads_parallel (h : leaf ∈ [deploy, prepare, setup]) :
    plugin.Leads ["cluster", leaf.name] leaf := by
  have hcluster := sub?_group cluster_mem_groups
  have hmem := mem_cluster_of_parallel h
  have hleaf : cluster.sub? (RawText.ofString leaf.name) = some leaf :=
    sub?_leaf (by simp) hmem List.mem_cons_self
  exact .sub hcluster rfl (by decide)
    (.sub hleaf rfl ((name_ne_help cluster_mem_groups).2 leaf hmem) (.refl leaf))

theorem filter_flags (h : leaf ∈ [deploy, prepare, setup]) {c : Command} {g : Given}
    (htakes : c.Takes leaf g) {n : UInt32} (hn : g.count? "max-parallel" = some n) :
    (c.flags.map entryWord).filter ArgVector.isMaxParallel = ArgVector.parallelWords n := by
  obtain ⟨front, back, hoptions, hothers⟩ := exists_options_eq h
  have hordinary := (isRegular_of_mem (by simp) (mem_cluster_of_parallel h)).ordinary
  have hnone : ∀ options : List Opt, (∀ o ∈ options, o ∈ front ++ back) →
      ((options.flatMap fun o => ofOption o.long (o.forwarded g)).map entryWord).filter
        ArgVector.isMaxParallel = [] := by
    intro options hmem
    rw [List.filter_eq_nil_iff]
    intro word hword
    obtain ⟨e, he, rfl⟩ := List.mem_map.mp hword
    obtain ⟨o, ho, he⟩ := List.mem_flatMap.mp he
    simp only [ofOption, List.mem_map] at he
    obtain ⟨v, _, rfl⟩ := he
    have hne : o.long ≠ "" := by
      apply hordinary.long_ne
      rw [hoptions]
      have := hmem o ho
      simp only [List.mem_append, List.mem_cons] at this ⊢
      exact this.imp_right .inr
    simp [isMaxParallel_entryWord hne (hothers o (hmem o ho)) v]
  have hown : maxParallel.forwarded g = countValue n := by
    show countValue ((g.count? "max-parallel").getD ArgVector.defaultParallel) = countValue n
    rw [hn]
    rfl
  have hword : ((ofOption "max-parallel" (countValue n)).map entryWord).filter
      ArgVector.isMaxParallel = ArgVector.parallelWords n := by
    unfold countValue ArgVector.parallelWords ArgVector.defaultParallel
    split
    . rfl
    . have hown : ArgVector.isMaxParallel ("--max-parallel=" ++ toString n.toNat) = true := by
        simp [ArgVector.isMaxParallel, List.isPrefixOf]
      show List.filter _ ["--max-parallel=" ++ toString n.toNat] = _
      rw [List.filter_singleton, hown, cond_true]
  rw [htakes.flags_eq, hoptions, List.flatMap_append, List.flatMap_cons, List.map_append,
    List.map_append, List.filter_append, List.filter_append,
    hnone front fun o ho => List.mem_append_left _ ho,
    hnone back fun o ho => List.mem_append_right _ ho, hown, List.nil_append, List.append_nil]
  exact hword

section Line

variable {before after : List Item} {value text : String} {tail : List RawText}

structure WithoutParallel (leaf : Spec) (items : List Item) (text : String)
    (tail : List RawText) : Prop where
  allows : ∀ i ∈ items, leaf.Allows i
  distinct : (items.filterMap Item.flag?).Nodup
  unset : "max-parallel" ∉ items.filterMap Item.flag?
  names : Item.Names items text tail

def parallelLine (program : RawText) (leaf : Spec) (before after : List Item) (value : String)
    (tail : List RawText) : List RawText :=
  line program cluster leaf.name (before ++ .assigned "max-parallel" value :: after) ++ tail

theorem exists_parse_parallelLine (h : leaf ∈ [deploy, prepare, setup]) (program : RawText)
    (before after : List Item) (value : String) (tail : List RawText) :
    ∃ s : Scope, s.spec = leaf
      ∧ read (parallelLine program leaf before after value tail)
        = parse (parallelLine program leaf before after value tail)
      ∧ plugin.parse (parallelLine program leaf before after value tail)
        = s.read ["cluster", leaf.name] {}
          (Item.line (before ++ .assigned "max-parallel" value :: after) ++ tail) := by
  obtain ⟨s, hs, hparse⟩ := (plugin_leads_parallel h).exists_parse program
    (Item.line (before ++ .assigned "max-parallel" value :: after) ++ tail)
  refine ⟨s, hs, ?_, hparse⟩
  show read (program :: RawText.ofString "cluster" :: _) = _
  exact read_eq_parse (by decide) _

theorem read_maxParallel_of_error {fault : CountFault}
    (h : readCount value.toList = .error fault) :
    maxParallel.read (RawText.ofString value)
      =
    .error (.badCount value maxParallel.shown fault) := by
  unfold Opt.read
  dsimp only [maxParallel]
  rw [RawText.text?_ofString]
  dsimp only
  rw [h]

theorem maxParallel_mem (h : leaf ∈ [deploy, prepare, setup]) : maxParallel ∈ leaf.options := by
  obtain ⟨front, back, hoptions, _⟩ := exists_options_eq h
  rw [hoptions]
  exact List.mem_append_right _ List.mem_cons_self

theorem WithoutParallel.number?_eq_none {items : List Item}
    (hitems : WithoutParallel leaf items text tail) : items.filterMap Item.number? = [] := by
  rw [List.filterMap_eq_nil_iff]
  intro item hitem
  have hne : ∀ long, item.flag? = some long → long ≠ "max-parallel" := by
    rintro long hlong rfl
    exact hitems.unset (List.mem_filterMap.mpr ⟨item, hitem, hlong⟩)
  cases item with
  | assigned long value => exact if_neg (hne long rfl)
  | apart long value => exact if_neg (hne long rfl)
  | bare long => rfl
  | plain text => rfl

theorem WithoutParallel.length_texts_le {items : List Item}
    (hitems : WithoutParallel leaf items text tail) : (items.filterMap Item.text?).length ≤ 1 := by
  cases hitems.names with
  | among htext => simp [htext]
  | behindDashes htext => simp [htext]

theorem WithoutParallel.accepts {items : List Item} (h : leaf ∈ [deploy, prepare, setup])
    (hitems : WithoutParallel leaf items text tail) :
    (∀ i ∈ items, (leaf.given? i).isSome) ∧ (items.map Item.id).Nodup := by
  have hregular := isRegular_of_mem cluster_mem_groups (mem_cluster_of_parallel h)
  rw [hregular.accepts_iff hitems.allows, hitems.number?_eq_none,
    if_pos (positional_of_parallel h)]
  exact ⟨hitems.distinct, hitems.length_texts_le, by simp⟩

theorem read_parallelLine_of_error (h : leaf ∈ [deploy, prepare, setup])
    (hitems : WithoutParallel leaf (before ++ after) text tail) (program : RawText)
    {fault : CountFault} (hfault : readCount value.toList = .error fault) :
    ∃ f, read (parallelLine program leaf before after value tail) = .error (.failure f)
      ∧ f.cause = .badCount value maxParallel.shown fault := by
  have hregular := isRegular_of_mem cluster_mem_groups (mem_cluster_of_parallel h)
  obtain ⟨hsome, hnodup⟩ := hitems.accepts h
  obtain ⟨s, hs, hline, hparse⟩ := exists_parse_parallelLine h program before after value tail
  subst hs
  have hsome' : ∀ i ∈ before, (s.spec.given? i).isSome :=
    fun i hi => hsome i (List.mem_append_left _ hi)
  rw [List.map_append] at hnodup
  obtain ⟨p, hp, hpassed⟩ := Scope.read_items hregular.ordinary hregular.leaf
    Progress.IsAfter.nil (fun i hi => hitems.allows i (List.mem_append_left _ hi)) hsome'
    (by simpa using hnodup.of_append_left)
  rw [List.nil_append] at hp
  have hfresh : ArgId.option "max-parallel"
      ∉ (before.filterMap s.spec.given?).map Prod.fst := by
    rw [s.spec.map_fst_filterMap_given? hsome', Item.option_mem_ids_iff]
    intro hmem
    apply hitems.unset
    rw [List.filterMap_append]
    exact List.mem_append_left _ hmem
  have hrefused : s.read ["cluster", s.spec.name] {}
        (Item.line (before ++ .assigned "max-parallel" value :: after) ++ tail)
      = s.refuse (.badCount value maxParallel.shown fault) := by
    rw [Item.line_append, List.append_assoc, hpassed, Item.line_cons]
    exact Scope.read_assigned_of_error hregular.ordinary hregular.leaf hp (maxParallel_mem h)
      (by decide) (read_maxParallel_of_error hfault) hfresh _ _
  rw [hline]
  unfold parse
  rw [hparse, hrefused]
  exact ⟨_, rfl, rfl⟩

theorem read_parallelLine_of_ok (h : leaf ∈ [deploy, prepare, setup])
    (hitems : WithoutParallel leaf (before ++ after) text tail) (program : RawText) {n : UInt32}
    (hn : readCount value.toList = .ok n) :
    ∃ c flags, read (parallelLine program leaf before after value tail) = .ok c
      ∧ c.neonCliArgs? = some (.ok ⟨"cluster" :: leaf.name :: text :: flags⟩)
      ∧ flags.filter ArgVector.isMaxParallel = ArgVector.parallelWords n := by
  have hregular := isRegular_of_mem cluster_mem_groups (mem_cluster_of_parallel h)
  have hown : leaf.given? (.assigned "max-parallel" value)
      = some (.option "max-parallel", .count n) := by
    have hvalue : maxParallel.read value = .ok (.count n) :=
      (Opt.read_eq_ok_of_count rfl).mpr ⟨n, rfl, readCount_eq_ok_iff.mp hn⟩
    exact (hregular.ordinary.assigned?_eq_some_iff (maxParallel_mem h)).mpr ⟨_, hvalue, rfl⟩
  obtain ⟨hsome, hnodup⟩ := hitems.accepts h
  have hinsert {P : Item → Prop} (hothers : ∀ i ∈ before ++ after, P i)
      (hitem : P (.assigned "max-parallel" value)) :
      ∀ i ∈ before ++ .assigned "max-parallel" value :: after, P i := by
    rw [List.forall_mem_append] at hothers
    rw [List.forall_mem_append, List.forall_mem_cons]
    exact ⟨hothers.1, hitem, hothers.2⟩
  have hallows' := hinsert hitems.allows ⟨maxParallel, maxParallel_mem h, rfl, by decide⟩
  have hsome' := hinsert (P := fun i => (leaf.given? i).isSome) hsome (by rw [hown]; rfl)
  have hnodup' : ((before ++ .assigned "max-parallel" value :: after).map Item.id).Nodup := by
    rw [List.map_append, List.map_cons, List.nodup_middle, ← List.map_append]
    refine List.nodup_cons.mpr ⟨?_, hnodup⟩
    rw [Item.id, Item.option_mem_ids_iff]
    exact hitems.unset
  have hnames : Item.Names (before ++ .assigned "max-parallel" value :: after) text tail :=
    hitems.names.insert rfl
  obtain ⟨s, hs, hline, hparse⟩ := exists_parse_parallelLine h program before after value tail
  subst hs
  obtain ⟨g, hread, htext, hget⟩ := Scope.exists_read_of_names hregular
    (positional_of_parallel h) hallows' hsome' hnodup' hnames ["cluster", s.spec.name]
  obtain ⟨c, hc, hpath, htakes⟩ :=
    exists_command? cluster_mem_groups (mem_cluster_of_parallel h) g
  have hcount : g.count? "max-parallel" = some n := by
    have hmem : (ArgId.option "max-parallel", Value.count n)
        ∈ (before ++ .assigned "max-parallel" value :: after).filterMap s.spec.given? :=
      List.mem_filterMap.mpr ⟨_, List.mem_append_right _ List.mem_cons_self, hown⟩
    rw [← get?_eq_some_iff (by rwa [s.spec.map_fst_filterMap_given? hsome'])] at hmem
    rw [count?, hget, hmem]
  have hpositional : c.positional? = some text := by
    rw [htakes.positional?_eq, if_pos (positional_of_parallel h), htext]
  refine ⟨c, c.flags.map entryWord, ?_, ?_, filter_flags h htakes hcount⟩
  . rw [hline, parse_eq_ok_iff]
    exact ⟨_, hparse.trans hread, hc⟩
  . have hmissing : c.missing? = none := by
      rw [Command.missing?, hpositional]
      rfl
    rw [Command.neonCliArgs?_eq htakes.isSome_neonCliArgs?, Command.collected, hmissing,
      Command.written, hpath, Command.given, hpositional]
    rfl

/-- Whatever else is on the line, the text for the number of parallel operations is accepted exactly
if it is a whole number of 32 bits, with a sign and zeros in front or without. Anything else is
refused as the value of this option, and the program ends without a request. What is accepted is
handed on as one flag with the plain digits of the number, from which it can be read again, or not
at all if it is the usual number. -/
theorem read_parallelLine (h : leaf ∈ [deploy, prepare, setup])
    (hitems : WithoutParallel leaf (before ++ after) text tail) (program : RawText)
    (value : String) (s : System) (preferences : Preferences) (past : List Request) :
    let argv := parallelLine program leaf before after value tail
    ((∃ c, read argv = .ok c)
        ↔ ∃ n, decimal? value.toList = some n ∧ 0 ≤ n ∧ n ≤ 4294967295)
      ∧ ((∀ c, read argv ≠ .ok c) →
        (∃ f fault, read argv = .error (.failure f)
          ∧ f.cause = .badCount value "--max-parallel <MAX_PARALLEL>" fault)
        ∧ ∃ ending, Stateful.after (runProgram s.host preferences argv) past = (ending, past)
          ∧ ending.status.code? = some 2)
      ∧ ∀ c, read argv = .ok c → ∃ n : UInt32, decimal? value.toList = some (n.toNat : Int)
        ∧ (∃ flags, c.neonCliArgs? = some (.ok ⟨"cluster" :: leaf.name :: text :: flags⟩)
          ∧ flags.filter ArgVector.isMaxParallel = ArgVector.parallelWords n
          ∧ (IsPlain text → ("cluster" :: leaf.name :: text :: flags).filter
            ArgVector.isMaxParallel = ArgVector.parallelWords n))
        ∧ ∀ word ∈ ArgVector.parallelWords n, ∃ digits,
          Word.ofRaw (RawText.ofString word)
              = .long (Utf8.encode "max-parallel".toList) (some digits)
            ∧ maxParallel.read ⟨digits⟩ = .ok (.count n) := by
  intro argv
  have hname : ArgVector.isMaxParallel leaf.name = false := by
    simp only [List.mem_cons, List.not_mem_nil, or_false] at h
    rcases h with rfl | rfl | rfl <;> decide
  cases hread : readCount value.toList with
  | error fault =>
    obtain ⟨f, hf, hcause⟩ := read_parallelLine_of_error h hitems program hread
    have hrefused : ∀ c, read argv ≠ .ok c := by
      intro c hc
      rw [show read argv = _ from hf] at hc
      contradiction
    refine ⟨⟨?_, ?_⟩, ?_, ?_⟩
    . rintro ⟨c, hc⟩
      exact absurd hc (hrefused c)
    . intro hcount
      obtain ⟨n, hn⟩ := isCount_iff.mp hcount
      rw [readCount_eq_ok_iff.mpr hn] at hread
      contradiction
    . intro _
      exact ⟨⟨f, fault, hf, hcause⟩, after_runProgram_of_isRefused s preferences past ⟨f, hf⟩⟩
    . intro c hc
      exact absurd hc (hrefused c)
  | ok n =>
    obtain ⟨c, flags, hc, hargs, hflags⟩ := read_parallelLine_of_ok h hitems program hread
    have hvalue := readCount_eq_ok_iff.mp hread
    refine ⟨⟨?_, ?_⟩, ?_, ?_⟩
    . intro _
      exact isCount_iff.mpr ⟨n, hvalue⟩
    . intro _
      exact ⟨c, hc⟩
    . intro hrefused
      exact absurd hc (hrefused c)
    . intro c' hc'
      rw [show read argv = _ from hc] at hc'
      cases hc'
      refine ⟨n, hvalue, ⟨flags, hargs, hflags, ?_⟩, ?_⟩
      . intro hplain
        rw [List.filter_cons_of_neg (by decide), List.filter_cons_of_neg (by simp [hname]),
          List.filter_cons_of_neg (by simp [isMaxParallel_of_isPlain hplain]), hflags]
      . intro word hword
        unfold ArgVector.parallelWords at hword
        split at hword
        . contradiction
        . rw [List.mem_singleton] at hword
          subst hword
          have hname : '=' ∉ "max-parallel".toList := by decide
          exact ⟨_, Word.ofRaw_valueFlag hname (toString n.toNat), Opt.read_count rfl n⟩

theorem read_parallelLine_signed :
    let argv := parallelLine "neon" setup [.bare "quiet"] [.plain "root@c"] "+007" []
    WithoutParallel setup ([.bare "quiet"] ++ [.plain "root@c"]) "root@c" []
      ∧ ∃ c flags, read argv = .ok c
        ∧ c.neonCliArgs? = some (.ok ⟨"cluster" :: "setup" :: "root@c" :: flags⟩)
        ∧ ("cluster" :: "setup" :: "root@c" :: flags).filter ArgVector.isMaxParallel
          = ["--max-parallel=7"] := by
  intro argv
  have hquiet : setup.Allows (.bare "quiet") := by
    simp [Spec.Allows, setup, Spec.leaf, Spec.options, useStaged, flag, maxParallel]
  have hplain : IsPlain "root@c" := .inr (by decide)
  have hitems : WithoutParallel setup ([.bare "quiet"] ++ [.plain "root@c"]) "root@c" [] :=
    { allows := by
        rw [List.forall_mem_append, List.forall_mem_singleton, List.forall_mem_singleton]
        exact ⟨hquiet, hplain⟩
      distinct := by decide
      unset := by decide
      names := .among rfl }
  obtain ⟨hiff, _, haccepted⟩ := read_parallelLine (by simp) hitems "neon" "+007"
    (.answering (.exited 0)) (.installedIn "/opt/neon") []
  obtain ⟨c, hc⟩ := hiff.mpr ⟨7, by decide, by decide, by decide⟩
  obtain ⟨n, hn, ⟨flags, hargs, _, hflags⟩, _⟩ := haccepted c hc
  have hseven : n = 7 := by
    rw [← UInt32.toNat_inj]
    exact Int.ofNat_inj.mp (Option.some.inj (hn.symm.trans (by decide)))
  subst hseven
  exact ⟨hitems, c, flags, hc, hargs, hflags hplain⟩

end Line

end Surface

end KubePlugin
