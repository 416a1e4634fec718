import Mathlib.Data.List.Nodup
import Mathlib.Data.List.Pairwise
import KubePlugin.CommandLine.Parser
import KubePlugin.Proofs.CommandLine.Word
import KubePlugin.Proofs.Text.Decimal

/-!
This module contains the reader's run over words that were written for arguments: whatever the
arguments of an ordinary command are, as long as each is given once, reading their words gives them
back in their order. The invariant `Progress.HasRead` is what the reader knows between two words.
-/

namespace KubePlugin.CommandLine

def entryWord : ArgId × Value → String
  | (.option long, .on) => ArgVector.bareFlag long
  | (.option long, .text s) => ArgVector.valueFlag long s
  | (.option long, .count n) => ArgVector.valueFlag long (toString n.toNat)
  | (.positional, .text s) => s
  | _ => ""

def entryWords (g : Given) : List RawText := g.map fun e => RawText.ofString (entryWord e)

/-- A command whose options have different names that can be told from their values, and whose
positional argument takes one word. -/
structure Spec.IsOrdinary (c : Spec) : Prop where
  nodup_long : (c.options.map Opt.long).Nodup
  long_ne : ∀ o ∈ c.options, o.long ≠ ""
  equals_notMem : ∀ o ∈ c.options, '=' ∉ o.long.toList
  not_verbatim : ∀ pos ∈ c.positional, pos.verbatim = false

instance (c : Spec) : Decidable c.IsOrdinary :=
  decidable_of_iff
    ((c.options.map Opt.long).Nodup ∧ (∀ o ∈ c.options, o.long ≠ "") ∧
      (∀ o ∈ c.options, '=' ∉ o.long.toList) ∧ ∀ pos ∈ c.positional, pos.verbatim = false)
    ⟨fun ⟨h1, h2, h3, h4⟩ => ⟨h1, h2, h3, h4⟩, fun ⟨h1, h2, h3, h4⟩ => ⟨h1, h2, h3, h4⟩⟩

def Opt.Holds (o : Opt) : Value → Prop
  | .on => ∀ name, o.takes ≠ .value name
  | .text _ => o.takes ≠ .nothing ∧ o.reading = .text
  | .count _ => o.takes ≠ .nothing ∧ o.reading = .count
  | .words _ => False

def Spec.Accepts (c : Spec) : ArgId × Value → Prop
  | (.option long, v) => ∃ o ∈ c.options, o.long = long ∧ o.Holds v
  | (.positional, .text s) => c.positional.isSome ∧ IsPlain s
  | (.positional, _) => False

def Opt.Gives (o : Opt) (v : Value) : Option RawText → Prop
  | none => v = .on ∧ ∀ name, o.takes ≠ .value name
  | some raw => o.read raw = .ok v

theorem Opt.read_text {o : Opt} (h : o.reading = .text) (s : String) :
    o.read (RawText.ofString s) = .ok (.text s) := by
  simp only [Opt.read, h, RawText.text?_ofString]

theorem Opt.read_count {o : Opt} (h : o.reading = .count) (n : UInt32) :
    o.read (RawText.ofString (toString n.toNat)) = .ok (.count n) := by
  simp only [Opt.read, h, RawText.text?_ofString, readCount_toString]

theorem Spec.IsOrdinary.find?_long {c : Spec} (hc : c.IsOrdinary) {o : Opt}
    (ho : o ∈ c.options) : c.options.find? (fun o' => o'.long = o.long) = some o := by
  cases hfind : c.options.find? fun o' => o'.long = o.long with
  | none =>
    have := List.find?_eq_none.mp hfind o ho
    simp at this
  | some o' =>
    have hlong : o'.long = o.long := by simpa using List.find?_some hfind
    rw [List.inj_on_of_nodup_map hc.nodup_long (List.mem_of_find?_eq_some hfind) ho hlong]

theorem Spec.IsOrdinary.long?_long {c : Spec} (hc : c.IsOrdinary) {o : Opt} (ho : o ∈ c.options) :
    c.long? (Utf8.encode o.long.toList) = some (.declared o) := by
  have hname : ∀ o' : Opt, Utf8.encode o'.long.toList = Utf8.encode o.long.toList
      ↔ o'.long = o.long := fun _ => Utf8.encode_toList_inj
  have hfind : (c.options.map fun o => (o.long, Named.declared o)).find?
      (fun p => Utf8.encode p.1.toList = Utf8.encode o.long.toList)
        = some (o.long, .declared o) := by
    rw [List.find?_map]
    simp only [Function.comp_def, hname, hc.find?_long ho]
    rfl
  unfold long? longNames
  rw [List.append_assoc, List.find?_append, hfind]
  rfl

theorem Spec.IsOrdinary.takesOptions_eq_false {s : Scope} (hs : s.spec.IsOrdinary) (w : Word) :
    s.takesOptions w = false := by
  have hverbatim : (s.spec.positional.map Positional.verbatim).getD false = false := by
    cases hpos : s.spec.positional with
    | none => rfl
    | some pos => exact hs.not_verbatim pos hpos
  cases w <;> simp [Scope.takesOptions, hverbatim]

structure Progress.HasRead (p : Progress) (done : Given) : Prop where
  settle_eq :
    p.settle = ({ p with pending := none, used := done.map Prod.fst, given := done }, none)
  not_waiting : p.waiting = false
  not_literal : p.literal = false
  mem_of_filled : p.filled = true → ArgId.positional ∈ done.map Prod.fst

namespace Progress

theorem hasRead_nil : HasRead {} [] := by
  constructor
  . rfl
  . rfl
  . rfl
  . intro h
    contradiction

theorem complete_eq_iff {p q : Progress} {id : ArgId} {shown : String}
    {value : Except Cause Value} :
    p.complete id shown value = (q, none)
      ↔
    id ∉ p.used ∧ ∃ v, value = .ok v ∧
      q = { p with used := p.used ++ [id], given := p.given ++ [(id, v)] } := by
  unfold complete
  split
  . next hmem => simp [hmem]
  . next hmem =>
    cases value with
    | ok v => simp [hmem, eq_comm]
    | error cause => simp

theorem completeOption_eq_iff {p q : Progress} {o : Opt} {value : Option RawText} :
    p.completeOption o value = (q, none)
      ↔
    .option o.long ∉ p.used ∧ ∃ v, o.Gives v value ∧ q =
      { p with used := p.used ++ [.option o.long], given := p.given ++ [(.option o.long, v)] } := by
  unfold completeOption
  split
  . next name htakes =>
    simp [Opt.Gives, htakes]
  . next hne =>
    rw [complete_eq_iff]
    have htakes : ∀ name, o.takes ≠ .value name := by
      intro name h
      exact hne name h
    simp [Opt.Gives, htakes, eq_comm]
  . rw [complete_eq_iff]
    rfl

theorem settle_congr {p q : Progress} {u : List ArgId} {g : Given}
    (hpending : q.pending = p.pending) (hused : q.used = p.used) (hgiven : q.given = p.given)
    (h : p.settle = ({ p with pending := none, used := u, given := g }, none)) :
    q.settle = ({ q with pending := none, used := u, given := g }, none) := by
  -- Of a progress only the three fields that agree are looked at.
  rcases p with ⟨used, given, pending, waiting, literal, begun, filled⟩
  rcases q with ⟨used', given', pending', waiting', literal', begun', filled'⟩
  dsimp only at hpending hused hgiven
  subst hpending hused hgiven
  unfold settle at *
  rcases pending' with _ | ⟨o, value⟩ | ⟨pos, words⟩
  . simpa using h
  . dsimp only at *
    rw [completeOption_eq_iff] at *
    obtain ⟨hid, v, hv, hp⟩ := h
    refine ⟨hid, v, hv, ?_⟩
    injection hp with hu hg
    rw [hu, hg]
  . dsimp only at *
    rw [complete_eq_iff] at *
    obtain ⟨hid, v, hv, hp⟩ := h
    refine ⟨hid, v, hv, ?_⟩
    injection hp with hu hg
    rw [hu, hg]

namespace HasRead

variable {p : Progress} {done : Given}

theorem settle_begin (h : p.HasRead done) :
    ({ p with begun := true, waiting := false } : Progress).settle
      =
    ({ p with
      begun := true, waiting := false, pending := none, used := done.map Prod.fst, given := done },
      none) :=
  settle_congr (p := p) (q := { p with begun := true, waiting := false }) rfl rfl rfl h.settle_eq

theorem settleThen_eq_iff (h : p.HasRead done) {o : Opt} {value : Option RawText} {q : Progress} :
    ({ p with begun := true, waiting := false } : Progress).settleThen o value = (q, none)
      ↔
    .option o.long ∉ done.map Prod.fst ∧ ∃ v, o.Gives v value ∧ q =
      { p with
        begun := true, waiting := false, pending := none
        used := done.map Prod.fst ++ [.option o.long]
        given := done ++ [(.option o.long, v)] } := by
  unfold Progress.settleThen
  rw [h.settle_begin]
  dsimp only
  rw [completeOption_eq_iff]

theorem filled_eq_false (h : p.HasRead done) (hfresh : ArgId.positional ∉ done.map Prod.fst) :
    p.filled = false := by
  rw [← Bool.not_eq_true]
  intro hfilled
  exact hfresh (h.mem_of_filled hfilled)

theorem mem_concat_of_filled (h : p.HasRead done) (e : ArgId × Value) (hfilled : p.filled = true) :
    ArgId.positional ∈ (done ++ [e]).map Prod.fst := by
  rw [List.map_append]
  exact List.mem_append_left _ (h.mem_of_filled hfilled)

theorem option (h : p.HasRead done) (o : Opt) (v : Value) :
    HasRead
      { p with
        begun := true, waiting := false, pending := none
        used := done.map Prod.fst ++ [.option o.long], given := done ++ [(.option o.long, v)] }
      (done ++ [(.option o.long, v)]) := by
  constructor
  . simp [Progress.settle]
  . rfl
  . exact h.not_literal
  . exact h.mem_concat_of_filled _

theorem begin (h : p.HasRead done) {pos : Positional} (hpos : pos.verbatim = false) {text : String}
    (hfresh : ArgId.positional ∉ done.map Prod.fst) :
    Progress.HasRead
      { p with
        pending := some (.positional pos [RawText.ofString text]), waiting := false, begun := true
        literal := p.literal || pos.verbatim, filled := !pos.verbatim
        used := done.map Prod.fst, given := done }
      (done ++ [(.positional, .text text)]) := by
  constructor
  . unfold Progress.settle
    dsimp only
    rw [complete_eq_iff]
    refine ⟨hfresh, .text text, ?_, ?_⟩
    . simp [Positional.read, hpos]
    . simp
  . rfl
  . rw [h.not_literal, hpos]
    rfl
  . intro _
    simp

end HasRead

end Progress

namespace Scope

variable {s : Scope} {p : Progress} {done : Given}

theorem readWord_long (hs : s.spec.IsOrdinary) (hp : p.literal = false) {w : RawText}
    {name : List UInt8} {value : Option (List UInt8)} (hw : Word.ofRaw w = .long name value)
    (rest : List RawText) :
    s.readWord p w rest = s.readLong p name value rest := by
  unfold readWord
  rw [if_neg (by simp [hp]), hw]
  dsimp only
  rw [if_neg (by simp [hs.takesOptions_eq_false])]

theorem readWord_plain (hp : p.literal = false) {w : RawText} (hw : Word.ofRaw w = .plain)
    (rest : List RawText) :
    s.readWord p w rest = s.readPlain p w := by
  unfold readWord
  rw [if_neg (by simp [hp]), hw]

theorem readLong_declared (hs : s.spec.IsOrdinary) {o : Opt} (ho : o ∈ s.spec.options)
    {value : Option (List UInt8)} (hnone : value = none → ∀ name, o.takes ≠ .value name)
    (hsome : value ≠ none → o.takes ≠ .nothing) (rest : List RawText) :
    s.readLong p (Utf8.encode o.long.toList) value rest
      =
    s.orRefuse
      (({ p with begun := true, waiting := false } : Progress).settleThen o
        (value.map RawText.mk)) := by
  have htext : (RawText.mk (Utf8.encode o.long.toList)).text? = some o.long :=
    RawText.text?_ofString o.long
  unfold readLong
  rw [htext, hs.long?_long ho]
  dsimp only
  cases htakes : o.takes with
  | nothing =>
    cases value with
    | none => rfl
    | some v =>
      exfalso
      exact hsome (by simp) htakes
  | value name =>
    cases value with
    | none =>
      exfalso
      exact hnone rfl name htakes
    | some v => rfl
  | optional name =>
    cases value with
    | none => rfl
    | some v => rfl

theorem readLong_of_gives (hs : s.spec.IsOrdinary) (h : p.HasRead done) {o : Opt}
    (ho : o ∈ s.spec.options) (hfresh : ArgId.option o.long ∉ done.map Prod.fst) {v : Value}
    {value : Option (List UInt8)} (hsome : value ≠ none → o.takes ≠ .nothing)
    (hv : o.Gives v (value.map RawText.mk)) (rest : List RawText) :
    ∃ p', s.readLong p (Utf8.encode o.long.toList) value rest = .ok p'
      ∧ p'.HasRead (done ++ [(.option o.long, v)]) := by
  refine ⟨_, ?_, h.option o v⟩
  rw [readLong_declared hs ho ?_ hsome, h.settleThen_eq_iff.mpr ⟨hfresh, v, hv, rfl⟩]
  . rfl
  . intro hnone
    subst hnone
    exact hv.2

theorem begin_positional (h : p.HasRead done) {pos : Positional} (hpos : pos.verbatim = false)
    (hfresh : ArgId.positional ∉ done.map Prod.fst) (text : String) :
    ∃ p', takePositional.begin s p pos (RawText.ofString text) = .ok p'
      ∧ p'.HasRead (done ++ [(.positional, .text text)]) := by
  refine ⟨_, ?_, h.begin hpos hfresh⟩
  unfold takePositional.begin
  rw [h.settle_eq]
  rfl

theorem readPlain_positional (hs : s.spec.IsOrdinary) (h : p.HasRead done)
    (hpos : s.spec.positional.isSome) (hfresh : ArgId.positional ∉ done.map Prod.fst)
    (text : String) :
    ∃ p', s.readPlain p (RawText.ofString text) = .ok p'
      ∧ p'.HasRead (done ++ [(.positional, .text text)]) := by
  obtain ⟨pos, hpos⟩ := Option.isSome_iff_exists.mp hpos
  have hverbatim := hs.not_verbatim pos hpos
  have hfilled := h.filled_eq_false hfresh
  obtain ⟨p', hbegin, hread⟩ := begin_positional (s := s) h hverbatim hfresh text
  refine ⟨p', ?_, hread⟩
  unfold readPlain
  rw [h.not_waiting, hpos]
  dsimp only
  rw [if_neg (by simp [hfilled])]
  unfold takePositional
  split
  . rw [if_neg (by simp [hverbatim]), hbegin]
  . exact hbegin

theorem readWord_entry (hs : s.spec.IsOrdinary) (h : p.HasRead done) {e : ArgId × Value}
    (he : s.spec.Accepts e) (hfresh : e.1 ∉ done.map Prod.fst) (rest : List RawText) :
    ∃ p', s.readWord p (RawText.ofString (entryWord e)) rest = .ok p'
      ∧ p'.HasRead (done ++ [e]) := by
  rcases e with ⟨_ | _, v⟩
  . next long =>
    obtain ⟨o, ho, rfl, hholds⟩ := he
    have hne := hs.long_ne o ho
    have heq := hs.equals_notMem o ho
    cases v with
    | on =>
      simp only [entryWord]
      rw [readWord_long hs h.not_literal (Word.ofRaw_bareFlag hne heq)]
      apply readLong_of_gives hs h ho hfresh
      . simp
      . exact ⟨rfl, hholds⟩
    | text value =>
      simp only [entryWord]
      rw [readWord_long hs h.not_literal (Word.ofRaw_valueFlag heq value)]
      apply readLong_of_gives hs h ho hfresh
      . intro _
        exact hholds.1
      . exact Opt.read_text hholds.2 value
    | count n =>
      simp only [entryWord]
      rw [readWord_long hs h.not_literal (Word.ofRaw_valueFlag heq _)]
      apply readLong_of_gives hs h ho hfresh
      . intro _
        exact hholds.1
      . exact Opt.read_count hholds.2 n
    | words l => contradiction
  . cases v with
    | text text =>
      obtain ⟨hpos, hplain⟩ := he
      simp only [entryWord]
      rw [readWord_plain h.not_literal ((Word.ofRaw_eq_plain_iff text).mpr hplain)]
      exact readPlain_positional hs h hpos hfresh text
    | on => contradiction
    | count n => contradiction
    | words l => contradiction

theorem read_entryWords (hs : s.spec.IsOrdinary) (hsub : s.spec.needsSub = false)
    (path : List String) {g : Given} (hg : ∀ e ∈ g, s.spec.Accepts e)
    (hplain : ∀ e ∈ g, s.spec.sub? (RawText.ofString (entryWord e)) = none)
    (hnodup : ((done ++ g).map Prod.fst).Nodup) (h : p.HasRead done) :
    s.read path p (entryWords g) = .ok ⟨path, done ++ g⟩ := by
  -- By induction on the arguments that are left; `HasRead` carries those that were read.
  induction g generalizing p done with
  | nil =>
    simp only [entryWords, List.map_nil]
    unfold read finish
    rw [h.settle_eq, hsub]
    simp [orRefuse, bind, Except.bind]
  | cons e g ih =>
    have hfresh : e.1 ∉ done.map Prod.fst := by
      rw [List.map_append, List.nodup_append] at hnodup
      intro hmem
      exact hnodup.2.2 e.1 hmem e.1 (by simp) rfl
    obtain ⟨p', hword, hread⟩ :=
      readWord_entry hs h (hg e List.mem_cons_self) hfresh (entryWords g)
    have hstay : s.subFor? p (RawText.ofString (entryWord e)) = none := by
      unfold subFor?
      rw [hplain e List.mem_cons_self]
      simp
    simp only [entryWords, List.map_cons]
    unfold read
    rw [hstay]
    dsimp only
    rw [← entryWords, hword]
    dsimp only
    rw [ih (fun x hx => hg x (List.mem_cons_of_mem _ hx))
      (fun x hx => hplain x (List.mem_cons_of_mem _ hx)) (by simpa using hnodup) hread]
    simp

theorem read_sub {word : RawText} {sub : Spec} (hsub : s.spec.sub? word = some sub)
    (hhelp : sub.name ≠ helpCommand.name) (path : List String) (rest : List RawText) :
    s.read path {} (word :: rest) = (s.below sub).read (path ++ [sub.name]) {} rest := by
  have hfor : s.subFor? {} word = some sub := by
    unfold subFor?
    rw [hsub]
    simp
  rw [read, hfor]
  dsimp only
  rw [if_neg hhelp]

end Scope

theorem Spec.sub?_ofString (c : Spec) (name : String) :
    c.sub? (RawText.ofString name)
      =
    c.allSubs.find? fun s => decide (name ∈ s.name :: s.aliases) := by
  unfold sub?
  congr 1
  funext s
  rw [Bool.eq_iff_iff]
  simp only [List.any_eq_true, decide_eq_true_eq, RawText.ofString_inj, exists_eq_right]

theorem Spec.sub?_of_leaf {c : Spec} (h : c.subs = []) (word : RawText) : c.sub? word = none := by
  simp [sub?, allSubs, h]

theorem Spec.mem_allSubs {c s : Spec} (h : s ∈ c.subs) : s ∈ c.allSubs := by
  unfold allSubs
  rw [if_neg (by simpa using List.ne_nil_of_mem h)]
  exact List.mem_append_left _ h

theorem Spec.sub?_of_mem {c s : Spec}
    (hnodup : (c.allSubs.flatMap fun s => s.name :: s.aliases).Nodup) (hs : s ∈ c.subs)
    {word : String} (hword : word ∈ s.name :: s.aliases) :
    c.sub? (RawText.ofString word) = some s := by
  replace hs := mem_allSubs hs
  rw [Spec.sub?_ofString]
  cases hfind : c.allSubs.find? fun s => decide (word ∈ s.name :: s.aliases) with
  | none =>
    have := List.find?_eq_none.mp hfind s hs
    simp [hword] at this
  | some t =>
    have hword' : word ∈ t.name :: t.aliases := by simpa using List.find?_some hfind
    by_contra hne
    have : Std.Symm (Function.onFun List.Disjoint fun s : Spec => s.name :: s.aliases) :=
      ⟨fun _ _ h => List.disjoint_symm h⟩
    have hdisjoint := (List.nodup_flatMap.mp hnodup).2.forall
      (List.mem_of_find?_eq_some hfind) hs (fun heq => hne (congrArg some heq))
    exact hdisjoint hword' hword

inductive Spec.Leads : Spec → List String → Spec → Prop where
  | refl (c : Spec) : Leads c [] c
  | sub {c s t : Spec} {name : String} {names : List String} :
    c.sub? (RawText.ofString name) = some s → s.name = name → s.name ≠ helpCommand.name →
      Leads s names t → Leads c (name :: names) t

theorem Spec.Leads.single {c s : Spec} {name : String}
    (h : c.allSubs.find? (fun s => decide (name ∈ s.name :: s.aliases)) = some s)
    (hname : s.name = name) (hhelp : s.name ≠ helpCommand.name) : c.Leads [name] s := by
  apply sub _ hname hhelp (.refl s)
  rw [sub?_ofString, h]

theorem Spec.Leads.unique {c s t : Spec} {names : List String} (hs : c.Leads names s)
    (ht : c.Leads names t) : s = t := by
  induction hs with
  | refl c =>
    cases ht
    rfl
  | sub hsub _ _ _ ih =>
    cases ht with
    | sub hsub' _ _ hrest =>
      rw [hsub] at hsub'
      injection hsub' with heq
      subst heq
      exact ih hrest

theorem Spec.Leads.read {c t : Spec} {names : List String} (h : c.Leads names t) {s : Scope}
    (hs : s.spec = c) (path : List String) (rest : List RawText) :
    ∃ s' : Scope, s'.spec = t ∧
      s.read path {} (names.map RawText.ofString ++ rest) = s'.read (path ++ names) {} rest := by
  induction h generalizing s path with
  | refl c => exact ⟨s, hs, by simp⟩
  | @sub c sub t name names hsub hname hhelp _ ih =>
    obtain ⟨s', hs', hread⟩ := ih (s := s.below sub) rfl (path ++ [name])
    refine ⟨s', hs', ?_⟩
    rw [List.map_cons, List.cons_append, Scope.read_sub (by rw [hs, hsub]) hhelp, hname, hread,
      List.append_assoc]
    rfl

theorem Spec.Leads.exists_parse {c t : Spec} {names : List String} (h : c.Leads names t)
    (program : RawText) (words : List RawText) :
    ∃ s : Scope, s.spec = t ∧
      c.parse (program :: (names.map RawText.ofString ++ words)) = s.read names {} words := by
  unfold Spec.parse
  -- The name that the program was called by is for messages only.
  generalize calledName? _ = called
  exact h.read (s := Scope.top c called) rfl [] words

end KubePlugin.CommandLine
