import KubePlugin.Proofs.CommandLine.Item

namespace KubePlugin.CommandLine

def IsCount (value : String) : Prop :=
  ∃ n, decimal? value.toList = some n ∧ 0 ≤ n ∧ n ≤ 4294967295

namespace Item

def flag? : Item → Option String
  | bare long => some long
  | assigned long _ => some long
  | apart long _ => some long
  | plain _ => none

def text? : Item → Option String
  | plain text => some text
  | _ => none

def number? : Item → Option String
  | assigned long value => if long = "max-parallel" then some value else none
  | apart long value => if long = "max-parallel" then some value else none
  | _ => none

variable {items : List Item}

theorem eq_plain_of_text? {item : Item} {text : String} (h : item.text? = some text) :
    item = plain text := by
  cases item <;> simp_all [text?]

theorem option_mem_ids_iff {long : String} :
    .option long ∈ items.map id ↔ long ∈ items.filterMap flag? := by
  simp only [List.mem_map, List.mem_filterMap]
  constructor
  . rintro ⟨item, hitem, hid⟩
    refine ⟨item, hitem, ?_⟩
    cases item <;> simp_all [id, flag?]
  . rintro ⟨item, hitem, hflag⟩
    refine ⟨item, hitem, ?_⟩
    cases item <;> simp_all [id, flag?]

theorem positional_mem_ids_iff :
    .positional ∈ items.map id ↔ items.filterMap text? ≠ [] := by
  rw [Ne, List.filterMap_eq_nil_iff]
  simp only [List.mem_map, not_forall]
  constructor
  . rintro ⟨item, hitem, hid⟩
    refine ⟨item, hitem, ?_⟩
    cases item <;> simp_all [id, text?]
  . rintro ⟨item, hitem, htext⟩
    refine ⟨item, hitem, ?_⟩
    cases item <;> simp_all [id, text?]

theorem nodup_ids_iff :
    (items.map id).Nodup
      ↔
    (items.filterMap flag?).Nodup ∧ (items.filterMap text?).length ≤ 1 := by
  induction items with
  | nil => simp
  | cons item items ih =>
    rw [List.map_cons, List.nodup_cons, ih]
    cases item with
    | plain text =>
      simp only [id, positional_mem_ids_iff, not_not, List.filterMap_cons, flag?, text?,
        List.length_cons, ← List.length_eq_zero_iff]
      constructor
      . rintro ⟨hlength, hflags, _⟩
        exact ⟨hflags, by omega⟩
      . rintro ⟨hflags, hlength⟩
        exact ⟨by omega, hflags, by omega⟩
    | _ =>
      simp only [id, option_mem_ids_iff, List.filterMap_cons, flag?, text?, List.nodup_cons,
        and_assoc]

end Item

def Opt.isRegular (o : Opt) : Bool :=
  match o.takes, o.reading with
  | .value _, .count => o.long = "max-parallel"
  | _, .text => o.long ≠ "max-parallel"
  | _, _ => false

theorem Opt.isRegular_cases {o : Opt} (h : o.isRegular) :
    (∃ name, o.takes = .value name) ∧ o.reading = .count ∧ o.long = "max-parallel"
      ∨ o.reading = .text ∧ o.long ≠ "max-parallel" := by
  unfold isRegular at h
  split at h
  . next name htakes hreading => exact .inl ⟨⟨name, htakes⟩, hreading, by simpa using h⟩
  . next hreading => exact .inr ⟨hreading, by simpa using h⟩
  . contradiction

structure Spec.IsRegular (c : Spec) : Prop where
  ordinary : c.IsOrdinary
  leaf : c.subs = []
  not_needsSub : c.needsSub = false
  options : ∀ o ∈ c.options, o.isRegular

theorem Opt.read_eq_ok_of_text {o : Opt} (h : o.reading = .text) (value : String) {v : Value} :
    o.read (RawText.ofString value) = .ok v ↔ v = .text value := by
  rw [Opt.read_text h, Except.ok.injEq, eq_comm]

theorem Opt.read_eq_ok_of_count {o : Opt} (h : o.reading = .count) {value : String} {v : Value} :
    o.read (RawText.ofString value) = .ok v
      ↔
    ∃ n : UInt32, v = .count n ∧ decimal? value.toList = some (n.toNat : Int) := by
  simp only [Opt.read, h, RawText.text?_ofString]
  split
  . next n hread =>
    rw [readCount_eq_ok_iff] at hread
    constructor
    . intro hv
      injection hv with hv
      exact ⟨n, hv.symm, hread⟩
    . rintro ⟨n', rfl, hn'⟩
      rw [hread] at hn'
      have hnat : n.toNat = n'.toNat := Int.ofNat_inj.mp (Option.some.inj hn')
      rw [UInt32.toNat_inj.mp hnat]
  . next fault hread =>
    constructor
    . intro hv
      contradiction
    . rintro ⟨n, _, hn⟩
      rw [readCount_eq_ok_iff.mpr hn] at hread
      contradiction

theorem isCount_iff {value : String} :
    IsCount value ↔ ∃ n : UInt32, decimal? value.toList = some (n.toNat : Int) := by
  constructor
  . rintro ⟨n, hn, hnonneg, hle⟩
    refine ⟨UInt32.ofNat n.toNat, ?_⟩
    have hnat : ((UInt32.ofNat n.toNat).toNat : Int) = n := by
      simp
      omega
    rw [hn, hnat]
  . rintro ⟨n, hn⟩
    have hlt : n.toNat < 4294967296 := n.toNat_lt
    exact ⟨n.toNat, hn, by omega, by omega⟩

theorem Spec.map_fst_filterMap_given? (c : Spec) {items : List Item}
    (hsome : ∀ i ∈ items, (c.given? i).isSome) :
    (items.filterMap c.given?).map Prod.fst = items.map Item.id := by
  rw [List.map_filterMap, ← List.filterMap_eq_map]
  apply List.filterMap_congr
  intro i hi
  obtain ⟨e, he⟩ := Option.isSome_iff_exists.mp (hsome i hi)
  simp [he, id_of_given? he]

namespace Item

variable {items items' : List Item}

theorem ids_perm (h : (items.map joined).Perm (items'.map joined)) :
    (items.map id).Perm (items'.map id) := by
  have hids : ∀ items : List Item, (items.map joined).map id = items.map id := by
    simp
  rw [← hids items, ← hids items']
  exact h.map id

theorem filterMap_given?_perm (h : (items.map joined).Perm (items'.map joined)) (c : Spec) :
    (items.filterMap c.given?).Perm (items'.filterMap c.given?) := by
  have hentries : ∀ items : List Item,
      (items.map joined).filterMap c.given? = items.filterMap c.given? := by
    intro items
    rw [List.filterMap_map]
    congr 1
    funext item
    exact c.given?_joined item
  rw [← hentries items, ← hentries items']
  exact h.filterMap c.given?

theorem forall_isSome_given?_of_perm (h : (items.map joined).Perm (items'.map joined))
    (c : Spec) :
    (∀ i ∈ items, (c.given? i).isSome) ↔ ∀ i ∈ items', (c.given? i).isSome := by
  have hjoined : ∀ items : List Item,
      (∀ i ∈ items.map joined, (c.given? i).isSome) ↔ ∀ i ∈ items, (c.given? i).isSome := by
    simp
  rw [← hjoined items, ← hjoined items']
  simp only [h.mem_iff]

end Item

namespace Spec.IsRegular

variable {c : Spec} {item : Item} {items : List Item}

theorem isSome_assigned?_iff (hc : c.IsRegular) {o : Opt} (ho : o ∈ c.options) {value : String} :
    (c.assigned? o.long value).isSome ↔ (o.long = "max-parallel" → IsCount value) := by
  simp only [Option.isSome_iff_exists, hc.ordinary.assigned?_eq_some_iff ho]
  rcases o.isRegular_cases (hc.options o ho) with ⟨_, hreading, hlong⟩ | ⟨hreading, hlong⟩
  . simp only [Opt.read_eq_ok_of_count hreading, isCount_iff]
    simp [hlong]
  . simp [Opt.read_eq_ok_of_text hreading, hlong]

theorem isSome_given?_iff (hc : c.IsRegular) (hallows : c.Allows item) :
    (c.given? item).isSome
      ↔
    (∀ text ∈ item.text?, c.positional.isSome) ∧ ∀ value ∈ item.number?, IsCount value := by
  cases item with
  | bare long => simp [given?, Item.text?, Item.number?]
  | plain text => simp [given?, Item.text?, Item.number?]
  | assigned long value =>
    obtain ⟨o, ho, rfl, _⟩ := hallows
    rw [given?, hc.isSome_assigned?_iff ho]
    simp [Item.text?, Item.number?]
  | apart long value =>
    obtain ⟨o, ho, rfl, _⟩ := hallows
    rw [given?, hc.isSome_assigned?_iff ho]
    simp [Item.text?, Item.number?]

theorem accepts_iff (hc : c.IsRegular) (hitems : ∀ i ∈ items, c.Allows i) :
    ((∀ i ∈ items, (c.given? i).isSome) ∧ (items.map Item.id).Nodup)
      ↔
    (items.filterMap Item.flag?).Nodup
      ∧ (items.filterMap Item.text?).length ≤ (if c.positional.isSome then 1 else 0)
      ∧ ∀ value ∈ items.filterMap Item.number?, IsCount value := by
  have hsome : (∀ i ∈ items, (c.given? i).isSome)
      ↔ (∀ text ∈ items.filterMap Item.text?, c.positional.isSome)
        ∧ ∀ value ∈ items.filterMap Item.number?, IsCount value := by
    rw [forall₂_congr fun i hi => hc.isSome_given?_iff (hitems i hi)]
    simp only [List.forall_mem_filterMap, Option.mem_def, ← forall_and]
  rw [hsome, Item.nodup_ids_iff]
  split
  . next hpos => simp [hpos, and_comm, and_assoc]
  . next hpos =>
    have hnone : (∀ text ∈ items.filterMap Item.text?, c.positional.isSome)
        ↔ (items.filterMap Item.text?).length ≤ 0 := by
      rw [Nat.le_zero, List.length_eq_zero_iff, List.eq_nil_iff_forall_not_mem]
      simp [hpos]
    rw [hnone]
    constructor
    . rintro ⟨⟨htexts, hnumbers⟩, hflags, _⟩
      exact ⟨hflags, htexts, hnumbers⟩
    . rintro ⟨hflags, htexts, hnumbers⟩
      exact ⟨⟨htexts, hnumbers⟩, hflags, by omega⟩

theorem accepts_of_given? (hc : c.IsRegular) (hallows : c.Allows item) {e : ArgId × Value}
    (he : c.given? item = some e) : c.Accepts e := by
  have hassigned : ∀ o ∈ c.options, o.takes ≠ .nothing → ∀ value,
      c.assigned? o.long value = some e → c.Accepts e := by
    intro o ho htakes value he
    obtain ⟨v, hv, rfl⟩ := (hc.ordinary.assigned?_eq_some_iff ho).mp he
    refine ⟨o, ho, rfl, ?_⟩
    rcases o.isRegular_cases (hc.options o ho) with ⟨_, hreading, _⟩ | ⟨hreading, _⟩
    . obtain ⟨n, rfl, _⟩ := (Opt.read_eq_ok_of_count hreading).mp hv
      exact ⟨htakes, hreading⟩
    . rw [(Opt.read_eq_ok_of_text hreading value).mp hv]
      exact ⟨htakes, hreading⟩
  cases item with
  | bare long =>
    obtain ⟨o, ho, rfl, htakes⟩ := hallows
    injection he with he
    subst he
    exact ⟨o, ho, rfl, htakes⟩
  | plain text =>
    simp only [given?, Option.map_eq_some_iff] at he
    obtain ⟨pos, hpos, rfl⟩ := he
    exact ⟨by simp [hpos], hallows⟩
  | assigned long value =>
    obtain ⟨o, ho, rfl, htakes⟩ := hallows
    exact hassigned o ho htakes value he
  | apart long value =>
    obtain ⟨o, ho, rfl, ⟨name, htakes⟩, _⟩ := hallows
    exact hassigned o ho (by simp [htakes]) value he

end Spec.IsRegular

namespace Given

theorem get?_eq_some_iff {g : Given} (hg : (g.map Prod.fst).Nodup) {id : ArgId} {v : Value} :
    g.get? id = some v ↔ (id, v) ∈ g := by
  induction g with
  | nil => simp [get?]
  | cons e g ih =>
    rcases e with ⟨id', v'⟩
    rw [List.map_cons, List.nodup_cons] at hg
    unfold get? at *
    rw [List.lookup_cons]
    by_cases hid : id = id'
    . subst hid
      have hnot : (id, v) ∉ g := fun hmem => hg.1 (List.mem_map.mpr ⟨_, hmem, rfl⟩)
      simp [hnot, eq_comm]
    . rw [beq_false_of_ne hid]
      simp [ih hg.2, hid]

theorem get?_of_perm {g g' : Given} (h : g.Perm g') (hg : (g.map Prod.fst).Nodup) (id : ArgId) :
    g.get? id = g'.get? id := by
  apply Option.ext
  intro v
  rw [get?_eq_some_iff hg, get?_eq_some_iff ((h.map Prod.fst).nodup_iff.mp hg), h.mem_iff]

end Given

end KubePlugin.CommandLine
