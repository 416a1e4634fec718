import KubePlugin.Proofs.CommandLine.Plain

/-!
This module contains what the reader makes of a line on which every word stands for itself: options
without a value or with it, in one word or in two, and plain words. It accepts the line exactly if
each of them can be read and none comes twice, and it gives what they stand for in their order.
-/

namespace KubePlugin.CommandLine

inductive Item where
  | bare (long : String)
  | assigned (long value : String)
  | apart (long value : String)
  | plain (text : String)
deriving DecidableEq, Repr

namespace Item

def words : Item → List String
  | bare long => [ArgVector.bareFlag long]
  | assigned long value => [ArgVector.valueFlag long value]
  | apart long value => [ArgVector.bareFlag long, value]
  | plain text => [text]

def joined : Item → Item
  | apart long value => assigned long value
  | item => item

def id : Item → ArgId
  | bare long => .option long
  | assigned long _ => .option long
  | apart long _ => .option long
  | plain _ => .positional

def line (items : List Item) : List RawText := (items.flatMap words).map RawText.ofString

@[simp]
theorem line_nil : line [] = [] := rfl

theorem line_cons (item : Item) (items : List Item) :
    line (item :: items) = item.words.map RawText.ofString ++ line items := by
  simp [line]

@[simp]
theorem id_joined (item : Item) : item.joined.id = item.id := by
  cases item <;> rfl

end Item

def Spec.Allows (c : Spec) : Item → Prop
  | .bare long => ∃ o ∈ c.options, o.long = long ∧ ∀ name, o.takes ≠ .value name
  | .assigned long _ => ∃ o ∈ c.options, o.long = long ∧ o.takes ≠ .nothing
  | .apart long value =>
    ∃ o ∈ c.options, o.long = long ∧ (∃ name, o.takes = .value name) ∧ IsPlain value
  | .plain text => IsPlain text

def Spec.assigned? (c : Spec) (long value : String) : Option (ArgId × Value) :=
  (c.options.find? fun o => o.long = long).bind fun o =>
    (o.read (RawText.ofString value)).toOption.map fun v => (.option long, v)

def Spec.given? (c : Spec) : Item → Option (ArgId × Value)
  | .bare long => some (.option long, .on)
  | .assigned long value => c.assigned? long value
  | .apart long value => c.assigned? long value
  | .plain text => c.positional.map fun _ => (.positional, .text text)

@[simp]
theorem Spec.given?_joined (c : Spec) (item : Item) : c.given? item.joined = c.given? item := by
  cases item <;> rfl

theorem Spec.id_of_given? {c : Spec} {item : Item} {e : ArgId × Value}
    (h : c.given? item = some e) : e.1 = item.id := by
  cases item with
  | bare long =>
    injection h with h
    rw [← h]
    rfl
  | plain text =>
    simp only [given?, Option.map_eq_some_iff] at h
    obtain ⟨_, _, rfl⟩ := h
    rfl
  | _ =>
    simp only [given?, assigned?, Option.bind_eq_some_iff, Option.map_eq_some_iff] at h
    obtain ⟨_, _, _, _, rfl⟩ := h
    rfl

theorem Spec.IsOrdinary.assigned?_eq_some_iff {c : Spec} (hc : c.IsOrdinary) {o : Opt}
    (ho : o ∈ c.options) {value : String} {e : ArgId × Value} :
    c.assigned? o.long value = some e
      ↔
    ∃ v, o.read (RawText.ofString value) = .ok v ∧ e = (.option o.long, v) := by
  unfold assigned?
  rw [hc.find?_long ho, Option.bind_some]
  cases o.read (RawText.ofString value) with
  | error cause => simp [Except.toOption]
  | ok v => simp [Except.toOption, eq_comm]

structure Progress.IsAfter (p : Progress) (done : Given) : Prop extends p.HasRead done where
  filled_of_mem : ArgId.positional ∈ done.map Prod.fst → p.filled = true

structure Progress.IsStuck (p : Progress) (o : Opt) (value : RawText) : Prop where
  pending : p.pending = some (.option o (some value))
  refused : ∀ v, o.read value = .ok v → .option o.long ∈ p.used
  not_waiting : p.waiting = false
  not_literal : p.literal = false

namespace Progress

variable {p q : Progress} {done : Given} {o : Opt}

theorem exists_settle_of_settleThen {value : Option RawText}
    (h : p.settleThen o value = (q, none)) : ∃ r, p.settle = (r, none) := by
  unfold settleThen at h
  split at h
  . next r hsettle => exact ⟨r, hsettle⟩
  . injection h
    contradiction

namespace IsStuck

variable {raw : RawText}

theorem begin (h : p.IsStuck o raw) :
    IsStuck { p with begun := true, waiting := false } o raw := by
  constructor
  . exact h.pending
  . exact h.refused
  . rfl
  . exact h.not_literal

theorem settle_ne (h : p.IsStuck o raw) : p.settle ≠ (q, none) := by
  intro hsettle
  unfold settle at hsettle
  rw [h.pending] at hsettle
  dsimp only at hsettle
  rw [completeOption_eq_iff] at hsettle
  obtain ⟨hfresh, v, hv, _⟩ := hsettle
  exact hfresh (h.refused v hv)

theorem settleThen_ne (h : p.IsStuck o raw) {o' : Opt} {value : Option RawText} :
    p.settleThen o' value ≠ (q, none) := by
  intro hsettle
  obtain ⟨r, hr⟩ := exists_settle_of_settleThen hsettle
  exact h.settle_ne hr

end IsStuck

namespace IsAfter

theorem nil : IsAfter {} [] := by
  refine ⟨hasRead_nil, ?_⟩
  intro h
  contradiction

theorem option (h : p.IsAfter done) (o : Opt) (v : Value) :
    IsAfter
      { p with
        begun := true, waiting := false, pending := none
        used := done.map Prod.fst ++ [.option o.long], given := done ++ [(.option o.long, v)] }
      (done ++ [(.option o.long, v)]) := by
  refine ⟨h.toHasRead.option o v, ?_⟩
  intro hmem
  apply h.filled_of_mem
  simpa using hmem

theorem apart (h : p.IsAfter done) {raw : RawText} {v : Value} (hv : o.read raw = .ok v)
    (hfresh : ArgId.option o.long ∉ done.map Prod.fst) :
    IsAfter
      { p with
        begun := true, waiting := false, pending := some (.option o (some raw))
        used := done.map Prod.fst, given := done }
      (done ++ [(.option o.long, v)]) := by
  constructor
  . constructor
    . unfold settle
      dsimp only
      rw [completeOption_eq_iff]
      exact ⟨hfresh, v, hv, by simp⟩
    . rfl
    . exact h.not_literal
    . exact h.mem_concat_of_filled _
  . intro hmem
    apply h.filled_of_mem
    simpa using hmem

theorem positional (h : p.IsAfter done) {pos : Positional} (hpos : pos.verbatim = false)
    {text : String} (hfresh : ArgId.positional ∉ done.map Prod.fst) :
    IsAfter
      { p with
        pending := some (.positional pos [RawText.ofString text]), waiting := false, begun := true
        literal := p.literal || pos.verbatim, filled := !pos.verbatim
        used := done.map Prod.fst, given := done }
      (done ++ [(.positional, .text text)]) := by
  refine ⟨h.begin hpos hfresh, ?_⟩
  intro _
  simp [hpos]

end IsAfter

end Progress

namespace Scope

variable {s : Scope} {p q : Progress} {done : Given} {o : Opt} {path : List String} {m : Matched}

theorem read_cons_of_leaf (hleaf : s.spec.subs = []) (word : RawText) (rest : List RawText) :
    s.read path p (word :: rest) = s.readWord p word rest >>= fun q => s.read path q rest := by
  have hsub : s.subFor? p word = none := by
    unfold subFor?
    rw [Spec.sub?_of_leaf hleaf]
    simp
  rw [read, hsub]
  dsimp only
  cases s.readWord p word rest <;> rfl

theorem exists_readWord_of_read (hleaf : s.spec.subs = []) {word : RawText} {rest : List RawText}
    (h : s.read path p (word :: rest) = .ok m) : ∃ q, s.readWord p word rest = .ok q := by
  rw [read_cons_of_leaf hleaf] at h
  obtain ⟨q, hq, _⟩ := bind_eq_ok.mp h
  exact ⟨q, hq⟩

theorem readWord_bareFlag (hs : s.spec.IsOrdinary) (hp : p.literal = false)
    (ho : o ∈ s.spec.options) (htakes : ∀ name, o.takes ≠ .value name) (rest : List RawText) :
    s.readWord p (RawText.ofString (ArgVector.bareFlag o.long)) rest
      =
    s.orRefuse (({ p with begun := true, waiting := false } : Progress).settleThen o none) := by
  rw [readWord_long hs hp (Word.ofRaw_bareFlag (hs.long_ne o ho) (hs.equals_notMem o ho)),
    readLong_declared hs ho (fun _ => htakes) (by simp)]
  rfl

theorem readWord_valueFlag (hs : s.spec.IsOrdinary) (hp : p.literal = false)
    (ho : o ∈ s.spec.options) (htakes : o.takes ≠ .nothing) (value : String)
    (rest : List RawText) :
    s.readWord p (RawText.ofString (ArgVector.valueFlag o.long value)) rest
      =
    s.orRefuse
      (({ p with begun := true, waiting := false } : Progress).settleThen o
        (some (RawText.ofString value))) := by
  rw [readWord_long hs hp (Word.ofRaw_valueFlag (hs.equals_notMem o ho) value),
    readLong_declared hs ho (by simp) (fun _ => htakes)]
  rfl

theorem readWord_awaiting (hs : s.spec.IsOrdinary) (hp : p.literal = false)
    (ho : o ∈ s.spec.options) {name : String} (htakes : o.takes = .value name)
    (rest : List RawText) :
    s.readWord p (RawText.ofString (ArgVector.bareFlag o.long)) rest
      =
    (s.orRefuse ({ p with begun := true, waiting := false } : Progress).settle >>= fun q =>
      .ok { q with pending := some (.option o none), waiting := true }) := by
  have htext : (RawText.mk (Utf8.encode o.long.toList)).text? = some o.long :=
    RawText.text?_ofString o.long
  rw [readWord_long hs hp (Word.ofRaw_bareFlag (hs.long_ne o ho) (hs.equals_notMem o ho))]
  unfold readLong
  rw [htext, hs.long?_long ho]
  dsimp only
  rw [htakes]

theorem readPlain_eq_ok_iff (hs : s.spec.IsOrdinary) (hp : p.waiting = false) {word : RawText} :
    s.readPlain p word = .ok q
      ↔
    ∃ pos, s.spec.positional = some pos ∧ p.filled = false ∧ ∃ r, p.settle = (r, none) ∧ q =
      { r with
        pending := some (.positional pos [word]), waiting := false, begun := true
        literal := r.literal || pos.verbatim, filled := !pos.verbatim } := by
  unfold readPlain
  rw [hp]
  dsimp only
  cases hpos : s.spec.positional with
  | none => simp [noRoom_ne_ok]
  | some pos =>
    dsimp only
    cases hfilled : p.filled with
    | true => simp [noRoom_ne_ok]
    | false =>
      have htake : s.takePositional p pos word = takePositional.begin s p pos word := by
        unfold takePositional
        split
        . rw [if_neg (by simp [hs.not_verbatim pos hpos])]
        . rfl
      rw [if_neg (by simp), htake]
      constructor
      . intro h
        exact ⟨pos, rfl, rfl, begin_eq_ok h⟩
      . rintro ⟨_, ⟨⟩, _, r, hr, rfl⟩
        unfold takePositional.begin
        rw [hr]
        rfl

theorem read_apart (hs : s.spec.IsOrdinary) (hleaf : s.spec.subs = []) (h : p.IsAfter done)
    (ho : o ∈ s.spec.options) {name : String} (htakes : o.takes = .value name) {value : String}
    (hplain : IsPlain value) (rest : List RawText) :
    s.read path p
        (RawText.ofString (ArgVector.bareFlag o.long) :: RawText.ofString value :: rest)
      =
    s.read path
      { p with
        begun := true, waiting := false, pending := some (.option o (some (RawText.ofString value)))
        used := done.map Prod.fst, given := done } rest := by
  -- The first word completes what was under way, and the second is taken for the value.
  rw [read_cons_of_leaf hleaf, readWord_awaiting hs h.not_literal ho htakes, h.settle_begin]
  simp only [orRefuse, bind, Except.bind]
  rw [read_cons_of_leaf hleaf, readWord_plain]
  . rfl
  . exact h.not_literal
  . exact (Word.ofRaw_eq_plain_iff value).mpr hplain

theorem read_ne_ok_of_isStuck (hs : s.spec.IsOrdinary) (hleaf : s.spec.subs = []) {raw : RawText}
    (h : p.IsStuck o raw) {items : List Item} (hitems : ∀ i ∈ items, s.spec.Allows i) :
    s.read path p (Item.line items) ≠ .ok m := by
  intro hread
  cases items with
  | nil =>
    obtain ⟨q, hq, _⟩ := bind_eq_ok.mp hread
    exact h.settle_ne (orRefuse_eq_ok.mp hq)
  | cons item items =>
    have hallows := hitems item List.mem_cons_self
    rw [Item.line_cons] at hread
    cases item with
    | bare long =>
      obtain ⟨o', ho', rfl, htakes⟩ := hallows
      obtain ⟨q, hword⟩ := exists_readWord_of_read hleaf hread
      rw [readWord_bareFlag hs h.not_literal ho' htakes, orRefuse_eq_ok] at hword
      exact h.begin.settleThen_ne hword
    | assigned long value =>
      obtain ⟨o', ho', rfl, htakes⟩ := hallows
      obtain ⟨q, hword⟩ := exists_readWord_of_read hleaf hread
      rw [readWord_valueFlag hs h.not_literal ho' htakes, orRefuse_eq_ok] at hword
      exact h.begin.settleThen_ne hword
    | apart long value =>
      obtain ⟨o', ho', rfl, ⟨name, htakes⟩, _⟩ := hallows
      obtain ⟨q, hword⟩ := exists_readWord_of_read hleaf hread
      rw [readWord_awaiting hs h.not_literal ho' htakes] at hword
      obtain ⟨r, hr, _⟩ := bind_eq_ok.mp hword
      exact h.begin.settle_ne (orRefuse_eq_ok.mp hr)
    | plain text =>
      obtain ⟨q, hword⟩ := exists_readWord_of_read hleaf hread
      rw [readWord_plain h.not_literal ((Word.ofRaw_eq_plain_iff text).mpr hallows),
        readPlain_eq_ok_iff hs h.not_waiting] at hword
      obtain ⟨_, _, _, r, hr, _⟩ := hword
      exact h.settle_ne hr

theorem read_item (hs : s.spec.IsOrdinary) (hleaf : s.spec.subs = []) (h : p.IsAfter done)
    {item : Item} (hallows : s.spec.Allows item) {e : ArgId × Value}
    (he : s.spec.given? item = some e) (hfresh : e.1 ∉ done.map Prod.fst) :
    ∃ p' : Progress, p'.IsAfter (done ++ [e]) ∧ ∀ path rest,
      s.read path p (item.words.map RawText.ofString ++ rest) = s.read path p' rest := by
  cases item with
  | bare long =>
    obtain ⟨o, ho, rfl, htakes⟩ := hallows
    injection he with he
    subst he
    have hgives : o.Gives .on none := ⟨rfl, htakes⟩
    refine ⟨_, h.option o .on, ?_⟩
    intro path rest
    refine (read_cons_of_leaf hleaf _ _).trans ?_
    rw [readWord_bareFlag hs h.not_literal ho htakes,
      h.settleThen_eq_iff.mpr ⟨hfresh, .on, hgives, rfl⟩]
    rfl
  | assigned long value =>
    obtain ⟨o, ho, rfl, htakes⟩ := hallows
    obtain ⟨v, hv, rfl⟩ := (hs.assigned?_eq_some_iff ho).mp he
    have hgives : o.Gives v (some (RawText.ofString value)) := hv
    refine ⟨_, h.option o v, ?_⟩
    intro path rest
    refine (read_cons_of_leaf hleaf _ _).trans ?_
    rw [readWord_valueFlag hs h.not_literal ho htakes,
      h.settleThen_eq_iff.mpr ⟨hfresh, v, hgives, rfl⟩]
    rfl
  | apart long value =>
    obtain ⟨o, ho, rfl, ⟨name, htakes⟩, hplain⟩ := hallows
    obtain ⟨v, hv, rfl⟩ := (hs.assigned?_eq_some_iff ho).mp he
    exact ⟨_, h.apart hv hfresh, fun path => read_apart hs hleaf h ho htakes hplain⟩
  | plain text =>
    simp only [Spec.given?, Option.map_eq_some_iff] at he
    obtain ⟨pos, hpos, rfl⟩ := he
    have hfilled := h.filled_eq_false hfresh
    refine ⟨_, h.positional (hs.not_verbatim pos hpos) hfresh, ?_⟩
    intro path rest
    refine (read_cons_of_leaf hleaf _ _).trans ?_
    rw [readWord_plain h.not_literal ((Word.ofRaw_eq_plain_iff text).mpr hallows),
      (readPlain_eq_ok_iff hs h.not_waiting).mpr ⟨pos, hpos, hfilled, _, h.settle_eq, rfl⟩]
    rfl

theorem read_item_ne_ok (hs : s.spec.IsOrdinary) (hleaf : s.spec.subs = []) (h : p.IsAfter done)
    {item : Item} (hallows : s.spec.Allows item)
    (hbad : ∀ e, s.spec.given? item = some e → e.1 ∈ done.map Prod.fst)
    {items : List Item} (hitems : ∀ i ∈ items, s.spec.Allows i) :
    s.read path p (item.words.map RawText.ofString ++ Item.line items) ≠ .ok m := by
  intro hread
  cases item with
  | bare long =>
    obtain ⟨o, ho, rfl, htakes⟩ := hallows
    obtain ⟨q, hword⟩ := exists_readWord_of_read hleaf hread
    rw [readWord_bareFlag hs h.not_literal ho htakes, orRefuse_eq_ok, h.settleThen_eq_iff] at hword
    exact hword.1 (hbad _ rfl)
  | assigned long value =>
    obtain ⟨o, ho, rfl, htakes⟩ := hallows
    obtain ⟨q, hword⟩ := exists_readWord_of_read hleaf hread
    rw [readWord_valueFlag hs h.not_literal ho htakes, orRefuse_eq_ok, h.settleThen_eq_iff] at hword
    obtain ⟨hfresh, v, hv, _⟩ := hword
    exact hfresh (hbad _ ((hs.assigned?_eq_some_iff ho).mpr ⟨v, hv, rfl⟩))
  | apart long value =>
    obtain ⟨o, ho, rfl, ⟨name, htakes⟩, hplain⟩ := hallows
    have hstuck : Progress.IsStuck
        { p with
          begun := true, waiting := false
          pending := some (.option o (some (RawText.ofString value)))
          used := done.map Prod.fst, given := done } o (RawText.ofString value) := by
      constructor
      . rfl
      . intro v hv
        exact hbad _ ((hs.assigned?_eq_some_iff ho).mpr ⟨v, hv, rfl⟩)
      . rfl
      . exact h.not_literal
    exact read_ne_ok_of_isStuck hs hleaf hstuck hitems
      ((read_apart hs hleaf h ho htakes hplain _).symm.trans hread)
  | plain text =>
    obtain ⟨q, hword⟩ := exists_readWord_of_read hleaf hread
    rw [readWord_plain h.not_literal ((Word.ofRaw_eq_plain_iff text).mpr hallows),
      readPlain_eq_ok_iff hs h.not_waiting] at hword
    obtain ⟨pos, hpos, hfilled, _⟩ := hword
    rw [h.filled_of_mem (hbad (.positional, .text text) (by simp [Spec.given?, hpos]))] at hfilled
    contradiction

theorem read_line_eq_ok_iff (hs : s.spec.IsOrdinary) (hleaf : s.spec.subs = [])
    (hsub : s.spec.needsSub = false) (h : p.IsAfter done) (hdone : (done.map Prod.fst).Nodup)
    {items : List Item} (hitems : ∀ i ∈ items, s.spec.Allows i) :
    s.read path p (Item.line items) = .ok m
      ↔
    (∀ i ∈ items, (s.spec.given? i).isSome) ∧ (done.map Prod.fst ++ items.map Item.id).Nodup
      ∧ m = ⟨path, done ++ items.filterMap s.spec.given?⟩ := by
  -- By induction on the items that are left; `IsAfter` carries what those in front gave.
  induction items generalizing p done with
  | nil =>
    have hread : s.read path p (Item.line []) = .ok ⟨path, done⟩ := by
      rw [Item.line_nil]
      unfold read finish
      rw [h.settle_eq, hsub]
      rfl
    rw [hread, Except.ok.injEq, eq_comm]
    simp [hdone]
  | cons item items ih =>
    have hallows := hitems item List.mem_cons_self
    have hrest : ∀ i ∈ items, s.spec.Allows i := fun i hi => hitems i (List.mem_cons_of_mem _ hi)
    rw [Item.line_cons]
    by_cases hgood : ∃ e, s.spec.given? item = some e ∧ e.1 ∉ done.map Prod.fst
    . obtain ⟨e, he, hfresh⟩ := hgood
      obtain ⟨p', hp', hread⟩ := read_item hs hleaf h hallows he hfresh
      have hnodup : ((done ++ [e]).map Prod.fst).Nodup := by
        rw [List.map_append, List.map_cons, List.map_nil, List.nodup_middle, List.append_nil]
        exact List.nodup_cons.mpr ⟨hfresh, hdone⟩
      rw [hread, ih hp' hnodup hrest]
      have hid := Spec.id_of_given? he
      simp [he, hid]
    . constructor
      . intro hread
        refine absurd hread (read_item_ne_ok hs hleaf h hallows ?_ hrest)
        intro e he
        by_contra hfresh
        exact hgood ⟨e, he, hfresh⟩
      . rintro ⟨hsome, hnodup, _⟩
        exfalso
        obtain ⟨e, he⟩ := Option.isSome_iff_exists.mp (hsome item List.mem_cons_self)
        refine hgood ⟨e, he, ?_⟩
        rw [Spec.id_of_given? he]
        exact fun hmem =>
          (List.nodup_cons.mp (List.nodup_middle.mp hnodup)).1 (List.mem_append_left _ hmem)

end Scope

end KubePlugin.CommandLine
