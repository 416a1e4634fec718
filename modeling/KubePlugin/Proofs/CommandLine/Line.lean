import KubePlugin.Proofs.CommandLine.Regular

namespace KubePlugin.CommandLine

inductive Item.Names (items : List Item) (text : String) : List RawText → Prop where
  | among : items.filterMap text? = [text] → Names items text []
  | behindDashes : items.filterMap text? = [] →
      Names items text [RawText.ofString "--", RawText.ofString text]

theorem Item.Names.insert {before after : List Item} {text : String} {tail : List RawText}
    {item : Item} (h : Item.Names (before ++ after) text tail) (hitem : item.text? = none) :
    Item.Names (before ++ item :: after) text tail := by
  have htexts : (before ++ item :: after).filterMap text? = (before ++ after).filterMap text? := by
    rw [List.filterMap_append, List.filterMap_append, List.filterMap_cons_none hitem]
  cases h with
  | among htext => exact .among (htexts.trans htext)
  | behindDashes htext => exact .behindDashes (htexts.trans htext)

theorem Item.line_append (items items' : List Item) :
    Item.line (items ++ items') = Item.line items ++ Item.line items' := by
  simp [Item.line]

theorem Progress.completeOption_of_error {p : Progress} {o : Opt} {raw : RawText} {cause : Cause}
    (hcause : o.read raw = .error cause) (hfresh : ArgId.option o.long ∉ p.used) :
    p.completeOption o (some raw)
      =
    ({ p with used := p.used ++ [.option o.long] }, some cause) := by
  have hcomplete : p.completeOption o (some raw)
      = p.complete (.option o.long) o.shown (o.read raw) := by
    unfold completeOption
    split
    . contradiction
    . contradiction
    . next h => cases h; rfl
  rw [hcomplete]
  unfold complete
  rw [if_neg hfresh, hcause]

namespace Scope

variable {s : Scope} {p : Progress} {done : Given} {o : Opt} {items : List Item}

theorem read_items (hs : s.spec.IsOrdinary) (hleaf : s.spec.subs = []) (h : p.IsAfter done)
    (hitems : ∀ i ∈ items, s.spec.Allows i) (hsome : ∀ i ∈ items, (s.spec.given? i).isSome)
    (hnodup : (done.map Prod.fst ++ items.map Item.id).Nodup) :
    ∃ p' : Progress, p'.IsAfter (done ++ items.filterMap s.spec.given?) ∧ ∀ path rest,
      s.read path p (Item.line items ++ rest) = s.read path p' rest := by
  induction items generalizing p done with
  | nil =>
    refine ⟨p, ?_, fun _ _ => rfl⟩
    simpa using h
  | cons item items ih =>
    obtain ⟨e, he⟩ := Option.isSome_iff_exists.mp (hsome item List.mem_cons_self)
    have hid := Spec.id_of_given? he
    have hfresh : e.1 ∉ done.map Prod.fst := by
      rw [hid]
      exact fun hmem =>
        (List.nodup_cons.mp (List.nodup_middle.mp hnodup)).1 (List.mem_append_left _ hmem)
    obtain ⟨p₁, hp₁, hread⟩ :=
      read_item hs hleaf h (hitems item List.mem_cons_self) he hfresh
    obtain ⟨p₂, hp₂, hread'⟩ := ih hp₁ (fun i hi => hitems i (List.mem_cons_of_mem _ hi))
      (fun i hi => hsome i (List.mem_cons_of_mem _ hi)) (by simpa [hid] using hnodup)
    refine ⟨p₂, ?_, ?_⟩
    . simpa [he] using hp₂
    . intro path rest
      rw [Item.line_cons, List.append_assoc, hread, hread']

theorem read_assigned_of_error (hs : s.spec.IsOrdinary) (hleaf : s.spec.subs = [])
    (h : p.IsAfter done) (ho : o ∈ s.spec.options) (htakes : o.takes ≠ .nothing) {value : String}
    {cause : Cause} (hcause : o.read (RawText.ofString value) = .error cause)
    (hfresh : ArgId.option o.long ∉ done.map Prod.fst) (path : List String)
    (rest : List RawText) :
    s.read path p (RawText.ofString (ArgVector.valueFlag o.long value) :: rest)
      =
    s.refuse cause := by
  rw [read_cons_of_leaf hleaf, readWord_valueFlag hs h.not_literal ho htakes]
  unfold Progress.settleThen
  rw [h.settle_begin]
  dsimp only
  rw [Progress.completeOption_of_error hcause hfresh]
  rfl

theorem read_behindDashes (hs : s.spec.IsOrdinary) (hleaf : s.spec.subs = [])
    (hsub : s.spec.needsSub = false) (h : p.IsAfter done) (hpos : s.spec.positional.isSome)
    (hfresh : ArgId.positional ∉ done.map Prod.fst) (path : List String) (text : String) :
    s.read path p [RawText.ofString "--", RawText.ofString text]
      =
    .ok ⟨path, done ++ [(.positional, .text text)]⟩ := by
  obtain ⟨pos, hpos⟩ := Option.isSome_iff_exists.mp hpos
  have hverbatim := hs.not_verbatim pos hpos
  have hfilled := h.filled_eq_false hfresh
  have hdashes : s.readWord p (RawText.ofString "--") [RawText.ofString text]
      = .ok { p with literal := true, waiting := false } := by
    unfold readWord
    rw [if_neg (by simp [h.not_literal]), (Word.ofRaw_eq_dashes_iff _).mpr rfl]
  have hsettle : Progress.settle { p with literal := true, waiting := false }
      = ({ p with
          literal := true, waiting := false, pending := none, used := done.map Prod.fst
          given := done }, none) :=
    Progress.settle_congr (p := p) rfl rfl rfl h.settle_eq
  have hword : s.readWord { p with literal := true, waiting := false } (RawText.ofString text) []
      = .ok
        { p with
          literal := true, waiting := false, begun := true, filled := true
          pending := some (.positional pos [RawText.ofString text])
          used := done.map Prod.fst, given := done } := by
    unfold readWord
    rw [if_pos rfl, readPlain_eq_ok_iff hs rfl]
    exact ⟨pos, hpos, hfilled, _, hsettle, by simp [hverbatim]⟩
  rw [read_cons_of_leaf hleaf, hdashes]
  show s.read path _ _ = _
  rw [read_cons_of_leaf hleaf, hword]
  show s.read path _ [] = _
  unfold read finish Progress.settle Progress.complete
  dsimp only
  rw [if_neg hfresh, Positional.read, if_neg (by simp [hverbatim])]
  rw [RawText.text?_ofString]
  simp [orRefuse, hsub, bind, Except.bind]

theorem exists_read_of_names (hs : s.spec.IsRegular) (hpos : s.spec.positional.isSome)
    (hitems : ∀ i ∈ items, s.spec.Allows i) (hsome : ∀ i ∈ items, (s.spec.given? i).isSome)
    (hnodup : (items.map Item.id).Nodup) {text : String} {tail : List RawText}
    (htail : Item.Names items text tail) (path : List String) :
    ∃ g : Given, s.read path {} (Item.line items ++ tail) = .ok ⟨path, g⟩
      ∧ g.positional? = some text
      ∧ ∀ long, g.get? (.option long)
        = Given.get? (items.filterMap s.spec.given?) (.option long) := by
  have hids := s.spec.map_fst_filterMap_given? hsome
  cases htail with
  | among htext =>
    refine ⟨items.filterMap s.spec.given?, ?_, ?_, fun _ => rfl⟩
    . rw [List.append_nil, read_line_eq_ok_iff hs.ordinary hs.leaf hs.not_needsSub
        Progress.IsAfter.nil List.nodup_nil hitems]
      exact ⟨hsome, hnodup, rfl⟩
    . have hplain : Item.plain text ∈ items := by
        obtain ⟨item, hitem, hi⟩ := List.mem_filterMap.mp
          (htext ▸ List.mem_singleton_self text : text ∈ items.filterMap Item.text?)
        rwa [← Item.eq_plain_of_text? hi]
      obtain ⟨pos, hpos⟩ := Option.isSome_iff_exists.mp hpos
      have hgiven : s.spec.given? (.plain text) = some (.positional, .text text) := by
        simp [Spec.given?, hpos]
      have hget : Given.get? (items.filterMap s.spec.given?) .positional = some (.text text) := by
        rw [Given.get?_eq_some_iff (by rwa [hids])]
        exact List.mem_filterMap.mpr ⟨_, hplain, hgiven⟩
      rw [Given.positional?, Given.textOf?, hget]
  | behindDashes htext =>
    have hfresh : ArgId.positional ∉ (items.filterMap s.spec.given?).map Prod.fst := by
      rw [hids, Item.positional_mem_ids_iff, htext]
      simp
    obtain ⟨p, hp, hread⟩ := read_items hs.ordinary hs.leaf Progress.IsAfter.nil hitems hsome
      (by simpa using hnodup)
    rw [List.nil_append] at hp
    refine ⟨items.filterMap s.spec.given? ++ [(.positional, .text text)], ?_, ?_, ?_⟩
    . rw [hread, read_behindDashes hs.ordinary hs.leaf hs.not_needsSub hp hpos hfresh]
    . have hnone : Given.get? (items.filterMap s.spec.given?) .positional = none := by
        unfold Given.get?
        rw [List.lookup_eq_none_iff]
        intro e he
        rw [bne_iff_ne]
        intro heq
        exact hfresh (List.mem_map.mpr ⟨e, he, heq.symm⟩)
      have hget : Given.get? (items.filterMap s.spec.given? ++ [(.positional, .text text)])
          .positional = some (.text text) := by
        unfold Given.get? at hnone ⊢
        rw [List.lookup_append, hnone]
        rfl
      rw [Given.positional?, Given.textOf?, hget]
    . intro long
      unfold Given.get?
      rw [List.lookup_append]
      cases List.lookup (ArgId.option long) (items.filterMap s.spec.given?) <;> rfl

end Scope

end KubePlugin.CommandLine
