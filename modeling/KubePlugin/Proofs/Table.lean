import Mathlib.Data.List.Forall2
import KubePlugin.Table

/-!
This module contains the layout of drawn tables. A column is as wide as the widest line in it, so no
line reaches beyond its column, and since widths add up across the spaces around a line, all lines
of a drawn table are equally wide.
-/

namespace KubePlugin

theorem mem_of_mem_intercalate {α : Type} {a : α} {sep : List α} {ls : List (List α)}
    (h : a ∈ sep.intercalate ls) : a ∈ sep ∨ ∃ l ∈ ls, a ∈ l := by
  induction ls with
  | nil => contradiction
  | cons l ls ih =>
    cases ls with
    | nil =>
      rw [List.intercalate_singleton] at h
      exact .inr ⟨l, List.mem_cons_self, h⟩
    | cons l' ls =>
      rw [List.intercalate_cons_cons] at h
      rcases List.mem_append.mp h with h | h
      . rcases List.mem_append.mp h with h | h
        . exact .inr ⟨l, List.mem_cons_self, h⟩
        . exact .inl h
      . rcases ih h with h | ⟨m, hm, h⟩
        . exact .inl h
        . exact .inr ⟨m, List.mem_cons_of_mem _ hm, h⟩

theorem lineWidth_append_replicate_space (l : List Char) (n : Nat) :
    lineWidth (l ++ List.replicate n ' ') = lineWidth l + n := by
  induction n generalizing l with
  | zero => simp
  | succ n ih =>
    have hspaces : lineWidth (List.replicate n ' ') = n := by
      simpa using ih []
    rw [List.replicate_succ, lineWidth_append_space, hspaces]
    omega

/-- A character that takes one column and leaves nothing for its neighbour to join with. -/
def IsStroke (c : Char) : Prop := ({} : Width.Context).read c = (1, {})

instance (c : Char) : Decidable (IsStroke c) := inferInstanceAs (Decidable (_ = _))

theorem lineWidth_of_strokes {l : List Char} (h : ∀ c ∈ l, IsStroke c) :
    lineWidth l = l.length := by
  have hscan : Width.Context.scan {} l = (l.length, {}) := by
    induction l with
    | nil => rfl
    | cons c l ih =>
      have hc : ({} : Width.Context).read c = (1, {}) := h c List.mem_cons_self
      unfold Width.Context.scan
      rw [ih fun d hd => h d (List.mem_cons_of_mem _ hd)]
      dsimp only
      rw [hc, List.length_cons]
  rw [lineWidth, hscan]
  rfl

namespace Table

theorem lines_eq_splitOn (cs : List Char) : lines cs = cs.splitOn '\n' := by
  induction cs with
  | nil => rfl
  | cons c cs ih =>
    rw [List.splitOn_eq_splitOnP, List.splitOnP_cons_eq_if_modifyHead, ← List.splitOn_eq_splitOnP,
      lines, ih]
    by_cases hc : c = '\n'
    . simp [hc]
    . simp only [hc, if_false, beq_iff_eq]
      cases hsplit : cs.splitOn '\n' with
      | nil => exact absurd hsplit (List.splitOn_ne_nil _ _)
      | cons l ls => rfl

theorem lines_ne_nil (cs : List Char) : lines cs ≠ [] := by
  rw [lines_eq_splitOn]
  exact List.splitOn_ne_nil _ _

theorem newline_notMem_of_mem_lines {cs l : List Char} (h : l ∈ lines cs) : '\n' ∉ l := by
  induction cs generalizing l with
  | nil =>
    rw [List.mem_singleton.mp h]
    exact List.not_mem_nil
  | cons c cs ih =>
    unfold lines at h
    split at h
    . rcases List.mem_cons.mp h with rfl | h
      . exact List.not_mem_nil
      . exact ih h
    . next hc =>
      split at h
      . next hnil => exact absurd hnil (lines_ne_nil cs)
      . next first rest hlines =>
        rw [hlines] at ih
        rcases List.mem_cons.mp h with rfl | h
        . rw [List.mem_cons, not_or]
          exact ⟨fun heq => hc heq.symm, ih List.mem_cons_self⟩
        . exact ih (List.mem_cons_of_mem _ h)

structure IsWidest (w : Nat) (ls : List (List Char)) : Prop where
  le : ∀ l ∈ ls, lineWidth l ≤ w
  exists_eq : ∃ l ∈ ls, lineWidth l = w

theorem IsWidest.append {v w : Nat} {ks ls : List (List Char)} (hv : IsWidest v ks)
    (hw : IsWidest w ls) : IsWidest (max v w) (ks ++ ls) where
  le l hl := by
    rcases List.mem_append.mp hl with hl | hl
    . exact Nat.le_trans (hv.le l hl) (Nat.le_max_left v w)
    . exact Nat.le_trans (hw.le l hl) (Nat.le_max_right v w)
  exists_eq := by
    obtain ⟨k, hk, hkv⟩ := hv.exists_eq
    obtain ⟨l, hl, hlw⟩ := hw.exists_eq
    rcases Nat.le_total v w with h | h
    . exact ⟨l, List.mem_append_right _ hl, by rw [hlw, Nat.max_eq_right h]⟩
    . exact ⟨k, List.mem_append_left _ hk, by rw [hkv, Nat.max_eq_left h]⟩

theorem isWidest_foldl_max {ls : List (List Char)} (hne : ls ≠ []) :
    IsWidest ((ls.map lineWidth).foldl max 0) ls := by
  -- The fold keeps the width that it starts with only if no line is wider.
  have hmax : ∀ (ks : List (List Char)) (v : Nat),
      (ks.map lineWidth).foldl max v = v ∧ (∀ k ∈ ks, lineWidth k ≤ v)
        ∨ v ≤ (ks.map lineWidth).foldl max v
          ∧ IsWidest ((ks.map lineWidth).foldl max v) ks := by
    intro ks
    induction ks with
    | nil => exact fun v => .inl ⟨rfl, by simp⟩
    | cons k ks ih =>
      intro v
      rw [List.map_cons, List.foldl_cons]
      rcases ih (max v (lineWidth k)) with ⟨heq, hle⟩ | ⟨hle, hwidest⟩
      . rcases Nat.le_total (lineWidth k) v with hk | hk
        . rw [Nat.max_eq_left hk] at heq hle ⊢
          exact .inl ⟨heq, List.forall_mem_cons.mpr ⟨hk, hle⟩⟩
        . rw [Nat.max_eq_right hk] at heq hle ⊢
          rw [heq]
          exact .inr ⟨hk, List.forall_mem_cons.mpr ⟨Nat.le_refl _, hle⟩,
            k, List.mem_cons_self, rfl⟩
      . refine .inr ⟨Nat.le_trans (Nat.le_max_left _ _) hle, ?_, ?_⟩
        . exact List.forall_mem_cons.mpr
            ⟨Nat.le_trans (Nat.le_max_right _ _) hle, hwidest.le⟩
        . obtain ⟨l, hl, hlw⟩ := hwidest.exists_eq
          exact ⟨l, List.mem_cons_of_mem _ hl, hlw⟩
  rcases hmax ls 0 with ⟨heq, hle⟩ | ⟨_, hwidest⟩
  . obtain ⟨l, hl⟩ := List.exists_mem_of_ne_nil ls hne
    rw [heq]
    exact ⟨hle, l, hl, Nat.le_zero.mp (hle l hl)⟩
  . exact hwidest

theorem isWidest_cellWidth (cell : String) : IsWidest (cellWidth cell) (cellLines cell) :=
  isWidest_foldl_max (lines_ne_nil _)

def frameWidth (widths : List Nat) : Nat := widths.foldr (fun w columns => w + 3 + columns) 1

@[simp] theorem frameWidth_nil : frameWidth [] = 1 := rfl

@[simp] theorem frameWidth_cons (w : Nat) (widths : List Nat) :
    frameWidth (w :: widths) = w + 3 + frameWidth widths := rfl

section Lines

variable {widths : List Nat} {parts : List (List Char)}

theorem lineWidth_beside_padded {w : Nat} {part : List Char} (h : lineWidth part ≤ w)
    (before after : List Char) :
    lineWidth (before ++ padded w part ++ after)
      =
    lineWidth before + (w + 2) + lineWidth after := by
  have hpadded : before ++ padded w part ++ after
      = before ++ ' ' :: ((part ++ List.replicate (w - lineWidth part) ' ') ++ ' ' :: after) := by
    simp [padded]
  rw [hpadded, lineWidth_append_space, lineWidth_append_space, lineWidth_append_replicate_space]
  omega

theorem isStroke_separator : IsStroke '┆' := by decide +kernel

theorem lineWidth_intercalate_padded
    (h : List.Forall₂ (fun part w => lineWidth part ≤ w) parts widths) (hne : parts ≠ [])
    (before after : List Char) :
    lineWidth (before ++ ['┆'].intercalate (List.zipWith padded widths parts) ++ after) + 2
      =
    lineWidth before + frameWidth widths + lineWidth after := by
  induction h generalizing before with
  | nil => contradiction
  | @cons part w parts widths hpart hparts ih =>
    cases hparts with
    | nil =>
      rw [List.zipWith_cons_cons, List.zipWith_nil_left, List.intercalate_singleton,
        lineWidth_beside_padded hpart, frameWidth_cons, frameWidth_nil]
      omega
    | @cons part' w' parts widths hpart' hparts =>
      -- The stroke behind the first part is what stands in front of the rest.
      have hrest := ih (List.cons_ne_nil _ _) ['┆']
      rw [lineWidth_of_strokes (l := ['┆'])
        (by rw [List.forall_mem_singleton]; exact isStroke_separator)] at hrest
      have hsplit : before ++ ['┆'].intercalate
            (List.zipWith padded (w :: w' :: widths) (part :: part' :: parts)) ++ after
          = before ++ padded w part ++ (['┆'] ++ ['┆'].intercalate
            (List.zipWith padded (w' :: widths) (part' :: parts)) ++ after) := by
        rw [List.zipWith_cons_cons, List.zipWith_cons_cons, List.intercalate_cons_cons]
        simp
      rw [hsplit, lineWidth_beside_padded hpart, frameWidth_cons]
      simp only [List.length_singleton] at hrest
      omega

theorem lineWidth_drawLine (h : List.Forall₂ (fun part w => lineWidth part ≤ w) parts widths)
    (hne : parts ≠ []) : lineWidth (drawLine widths parts) = frameWidth widths := by
  have hborder : lineWidth ['│'] = 1 := by decide +kernel
  have hsum := lineWidth_intercalate_padded h hne ['│'] ['│']
  unfold drawLine
  omega

structure Rule.IsPlain (r : Rule) : Prop where
  left : IsStroke r.left
  along : IsStroke r.along
  cross : IsStroke r.cross
  right : IsStroke r.right

theorem rules_isPlain : ∀ r ∈ [topRule, headerRule, rowRule, bottomRule], r.IsPlain := by
  simp only [List.forall_mem_cons]
  refine ⟨⟨?_, ?_, ?_, ?_⟩, ⟨?_, ?_, ?_, ?_⟩, ⟨?_, ?_, ?_, ?_⟩, ⟨?_, ?_, ?_, ?_⟩, by simp⟩
  all_goals decide +kernel

theorem Rule.mem_draw {r : Rule} {c : Char} (h : c ∈ r.draw widths) :
    c = r.left ∨ c = r.along ∨ c = r.cross ∨ c = r.right := by
  unfold draw at h
  rcases List.mem_append.mp h with h | h
  . rcases List.mem_append.mp h with h | h
    . exact .inl (List.mem_singleton.mp h)
    . rcases mem_of_mem_intercalate h with h | ⟨l, hl, h⟩
      . exact .inr (.inr (.inl (List.mem_singleton.mp h)))
      . obtain ⟨w, _, rfl⟩ := List.mem_map.mp hl
        exact .inr (.inl (List.eq_of_mem_replicate h))
  . exact .inr (.inr (.inr (List.mem_singleton.mp h)))

theorem Rule.length_draw (r : Rule) (hne : widths ≠ []) :
    (r.draw widths).length = frameWidth widths := by
  have hinner : ∀ ws : List Nat, ws ≠ [] →
      ([r.cross].intercalate (ws.map fun w => List.replicate (w + 2) r.along)).length + 2
        = frameWidth ws := by
    intro ws
    induction ws with
    | nil => exact fun h => absurd rfl h
    | cons w ws ih =>
      intro _
      cases ws with
      | nil => simp
      | cons w' ws =>
        have hrest := ih (List.cons_ne_nil _ _)
        rw [List.map_cons] at hrest
        rw [List.map_cons, List.map_cons, List.intercalate_cons_cons, frameWidth_cons, ← hrest]
        simp only [List.length_append, List.length_replicate, List.length_singleton]
        omega
  have hlength := hinner widths hne
  unfold draw
  simp only [List.length_append, List.length_singleton]
  omega

theorem Rule.IsPlain.isStroke_of_mem_draw {r : Rule} (h : r.IsPlain) {c : Char}
    (hc : c ∈ r.draw widths) : IsStroke c := by
  rcases Rule.mem_draw hc with rfl | rfl | rfl | rfl
  . exact h.left
  . exact h.along
  . exact h.cross
  . exact h.right

theorem Rule.IsPlain.lineWidth_draw {r : Rule} (h : r.IsPlain) (hne : widths ≠ []) :
    lineWidth (r.draw widths) = frameWidth widths := by
  rw [lineWidth_of_strokes fun c hc => h.isStroke_of_mem_draw hc, r.length_draw hne]

theorem Rule.IsPlain.newline_notMem_draw {r : Rule} (h : r.IsPlain) :
    '\n' ∉ r.draw widths :=
  fun hmem => absurd (h.isStroke_of_mem_draw hmem) (by decide)

theorem newline_notMem_drawLine (h : ∀ part ∈ parts, '\n' ∉ part) :
    '\n' ∉ drawLine widths parts := by
  have hpadded : ∀ (ws : List Nat) (l : List Char),
      l ∈ List.zipWith padded ws parts → '\n' ∉ l := by
    intro ws l hl
    rw [← List.map_uncurry_zip_eq_zipWith] at hl
    obtain ⟨⟨w, part⟩, hmem, rfl⟩ := List.mem_map.mp hl
    simpa [padded] using h part (List.of_mem_zip hmem).2
  intro hmem
  unfold drawLine at hmem
  rcases List.mem_append.mp hmem with hmem | hmem
  . rcases List.mem_append.mp hmem with hmem | hmem
    . revert hmem
      decide
    . rcases mem_of_mem_intercalate hmem with hmem | ⟨l, hl, hmem⟩
      . revert hmem
        decide
      . exact hpadded widths l hl hmem
  . revert hmem
    decide

end Lines

def columns (t : Table) : List (List (List Char)) :=
  t.rows.foldl (List.zipWith fun ls cell => ls ++ cellLines cell) (t.header.map cellLines)

def Fits (row : List String) (widths : List Nat) : Prop :=
  List.Forall₂ (fun cell w => cellWidth cell ≤ w) row widths

section Widths

variable {widths : List Nat} {row : List String}

theorem Fits.length_eq (h : Fits row widths) : row.length = widths.length :=
  List.Forall₂.length_eq h

theorem fits_map_cellWidth (row : List String) : Fits row (row.map cellWidth) := by
  unfold Fits
  rw [List.forall₂_map_right_iff, List.forall₂_same]
  exact fun _ _ => Nat.le_refl _

theorem length_widest (h : row.length = widths.length) :
    (widest widths row).length = widths.length := by
  simp [widest, h]

theorem fits_widest (h : row.length = widths.length) : Fits row (widest widths row) := by
  induction row generalizing widths with
  | nil =>
    rw [List.eq_nil_of_length_eq_zero h.symm]
    exact .nil
  | cons cell row ih =>
    cases widths with
    | nil => contradiction
    | cons w widths => exact .cons (Nat.le_max_right _ _) (ih (Nat.succ_inj.mp h))

theorem Fits.widest {before : List String} (h : Fits before widths)
    (hlength : row.length = widths.length) : Fits before (widest widths row) := by
  induction h generalizing row with
  | nil =>
    rw [List.eq_nil_of_length_eq_zero hlength]
    exact .nil
  | cons hcell _ ih =>
    cases row with
    | nil => contradiction
    | cons cell row =>
      exact .cons (Nat.le_trans hcell (Nat.le_max_left _ _)) (ih (Nat.succ_inj.mp hlength))

theorem Fits.foldl_widest {before : List String} {rows : List (List String)}
    (h : Fits before widths) (hlength : ∀ row ∈ rows, row.length = widths.length) :
    Fits before (rows.foldl Table.widest widths) := by
  induction rows generalizing widths with
  | nil => exact h
  | cons row rows ih =>
    have hrow : row.length = widths.length := hlength row List.mem_cons_self
    refine ih (h.widest hrow) fun row' h' => ?_
    rw [length_widest hrow]
    exact hlength row' (List.mem_cons_of_mem _ h')

theorem fits_foldl_widest {rows : List (List String)}
    (hlength : ∀ row ∈ rows, row.length = widths.length) (h : row ∈ rows) :
    Fits row (rows.foldl Table.widest widths) := by
  induction rows generalizing widths with
  | nil => contradiction
  | cons first rows ih =>
    have hfirst : first.length = widths.length := hlength first List.mem_cons_self
    have hrest : ∀ row ∈ rows, row.length = (Table.widest widths first).length := by
      intro row hrow
      rw [length_widest hfirst]
      exact hlength row (List.mem_cons_of_mem _ hrow)
    rcases List.mem_cons.mp h with rfl | h
    . exact (fits_widest hfirst).foldl_widest hrest
    . exact ih hrest h

theorem isWidest_foldl_widest {rows : List (List String)} {columns : List (List (List Char))}
    (h : List.Forall₂ IsWidest widths columns) :
    List.Forall₂ IsWidest (rows.foldl widest widths)
      (rows.foldl (List.zipWith fun ls cell => ls ++ cellLines cell) columns) := by
  induction rows generalizing widths columns with
  | nil => exact h
  | cons row rows ih =>
    apply ih
    clear ih
    induction h generalizing row with
    | nil => exact .nil
    | cons hcolumn _ ih =>
      cases row with
      | nil => exact .nil
      | cons cell row => exact .cons (hcolumn.append (isWidest_cellWidth cell)) (ih row)

end Widths

section Draw

variable {t : Table}

theorem isWidest_widths (t : Table) : List.Forall₂ IsWidest t.widths t.columns := by
  apply isWidest_foldl_widest
  rw [List.forall₂_map_left_iff, List.forall₂_map_right_iff, List.forall₂_same]
  exact fun cell _ => isWidest_cellWidth cell

structure IsFull (t : Table) : Prop where
  header_ne_nil : t.header ≠ []
  length_eq : ∀ row ∈ t.rows, row.length = t.header.length

theorem IsFull.fits (h : t.IsFull) {row : List String} (hrow : row ∈ t.header :: t.rows) :
    Fits row t.widths := by
  have hlength : ∀ row ∈ t.rows, row.length = (t.header.map cellWidth).length := by
    intro row hrow
    rw [List.length_map]
    exact h.length_eq row hrow
  rcases List.mem_cons.mp hrow with rfl | hrow
  . exact (fits_map_cellWidth t.header).foldl_widest hlength
  . exact fits_foldl_widest hlength hrow

theorem IsFull.ne_nil (h : t.IsFull) {row : List String} (hrow : row ∈ t.header :: t.rows) :
    row ≠ [] := by
  rcases List.mem_cons.mp hrow with rfl | hrow
  . exact h.header_ne_nil
  . intro hnil
    have hlength := h.length_eq row hrow
    rw [hnil] at hlength
    exact h.header_ne_nil (List.eq_nil_of_length_eq_zero hlength.symm)

theorem lineWidth_getElem?_cellLines_le (cell : String) (k : Nat) :
    lineWidth ((cellLines cell)[k]?.getD []) ≤ cellWidth cell := by
  cases hline : (cellLines cell)[k]? with
  | none => exact Nat.zero_le _
  | some line => exact (isWidest_cellWidth cell).le line (List.mem_of_getElem? hline)

theorem newline_notMem_getElem?_cellLines (cell : String) (k : Nat) :
    '\n' ∉ (cellLines cell)[k]?.getD [] := by
  cases hline : (cellLines cell)[k]? with
  | none => exact List.not_mem_nil
  | some line => exact newline_notMem_of_mem_lines (List.mem_of_getElem? hline)

theorem lineWidth_of_mem_drawRow {widths : List Nat} {row : List String} (h : Fits row widths)
    (hne : row ≠ []) {line : List Char} (hline : line ∈ drawRow widths row) :
    lineWidth line = frameWidth widths := by
  obtain ⟨k, _, rfl⟩ := List.mem_map.mp hline
  refine lineWidth_drawLine ?_ (by simpa using hne)
  rw [List.forall₂_map_left_iff]
  exact h.imp fun cell w hcell =>
    Nat.le_trans (lineWidth_getElem?_cellLines_le cell k) hcell

theorem newline_notMem_of_mem_drawRow {widths : List Nat} {row : List String} {line : List Char}
    (hline : line ∈ drawRow widths row) : '\n' ∉ line := by
  obtain ⟨k, _, rfl⟩ := List.mem_map.mp hline
  refine newline_notMem_drawLine fun part hpart => ?_
  obtain ⟨cell, _, rfl⟩ := List.mem_map.mp hpart
  exact newline_notMem_getElem?_cellLines cell k

theorem mem_draw {line : List Char} (h : line ∈ t.draw) :
    (∃ r ∈ [topRule, headerRule, rowRule, bottomRule], line = r.draw t.widths)
      ∨ ∃ row ∈ t.header :: t.rows, line ∈ drawRow t.widths row := by
  simp only [draw, List.mem_append, List.mem_singleton] at h
  rcases h with (((h | h) | h) | h) | h
  . exact .inl ⟨topRule, by simp, h⟩
  . exact .inr ⟨t.header, List.mem_cons_self, h⟩
  . exact .inl ⟨headerRule, by simp, h⟩
  . rcases mem_of_mem_intercalate h with h | ⟨drawn, hdrawn, h⟩
    . exact .inl ⟨rowRule, by simp, List.mem_singleton.mp h⟩
    . obtain ⟨row, hrow, rfl⟩ := List.mem_map.mp hdrawn
      exact .inr ⟨row, List.mem_cons_of_mem _ hrow, h⟩
  . exact .inl ⟨bottomRule, by simp, h⟩

theorem IsFull.lineWidth_of_mem_draw (h : t.IsFull) {line : List Char} (hline : line ∈ t.draw) :
    lineWidth line = frameWidth t.widths := by
  rcases mem_draw hline with ⟨r, hr, rfl⟩ | ⟨row, hrow, hline⟩
  . have hheader := (h.fits List.mem_cons_self).length_eq
    refine (rules_isPlain r hr).lineWidth_draw fun hnil => h.header_ne_nil ?_
    rw [hnil] at hheader
    exact List.eq_nil_of_length_eq_zero hheader
  . exact lineWidth_of_mem_drawRow (h.fits hrow) (h.ne_nil hrow) hline

theorem newline_notMem_of_mem_draw {line : List Char} (hline : line ∈ t.draw) : '\n' ∉ line := by
  rcases mem_draw hline with ⟨r, hr, rfl⟩ | ⟨row, _, hline⟩
  . exact (rules_isPlain r hr).newline_notMem_draw
  . exact newline_notMem_of_mem_drawRow hline

end Draw

end Table

end KubePlugin
