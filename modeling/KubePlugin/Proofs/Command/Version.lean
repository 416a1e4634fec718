import Mathlib.Data.List.DropRight
import KubePlugin.Command.Version
import KubePlugin.Proofs.Table

namespace KubePlugin

open Table

theorem rdropWhile_append_spaces (l : List Char) (n : Nat) :
    (l ++ List.replicate n ' ').rdropWhile (· = ' ') = l.rdropWhile (· = ' ') := by
  induction n with
  | zero => rw [List.replicate_zero, List.append_nil]
  | succ n ih =>
    rw [List.replicate_succ', ← List.append_assoc, List.rdropWhile_concat_pos _ _ _ (by simp), ih]

namespace Versions

def componentText (line : List Char) : List Char :=
  ((line.drop 2).takeWhile (· ≠ '┆')).rdropWhile (· = ' ')

def versionText (line : List Char) : List Char :=
  (((line.dropWhile (· ≠ '┆')).drop 2).dropLast).rdropWhile (· = ' ')

theorem drawLine_pair (w₁ w₂ : Nat) (a b : List Char) :
    drawLine [w₁, w₂] [a, b]
      =
    "│ ".toList ++ (a ++ List.replicate (w₁ - lineWidth a) ' ') ++ " ┆ ".toList
      ++ (b ++ List.replicate (w₂ - lineWidth b) ' ') ++ " │".toList := by
  simp [drawLine, padded, List.intercalate_cons_cons]

section Line

variable {w₁ w₂ : Nat} {a b : List Char}

theorem componentText_drawLine (h : '┆' ∉ a) :
    componentText (drawLine [w₁, w₂] [a, b]) = a.rdropWhile (· = ' ') := by
  have hcell : ∀ c ∈ a ++ List.replicate (w₁ - lineWidth a + 1) ' ', decide (c ≠ '┆') = true := by
    intro c hc
    rw [decide_eq_true_iff]
    rintro rfl
    rcases List.mem_append.mp hc with hc | hc
    . exact h hc
    . exact absurd (List.eq_of_mem_replicate hc) (by decide)
  have hline : (drawLine [w₁, w₂] [a, b]).drop 2
      = (a ++ List.replicate (w₁ - lineWidth a + 1) ' ') ++ '┆' :: (padded w₂ b ++ ['│']) := by
    simp [drawLine, padded, List.intercalate_cons_cons, List.replicate_succ']
  rw [componentText, hline, List.takeWhile_append_of_pos hcell,
    List.takeWhile_cons_of_neg (by simp), List.append_nil, rdropWhile_append_spaces]

theorem versionText_drawLine (h : '┆' ∉ a) :
    versionText (drawLine [w₁, w₂] [a, b]) = b.rdropWhile (· = ' ') := by
  have hcell : ∀ c ∈ '│' :: padded w₁ a, decide (c ≠ '┆') = true := by
    intro c hc
    rw [decide_eq_true_iff]
    rintro rfl
    simp [padded, h] at hc
  have hline : drawLine [w₁, w₂] [a, b]
      = ('│' :: padded w₁ a)
        ++ '┆' :: ' ' :: ((b ++ List.replicate (w₂ - lineWidth b + 1) ' ') ++ ['│']) := by
    simp [drawLine, padded, List.intercalate_cons_cons, List.replicate_succ']
  rw [versionText, hline, List.dropWhile_append_of_pos hcell, List.dropWhile_cons_of_neg (by simp)]
  simp only [List.drop_succ_cons, List.drop_zero, List.dropLast_concat]
  exact rdropWhile_append_spaces _ _

example : versionText "│ helm      ┆ 3.12.0        │".toList = "3.12.0".toList := by decide

end Line

/-- Lines that show a component with its version in columns of these widths: a line for each line
of the version, with the component in the first. -/
structure Shows (w₁ w₂ : Nat) (component version : String) (rows : List (List Char)) : Prop where
  length_eq : rows.length = (version.toList.splitOn '\n').length
  columns : ∀ line ∈ rows, ∃ left right,
    line = "│ ".toList ++ left ++ " ┆ ".toList ++ right ++ " │".toList
      ∧ lineWidth left = w₁ ∧ lineWidth right = w₂
  components : rows.map componentText = component.toList :: List.replicate (rows.length - 1) []
  versions : rows.map versionText = (version.toList.splitOn '\n').map (·.rdropWhile (· = ' '))

structure IsComponent (component : String) : Prop where
  cellLines_eq : cellLines component = [component.toList]
  bar_notMem : '┆' ∉ component.toList
  rdropWhile_eq : component.toList.rdropWhile (· = ' ') = component.toList

theorem components_isComponent :
    ∀ component ∈ ["COMPONENT", "neon", "neon-cli", "helm"], IsComponent component := by
  simp only [List.forall_mem_cons]
  refine ⟨⟨?_, ?_, ?_⟩, ⟨?_, ?_, ?_⟩, ⟨?_, ?_, ?_⟩, ⟨?_, ?_, ?_⟩, by simp⟩
  all_goals decide +kernel

section Row

variable {w₁ w₂ : Nat} {component version : String}

theorem IsComponent.drawRow_eq (h : IsComponent component) {first : List Char}
    {rest : List (List Char)} (hlines : cellLines version = first :: rest) :
    drawRow [w₁, w₂] [component, version]
      =
    drawLine [w₁, w₂] [component.toList, first]
      :: rest.map fun line => drawLine [w₁, w₂] [[], line] := by
  have hheight : height [component, version] = rest.length + 1 := by
    simp [height, h.cellLines_eq, hlines]
  have hrest : rest = (List.range rest.length).map fun k => rest[k]?.getD [] := by
    apply List.ext_getElem
    . simp
    . intro k hk _
      simp [List.getElem?_eq_getElem hk]
  rw [drawRow, hheight, List.range_succ_eq_map, List.map_cons, List.map_map]
  simp only [List.map_cons, List.map_nil, h.cellLines_eq, hlines]
  conv_rhs => rw [hrest, List.map_map]
  simp

theorem IsComponent.shows (h : IsComponent component)
    (hfits : Fits [component, version] [w₁, w₂]) :
    Shows w₁ w₂ component version (drawRow [w₁, w₂] [component, version]) := by
  obtain ⟨first, rest, hlines⟩ := List.exists_cons_of_ne_nil (lines_ne_nil version.toList)
  have hrow : drawRow [w₁, w₂] [component, version] = _ := h.drawRow_eq hlines
  have hsplit : version.toList.splitOn '\n' = first :: rest := by rw [← lines_eq_splitOn, hlines]
  refine ⟨?_, ?_, ?_, ?_⟩
  . rw [hrow, hsplit]
    simp
  . intro line hline
    obtain ⟨k, _, rfl⟩ := List.mem_map.mp hline
    cases hfits with
    | cons hcomponent hfits =>
      cases hfits with
      | cons hversion _ =>
        have hleft := Nat.le_trans (lineWidth_getElem?_cellLines_le component k) hcomponent
        have hright := Nat.le_trans (lineWidth_getElem?_cellLines_le version k) hversion
        refine ⟨_, _, drawLine_pair w₁ w₂ _ _, ?_, ?_⟩
        . rw [lineWidth_append_replicate_space]
          exact Nat.add_sub_of_le hleft
        . rw [lineWidth_append_replicate_space]
          exact Nat.add_sub_of_le hright
  . rw [hrow, List.map_cons, List.map_map, componentText_drawLine h.bar_notMem, h.rdropWhile_eq]
    simp only [Function.comp_def, componentText_drawLine List.not_mem_nil, List.rdropWhile_nil,
      List.map_const', List.length_cons, List.length_map, Nat.add_sub_cancel]
  . rw [hrow, hsplit, List.map_cons, List.map_cons, List.map_map,
      versionText_drawLine h.bar_notMem]
    simp only [Function.comp_def, versionText_drawLine List.not_mem_nil]

end Row

theorem table_isFull (v : Versions) : v.table.IsFull where
  header_ne_nil := List.cons_ne_nil _ _
  length_eq row hrow := by
    simp only [table, List.mem_cons, List.not_mem_nil, or_false] at hrow
    rcases hrow with rfl | rfl | rfl
    all_goals rfl

theorem columns_table (v : Versions) :
    v.table.columns
      =
    [ ["COMPONENT", "neon", "neon-cli", "helm"].map String.toList,
      "VERSION".toList :: (v.plugin.toList.splitOn '\n' ++ v.neonCli.toList.splitOn '\n'
        ++ v.helm.toList.splitOn '\n') ] := by
  have hcolumns : v.table.columns
      = [cellLines "COMPONENT" ++ cellLines "neon" ++ cellLines "neon-cli" ++ cellLines "helm",
        cellLines "VERSION" ++ cellLines v.plugin ++ cellLines v.neonCli ++ cellLines v.helm] := rfl
  have hheader : cellLines "VERSION" = ["VERSION".toList] := by decide +kernel
  have hcomponent := fun component h => (components_isComponent component h).cellLines_eq
  rw [hcolumns, hheader, hcomponent "COMPONENT" (by simp), hcomponent "neon" (by simp),
    hcomponent "neon-cli" (by simp), hcomponent "helm" (by simp)]
  simp [cellLines, lines_eq_splitOn]

theorem splitOn_renderTable (v : Versions) :
    (v.renderTable false).toList.splitOn '\n'
      =
    "NEONKUBE kubectl plugin".toList :: v.table.draw := by
  have hdraw : v.table.draw ≠ [] := by simp [draw]
  have hrender : (v.renderTable false).toList
      = ['\n'].intercalate ("NEONKUBE kubectl plugin".toList :: v.table.draw) := by
    rw [List.intercalate_cons_of_ne_nil hdraw]
    simp [renderTable, title, Table.render]
  rw [hrender, List.splitOn_intercalate _ _ (List.cons_ne_nil _ _)]
  intro line hline
  rcases List.mem_cons.mp hline with rfl | hline
  . decide
  . exact newline_notMem_of_mem_draw hline

/-- Behind the title stand the lines of the table. They are equally wide, each column is as wide as
the widest line in it, and every version can be read off the lines that show it. -/
theorem renderTable_layout (v : Versions) :
    ∃ (w₁ w₂ : Nat) (header plugin neonCli helm : List (List Char)),
      (v.renderTable false).toList.splitOn '\n' = "NEONKUBE kubectl plugin".toList :: v.table.draw
      ∧ v.table.draw
        = [topRule.draw [w₁, w₂]] ++ header ++ [headerRule.draw [w₁, w₂]]
          ++ plugin ++ [rowRule.draw [w₁, w₂]] ++ neonCli ++ [rowRule.draw [w₁, w₂]] ++ helm
          ++ [bottomRule.draw [w₁, w₂]]
      ∧ (∀ line ∈ v.table.draw, lineWidth line = w₁ + w₂ + 7)
      ∧ IsWidest w₁ (["COMPONENT", "neon", "neon-cli", "helm"].map String.toList)
      ∧ IsWidest w₂
        ("VERSION".toList :: (v.plugin.toList.splitOn '\n' ++ v.neonCli.toList.splitOn '\n'
          ++ v.helm.toList.splitOn '\n'))
      ∧ Shows w₁ w₂ "COMPONENT" "VERSION" header
      ∧ Shows w₁ w₂ "neon" v.plugin plugin
      ∧ Shows w₁ w₂ "neon-cli" v.neonCli neonCli
      ∧ Shows w₁ w₂ "helm" v.helm helm := by
  obtain ⟨w₁, w₂, hwidths⟩ : ∃ w₁ w₂, v.table.widths = [w₁, w₂] := ⟨_, _, rfl⟩
  have hfull := v.table_isFull
  have hwidest := isWidest_widths v.table
  rw [hwidths, columns_table, List.forall₂_cons, List.forall₂_cons] at hwidest
  have hshows : ∀ component version, [component, version] ∈ v.table.header :: v.table.rows →
      IsComponent component →
        Shows w₁ w₂ component version (drawRow [w₁, w₂] [component, version]) := by
    intro component version hmem hcomponent
    apply hcomponent.shows
    rw [← hwidths]
    exact hfull.fits hmem
  refine ⟨w₁, w₂, drawRow [w₁, w₂] ["COMPONENT", "VERSION"], drawRow [w₁, w₂] ["neon", v.plugin],
    drawRow [w₁, w₂] ["neon-cli", v.neonCli], drawRow [w₁, w₂] ["helm", v.helm],
    v.splitOn_renderTable, ?_, ?_, ?_, ?_, ?_, ?_, ?_, ?_⟩
  . rw [draw, hwidths]
    simp [table, List.intercalate_cons_cons]
  . intro line hline
    rw [hfull.lineWidth_of_mem_draw hline, hwidths, frameWidth_cons, frameWidth_cons,
      frameWidth_nil]
    omega
  . exact hwidest.1
  . exact hwidest.2.1
  . exact hshows _ _ (by simp [table]) (components_isComponent _ (by simp))
  . exact hshows _ _ (by simp [table]) (components_isComponent _ (by simp))
  . exact hshows _ _ (by simp [table]) (components_isComponent _ (by simp))
  . exact hshows _ _ (by simp [table]) (components_isComponent _ (by simp))

end Versions

end KubePlugin
