import Mathlib.Data.List.DropRight
import KubePlugin.Text.Class

namespace KubePlugin

def IsTrimmed (l : List Char) : Prop :=
  (∀ c ∈ l.head?, ¬ isBlank c) ∧ ∀ c ∈ l.getLast?, ¬ isBlank c

variable {l before after : List Char}

theorem dropWhile_isBlank_eq_self (h : ∀ c ∈ l.head?, ¬ isBlank c) : l.dropWhile isBlank = l := by
  cases l with
  | nil => rfl
  | cons c l => exact List.dropWhile_cons_of_neg (h c rfl)

theorem trimEnd_append (h : ∀ c ∈ l.getLast?, ¬ isBlank c) (hafter : ∀ c ∈ after, isBlank c) :
    trimEnd (l ++ after) = l := by
  unfold trimEnd
  rw [List.reverse_append, List.dropWhile_append_of_pos (by simpa using hafter),
    dropWhile_isBlank_eq_self, List.reverse_reverse]
  rwa [List.head?_reverse]

theorem IsTrimmed.trim_append (h : IsTrimmed l) (hbefore : ∀ c ∈ before, isBlank c)
    (hafter : ∀ c ∈ after, isBlank c) : trim (before ++ l ++ after) = l := by
  unfold trim
  rw [List.append_assoc, List.dropWhile_append_of_pos hbefore]
  cases l with
  | nil =>
    rw [List.nil_append, List.dropWhile_eq_nil_iff.mpr hafter]
    rfl
  | cons c l =>
    rw [dropWhile_isBlank_eq_self (l := c :: l ++ after) h.1, trimEnd_append h.2 hafter]

theorem isTrimmed_trim (l : List Char) : IsTrimmed (trim l) := by
  have hend : trim l = (l.dropWhile isBlank).rdropWhile isBlank := rfl
  constructor
  . intro c hc
    obtain ⟨rest, hrest⟩ : trim l <+: l.dropWhile isBlank := by
      rw [hend]
      exact List.rdropWhile_prefix isBlank _
    have hhead : (l.dropWhile isBlank).head? = some c := by
      rw [← hrest, List.head?_append, Option.mem_def.mp hc]
      rfl
    have hnot := List.head?_dropWhile_not isBlank l
    rw [hhead] at hnot
    simpa using hnot
  . intro c hc
    rw [hend] at hc
    have hne : (l.dropWhile isBlank).rdropWhile isBlank ≠ [] :=
      List.ne_nil_of_mem (List.mem_of_getLast? hc)
    have hlast := List.rdropWhile_last_not isBlank _ hne
    rw [Option.mem_def, List.getLast?_eq_some_getLast hne, Option.some_inj] at hc
    rwa [hc] at hlast

theorem exists_eq_append_trim (l : List Char) :
    ∃ before after, (∀ c ∈ before, isBlank c) ∧ (∀ c ∈ after, isBlank c)
      ∧ l = before ++ trim l ++ after := by
  refine ⟨l.takeWhile isBlank, (l.dropWhile isBlank).rtakeWhile isBlank, ?_, ?_, ?_⟩
  . intro c hc
    exact List.mem_takeWhile_imp hc
  . intro c hc
    exact List.mem_rtakeWhile_imp hc
  . rw [List.append_assoc, show trim l = (l.dropWhile isBlank).rdropWhile isBlank from rfl,
      List.rdropWhile_append_rtakeWhile, List.takeWhile_append_dropWhile]

theorem trim_append_blank (hbefore : ∀ c ∈ before, isBlank c) (hafter : ∀ c ∈ after, isBlank c) :
    trim (before ++ l ++ after) = trim l := by
  obtain ⟨first, last, hfirst, hlast, hl⟩ := exists_eq_append_trim l
  have hall : before ++ l ++ after = (before ++ first) ++ trim l ++ (last ++ after) := by
    conv_lhs => rw [hl]
    simp
  rw [hall]
  apply (isTrimmed_trim l).trim_append
  . intro c hc
    exact (List.mem_append.mp hc).elim (hbefore c) (hfirst c)
  . intro c hc
    exact (List.mem_append.mp hc).elim (hlast c) (hafter c)

theorem trim_eq_self_iff : trim l = l ↔ IsTrimmed l := by
  constructor
  . intro h
    rw [← h]
    exact isTrimmed_trim l
  . intro h
    have hall : trim ([] ++ l ++ []) = l := h.trim_append (by simp) (by simp)
    simpa using hall

theorem trim_eq_nil_iff : trim l = [] ↔ ∀ c ∈ l, isBlank c := by
  constructor
  . intro h c hc
    obtain ⟨before, after, hbefore, hafter, hl⟩ := exists_eq_append_trim l
    rw [hl, h, List.append_nil, List.mem_append] at hc
    exact hc.elim (hbefore c) (hafter c)
  . intro h
    have hnil : IsTrimmed [] := ⟨by simp, by simp⟩
    have hall : trim (l ++ [] ++ []) = [] := hnil.trim_append h (by simp)
    simpa using hall

theorem mem_trim {c : Char} (h : c ∈ l) (hc : ¬ isBlank c) : c ∈ trim l := by
  obtain ⟨before, after, hbefore, hafter, hl⟩ := exists_eq_append_trim l
  rw [hl, List.mem_append, List.mem_append] at h
  rcases h with (h | h) | h
  . exact absurd (hbefore c h) hc
  . exact h
  . exact absurd (hafter c h) hc

end KubePlugin
