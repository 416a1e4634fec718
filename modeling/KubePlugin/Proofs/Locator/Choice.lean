import KubePlugin.Proofs.Locator.MostRecent

namespace KubePlugin

namespace Time

def inNanos (t : Time) : Int := t.seconds * 1000000000 + t.nanos

theorem isBefore_iff_inNanos_lt {s t : Time} (hs : s.nanos < 1000000000)
    (ht : t.nanos < 1000000000) : s.IsBefore t ↔ s.inNanos < t.inNanos := by
  unfold IsBefore inNanos
  omega

theorem eq_of_not_isBefore {s t : Time} (hs : ¬ s.IsBefore t) (ht : ¬ t.IsBefore s) : s = t := by
  obtain ⟨seconds, nanos⟩ := s
  obtain ⟨seconds', nanos'⟩ := t
  unfold IsBefore at hs ht
  dsimp only at hs ht
  rw [mk.injEq]
  omega

end Time

namespace Candidate

variable {xs ys : List Candidate} {c d : Candidate}

def choice : Option Candidate → Option Candidate → Option Candidate
  | some c, some d => if c.modified.IsBefore d.modified then some d else some c
  | some c, none => some c
  | none, second => second

theorem choice_none (a : Option Candidate) : choice a none = a := by
  cases a with
  | none => rfl
  | some c => rfl

theorem newer_eq_choice (best : Option Candidate) (next : Candidate) :
    newer best next = choice best (some next) := by
  cases best with
  | none => rfl
  | some b =>
    unfold newer choice
    dsimp only
    rw [← ite_not]
    simp only [← Time.not_isBefore_iff, not_not]

theorem choice_assoc (a b c : Option Candidate) :
    choice (choice a b) c = choice a (choice b c) := by
  cases a with
  | none => rfl
  | some x =>
    cases b with
    | none => rfl
    | some y =>
      cases c with
      | none => rw [choice_none, choice_none]
      | some z =>
        unfold choice
        dsimp only
        by_cases hxy : x.modified.IsBefore y.modified
        . by_cases hyz : y.modified.IsBefore z.modified
          . simp [hxy, hyz, hxy.trans hyz]
          . simp [hxy, hyz]
        . by_cases hyz : y.modified.IsBefore z.modified
          . simp [hxy, hyz]
          . have hxz : ¬ x.modified.IsBefore z.modified := by
              intro hxz
              exact hyz (.of_le (Time.not_isBefore_iff.mp hxy) hxz)
            simp [hxy, hyz, hxz]

theorem mostRecent_append (xs ys : List Candidate) :
    mostRecent (xs ++ ys) = choice (mostRecent xs) (mostRecent ys) := by
  induction ys using List.reverseRecOn with
  | nil =>
    rw [List.append_nil]
    exact (choice_none _).symm
  | append_singleton ys next ih =>
    rw [← List.append_assoc, mostRecent_concat, ih, mostRecent_concat, newer_eq_choice,
      newer_eq_choice, choice_assoc]

/-- The place of the first of the candidates with the latest time. -/
structure WinsAt (xs : List Candidate) (c : Candidate) (i : Nat) : Prop where
  isAt : xs[i]? = some c
  newer : ∀ j d, j < i → xs[j]? = some d → d.modified.IsBefore c.modified
  newest : ∀ d ∈ xs, ¬ c.modified.IsBefore d.modified

theorem WinsAt.exists_parts {i : Nat} (h : WinsAt xs c i) :
    ∃ front rest, xs = front ++ c :: rest ∧ front.length = i
      ∧ (∀ d ∈ front, d.modified.IsBefore c.modified) ∧ ∀ d ∈ rest, d.modified ≤ c.modified := by
  obtain ⟨hi, hc⟩ := List.getElem?_eq_some_iff.mp h.isAt
  have hsplit : xs = xs.take i ++ c :: xs.drop (i + 1) := by
    rw [← hc, ← List.drop_eq_getElem_cons hi, List.take_append_drop]
  refine ⟨xs.take i, xs.drop (i + 1), hsplit, List.length_take_of_le (Nat.le_of_lt hi), ?_, ?_⟩
  . intro d hd
    obtain ⟨j, hj, hd⟩ := List.mem_take_iff_getElem.mp hd
    exact h.newer j d (by omega) (List.getElem?_eq_some_iff.mpr ⟨by omega, hd⟩)
  . intro d hd
    exact Time.not_isBefore_iff.mp (h.newest d (List.mem_of_mem_drop hd))

theorem winsAt_of_parts {front rest : List Candidate}
    (hfront : ∀ d ∈ front, d.modified.IsBefore c.modified)
    (hrest : ∀ d ∈ rest, d.modified ≤ c.modified) :
    WinsAt (front ++ c :: rest) c front.length where
  isAt := by simp
  newer j d hj hd := by
    rw [List.getElem?_append_left hj] at hd
    exact hfront d (List.mem_of_getElem? hd)
  newest _ hd := IsFirstNewest.not_isBefore ⟨front, rest, rfl, hfront, hrest⟩ hd

theorem mostRecent_eq_some_iff_winsAt : mostRecent xs = some c ↔ ∃ i, WinsAt xs c i := by
  rw [mostRecent_eq_some_iff]
  constructor
  . rintro ⟨front, rest, rfl, hfront, hrest⟩
    exact ⟨front.length, winsAt_of_parts hfront hrest⟩
  . rintro ⟨i, h⟩
    obtain ⟨front, rest, hxs, _, hfront, hrest⟩ := h.exists_parts
    exact ⟨front, rest, hxs, hfront, hrest⟩

theorem mem_of_mostRecent (h : mostRecent xs = some c) : c ∈ xs := by
  obtain ⟨i, hwins⟩ := mostRecent_eq_some_iff_winsAt.mp h
  exact List.mem_of_getElem? hwins.isAt

theorem not_isBefore_of_mostRecent (h : mostRecent xs = some c) (hd : d ∈ xs) :
    ¬ c.modified.IsBefore d.modified := by
  obtain ⟨i, hwins⟩ := mostRecent_eq_some_iff_winsAt.mp h
  exact hwins.newest d hd

theorem WinsAt.mostRecent_eraseIdx {i j : Nat} (h : WinsAt xs c i) (hne : j ≠ i) :
    mostRecent (xs.eraseIdx j) = some c := by
  obtain ⟨front, rest, rfl, rfl, hfront, hrest⟩ := h.exists_parts
  rw [mostRecent_eq_some_iff]
  rcases Nat.lt_or_gt_of_ne hne with hj | hj
  . rw [List.eraseIdx_append_of_lt_length hj]
    exact ⟨front.eraseIdx j, rest, rfl, fun d hd => hfront d (List.mem_of_mem_eraseIdx hd), hrest⟩
  . obtain ⟨k, hk⟩ : ∃ k, j - front.length = k + 1 := ⟨j - front.length - 1, by omega⟩
    rw [List.eraseIdx_append_of_length_le (Nat.le_of_lt hj), hk, List.eraseIdx_cons_succ]
    exact ⟨front, rest.eraseIdx k, rfl, hfront, fun d hd => hrest d (List.mem_of_mem_eraseIdx hd)⟩

theorem mostRecent_append_of_subset (h : ys ⊆ xs) : mostRecent (xs ++ ys) = mostRecent xs := by
  rw [mostRecent_append]
  cases hys : mostRecent ys with
  | none => rw [choice_none]
  | some d =>
    have hd : d ∈ xs := h (mem_of_mostRecent hys)
    cases hxs : mostRecent xs with
    | none =>
      rw [mostRecent_eq_none_iff.mp hxs] at hd
      contradiction
    | some c =>
      unfold choice
      dsimp only
      rw [if_neg (not_isBefore_of_mostRecent hxs hd)]

theorem mostRecent_perm (hdistinct : (xs.map modified).Nodup) (h : ys.Perm xs) :
    mostRecent ys = mostRecent xs := by
  cases hxs : mostRecent xs with
  | none =>
    rw [mostRecent_eq_none_iff.mp hxs] at h
    rw [h.eq_nil]
    rfl
  | some c =>
    cases hys : mostRecent ys with
    | none =>
      rw [mostRecent_eq_none_iff.mp hys] at h
      rw [h.symm.eq_nil] at hxs
      contradiction
    | some d =>
      have hc := mem_of_mostRecent hxs
      have hd := h.subset (mem_of_mostRecent hys)
      have htimes : d.modified = c.modified :=
        Time.eq_of_not_isBefore (not_isBefore_of_mostRecent hys (h.symm.subset hc))
          (not_isBefore_of_mostRecent hxs hd)
      rw [List.inj_on_of_nodup_map hdistinct hd hc htimes]

end Candidate

namespace Locator

theorem candidates_append (roots more : List Path) (files : FileView) :
    candidates ⟨none, roots ++ more⟩ files
      =
    candidates ⟨none, roots⟩ files ++ candidates ⟨none, more⟩ files := by
  unfold candidates
  rw [List.flatMap_append, List.filterMap_append]

theorem candidates_subset {roots : List Path} {root : Path} (h : root ∈ roots)
    (files : FileView) : candidates ⟨none, [root]⟩ files ⊆ candidates ⟨none, roots⟩ files := by
  unfold candidates
  apply List.filterMap_subset
  intro path hpath
  rw [List.flatMap_singleton] at hpath
  exact List.mem_flatMap.mpr ⟨root, h, hpath⟩

theorem neonCli_named_again {roots : List Path} {root : Path} (h : root ∈ roots)
    (more : List Path) (files : FileView) :
    neonCli ⟨none, roots ++ root :: more⟩ files = neonCli ⟨none, roots ++ more⟩ files := by
  have hchosen : Candidate.mostRecent (candidates ⟨none, roots ++ root :: more⟩ files)
      = Candidate.mostRecent (candidates ⟨none, roots ++ more⟩ files) := by
    rw [← List.singleton_append, ← List.append_assoc, candidates_append, candidates_append,
      Candidate.mostRecent_append, Candidate.mostRecent_append_of_subset
        (candidates_subset h files), ← Candidate.mostRecent_append, ← candidates_append]
  unfold neonCli
  dsimp only
  rw [hchosen]

end Locator

namespace Candidate

/-- The choice from a list is made between those from its parts, and is the first of the latest of
all; there is none only in an empty list. So it stays when another candidate is left out, when
earlier ones are repeated, as those below a checkout that is named twice, and when candidates of
different times change places. Times are compared to the nanosecond. -/
theorem mostRecent_firstNewest (xs ys : List Candidate) :
    mostRecent (xs ++ ys) = choice (mostRecent xs) (mostRecent ys)
      ∧ (mostRecent xs = none ↔ xs = [])
      ∧ (∀ c, mostRecent xs = some c ↔ ∃ i, WinsAt xs c i)
      ∧ (∀ c i j, WinsAt xs c i → j ≠ i → mostRecent (xs.eraseIdx j) = mostRecent xs)
      ∧ (∀ again, again ⊆ xs → mostRecent (xs ++ again ++ ys) = mostRecent (xs ++ ys))
      ∧ (∀ roots root more files, root ∈ roots →
        Locator.neonCli ⟨none, roots ++ root :: more⟩ files
          = Locator.neonCli ⟨none, roots ++ more⟩ files)
      ∧ ((xs.map modified).Nodup → ys.Perm xs → mostRecent ys = mostRecent xs)
      ∧ ∀ s t : Time, s.nanos < 1000000000 → t.nanos < 1000000000 →
        (s.IsBefore t ↔ s.inNanos < t.inNanos) := by
  refine ⟨mostRecent_append xs ys, mostRecent_eq_none_iff,
    fun c => mostRecent_eq_some_iff_winsAt, ?_, ?_, ?_, mostRecent_perm, ?_⟩
  . intro c i j h hne
    rw [h.mostRecent_eraseIdx hne, mostRecent_eq_some_iff_winsAt.mpr ⟨i, h⟩]
  . intro again h
    rw [mostRecent_append, mostRecent_append_of_subset h, ← mostRecent_append]
  . intro roots root more files h
    exact Locator.neonCli_named_again h more files
  . intro s t hs ht
    exact Time.isBefore_iff_inNanos_lt hs ht

def threeBuilds : List Candidate :=
  [⟨"/a", ⟨-2, 999999999⟩⟩, ⟨"/b", ⟨-1, 1⟩⟩, ⟨"/c", ⟨-1, 0⟩⟩]

def oldRoots : List Path := ["/nc", "/nk"]

theorem mostRecent_firstNewest_threeBuilds :
    WinsAt threeBuilds ⟨"/b", ⟨-1, 1⟩⟩ 1
      ∧ mostRecent (threeBuilds.eraseIdx 0) = mostRecent threeBuilds
      ∧ mostRecent (threeBuilds ++ [⟨"/b", ⟨-1, 1⟩⟩] ++ threeBuilds.reverse)
        = mostRecent (threeBuilds ++ threeBuilds.reverse)
      ∧ Locator.neonCli ⟨none, oldRoots ++ ("/nc" : Path) :: oldRoots⟩ Locator.oldBuilds
        = Locator.neonCli ⟨none, oldRoots ++ oldRoots⟩ Locator.oldBuilds
      ∧ mostRecent threeBuilds.reverse = mostRecent threeBuilds
      ∧ Time.IsBefore ⟨-2, 999999999⟩ ⟨-1, 0⟩ := by
  obtain ⟨_, _, _, herase, hagain, hnamed, hperm, htimes⟩ :=
    mostRecent_firstNewest threeBuilds threeBuilds.reverse
  have hwins : WinsAt ([⟨"/a", ⟨-2, 999999999⟩⟩] ++ ⟨"/b", ⟨-1, 1⟩⟩ :: [⟨"/c", ⟨-1, 0⟩⟩])
      ⟨"/b", ⟨-1, 1⟩⟩ 1 := winsAt_of_parts (by decide) (by decide)
  exact ⟨hwins, herase _ 1 0 hwins (by decide), hagain _ (by decide),
    hnamed oldRoots "/nc" oldRoots Locator.oldBuilds (by decide),
    hperm (by decide) (List.reverse_perm _), (htimes _ _ (by decide) (by decide)).mpr (by decide)⟩

end Candidate

end KubePlugin
