import KubePlugin.Machine.Shell.Expand
import KubePlugin.Proofs.Machine.Growth

namespace KubePlugin

namespace RawText

theorem splitBytes_ne_nil (b : UInt8) (bytes : List UInt8) : splitBytes b bytes ≠ [] := by
  cases bytes with
  | nil => simp [splitBytes]
  | cons x rest =>
    unfold splitBytes
    split
    . simp
    . split <;> simp

theorem splitBytes_append {b : UInt8} {part : List UInt8} (h : b ∉ part) (rest : List UInt8) :
    splitBytes b (part ++ b :: rest) = part :: splitBytes b rest := by
  induction part with
  | nil => simp [splitBytes]
  | cons x part ih =>
    rw [List.mem_cons, not_or] at h
    rw [List.cons_append, splitBytes, if_neg (Ne.symm h.1), ih h.2]

end RawText

namespace Machine.Files

structure IsPathName (name : RawText) : Prop extends IsName name where
  ne_nil : name.bytes ≠ []
  not_mem : Path.slash ∉ name.bytes

structure IsRooted (fs : Files) (loc : Location) : Prop where
  names : ∀ name ∈ loc, IsPathName name
  folders : ∀ front, front <+: loc → ∃ time, fs.get? front = some ⟨.folder, time⟩

theorem Extends.isRooted {fs fs' : Files} {loc : Location} (h : Extends fs fs')
    (hloc : fs.IsRooted loc) : fs'.IsRooted loc where
  names := hloc.names
  folders front hfront := by
    obtain ⟨time, hfolder⟩ := hloc.folders front hfront
    exact ⟨time, h.keeps hfolder⟩

variable {fs : Files} {loc here : Location} {path : Path} {last : Bool} {spot : Spot}

theorem walkWith_rooted {follow : Location → Path → List RawText → Except IoError Spot}
    (names : List RawText) {base more : Location} (h : fs.IsRooted (base ++ more)) :
    fs.walkWith last follow base (more ++ names)
      =
    fs.walkWith last follow (base ++ more) names := by
  induction more generalizing base with
  | nil => simp
  | cons name more ih =>
    have happend : base ++ name :: more = base ++ [name] ++ more := by simp
    rw [happend] at h ⊢
    obtain ⟨time, hfolder⟩ := h.folders (base ++ [name]) (List.prefix_append _ _)
    have hname : IsPathName name := h.names name (by simp)
    rw [List.cons_append, walkWith_of_folder hname.toIsName hfolder]
    exact ih h

theorem walk_rooted {links : Nat} (names : List RawText) (h : fs.IsRooted loc) :
    fs.walk last links [] (loc ++ names) = fs.walk last links loc names := by
  cases links with
  | zero => exact walkWith_rooted names (h : fs.IsRooted ([] ++ loc))
  | succ links => exact walkWith_rooted names (h : fs.IsRooted ([] ++ loc))

def leadingTo (loc : Location) : List UInt8 := loc.flatMap fun name => name.bytes ++ [Path.slash]

theorem splitBytes_leadingTo {rest : List UInt8} (h : ∀ name ∈ loc, IsPathName name) :
    RawText.splitBytes Path.slash (leadingTo loc ++ rest)
      =
    loc.map RawText.bytes ++ RawText.splitBytes Path.slash rest := by
  induction loc with
  | nil => rfl
  | cons name loc ih =>
    rw [List.forall_mem_cons] at h
    rw [leadingTo, List.flatMap_cons, List.append_assoc, List.append_assoc, List.singleton_append,
      RawText.splitBytes_append h.1.not_mem]
    exact congrArg _ (ih h.2)

theorem intercalate_cons (first second : RawText) (loc : Location) :
    [Path.slash].intercalate ((first :: second :: loc).map RawText.bytes)
      =
    first.bytes ++ Path.slash :: [Path.slash].intercalate ((second :: loc).map RawText.bytes) := by
  simp

theorem intercalate_append_slash (first : RawText) (loc : Location) :
    [Path.slash].intercalate ((first :: loc).map RawText.bytes) ++ [Path.slash]
      =
    leadingTo (first :: loc) := by
  induction loc generalizing first with
  | nil => simp [leadingTo]
  | cons second loc ih =>
    rw [intercalate_cons, List.append_assoc, List.cons_append, ih]
    simp [leadingTo]

theorem getLast?_intercalate {first : RawText} (h : ∀ name ∈ first :: loc, IsPathName name) :
    ∃ b, ([Path.slash].intercalate ((first :: loc).map RawText.bytes)).getLast? = some b
      ∧ b ≠ Path.slash := by
  induction loc generalizing first with
  | nil =>
    have hfirst : IsPathName first := h first (by simp)
    refine ⟨first.bytes.getLast hfirst.ne_nil, ?_, ?_⟩
    . simp [List.getLast?_eq_some_getLast hfirst.ne_nil]
    . intro heq
      exact hfirst.not_mem (heq ▸ List.getLast_mem hfirst.ne_nil)
  | cons second loc ih =>
    obtain ⟨b, hb, hne⟩ := ih fun name hname => h name (List.mem_cons_of_mem _ hname)
    refine ⟨b, ?_, hne⟩
    rw [intercalate_cons, List.getLast?_append, List.getLast?_cons, hb]
    rfl

theorem bytes_join_pathOf (h : ∀ name ∈ loc, IsPathName name)
    (hrelative : Path.isAbsolute path = false) :
    (Path.join (Shell.pathOf loc) path).bytes = Path.slash :: (leadingTo loc ++ path.bytes) := by
  have hroot : (Shell.pathOf loc).bytes
      = Path.slash :: [Path.slash].intercalate (loc.map RawText.bytes) := by
    simp [Shell.pathOf, ofParts]
  have hempty : (Shell.pathOf loc).isEmpty = false := by simp [RawText.isEmpty, hroot]
  unfold Path.join
  rw [if_neg (by simp [hrelative]), hempty, Bool.false_or]
  cases loc with
  | nil =>
    have hslash : Path.endsInSlash (Shell.pathOf []) = true := by simp [Path.endsInSlash, hroot]
    rw [if_pos hslash, RawText.bytes_append, hroot]
    rfl
  | cons first loc =>
    obtain ⟨b, hb, hne⟩ := getLast?_intercalate h
    have hslash : Path.endsInSlash (Shell.pathOf (first :: loc)) = false := by
      simp only [Path.endsInSlash, hroot, List.getLast?_cons, hb]
      simpa using hne
    have hsep : (RawText.ofString "/").bytes = [Path.slash] := by decide
    rw [if_neg (by simp [hslash]), RawText.bytes_append, RawText.bytes_append, hroot, hsep,
      List.cons_append, intercalate_append_slash, List.cons_append]

theorem filterMap_pathNames (h : ∀ name ∈ loc, IsPathName name) :
    (loc.map RawText.bytes).filterMap
        (fun b => if b = [] ∨ RawText.mk b = Path.dot then none else some ⟨b⟩)
      =
    loc := by
  induction loc with
  | nil => rfl
  | cons name loc ih =>
    rw [List.forall_mem_cons] at h
    rw [List.map_cons, List.filterMap_cons,
      if_neg (not_or.mpr ⟨h.1.ne_nil, h.1.ne_dot⟩)]
    exact congrArg _ (ih h.2)

theorem splitBytes_join_pathOf (h : ∀ name ∈ loc, IsPathName name)
    (hrelative : Path.isAbsolute path = false) :
    RawText.splitBytes Path.slash (Path.join (Shell.pathOf loc) path).bytes
      =
    [] :: (loc.map RawText.bytes ++ RawText.splitBytes Path.slash path.bytes) := by
  rw [bytes_join_pathOf h hrelative, ← splitBytes_leadingTo h]
  exact RawText.splitBytes_append List.not_mem_nil _

theorem parts_join_pathOf (h : ∀ name ∈ loc, IsPathName name)
    (hrelative : Path.isAbsolute path = false) :
    Path.parts (Path.join (Shell.pathOf loc) path) = loc ++ Path.parts path := by
  unfold Path.parts
  rw [splitBytes_join_pathOf h hrelative, List.filterMap_cons_none (by simp),
    List.filterMap_append, filterMap_pathNames h]

theorem steps_join_pathOf (h : ∀ name ∈ loc, IsPathName name)
    (hrelative : Path.isAbsolute path = false) :
    steps (Path.join (Shell.pathOf loc) path) = loc ++ steps path := by
  have hdot : Path.endsInDot (Path.join (Shell.pathOf loc) path) = Path.endsInDot path := by
    unfold Path.endsInDot
    rw [splitBytes_join_pathOf h hrelative, ← List.cons_append, List.getLast?_append,
      List.getLast?_eq_some_getLast (RawText.splitBytes_ne_nil _ _)]
    rfl
  rw [steps, steps, parts_join_pathOf h hrelative, hdot, List.append_assoc]

theorem isAbsolute_join_pathOf (h : ∀ name ∈ loc, IsPathName name)
    (hrelative : Path.isAbsolute path = false) :
    Path.isAbsolute (Path.join (Shell.pathOf loc) path) = true := by
  simp [Path.isAbsolute, bytes_join_pathOf h hrelative]

theorem resolve_join_pathOf_iff (h : fs.IsRooted loc) (hrelative : Path.isAbsolute path = false)
    (hempty : path.isEmpty = false) (hslash : Path.endsInSlash path = false) :
    fs.resolve here last (Path.join (Shell.pathOf loc) path) = .ok spot
      ↔
    (Path.join (Shell.pathOf loc) path).bytes.length < 4096
      ∧ fs.walk last linkLimit loc (steps path) = .ok spot := by
  have hne : path.bytes ≠ [] := by simpa [RawText.isEmpty] using hempty
  have hjoined : (Path.join (Shell.pathOf loc) path).isEmpty = false := by
    simpa [RawText.isEmpty] using Path.bytes_join_ne_nil hne
  rw [resolve_eq_ok_iff (by rw [Path.endsInSlash_join hne, hslash]),
    if_pos (isAbsolute_join_pathOf h.names hrelative), steps_join_pathOf h.names hrelative,
    walk_rooted _ h]
  exact and_iff_right hjoined

theorem resolve_of_join_pathOf (h : fs.IsRooted loc) (hrelative : Path.isAbsolute path = false)
    (hempty : path.isEmpty = false) (hslash : Path.endsInSlash path = false)
    (hresolve : fs.resolve here last (Path.join (Shell.pathOf loc) path) = .ok spot) :
    fs.resolve loc last path = .ok spot := by
  obtain ⟨hlength, hwalk⟩ := (resolve_join_pathOf_iff h hrelative hempty hslash).mp hresolve
  rw [bytes_join_pathOf h.names hrelative, List.length_cons, List.length_append] at hlength
  rw [resolve_eq_ok_iff hslash, hrelative]
  exact ⟨hempty, by omega, hwalk⟩

end Machine.Files

end KubePlugin
