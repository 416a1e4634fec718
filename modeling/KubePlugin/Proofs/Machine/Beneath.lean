import KubePlugin.Proofs.Machine.Rooted

namespace KubePlugin

theorem RawText.splitBytes_of_not_mem {b : UInt8} {part : List UInt8} (h : b ∉ part) :
    splitBytes b part = [part] := by
  induction part with
  | nil => rfl
  | cons x part ih =>
    rw [List.mem_cons, not_or] at h
    rw [splitBytes, if_neg (Ne.symm h.1), ih h.2]

namespace Machine.Files

variable {fs fs' : Files} {ws loc here : Location} {name folder : RawText} {path : Path}
  {last : Bool} {spot : Spot} {now : Time}

namespace IsPathName

theorem isAbsolute_eq (h : IsPathName name) : Path.isAbsolute name = false := by
  unfold Path.isAbsolute
  rw [decide_eq_false_iff_not]
  intro hhead
  exact h.not_mem (List.mem_of_head? hhead)

theorem endsInSlash_eq (h : IsPathName name) : Path.endsInSlash name = false := by
  unfold Path.endsInSlash
  rw [decide_eq_false_iff_not]
  intro hlast
  exact h.not_mem (List.mem_of_getLast? hlast)

theorem isEmpty_eq (h : IsPathName name) : name.isEmpty = false := by
  simpa [RawText.isEmpty] using h.ne_nil

theorem parts_eq (h : IsPathName name) : Path.parts name = [name] := by
  unfold Path.parts
  rw [RawText.splitBytes_of_not_mem h.not_mem]
  exact filterMap_pathNames (List.forall_mem_singleton.mpr h)

theorem steps_eq (h : IsPathName name) : steps name = [name] := by
  have hdot : Path.endsInDot name = false := by
    unfold Path.endsInDot
    rw [RawText.splitBytes_of_not_mem h.not_mem, decide_eq_false_iff_not]
    simpa using h.ne_dot
  rw [steps, h.parts_eq, hdot]
  rfl

theorem bytes_join (hfolder : IsPathName folder) (hname : IsPathName name) :
    (Path.join folder name).bytes = folder.bytes ++ Path.slash :: name.bytes := by
  unfold Path.join
  rw [hname.isAbsolute_eq, hfolder.isEmpty_eq, hfolder.endsInSlash_eq]
  exact List.append_assoc folder.bytes [Path.slash] name.bytes

theorem isAbsolute_join_eq (hfolder : IsPathName folder) (hname : IsPathName name) :
    Path.isAbsolute (Path.join folder name) = false := by
  rw [Path.isAbsolute_join, hfolder.isAbsolute_eq, hname.isAbsolute_eq]
  rfl

theorem steps_join (hfolder : IsPathName folder) (hname : IsPathName name) :
    steps (Path.join folder name) = [folder, name] := by
  have hsplit : RawText.splitBytes Path.slash (Path.join folder name).bytes
      = [folder.bytes, name.bytes] := by
    rw [bytes_join hfolder hname, RawText.splitBytes_append hfolder.not_mem,
      RawText.splitBytes_of_not_mem hname.not_mem]
  have hparts : Path.parts (Path.join folder name) = [folder, name] := by
    unfold Path.parts
    rw [hsplit]
    exact filterMap_pathNames
      (List.forall_mem_cons.mpr ⟨hfolder, List.forall_mem_singleton.mpr hname⟩)
  have hdot : Path.endsInDot (Path.join folder name) = false := by
    unfold Path.endsInDot
    rw [hsplit, decide_eq_false_iff_not]
    simpa using hname.ne_dot
  rw [steps, hparts, hdot]
  rfl

end IsPathName

theorem walk_last {links : Nat} (hname : IsName name)
    (h : ∀ target time, fs.get? (loc ++ [name]) = some ⟨.link target, time⟩ → last = false) :
    fs.walk last links loc [name] = .ok (fs.spotAt (loc ++ [name])) := by
  cases links with
  | zero => exact walkWith_last hname h
  | succ links => exact walkWith_last hname h

theorem walk_of_folder {links : Nat} {names : List RawText} {time : Time} (hname : IsName name)
    (h : fs.get? (loc ++ [name]) = some ⟨.folder, time⟩) :
    fs.walk last links loc (name :: names) = fs.walk last links (loc ++ [name]) names := by
  cases links with
  | zero => exact walkWith_of_folder hname h
  | succ links => exact walkWith_of_folder hname h

theorem walk_of_none {links : Nat} {names : List RawText} (hname : IsName name)
    (h : fs.get? (loc ++ [name]) = none) (hnames : names ≠ []) :
    fs.walk last links loc (name :: names) = .error .notFound := by
  cases links with
  | zero => exact (walkWith_of_none hname h).trans (if_neg hnames)
  | succ links => exact (walkWith_of_none hname h).trans (if_neg hnames)

theorem resolve_name (here : Location) (h : fs.IsRooted ws) (hname : IsPathName name)
    (hlink : ∀ target time, fs.get? (ws ++ [name]) = some ⟨.link target, time⟩ → last = false) :
    fs.resolve here last (Path.join (Shell.pathOf ws) name) = .ok (fs.spotAt (ws ++ [name]))
      ∨ fs.resolve here last (Path.join (Shell.pathOf ws) name) = .error .nameTooLong := by
  by_cases hlong : 4096 ≤ (Path.join (Shell.pathOf ws) name).bytes.length
  . have hempty : (Path.join (Shell.pathOf ws) name).isEmpty ≠ true := by
      simpa [RawText.isEmpty] using Path.bytes_join_ne_nil hname.ne_nil
    exact .inr ((if_neg hempty).trans (if_pos hlong))
  . left
    rw [resolve_join_pathOf_iff h hname.isAbsolute_eq hname.isEmpty_eq hname.endsInSlash_eq,
      hname.steps_eq]
    exact ⟨Nat.lt_of_not_le hlong, walk_last hname.toIsName hlink⟩

def IsFolderIfAny (fs : Files) (loc : Location) : Prop :=
  ∀ entry, fs.get? loc = some entry → entry.node = .folder

theorem resolve_in_folder (h : fs.IsRooted ws) (hfolder : IsPathName folder)
    (hname : IsPathName name) (hany : fs.IsFolderIfAny (ws ++ [folder]))
    (hopen : fs.IsOpen (ws ++ [folder, name]))
    (hresolve : fs.resolve here last (Path.join (Shell.pathOf ws) (Path.join folder name))
      = .ok spot) :
    spot = fs.spotAt (ws ++ [folder, name]) := by
  have hempty : (Path.join folder name).isEmpty = false := by
    simpa [RawText.isEmpty] using Path.bytes_join_ne_nil hname.ne_nil
  have hslash : Path.endsInSlash (Path.join folder name) = false := by
    rw [Path.endsInSlash_join hname.ne_nil, hname.endsInSlash_eq]
  rw [resolve_join_pathOf_iff h (hfolder.isAbsolute_join_eq hname) hempty hslash,
    hfolder.steps_join hname] at hresolve
  obtain ⟨_, hwalk⟩ := hresolve
  cases hentry : fs.get? (ws ++ [folder]) with
  | none =>
    rw [walk_of_none hfolder.toIsName hentry (List.cons_ne_nil _ _)] at hwalk
    contradiction
  | some entry =>
    obtain ⟨node, time⟩ := entry
    obtain rfl : node = .folder := hany _ hentry
    have happend : ws ++ [folder] ++ [name] = ws ++ [folder, name] := by simp
    have hlink : ∀ target time, fs.get? (ws ++ [folder] ++ [name]) = some ⟨.link target, time⟩ →
        last = false := by
      intro target time hentry
      rw [happend] at hentry
      obtain ⟨content, mode, hfile⟩ := hopen _ hentry
      contradiction
    rw [walk_of_folder hfolder.toIsName hentry, walk_last hname.toIsName hlink, happend] at hwalk
    injection hwalk with hspot
    exact hspot.symm

theorem join_pathOf (h : ∀ name ∈ ws, IsPathName name) (hname : IsPathName name) :
    Path.join (Shell.pathOf ws) name = Shell.pathOf (ws ++ [name]) := by
  have hall : ∀ part ∈ ws ++ [name], IsPathName part := by
    intro part hpart
    rcases List.mem_append.mp hpart with hpart | hpart
    . exact h part hpart
    . rw [List.mem_singleton.mp hpart]
      exact hname
  have hjoin : leadingTo ws ++ name.bytes
      = [Path.slash].intercalate ((ws ++ [name]).map RawText.bytes) := by
    have hsame : leadingTo ws ++ name.bytes ++ [Path.slash]
        = [Path.slash].intercalate ((ws ++ [name]).map RawText.bytes) ++ [Path.slash] := by
      have hlead : leadingTo (ws ++ [name]) = leadingTo ws ++ name.bytes ++ [Path.slash] := by
        simp [leadingTo]
      cases ws with
      | nil => simp [leadingTo]
      | cons first rest =>
        rw [← hlead]
        exact (intercalate_append_slash first (rest ++ [name])).symm
    exact List.append_cancel_right hsame
  have hbytes := bytes_join_pathOf h hname.isAbsolute_eq
  rw [hjoin] at hbytes
  exact congrArg RawText.mk hbytes

theorem exists_folder_of_isFolder (h : fs.IsRooted ws) (hname : IsPathName name)
    (hany : fs.IsFolderIfAny (ws ++ [name]))
    (hfolder : fs.isFolder here (Path.join (Shell.pathOf ws) name) = true) :
    ∃ time, fs.get? (ws ++ [name]) = some ⟨.folder, time⟩ := by
  have hlink : ∀ target time, fs.get? (ws ++ [name]) = some ⟨.link target, time⟩ →
      true = false := by
    intro target time hentry
    exact nomatch hany _ hentry
  unfold isFolder find at hfolder
  rcases resolve_name here h hname hlink with hresolve | hresolve
  . rw [hresolve] at hfolder
    cases hentry : fs.get? (ws ++ [name]) with
    | none => simp [spotAt_of_none hentry] at hfolder
    | some entry =>
      obtain ⟨node, time⟩ := entry
      obtain rfl : node = .folder := hany _ hentry
      exact ⟨time, rfl⟩
  . simp [hresolve] at hfolder

theorem makeFolder_name (here : Location) (now : Time) (h : fs.IsRooted ws)
    (hname : IsPathName name) :
    fs.makeFolder here now (Path.join (Shell.pathOf ws) name)
        = .ok (fs.put (ws ++ [name]) ⟨.folder, now⟩)
      ∨ ∃ e, e ≠ .notFound
        ∧ fs.makeFolder here now (Path.join (Shell.pathOf ws) name) = .error e := by
  have hlink : ∀ target time, fs.get? (ws ++ [name]) = some ⟨.link target, time⟩ →
      false = false := fun _ _ _ => rfl
  unfold makeFolder
  rcases resolve_name here h hname hlink with hresolve | hresolve
  . rw [hresolve]
    cases hentry : fs.get? (ws ++ [name]) with
    | none =>
      rw [spotAt_of_none hentry]
      exact .inl rfl
    | some entry =>
      rw [spotAt_of_some hentry]
      exact .inr ⟨_, by decide, rfl⟩
  . rw [hresolve]
    exact .inr ⟨_, by decide, rfl⟩

theorem makeFolderPath_name (h : fs.IsRooted ws) (hname : IsPathName name)
    (hany : fs.IsFolderIfAny (ws ++ [name]))
    (hmade : fs.makeFolderPath here now (Path.join (Shell.pathOf ws) name) = .ok fs') :
    (∃ time, fs'.get? (ws ++ [name]) = some ⟨.folder, time⟩)
      ∧ ∀ loc, loc ≠ ws ++ [name] → fs'.get? loc = fs.get? loc := by
  have hpath : ofParts true (ws.reverse.reverse ++ [name]) = Path.join (Shell.pathOf ws) name := by
    rw [List.reverse_reverse, join_pathOf h.names hname]
    rfl
  rw [makeFolderPath, isAbsolute_join_pathOf h.names hname.isAbsolute_eq,
    parts_join_pathOf h.names hname.isAbsolute_eq, hname.parts_eq, List.reverse_append,
    List.reverse_singleton, List.singleton_append, makeFolders, hpath] at hmade
  rcases makeFolder_name here now h hname with hput | ⟨e, hne, herror⟩
  . rw [hput] at hmade
    injection hmade with hmade
    subst hmade
    have hne : ws ++ [name] ≠ [] := by simp
    exact ⟨⟨now, get?_put hne⟩, fun loc hloc => get?_put_of_ne hloc⟩
  . rw [herror] at hmade
    dsimp only at hmade
    rw [if_neg hne] at hmade
    split at hmade
    . next hfolder =>
      injection hmade with hmade
      subst hmade
      exact ⟨exists_folder_of_isFolder h hname hany hfolder, fun _ _ => rfl⟩
    . contradiction

theorem copy_same {source target : Path} {content : List UInt8} {mode : Nat} {time : Time}
    (hsource : fs.find here source = .ok (loc, ⟨.file content mode, time⟩))
    (hslash : Path.endsInSlash target = false)
    (htarget : fs.resolve here true target = .ok (fs.spotAt loc)) :
    fs.copy here now source target = .ok (fs.put loc ⟨.file [] mode, now⟩) := by
  have hentry := get?_of_find hsource
  have hopen : fs.IsOpen loc := by
    intro entry hentry'
    rw [hentry] at hentry'
    cases hentry'
    exact ⟨content, mode, rfl⟩
  obtain ⟨mode', hopened⟩ : ∃ mode', fs.openForWriting here now mode target
      = .ok (loc, fs.put loc ⟨.file [] mode', now⟩) := openForWriting_eq hslash htarget hopen
  unfold copy
  rw [hsource]
  dsimp only
  rw [hopened]
  dsimp only
  rw [get?_put hopen.ne_nil, setModeAt_put hopen.ne_nil, append, get?_put hopen.ne_nil]
  dsimp only
  rw [put_put, List.append_nil]

theorem exists_resolve_of_copy {source target : Path}
    (h : fs.copy here now source target = .ok fs') :
    ∃ spot, fs.resolve here true target = .ok spot := by
  obtain ⟨loc, content, mode, time, hsource⟩ := exists_file_of_copy h
  unfold copy at h
  rw [hsource] at h
  dsimp only at h
  cases hresolve : fs.resolve here true target with
  | ok spot => exact ⟨spot, rfl⟩
  | error e =>
    rw [openForWriting, hresolve] at h
    contradiction

theorem copy_open {source target : Path} {dest : Location}
    (hslash : Path.endsInSlash target = false)
    (hopen : fs.IsOpen dest)
    (htarget : ∀ spot, fs.resolve here true target = .ok spot → spot = fs.spotAt dest)
    (h : fs.copy here now source target = .ok fs') :
    ∃ loc content mode time, fs.find here source = .ok (loc, ⟨.file content mode, time⟩)
      ∧ fs' = fs.put dest ⟨.file (if loc = dest then [] else content) mode, now⟩ := by
  obtain ⟨loc, content, mode, time, hsource⟩ := exists_file_of_copy h
  obtain ⟨spot, hresolve⟩ := exists_resolve_of_copy h
  rw [htarget spot hresolve] at hresolve
  refine ⟨loc, content, mode, time, hsource, ?_⟩
  by_cases heq : loc = dest
  . subst heq
    rw [copy_same hsource hslash hresolve] at h
    injection h with h
    rw [if_pos rfl, h]
  . rw [copy_eq hsource hslash hresolve hopen (Ne.symm heq)] at h
    injection h with h
    rw [if_neg heq, h]

end Machine.Files

end KubePlugin
