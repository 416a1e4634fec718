import KubePlugin.Machine.Files

/-!
This module contains what paths lead to when a tree of files grows: as long as folders and links
stay what they are and no links are added, a path that led to a place leads to the same place again.
-/

namespace KubePlugin.Machine

def Spot.loc : Spot → Location
  | .found loc _ => loc
  | .vacant loc => loc

def Node.SameKind (a b : Node) : Prop :=
  (a = .folder ↔ b = .folder) ∧ ∀ target, a = .link target ↔ b = .link target

def Entry.withMode (mode : Nat) (entry : Entry) : Entry :=
  match entry with
  | ⟨.file content _, time⟩ => ⟨.file content mode, time⟩
  | _ => entry

theorem Node.SameKind.refl (node : Node) : node.SameKind node := ⟨Iff.rfl, fun _ => Iff.rfl⟩

theorem Node.sameKind_file {content content' : List UInt8} {mode mode' : Nat} :
    (Node.file content mode).SameKind (.file content' mode') :=
  ⟨by simp, by simp⟩

theorem Entry.sameKind_withMode (mode : Nat) (entry : Entry) :
    entry.node.SameKind (entry.withMode mode).node := by
  obtain ⟨node, time⟩ := entry
  cases node with
  | file => exact Node.sameKind_file
  | _ => exact .refl _

namespace Files

variable {fs fs' fs'' : Files} {loc loc' here : Location} {entry entry' : Entry} {spot : Spot}
  {last : Bool} {path : Path} {now : Time}

theorem get?_nil : fs.get? [] = some ⟨.folder, ⟨0, 0⟩⟩ := rfl

theorem get?_eq_lookup (h : loc ≠ []) : fs.get? loc = fs.entries.lookup loc := if_neg h

theorem lookup_filter_ne (entries : List (Location × Entry)) (h : loc' ≠ loc) :
    (entries.filter fun e => e.1 ≠ loc).lookup loc' = entries.lookup loc' := by
  induction entries with
  | nil => rfl
  | cons e entries ih =>
    by_cases he : e.1 = loc
    . have hne : (loc' == e.1) = false := by simpa [he] using h
      rw [List.filter_cons_of_neg (by simp [he]), ih, List.lookup_cons, hne]
    . rw [List.filter_cons_of_pos (by simp [he]), List.lookup_cons, List.lookup_cons, ih]

theorem get?_put (h : loc ≠ []) : (fs.put loc entry).get? loc = some entry := by
  rw [get?_eq_lookup h]
  exact List.lookup_cons_self

theorem get?_put_of_ne (h : loc' ≠ loc) : (fs.put loc entry).get? loc' = fs.get? loc' := by
  unfold get?
  split
  . rfl
  . have hne : (loc' == loc) = false := by simpa using h
    unfold put
    rw [List.lookup_cons, hne]
    exact lookup_filter_ne _ h

theorem put_put (entry' : Entry) : (fs.put loc entry').put loc entry = fs.put loc entry := by
  unfold put
  rw [List.filter_cons_of_neg (by simp), List.filter_filter]
  simp

def spotAt (fs : Files) (loc : Location) : Spot :=
  match fs.get? loc with
  | some entry => .found loc entry
  | none => .vacant loc

theorem spotAt_of_some (h : fs.get? loc = some entry) : fs.spotAt loc = .found loc entry := by
  unfold spotAt
  rw [h]

theorem spotAt_of_none (h : fs.get? loc = none) : fs.spotAt loc = .vacant loc := by
  unfold spotAt
  rw [h]

theorem loc_spotAt (fs : Files) (loc : Location) : (fs.spotAt loc).loc = loc := by
  unfold spotAt
  split
  . rfl
  . rfl

theorem get?_of_spotAt_eq_found (h : fs.spotAt loc' = .found loc entry) :
    fs.get? loc = some entry := by
  unfold spotAt at h
  split at h
  . next hentry =>
    cases h
    exact hentry
  . contradiction

theorem get?_of_spotAt_eq_vacant (h : fs.spotAt loc' = .vacant loc) : fs.get? loc = none := by
  unfold spotAt at h
  split at h
  . contradiction
  . next hnone =>
    cases h
    exact hnone

/-- All that was there is of its kind still, and no link is new. -/
structure Grows (fs fs' : Files) : Prop where
  keeps : ∀ {loc entry}, fs.get? loc = some entry →
    ∃ entry', fs'.get? loc = some entry' ∧ entry.node.SameKind entry'.node
  not_link : ∀ {loc entry}, fs.get? loc = none → fs'.get? loc = some entry →
    ∀ target, entry.node ≠ .link target

theorem Grows.refl : Grows fs fs where
  keeps h := ⟨_, h, .refl _⟩
  not_link h h' := by
    rw [h] at h'
    contradiction

theorem Grows.trans (h : Grows fs fs') (h' : Grows fs' fs'') : Grows fs fs'' where
  keeps hentry := by
    obtain ⟨_, hentry', hkind⟩ := h.keeps hentry
    obtain ⟨entry'', hentry'', hkind'⟩ := h'.keeps hentry'
    exact ⟨entry'', hentry'', hkind.1.trans hkind'.1, fun target =>
      (hkind.2 target).trans (hkind'.2 target)⟩
  not_link {loc entry} hnone hentry target := by
    cases hmiddle : fs'.get? loc with
    | none => exact h'.not_link hmiddle hentry target
    | some middle =>
      obtain ⟨_, hentry', hkind⟩ := h'.keeps hmiddle
      rw [hentry] at hentry'
      injection hentry' with hentry'
      subst hentry'
      rw [ne_eq, ← hkind.2 target]
      exact h.not_link hnone hmiddle target

structure IsName (name : RawText) : Prop where
  ne_up : name ≠ upName
  ne_dot : name ≠ Path.dot
  length_le : name.bytes.length ≤ nameLimit

section

variable {follow follow' : Location → Path → List RawText → Except IoError Spot}
  {name : RawText} {rest : List RawText} {target : Path} {time : Time}

theorem walkWith_nil (h : fs.get? loc = some entry) :
    fs.walkWith last follow loc [] = .ok (fs.spotAt loc) := by
  unfold walkWith
  rw [h, spotAt_of_some h]

theorem walkWith_nil_of_none (h : fs.get? loc = none) :
    fs.walkWith last follow loc [] = .error .notFound := by
  unfold walkWith
  rw [h]

theorem walkWith_up :
    fs.walkWith last follow loc (upName :: rest) = fs.walkWith last follow loc.dropLast rest :=
  if_pos rfl

theorem walkWith_dot :
    fs.walkWith last follow loc (Path.dot :: rest) = fs.walkWith last follow loc rest :=
  (if_neg (by decide)).trans (if_pos rfl)

theorem walkWith_of_long (hup : name ≠ upName) (hdot : name ≠ Path.dot)
    (hlong : ¬ name.bytes.length ≤ nameLimit) :
    fs.walkWith last follow loc (name :: rest) = .error .nameTooLong :=
  (if_neg hup).trans ((if_neg hdot).trans (if_pos (Nat.lt_of_not_le hlong)))

theorem walkWith_of_isName (hname : IsName name) :
    fs.walkWith last follow loc (name :: rest)
      =
    match fs.get? (loc ++ [name]) with
    | none => if rest = [] then .ok (.vacant (loc ++ [name])) else .error .notFound
    | some ⟨.link target, time⟩ =>
      if rest = [] ∧ last = false then .ok (.found (loc ++ [name]) ⟨.link target, time⟩)
      else follow loc target rest
    | some ⟨.folder, _⟩ => fs.walkWith last follow (loc ++ [name]) rest
    | some entry =>
      if rest = [] then .ok (.found (loc ++ [name]) entry) else .error .notFolder :=
  (if_neg hname.ne_up).trans
    ((if_neg hname.ne_dot).trans (if_neg (Nat.not_lt.mpr hname.length_le)))

theorem walkWith_of_none (hname : IsName name) (h : fs.get? (loc ++ [name]) = none) :
    fs.walkWith last follow loc (name :: rest)
      =
    if rest = [] then .ok (.vacant (loc ++ [name])) else .error .notFound := by
  rw [walkWith_of_isName hname, h]

theorem walkWith_of_link (hname : IsName name)
    (h : fs.get? (loc ++ [name]) = some ⟨.link target, time⟩) :
    fs.walkWith last follow loc (name :: rest)
      =
    if rest = [] ∧ last = false then .ok (fs.spotAt (loc ++ [name]))
    else follow loc target rest := by
  rw [walkWith_of_isName hname, spotAt_of_some h, h]

theorem walkWith_of_folder (hname : IsName name)
    (h : fs.get? (loc ++ [name]) = some ⟨.folder, time⟩) :
    fs.walkWith last follow loc (name :: rest)
      =
    fs.walkWith last follow (loc ++ [name]) rest := by
  rw [walkWith_of_isName hname, h]

theorem walkWith_of_other (hname : IsName name) (h : fs.get? (loc ++ [name]) = some entry)
    (hfolder : entry.node ≠ .folder) (hlink : ∀ target, entry.node ≠ .link target) :
    fs.walkWith last follow loc (name :: rest)
      =
    if rest = [] then .ok (fs.spotAt (loc ++ [name])) else .error .notFolder := by
  rw [walkWith_of_isName hname, spotAt_of_some h, h]
  obtain ⟨node, time⟩ := entry
  cases node with
  | folder => exact absurd rfl hfolder
  | link target => exact absurd rfl (hlink target)
  | _ => rfl

theorem walkWith_last (hname : IsName name)
    (h : ∀ target time, fs.get? (loc ++ [name]) = some ⟨.link target, time⟩ → last = false) :
    fs.walkWith last follow loc [name] = .ok (fs.spotAt (loc ++ [name])) := by
  cases hentry : fs.get? (loc ++ [name]) with
  | none => rw [walkWith_of_none hname hentry, if_pos rfl, spotAt_of_none hentry]
  | some entry =>
    obtain ⟨node, time⟩ := entry
    cases node with
    | link target => rw [walkWith_of_link hname hentry, if_pos ⟨rfl, h _ _ hentry⟩]
    | folder => rw [walkWith_of_folder hname hentry, walkWith_nil hentry]
    | _ => rw [walkWith_of_other hname hentry nofun nofun, if_pos rfl]

theorem Grows.walkWith (h : Grows fs fs')
    (hfollow : ∀ loc target rest spot, follow loc target rest = .ok spot →
      follow' loc target rest = .ok (fs'.spotAt spot.loc))
    {names : List RawText} (hwalk : fs.walkWith last follow loc names = .ok spot) :
    fs'.walkWith last follow' loc names = .ok (fs'.spotAt spot.loc) := by
  -- By induction on the names. Only the last of them leads to a vacant place or to a file, so what
  -- is new there is found by it.
  induction names generalizing loc with
  | nil =>
    cases hentry : fs.get? loc with
    | none =>
      rw [walkWith_nil_of_none hentry] at hwalk
      contradiction
    | some entry =>
      rw [walkWith_nil hentry, spotAt_of_some hentry] at hwalk
      cases hwalk
      obtain ⟨entry', hentry', _⟩ := h.keeps hentry
      exact walkWith_nil hentry'
  | cons name rest ih =>
    by_cases hup : name = upName
    . rw [hup, walkWith_up] at hwalk ⊢
      exact ih hwalk
    by_cases hdot : name = Path.dot
    . rw [hdot, walkWith_dot] at hwalk ⊢
      exact ih hwalk
    by_cases hlong : name.bytes.length ≤ nameLimit
    . have hname : IsName name := ⟨hup, hdot, hlong⟩
      cases hentry : fs.get? (loc ++ [name]) with
      | none =>
        rw [walkWith_of_none hname hentry] at hwalk
        split at hwalk
        . next hrest =>
          subst hrest
          cases hwalk
          apply walkWith_last hname
          intro target time hlink
          exact absurd rfl (h.not_link hentry hlink target)
        . contradiction
      | some entry =>
        obtain ⟨entry', hentry', hkind⟩ := h.keeps hentry
        obtain ⟨node, time⟩ := entry
        obtain ⟨node', time'⟩ := entry'
        dsimp only at hkind
        cases node with
        | folder =>
          obtain rfl := hkind.1.mp rfl
          rw [walkWith_of_folder hname hentry] at hwalk
          rw [walkWith_of_folder hname hentry']
          exact ih hwalk
        | link target =>
          obtain rfl := (hkind.2 target).mp rfl
          rw [walkWith_of_link hname hentry] at hwalk
          rw [walkWith_of_link hname hentry']
          split
          . next hlast =>
            rw [if_pos hlast, spotAt_of_some hentry] at hwalk
            cases hwalk
            rfl
          . next hlast =>
            rw [if_neg hlast] at hwalk
            exact hfollow _ _ _ _ hwalk
        | _ =>
          rw [walkWith_of_other hname hentry nofun nofun, spotAt_of_some hentry] at hwalk
          rw [walkWith_of_other hname hentry'
            (fun hfolder => nomatch hkind.1.mpr hfolder)
            (fun target hlink => nomatch (hkind.2 target).mpr hlink)]
          split
          . next hrest =>
            rw [if_pos hrest] at hwalk
            cases hwalk
            rfl
          . next hrest =>
            rw [if_neg hrest] at hwalk
            contradiction
    . rw [walkWith_of_long hup hdot hlong] at hwalk
      contradiction

end

theorem Grows.walk (h : Grows fs fs') {links : Nat} {names : List RawText}
    (hwalk : fs.walk last links loc names = .ok spot) :
    fs'.walk last links loc names = .ok (fs'.spotAt spot.loc) := by
  induction links generalizing loc names spot with
  | zero =>
    apply h.walkWith _ hwalk
    intro loc target rest spot hfollow
    contradiction
  | succ links ih =>
    apply h.walkWith _ hwalk
    intro loc target rest spot hfollow
    dsimp only at hfollow ⊢
    split
    . next hempty =>
      rw [if_pos hempty] at hfollow
      contradiction
    . next hempty =>
      rw [if_neg hempty] at hfollow
      exact ih hfollow

theorem walk_eq_spotAt {links : Nat} {names : List RawText}
    (h : fs.walk last links loc names = .ok spot) : fs.spotAt spot.loc = spot := by
  have hwalk := Grows.refl.walk h
  rw [h] at hwalk
  injection hwalk with hspot
  exact hspot.symm

theorem resolve_eq_ok_iff (hslash : Path.endsInSlash path = false) :
    fs.resolve here last path = .ok spot
      ↔
    path.isEmpty = false ∧ path.bytes.length < 4096
      ∧ fs.walk last linkLimit (if Path.isAbsolute path then [] else here) (steps path)
          = .ok spot := by
  unfold resolve
  split
  . next hempty => simp [hempty]
  . next hempty =>
    split
    . next hlong => simp [Nat.not_lt.mpr hlong]
    . next hlong =>
      dsimp only
      simp only [hslash, Bool.or_false, Bool.false_eq_true, false_and, if_false]
      cases hwalk : fs.walk last linkLimit (if Path.isAbsolute path then [] else here)
          (steps path) with
      | error e => simp
      | ok found => cases found <;> simp [hempty, Nat.lt_of_not_le hlong]

theorem resolve_of_isAbsolute (here' : Location) (h : Path.isAbsolute path = true) :
    fs.resolve here last path = fs.resolve here' last path := by
  unfold resolve
  rw [if_pos h, if_pos h]

theorem resolve_eq_spotAt (h : fs.resolve here last path = .ok spot) :
    fs.spotAt spot.loc = spot := by
  unfold resolve at h
  split at h
  . contradiction
  split at h
  . contradiction
  dsimp only at h
  split at h
  . next loc entry hwalk =>
    split at h
    . contradiction
    . cases h
      exact walk_eq_spotAt hwalk
  . next outcome hfound => exact walk_eq_spotAt h

theorem Grows.resolve (h : Grows fs fs') (hslash : Path.endsInSlash path = false)
    (hresolve : fs.resolve here last path = .ok spot) :
    fs'.resolve here last path = .ok (fs'.spotAt spot.loc) := by
  rw [resolve_eq_ok_iff hslash] at hresolve ⊢
  exact ⟨hresolve.1, hresolve.2.1, h.walk hresolve.2.2⟩

theorem find_eq_ok_iff :
    fs.find here path = .ok (loc, entry) ↔ fs.resolve here true path = .ok (.found loc entry) := by
  unfold find
  split <;> simp [*]

theorem get?_of_find (h : fs.find here path = .ok (loc, entry)) : fs.get? loc = some entry :=
  get?_of_spotAt_eq_found (resolve_eq_spotAt (find_eq_ok_iff.mp h))

theorem find_of_resolve (hresolve : fs.resolve here true path = .ok (fs.spotAt loc))
    (h : fs.get? loc = some entry) : fs.find here path = .ok (loc, entry) := by
  rw [find_eq_ok_iff, hresolve, spotAt_of_some h]

theorem Grows.find (h : Grows fs fs') (hslash : Path.endsInSlash path = false)
    (hfind : fs.find here path = .ok (loc, entry)) (hentry : fs'.get? loc = some entry') :
    fs'.find here path = .ok (loc, entry') :=
  find_of_resolve (h.resolve hslash (find_eq_ok_iff.mp hfind)) hentry

def IsOpen (fs : Files) (loc : Location) : Prop :=
  ∀ entry, fs.get? loc = some entry → ∃ content mode, entry.node = .file content mode

theorem IsOpen.ne_nil (h : fs.IsOpen loc) : loc ≠ [] := by
  rintro rfl
  obtain ⟨content, mode, hfile⟩ := h _ get?_nil
  contradiction

theorem isOpen_of_none (h : fs.get? loc = none) : fs.IsOpen loc := by
  intro entry hentry
  rw [h] at hentry
  contradiction

theorem IsOpen.grows (h : fs.IsOpen loc) (content : List UInt8) (mode : Nat) (now : Time) :
    Grows fs (fs.put loc ⟨.file content mode, now⟩) where
  keeps {loc' entry} hentry := by
    by_cases hloc : loc' = loc
    . subst hloc
      obtain ⟨old, oldMode, hold⟩ := h entry hentry
      refine ⟨_, get?_put h.ne_nil, ?_⟩
      rw [hold]
      exact Node.sameKind_file
    . rw [get?_put_of_ne hloc]
      exact ⟨entry, hentry, .refl _⟩
  not_link {loc' entry} hnone hentry := by
    by_cases hloc : loc' = loc
    . subst hloc
      rw [get?_put h.ne_nil] at hentry
      cases hentry
      exact nofun
    . rw [get?_put_of_ne hloc, hnone] at hentry
      contradiction

theorem get?_setModeAt {mode : Nat} :
    (fs.setModeAt loc mode).get? loc'
      =
    if loc' = loc then (fs.get? loc').map (Entry.withMode mode) else fs.get? loc' := by
  unfold setModeAt
  split
  . next content old time hentry =>
    have hne : loc ≠ [] := by
      rintro rfl
      simp [get?_nil] at hentry
    split
    . next heq =>
      rw [heq, get?_put hne, hentry]
      rfl
    . next hloc => exact get?_put_of_ne hloc
  . next hfile =>
    split
    . next heq =>
      rw [heq]
      cases hentry : fs.get? loc with
      | none => rfl
      | some entry =>
        obtain ⟨node, time⟩ := entry
        cases node with
        | file content old => exact absurd hentry (hfile content old time)
        | _ => rfl
    . rfl

theorem get?_setModeAt_same {content : List UInt8} {mode : Nat} {time : Time}
    (h : fs.get? loc' = some ⟨.file content mode, time⟩) :
    (fs.setModeAt loc mode).get? loc' = some ⟨.file content mode, time⟩ := by
  rw [get?_setModeAt, h]
  split
  . rfl
  . rfl

theorem eq_of_get?_setModeAt {content content' : List UInt8} {old new mode : Nat}
    {time time' : Time} (h : fs.get? loc' = some ⟨.file content old, time⟩)
    (h' : (fs.setModeAt loc mode).get? loc' = some ⟨.file content' new, time'⟩)
    (hne : old ≠ new) : loc' = loc := by
  apply Decidable.byContradiction
  intro hloc
  rw [get?_setModeAt, if_neg hloc, h] at h'
  cases h'
  exact hne rfl

theorem setModeAt_put {content : List UInt8} {old mode : Nat} (h : loc ≠ []) :
    (fs.put loc ⟨.file content old, now⟩).setModeAt loc mode
      =
    fs.put loc ⟨.file content mode, now⟩ := by
  rw [setModeAt, get?_put h]
  exact put_put _

theorem grows_setModeAt (loc : Location) (mode : Nat) : Grows fs (fs.setModeAt loc mode) where
  keeps {loc' entry} hentry := by
    rw [get?_setModeAt, hentry]
    split
    . exact ⟨_, rfl, entry.sameKind_withMode mode⟩
    . exact ⟨_, rfl, .refl _⟩
  not_link {loc' entry} hnone hentry := by
    rw [get?_setModeAt, hnone, Option.map_none, ite_self] at hentry
    contradiction

theorem IsOpen.put {dest : Location} {content : List UInt8} {mode : Nat} (h : fs.IsOpen loc)
    (hdest : dest ≠ []) : (fs.put dest ⟨.file content mode, now⟩).IsOpen loc := by
  intro entry hentry
  by_cases hloc : loc = dest
  . subst hloc
    rw [get?_put hdest] at hentry
    cases hentry
    exact ⟨content, mode, rfl⟩
  . rw [get?_put_of_ne hloc] at hentry
    exact h entry hentry

theorem IsOpen.setModeAt {mode : Nat} (h : fs.IsOpen loc) :
    (fs.setModeAt loc' mode).IsOpen loc := by
  intro entry hentry
  rw [get?_setModeAt] at hentry
  split at hentry
  . obtain ⟨old, hold, rfl⟩ := Option.map_eq_some_iff.mp hentry
    obtain ⟨node, time⟩ := old
    obtain ⟨content, oldMode, rfl⟩ := h _ hold
    exact ⟨content, mode, rfl⟩
  . exact h entry hentry

theorem setMode_eq_ok_iff {mode : Nat} :
    fs.setMode here path mode = .ok fs'
      ↔
    ∃ loc entry, fs.find here path = .ok (loc, entry) ∧ fs' = fs.setModeAt loc mode := by
  unfold setMode
  split
  . next loc entry hfind => simp [hfind, eq_comm]
  . next e hfind => simp [hfind]

theorem isFolder_eq_false (hresolve : fs.resolve here true path = .ok (fs.spotAt loc))
    (h : fs.IsOpen loc) : fs.isFolder here path = false := by
  unfold isFolder find
  rw [hresolve]
  cases hentry : fs.get? loc with
  | none => rw [spotAt_of_none hentry]
  | some entry =>
    obtain ⟨content, mode, hfile⟩ := h entry hentry
    rw [spotAt_of_some hentry]
    simp [hfile]

theorem exists_file_of_copy {source target : Path}
    (h : fs.copy here now source target = .ok fs') :
    ∃ loc content mode time, fs.find here source = .ok (loc, ⟨.file content mode, time⟩) := by
  unfold copy at h
  split at h
  . contradiction
  . next loc content mode time hfind => exact ⟨loc, content, mode, time, hfind⟩
  . contradiction

theorem openForWriting_eq {mode : Nat} (hslash : Path.endsInSlash path = false)
    (hresolve : fs.resolve here true path = .ok (fs.spotAt loc)) (h : fs.IsOpen loc) :
    ∃ mode', fs.openForWriting here now mode path
      = .ok (loc, fs.put loc ⟨.file [] mode', now⟩) := by
  unfold openForWriting
  rw [hresolve]
  cases hentry : fs.get? loc with
  | none =>
    rw [spotAt_of_none hentry]
    exact ⟨mode, by simp [hslash]⟩
  | some entry =>
    obtain ⟨node, time⟩ := entry
    obtain ⟨content, old, rfl⟩ := h _ hentry
    rw [spotAt_of_some hentry]
    exact ⟨old, rfl⟩

theorem copy_eq {source target : Path} {content : List UInt8} {mode : Nat} {time : Time}
    {dest : Location} (hsource : fs.find here source = .ok (loc, ⟨.file content mode, time⟩))
    (hslash : Path.endsInSlash target = false)
    (htarget : fs.resolve here true target = .ok (fs.spotAt dest)) (h : fs.IsOpen dest)
    (hne : dest ≠ loc) :
    fs.copy here now source target = .ok (fs.put dest ⟨.file content mode, now⟩) := by
  obtain ⟨mode', hopened⟩ : ∃ mode', fs.openForWriting here now mode target
      = .ok (dest, fs.put dest ⟨.file [] mode', now⟩) := openForWriting_eq hslash htarget h
  unfold copy
  rw [hsource]
  dsimp only
  rw [hopened]
  dsimp only
  rw [get?_put_of_ne hne.symm, get?_of_find hsource, setModeAt_put h.ne_nil, append,
    get?_put h.ne_nil]
  dsimp only
  rw [put_put, List.nil_append]

structure Extends (fs fs' : Files) : Prop where
  keeps : ∀ {loc entry}, fs.get? loc = some entry → fs'.get? loc = some entry
  not_link : ∀ {loc entry}, fs.get? loc = none → fs'.get? loc = some entry →
    ∀ target, entry.node ≠ .link target

namespace Extends

theorem refl : Extends fs fs where
  keeps h := h
  not_link h h' := by
    rw [h] at h'
    contradiction

theorem trans (h : Extends fs fs') (h' : Extends fs' fs'') : Extends fs fs'' where
  keeps hentry := h'.keeps (h.keeps hentry)
  not_link {loc entry} hnone hentry target := by
    cases hmiddle : fs'.get? loc with
    | none => exact h'.not_link hmiddle hentry target
    | some middle =>
      rw [h'.keeps hmiddle] at hentry
      cases hentry
      exact h.not_link hnone hmiddle target

theorem grows (h : Extends fs fs') : Grows fs fs' where
  keeps hentry := ⟨_, h.keeps hentry, .refl _⟩
  not_link := h.not_link

theorem find (h : Extends fs fs') (hslash : Path.endsInSlash path = false)
    (hfind : fs.find here path = .ok (loc, entry)) : fs'.find here path = .ok (loc, entry) :=
  h.grows.find hslash hfind (h.keeps (get?_of_find hfind))

end Extends

theorem extends_put_folder (h : fs.get? loc = none) : Extends fs (fs.put loc ⟨.folder, now⟩) where
  keeps {loc' entry} hentry := by
    rw [get?_put_of_ne]
    . exact hentry
    . rintro rfl
      rw [h] at hentry
      contradiction
  not_link {loc' entry} hnone hentry := by
    by_cases hloc : loc' = loc
    . subst hloc
      have hne : loc' ≠ [] := by
        rintro rfl
        contradiction
      rw [get?_put hne] at hentry
      cases hentry
      exact nofun
    . rw [get?_put_of_ne hloc, hnone] at hentry
      contradiction

theorem extends_of_makeFolder (h : fs.makeFolder here now path = .ok fs') : Extends fs fs' := by
  unfold makeFolder at h
  split at h
  . next loc hresolve =>
    cases h
    exact extends_put_folder (get?_of_spotAt_eq_vacant (resolve_eq_spotAt hresolve))
  . contradiction
  . contradiction

theorem extends_of_makeFolderOrKeep (h : fs.makeFolderOrKeep here now path = .ok fs') :
    Extends fs fs' := by
  unfold makeFolderOrKeep at h
  split at h
  . next made hmade =>
    cases h
    exact extends_of_makeFolder hmade
  . split at h
    . cases h
      exact .refl
    . contradiction

theorem extends_of_makeFolders {absolute : Bool} {parts : List RawText}
    (h : fs.makeFolders here now absolute parts = .ok fs') : Extends fs fs' := by
  induction parts generalizing fs' with
  | nil =>
    cases h
    exact .refl
  | cons name above ih =>
    unfold makeFolders at h
    dsimp only at h
    split at h
    . next made hmade =>
      cases h
      exact extends_of_makeFolder hmade
    . split at h
      . split at h
        . next made hmade => exact (ih hmade).trans (extends_of_makeFolderOrKeep h)
        . contradiction
      . split at h
        . cases h
          exact .refl
        . contradiction

theorem extends_of_makeFolderPath (h : fs.makeFolderPath here now path = .ok fs') :
    Extends fs fs' :=
  extends_of_makeFolders h

end Files

end KubePlugin.Machine
