import KubePlugin.Text.Raw

namespace KubePlugin

abbrev Path := RawText

namespace Path

def slash : UInt8 := 0x2F

def isAbsolute (p : Path) : Bool := p.bytes.head? = some slash

def endsInSlash (p : Path) : Bool := p.bytes.getLast? = some slash

def join (base rest : Path) : Path :=
  if isAbsolute rest then rest
  else if base.isEmpty || endsInSlash base then base ++ rest
  else base ++ RawText.ofString "/" ++ rest

def joinAll (base : Path) (parts : List String) : Path :=
  parts.foldl (fun p part => join p (RawText.ofString part)) base

def dot : RawText := RawText.ofString "."

def parts (p : Path) : List RawText :=
  (RawText.splitBytes slash p.bytes).filterMap fun b =>
    if b = [] ∨ RawText.mk b = dot then none else some ⟨b⟩

def endsInDot (p : Path) : Bool :=
  (RawText.splitBytes slash p.bytes).getLast?.map RawText.mk = some dot

def fileName? (p : Path) : Option RawText :=
  match (parts p).getLast? with
  | some name => if name = RawText.ofString ".." then none else some name
  | none => none

theorem endsInSlash_append {base rest : Path} (hrest : rest.bytes ≠ []) :
    endsInSlash (base ++ rest) = endsInSlash rest := by
  unfold endsInSlash
  rw [RawText.bytes_append, List.getLast?_append, List.getLast?_eq_some_getLast hrest]
  rfl

theorem endsInSlash_join {base rest : Path} (hrest : rest.bytes ≠ []) :
    endsInSlash (join base rest) = endsInSlash rest := by
  unfold join
  split
  . rfl
  . split
    . exact endsInSlash_append hrest
    . exact endsInSlash_append hrest

theorem bytes_join_ne_nil {base rest : Path} (hrest : rest.bytes ≠ []) :
    (join base rest).bytes ≠ [] := by
  unfold join
  split
  . exact hrest
  . split
    . exact List.append_ne_nil_of_right_ne_nil _ hrest
    . exact List.append_ne_nil_of_right_ne_nil _ hrest

theorem isAbsolute_join (base rest : Path) :
    isAbsolute (join base rest) = (isAbsolute base || isAbsolute rest) := by
  unfold join
  split
  . next hrest => simp [hrest]
  . next hrest =>
    rw [Bool.eq_false_iff.mpr hrest, Bool.or_false]
    obtain ⟨bytes⟩ := base
    cases bytes with
    | nil => simpa [RawText.isEmpty, isAbsolute] using hrest
    | cons b bytes =>
      split
      . rfl
      . rfl

end Path

end KubePlugin
