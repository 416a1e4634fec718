import KubePlugin.Proofs.CommandLine.Reading

namespace KubePlugin.CommandLine

structure Spec.Collects (c : Spec) (pos : Positional) : Prop where
  positional_eq : c.positional = some pos
  verbatim : pos.verbatim = true
  subs_eq : c.subs = []
  needsSub_eq : c.needsSub = false

def Progress.collecting (pos : Positional) (words : List RawText) : Progress where
  pending := some (.positional pos words)
  literal := true
  begun := true

def withoutDashes (words : List RawText) : List RawText :=
  if words.head? = some (RawText.ofString "--") then words.tail else words

def Given.ofWords (words : List RawText) : Given :=
  if words = [] then [] else [(.positional, .words words)]

theorem Given.words_ofWords (words : List RawText) : (ofWords words).words = words := by
  unfold ofWords
  split
  . next hnil =>
    rw [hnil]
    rfl
  . rfl

theorem withoutDashes_eq_iff {words : List RawText} :
    withoutDashes words = words ↔ words.head? ≠ some (RawText.ofString "--") := by
  unfold withoutDashes
  split
  . next hhead =>
    cases words with
    | nil => contradiction
    | cons word rest => simp [hhead]
  . next hhead => simp [hhead]

namespace Word

def IsIllegible : Word → Prop
  | long name _ => (RawText.mk name).text? = none
  | _ => False

theorem exists_splitFirst_encode {a : Char} (ha : a.toNat ≤ 0x7F) (cs : List Char) :
    ∃ front, (RawText.splitFirst (UInt8.ofNat a.toNat) (Utf8.encode cs)).1 = Utf8.encode front := by
  by_cases hmem : a ∈ cs
  . obtain ⟨front, back, rfl, hfront⟩ := List.eq_append_cons_of_mem hmem
    refine ⟨front, ?_⟩
    have hbyte : UInt8.ofNat a.toNat ∉ Utf8.encode front := by
      rwa [Utf8.mem_encode_ascii ha]
    have hencode : Utf8.encode (front ++ a :: back)
        = Utf8.encode front ++ UInt8.ofNat a.toNat :: Utf8.encode back := by
      rw [Utf8.encode_append]
      simp [Utf8.encode, Utf8.encodeChar_ascii ha]
    rw [hencode, RawText.splitFirst_append hbyte]
  . refine ⟨cs, ?_⟩
    rw [RawText.splitFirst_of_not_mem]
    rwa [Utf8.mem_encode_ascii ha]

theorem tail_of_encode_eq_cons {a : Char} (ha : a.toNat ≤ 0x7F) {cs : List Char} {rest : List UInt8}
    (h : Utf8.encode cs = UInt8.ofNat a.toNat :: rest) :
    ∃ cs', cs = a :: cs' ∧ rest = Utf8.encode cs' := by
  have hhead : cs.head? = some a := by
    rw [← Utf8.head?_encode_ascii ha, h]
    rfl
  cases cs with
  | nil => contradiction
  | cons c cs' =>
    injection hhead with hc
    subst hc
    refine ⟨cs', rfl, ?_⟩
    simpa [Utf8.encode, Utf8.encodeChar_ascii ha] using h.symm

theorem not_isIllegible_ofString (s : String) : ¬ (ofRaw (RawText.ofString s)).IsIllegible := by
  intro h
  cases hword : ofRaw (RawText.ofString s) with
  | long name value =>
    rw [hword] at h
    obtain ⟨more, hbytes, hparts⟩ := exists_of_ofBytes_eq_long hword
    have hname : name = (RawText.splitFirst equals more).1 := by rw [hparts]
    obtain ⟨cs, _, hcs⟩ := tail_of_encode_eq_cons (a := '-') (by decide) hbytes
    obtain ⟨cs', _, hmore⟩ := tail_of_encode_eq_cons (a := '-') (by decide) hcs.symm
    obtain ⟨front, hfront⟩ := exists_splitFirst_encode (a := '=') (by decide) cs'
    have htext : (RawText.mk name).text? = some (String.ofList front) := by
      rw [RawText.text?_eq_some_iff, hname, hmore, RawText.ofString, String.toList_ofList]
      exact congrArg RawText.mk hfront
    rw [show (RawText.mk name).text? = none from h] at htext
    contradiction
  | _ =>
    rw [hword] at h
    exact h

end Word

namespace Scope

variable {s : Scope} {pos : Positional}

theorem subFor?_eq_none (hs : s.spec.Collects pos) (p : Progress) (word : RawText) :
    s.subFor? p word = none := by
  unfold subFor?
  rw [Spec.sub?_of_leaf hs.subs_eq]
  simp

theorem finish_collecting (hs : s.spec.Collects pos) (words : List RawText) (path : List String) :
    s.finish (.collecting pos words) path = .ok ⟨path, [(.positional, .words words)]⟩ := by
  unfold finish
  simp [Progress.collecting, Progress.settle, Progress.complete, Positional.read, hs.verbatim,
    hs.needsSub_eq, orRefuse, bind, Except.bind]

theorem readWord_collecting (hs : s.spec.Collects pos) (words : List RawText) (word : RawText)
    (rest : List RawText) :
    s.readWord (.collecting pos words) word rest = .ok (.collecting pos (words ++ [word])) := by
  unfold readWord
  rw [if_pos (show (Progress.collecting pos words).literal = true from rfl)]
  unfold readPlain
  simp [Progress.collecting, hs.positional_eq, takePositional, hs.verbatim]

theorem read_collecting (hs : s.spec.Collects pos) (path : List String)
    (words rest : List RawText) :
    s.read path (.collecting pos words) rest
      =
    .ok ⟨path, [(.positional, .words (words ++ rest))]⟩ := by
  induction rest generalizing words with
  | nil =>
    rw [read, finish_collecting hs, List.append_nil]
  | cons word rest ih =>
    rw [read, subFor?_eq_none hs]
    dsimp only
    rw [readWord_collecting hs]
    dsimp only
    rw [ih, List.append_assoc]
    rfl

theorem readPlain_collected (hs : s.spec.Collects pos) (literal : Bool) (word : RawText) :
    s.readPlain { literal } word = .ok (.collecting pos [word]) := by
  unfold readPlain
  simp [hs.positional_eq, takePositional, takePositional.begin, Progress.settle, orRefuse,
    Progress.collecting, hs.verbatim, bind, Except.bind]

theorem read_literal (hs : s.spec.Collects pos) (path : List String) (words : List RawText) :
    s.read path { literal := true } words
      =
    .ok ⟨path, .ofWords words⟩ := by
  cases words with
  | nil =>
    rw [read]
    simp [finish, Progress.settle, orRefuse, hs.needsSub_eq, bind, Except.bind, Given.ofWords]
  | cons word rest =>
    rw [read, subFor?_eq_none hs]
    dsimp only
    unfold readWord
    rw [if_pos rfl, readPlain_collected hs]
    dsimp only
    rw [read_collecting hs]
    rfl

theorem readWord_dashes {word : RawText} (hword : Word.ofRaw word = .dashes)
    (rest : List RawText) : s.readWord {} word rest = .ok { literal := true } := by
  unfold readWord
  rw [if_neg (by simp), hword]

theorem readWord_collected (hs : s.spec.Collects pos) {word : RawText}
    (hdashes : Word.ofRaw word ≠ .dashes) (hword : ¬ (Word.ofRaw word).IsIllegible)
    (rest : List RawText) :
    s.readWord {} word rest = .ok (.collecting pos [word]) := by
  have htakes : (s.spec.positional.map Positional.verbatim).getD false = true := by
    simp [hs.positional_eq, hs.verbatim]
  unfold readWord
  rw [if_neg (by simp)]
  cases hw : Word.ofRaw word with
  | dashes => contradiction
  | long name value =>
    have hname : (RawText.mk name).text?.isSome := by
      rw [hw] at hword
      exact Option.isSome_iff_ne_none.mpr hword
    dsimp only
    rw [if_pos (by simp [takesOptions, htakes, hname])]
    exact readPlain_collected hs false word
  | short letters =>
    dsimp only
    rw [if_pos (by simp [takesOptions, htakes])]
    exact readPlain_collected hs false word
  | plain => exact readPlain_collected hs false word

theorem read_collected (hs : s.spec.Collects pos) (path : List String) {words : List RawText}
    (hwords : ∀ word ∈ words.head?, ¬ (Word.ofRaw word).IsIllegible) :
    s.read path {} words = .ok ⟨path, .ofWords (withoutDashes words)⟩ := by
  cases words with
  | nil =>
    rw [read]
    simp [finish, Progress.settle, orRefuse, hs.needsSub_eq, bind, Except.bind, withoutDashes,
      Given.ofWords]
  | cons word rest =>
    rw [read, subFor?_eq_none hs]
    dsimp only
    by_cases hword : Word.ofRaw word = .dashes
    . rw [readWord_dashes hword]
      dsimp only
      rw [read_literal hs]
      simp [withoutDashes, (Word.ofRaw_eq_dashes_iff word).mp hword]
    . have hne : word ≠ RawText.ofString "--" := (Word.ofRaw_eq_dashes_iff word).not.mp hword
      rw [readWord_collected hs hword (hwords word rfl)]
      dsimp only
      rw [read_collecting hs]
      simp [withoutDashes, hne, Given.ofWords]

end Scope

end KubePlugin.CommandLine
