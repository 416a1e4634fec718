import KubePlugin.Proofs.CommandLine.Reading

namespace KubePlugin.CommandLine

structure Spec.IsBare (c : Spec) : Prop where
  options_eq : c.options = []
  positional_eq : c.positional = none
  subs_eq : c.subs = []
  needsSub_eq : c.needsSub = false
  hasHelp_eq : c.hasHelp = true
  version_eq : c.version = none

def AsksForHelp (words : List RawText) : Prop :=
  ∃ word ∈ words.head?, word = RawText.ofString "--help"
    ∨ (RawText.ofString "-h").bytes <+: word.bytes

def IsRefused {α : Type} (outcome : Except Stop α) : Prop :=
  ∃ f, outcome = .error (.failure f)

namespace Scope

variable {s : Scope} {p : Progress} {path : List String}

theorem isRefused_refuse {α : Type} (cause : Cause) (tips : List Tip) :
    IsRefused (s.refuse cause tips : Except Stop α) := ⟨_, rfl⟩

theorem isRefused_unknownLong {α : Type} (name : RawText) (rest : List RawText) :
    IsRefused (s.unknownLong p name rest : Except Stop α) := by
  unfold unknownLong
  dsimp only
  split
  . exact ⟨_, rfl⟩
  . exact ⟨_, rfl⟩

theorem isRefused_unwantedValue {α : Type} (long : String) (named : Named) (value : RawText) :
    IsRefused (s.unwantedValue p long named value : Except Stop α) := ⟨_, rfl⟩

theorem isRefused_noRoom {α : Type} (word : RawText) :
    IsRefused (s.noRoom p word : Except Stop α) := by
  unfold noRoom
  dsimp only
  split
  . apply isRefused_refuse
  . split
    . apply isRefused_refuse
    . split
      . split
        . apply isRefused_refuse
        . apply isRefused_refuse
      . apply isRefused_refuse

section Bare

variable (hs : s.spec.IsBare)

include hs

theorem takesOptions_of_isBare (word : Word) : s.takesOptions word = false := by
  cases word <;> simp [takesOptions, hs.positional_eq]

theorem longNames_of_isBare : s.spec.longNames = [("help", .help)] := by
  unfold Spec.longNames
  rw [hs.options_eq, hs.hasHelp_eq, hs.version_eq]
  rfl

theorem long?_of_isBare (name : List UInt8) :
    s.spec.long? name = if Utf8.encode "help".toList = name then some .help else none := by
  unfold Spec.long?
  rw [longNames_of_isBare hs, List.find?_cons]
  by_cases hname : Utf8.encode "help".toList = name
  . rw [if_pos hname, decide_eq_true hname]
    rfl
  . rw [if_neg hname, decide_eq_false hname]
    rfl

theorem short?_of_isBare (letter : Char) :
    s.spec.short? letter = if letter = 'h' then some .help else none := by
  unfold Spec.short?
  rw [hs.options_eq, hs.hasHelp_eq, hs.version_eq]
  simp

theorem isRefused_readPlain (hwaiting : p.waiting = false) (word : RawText) :
    IsRefused (s.readPlain p word) := by
  unfold readPlain
  rw [hwaiting, hs.positional_eq]
  apply isRefused_noRoom

theorem isRefused_readLong {name : List UInt8} {value : Option (List UInt8)}
    (hhelp : name = Utf8.encode "help".toList → value ≠ none) (rest : List RawText) :
    IsRefused (s.readLong p name value rest) := by
  unfold readLong
  rw [long?_of_isBare hs]
  by_cases hname : Utf8.encode "help".toList = name
  . rw [if_pos hname]
    subst hname
    rw [show (RawText.mk (Utf8.encode "help".toList)).text? = some "help" from
      RawText.text?_ofString "help"]
    cases value with
    | none => exact absurd rfl (hhelp rfl)
    | some v => apply isRefused_unwantedValue
  . rw [if_neg hname]
    split
    . contradiction
    . apply isRefused_unknownLong

theorem isRefused_readLetters {letters : List UInt8} (hletters : letters ≠ [])
    (hhelp : letters.head? ≠ some (UInt8.ofNat 'h'.toNat)) :
    IsRefused (s.readLetters p (Utf8.decode letters)) := by
  obtain ⟨piece, rest, hdecode, hpiece⟩ := Utf8.exists_decode_eq_cons hletters
  rw [hdecode]
  unfold readLetters
  cases piece with
  | fault bytes =>
    dsimp only
    apply isRefused_refuse
  | char c =>
    dsimp only
    rw [short?_of_isBare hs]
    by_cases hc : c = 'h'
    . subst hc
      obtain ⟨more, hmore⟩ := hpiece 'h' rfl
      rw [← hmore, Utf8.encodeChar_ascii (by decide)] at hhelp
      exact absurd rfl hhelp
    . rw [if_neg hc]
      apply isRefused_refuse

theorem isRefused_readWord {word : RawText} (hdashes : word ≠ RawText.ofString "--")
    (hlong : word ≠ RawText.ofString "--help")
    (hshort : ¬ (RawText.ofString "-h").bytes <+: word.bytes) (rest : List RawText) :
    IsRefused (s.readWord {} word rest) := by
  unfold readWord
  rw [if_neg (by simp)]
  cases hword : Word.ofRaw word with
  | dashes => exact absurd ((Word.ofRaw_eq_dashes_iff word).mp hword) hdashes
  | long name value =>
    dsimp only
    rw [if_neg (by simp [takesOptions_of_isBare hs])]
    apply isRefused_readLong hs
    rintro rfl rfl
    obtain ⟨more, hbytes, hparts⟩ := Word.exists_of_ofBytes_eq_long hword
    have hmore := RawText.eq_of_splitFirst_eq_none hparts
    apply hlong
    rcases word with ⟨bytes⟩
    rw [show bytes = _ from hbytes, hmore]
    rfl
  | short letters =>
    dsimp only
    rw [if_neg (by simp [takesOptions_of_isBare hs])]
    obtain ⟨hbytes, hletters⟩ := Word.exists_of_ofBytes_eq_short hword
    apply isRefused_readLetters hs hletters
    intro hhead
    obtain ⟨more, hmore⟩ := List.head?_eq_some_iff.mp hhead
    apply hshort
    rw [hbytes, hmore]
    exact ⟨more, rfl⟩
  | plain =>
    apply isRefused_readPlain hs
    rfl

theorem subFor?_of_isBare (word : RawText) : s.subFor? p word = none := by
  unfold subFor?
  rw [Spec.sub?_of_leaf hs.subs_eq]
  simp

theorem finish_of_isBare (literal : Bool) : s.finish { literal } path = .ok ⟨path, []⟩ := by
  unfold finish
  rw [hs.needsSub_eq]
  rfl

theorem read_nil_of_isBare : s.read path {} [] = .ok ⟨path, []⟩ := by
  rw [read]
  apply finish_of_isBare hs

theorem read_dashes (words : List RawText) :
    s.read path {} (RawText.ofString "--" :: words) = s.read path { literal := true } words := by
  have hword : s.readWord {} (RawText.ofString "--") words = .ok { literal := true } := by
    unfold readWord
    rw [if_neg (by simp), (Word.ofRaw_eq_dashes_iff _).mpr rfl]
  rw [read, subFor?_of_isBare hs]
  dsimp only
  rw [hword]

theorem isRefused_read_cons {word : RawText} {words : List RawText}
    (hword : IsRefused (s.readWord p word words)) : IsRefused (s.read path p (word :: words)) := by
  obtain ⟨f, hf⟩ := hword
  rw [read, subFor?_of_isBare hs]
  dsimp only
  rw [hf]
  exact ⟨f, rfl⟩

theorem read_of_isBare {words : List RawText}
    (hwords : words = [] ∨ words = [RawText.ofString "--"]) :
    s.read path {} words = .ok ⟨path, []⟩ := by
  rcases hwords with rfl | rfl
  . apply read_nil_of_isBare hs
  . rw [read_dashes hs, read]
    apply finish_of_isBare hs

theorem isRefused_read {words : List RawText} (hwords : words ≠ [])
    (hdashes : words ≠ [RawText.ofString "--"]) (hhelp : ¬ AsksForHelp words) :
    IsRefused (s.read path {} words) := by
  cases words with
  | nil => contradiction
  | cons word rest =>
    by_cases hword : word = RawText.ofString "--"
    . subst hword
      rw [read_dashes hs]
      cases rest with
      | nil => contradiction
      | cons next rest =>
        apply isRefused_read_cons hs
        unfold readWord
        rw [if_pos rfl]
        apply isRefused_readPlain hs
        rfl
    . apply isRefused_read_cons hs
      apply isRefused_readWord hs hword
      . intro hlong
        exact hhelp ⟨word, rfl, .inl hlong⟩
      . intro hshort
        exact hhelp ⟨word, rfl, .inr hshort⟩

end Bare

end Scope

end KubePlugin.CommandLine
