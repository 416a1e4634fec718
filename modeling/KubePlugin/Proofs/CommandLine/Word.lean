import KubePlugin.ArgVector
import KubePlugin.CommandLine.Parser
import KubePlugin.Proofs.Text.Utf8

namespace KubePlugin

namespace RawText

theorem splitFirst_of_not_mem {b : UInt8} {l : List UInt8} (h : b ∉ l) :
    splitFirst b l = (l, none) := by
  induction l with
  | nil => rfl
  | cons x rest ih =>
    rw [List.mem_cons, not_or] at h
    unfold splitFirst
    rw [if_neg (Ne.symm h.1), ih h.2]

theorem splitFirst_append {b : UInt8} {l : List UInt8} (h : b ∉ l) (r : List UInt8) :
    splitFirst b (l ++ b :: r) = (l, some r) := by
  induction l with
  | nil => simp [splitFirst]
  | cons x rest ih =>
    rw [List.mem_cons, not_or] at h
    rw [List.cons_append]
    unfold splitFirst
    rw [if_neg (Ne.symm h.1), ih h.2]

theorem eq_of_splitFirst_eq_none {b : UInt8} {l front : List UInt8}
    (h : splitFirst b l = (front, none)) : l = front := by
  induction l generalizing front with
  | nil =>
    cases h
    rfl
  | cons x rest ih =>
    unfold splitFirst at h
    split at h
    . cases h
    . injection h with hfront hback
      rw [← hfront]
      congr 1
      apply ih
      rw [← hback]

end RawText

namespace CommandLine

def IsPlain (s : String) : Prop := s = "-" ∨ s.toList.head? ≠ some '-'

instance (s : String) : Decidable (IsPlain s) := inferInstanceAs (Decidable (_ ∨ _))

namespace Word

theorem encode_dashes (s : String) :
    Utf8.encode ("--" ++ s).toList = dash :: dash :: Utf8.encode s.toList := by
  rw [String.toList_append, Utf8.encode_append]
  rfl

theorem ofBytes_dashes {l : List UInt8} (h : l ≠ []) :
    ofBytes (dash :: dash :: l)
      =
    long (RawText.splitFirst equals l).1 (RawText.splitFirst equals l).2 := by
  cases l with
  | nil => contradiction
  | cons x rest => simp [ofBytes]

theorem exists_of_ofBytes_eq_long {l name : List UInt8} {value : Option (List UInt8)}
    (h : ofBytes l = long name value) :
    ∃ more, l = dash :: dash :: more ∧ RawText.splitFirst equals more = (name, value) := by
  rcases l with _ | ⟨a, _ | ⟨b, more⟩⟩
  . contradiction
  . by_cases ha : a = dash <;> simp [ofBytes, ha] at h
  . by_cases ha : a = dash
    . by_cases hb : b = dash
      . subst ha hb
        cases more with
        | nil => simp [ofBytes] at h
        | cons x rest =>
          rw [ofBytes_dashes (by simp)] at h
          injection h with hname hvalue
          exact ⟨_, rfl, Prod.ext hname hvalue⟩
      . simp [ofBytes, ha, hb] at h
    . simp [ofBytes, ha] at h

theorem exists_of_ofBytes_eq_short {l letters : List UInt8} (h : ofBytes l = short letters) :
    l = dash :: letters ∧ letters ≠ [] := by
  rcases l with _ | ⟨a, _ | ⟨b, more⟩⟩
  . contradiction
  . by_cases ha : a = dash <;> simp [ofBytes, ha] at h
  . by_cases ha : a = dash
    . by_cases hb : b = dash
      . cases more <;> simp [ofBytes, ha, hb] at h
      . simp only [ofBytes, ha, hb, if_pos, if_neg, not_false_eq_true] at h
        injection h with hletters
        rw [ha, hletters]
        exact ⟨rfl, by simp [← hletters]⟩
    . simp [ofBytes, ha] at h

theorem encode_ne_nil {s : String} (h : s ≠ "") : Utf8.encode s.toList ≠ [] := by
  intro hnil
  apply h
  apply String.toList_injective
  exact Utf8.encode_injective hnil

theorem equals_not_mem {s : String} (h : '=' ∉ s.toList) : equals ∉ Utf8.encode s.toList := by
  intro hmem
  exact h ((Utf8.mem_encode_ascii (a := '=') (by decide)).mp hmem)

theorem ofRaw_bareFlag {name : String} (hne : name ≠ "") (heq : '=' ∉ name.toList) :
    ofRaw (RawText.ofString (ArgVector.bareFlag name))
      =
    long (Utf8.encode name.toList) none := by
  unfold ofRaw ArgVector.bareFlag
  rw [RawText.bytes_ofString, encode_dashes, ofBytes_dashes (encode_ne_nil hne),
    RawText.splitFirst_of_not_mem (equals_not_mem heq)]

theorem ofRaw_valueFlag {name : String} (heq : '=' ∉ name.toList) (value : String) :
    ofRaw (RawText.ofString (ArgVector.valueFlag name value))
      =
    long (Utf8.encode name.toList) (some (Utf8.encode value.toList)) := by
  have hflag : ArgVector.valueFlag name value = "--" ++ (name ++ "=" ++ value) := by
    simp only [ArgVector.valueFlag, String.append_assoc]
  have hbytes : Utf8.encode (name ++ "=" ++ value).toList
      = Utf8.encode name.toList ++ equals :: Utf8.encode value.toList := by
    simp only [String.toList_append, Utf8.encode_append, List.append_assoc]
    rfl
  unfold ofRaw
  rw [hflag, RawText.bytes_ofString, encode_dashes, hbytes, ofBytes_dashes (by simp),
    RawText.splitFirst_append (equals_not_mem heq)]

theorem ofBytes_eq_plain_iff (l : List UInt8) :
    ofBytes l = plain ↔ l = [dash] ∨ l.head? ≠ some dash := by
  cases l with
  | nil => simp [ofBytes]
  | cons a rest =>
    by_cases ha : a = dash
    . subst ha
      cases rest with
      | nil => simp [ofBytes]
      | cons b more =>
        by_cases hb : b = dash
        . subst hb
          cases more <;> simp [ofBytes]
        . simp [ofBytes, hb]
    . simp [ofBytes, ha]

theorem ofRaw_eq_plain_iff (s : String) : ofRaw (RawText.ofString s) = plain ↔ IsPlain s := by
  have hdash : Utf8.encode s.toList = [dash] ↔ s = "-" := by
    rw [show [dash] = Utf8.encode "-".toList from rfl, Utf8.encode_toList_inj]
  unfold ofRaw IsPlain
  rw [RawText.bytes_ofString, ofBytes_eq_plain_iff, hdash, Ne,
    show some dash = some (UInt8.ofNat '-'.toNat) from rfl,
    Utf8.head?_encode_ascii (by decide)]

theorem ofRaw_eq_dashes_iff (w : RawText) : ofRaw w = dashes ↔ w = RawText.ofString "--" := by
  rw [show RawText.ofString "--" = ⟨[dash, dash]⟩ from rfl]
  rcases w with ⟨l⟩
  unfold ofRaw
  rcases l with _ | ⟨a, _ | ⟨b, _ | ⟨c, more⟩⟩⟩
  . simp [ofBytes]
  . by_cases ha : a = dash <;> simp [ofBytes, ha]
  . by_cases ha : a = dash <;> by_cases hb : b = dash <;> simp [ofBytes, ha, hb]
  . by_cases ha : a = dash <;> by_cases hb : b = dash <;> simp [ofBytes, ha, hb]

end Word

end CommandLine

end KubePlugin
