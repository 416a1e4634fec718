import KubePlugin.Proofs.Text.Utf8

/-!
This module contains what becomes of bytes that are no UTF-8 when a text is read for display: each
longest part that could have begun a character is replaced by one mark, and characters stay as they
are. Characters around such bytes are never drawn into them.
-/

namespace KubePlugin.Utf8

def Begins (bytes : List UInt8) : Prop := ∃ c, bytes <+: String.utf8EncodeChar c

structure IsFault (bad rest : List UInt8) : Prop where
  ne_nil : bad ≠ []
  not_char : ∀ c, ¬ String.utf8EncodeChar c <+: bad ++ rest
  begins : bad.length ≠ 1 → Begins bad
  longest : ∀ more, more <+: rest → Begins (bad ++ more) → more = []

/-- The characters of a text, with one mark for each of its faults. -/
inductive Repairs : List UInt8 → List Char → Prop where
  | nil : Repairs [] []
  | char (c : Char) {rest : List UInt8} {cs : List Char} : Repairs rest cs →
    Repairs (String.utf8EncodeChar c ++ rest) (c :: cs)
  | fault {bad rest : List UInt8} {cs : List Char} : IsFault bad rest → Repairs rest cs →
    Repairs (bad ++ rest) (replacement :: cs)

theorem begins_seen {s : State} (h : s.Reached) : Begins s.seen := by
  cases h with
  | start => exact ⟨'a', List.nil_prefix⟩
  | @two n hn hn' =>
    refine ⟨_, [_], (encodeChar_two hn hn' (m := 0) (by omega)).symm⟩
  | @three n hn =>
    by_cases hzero : n = 0
    . exact ⟨_, [_, _],
        (encodeChar_three hn (m := 0x20) (k := 0) (by omega) (by omega) (by omega) (by omega)).symm⟩
    . exact ⟨_, [_, _],
        (encodeChar_three hn (m := 0) (k := 0) (by omega) (by omega) (by omega) (by omega)).symm⟩
  | threeSecond hn hm hlow hsurrogate =>
    exact ⟨_, [_], (encodeChar_three hn hm (k := 0) (by omega) hlow hsurrogate).symm⟩
  | @four n hn =>
    by_cases hzero : n = 0
    . exact ⟨_, [_, _, _], (encodeChar_four (n := n) (m := 0x10) (k := 0) (l := 0) (by omega)
        (by omega) (by omega) (by omega) (by omega)).symm⟩
    . exact ⟨_, [_, _, _], (encodeChar_four (n := n) (m := 0) (k := 0) (l := 0) (by omega)
        (by omega) (by omega) (by omega) (by omega)).symm⟩
  | fourSecond hm hlow hhigh =>
    exact ⟨_, [_, _],
      (encodeChar_four hm (k := 0) (l := 0) (by omega) (by omega) hlow hhigh).symm⟩
  | fourThird hm hlow hhigh hk =>
    exact ⟨_, [_], (encodeChar_four hm hk (l := 0) (by omega) hlow hhigh).symm⟩

theorem go_start_seen {s : State} (h : s.Reached) (bytes : List UInt8) :
    decode.go .start (s.seen ++ bytes) = decode.go s bytes := by
  cases h with
  | start => rfl
  | two hn hn' =>
    simp only [State.seen, List.cons_append, List.nil_append, decode.go_cons]
    rw [step_leadTwo hn hn']
    rfl
  | three hn =>
    simp only [State.seen, List.cons_append, List.nil_append, decode.go_cons]
    rw [step_leadThree hn]
    rfl
  | threeSecond hn hm hlow hsurrogate =>
    simp only [State.seen, List.cons_append, List.nil_append, decode.go_cons]
    rw [step_leadThree hn]
    dsimp only
    rw [step_middle (by split <;> omega) (by split <;> omega) (by omega)]
    rfl
  | four hn =>
    simp only [State.seen, List.cons_append, List.nil_append, decode.go_cons]
    rw [step_leadFour hn]
    rfl
  | fourSecond hm hlow hhigh =>
    simp only [State.seen, List.cons_append, List.nil_append, decode.go_cons]
    rw [step_leadFour (by omega)]
    dsimp only
    rw [step_middle (by split <;> omega) (by split <;> omega) (by omega)]
    rfl
  | fourThird hm hlow hhigh hk =>
    simp only [State.seen, List.cons_append, List.nil_append, decode.go_cons]
    rw [step_leadFour (by omega)]
    dsimp only
    rw [step_middle (by split <;> omega) (by split <;> omega) (by omega)]
    dsimp only
    rw [step_middle (by omega) (by omega) (by omega)]
    rfl

section Faults

variable {s : State} {b : UInt8} {bytes : List UInt8}

theorem not_char_of_fault (hs : s.Reached) (h : .fault bytes ∈ (step s b).1) (c : Char)
    (rest : List UInt8) : ¬ String.utf8EncodeChar c <+: s.seen ++ b :: rest := by
  rintro ⟨after, heq⟩
  obtain ⟨first, more, hstep⟩ := exists_step_eq_fault h
  have hread := decode.go_encodeChar c after
  rw [heq, go_start_seen hs, decode.go_cons, hstep] at hread
  injection hread with hread
  contradiction

theorem not_begins_of_fault (hs : s.Reached) (h : .fault bytes ∈ (step s b).1)
    (more : List UInt8) : ¬ Begins (s.seen ++ b :: more) := by
  rintro ⟨c, after, hc⟩
  apply not_char_of_fault hs h c (more ++ after)
  rw [← hc]
  simp

theorem isFault_singleton (h : .fault bytes ∈ (step .start b).1) (rest : List UInt8) :
    IsFault [b] rest where
  ne_nil := List.cons_ne_nil _ _
  not_char c := not_char_of_fault .start h c rest
  begins hlength := absurd rfl hlength
  longest more _ hmore := absurd hmore (not_begins_of_fault .start h more)

theorem isFault_seen (hs : s.Reached) (hne : s.seen ≠ []) (h : .fault bytes ∈ (step s b).1)
    (rest : List UInt8) : IsFault s.seen (b :: rest) where
  ne_nil := hne
  not_char c := not_char_of_fault hs h c rest
  begins _ := begins_seen hs
  longest more hprefix hmore := by
    rcases List.prefix_cons_iff.mp hprefix with hnil | ⟨more, rfl, _⟩
    . exact hnil
    . exact absurd hmore (not_begins_of_fault hs h more)

theorem isFault_of_end {value more low high : Nat} {seen : List UInt8}
    (hs : (State.inside seen value more low high).Reached) (hne : seen ≠ []) :
    IsFault seen [] where
  ne_nil := hne
  not_char c := by
    rintro ⟨after, heq⟩
    have hread := decode.go_encodeChar c after
    have hseen := go_start_seen hs []
    rw [heq, List.append_nil] at hread
    rw [State.seen, List.append_nil, hread] at hseen
    injection hseen with hseen
    contradiction
  begins _ := begins_seen hs
  longest more hprefix _ := List.prefix_nil.mp hprefix

end Faults

theorem seen_ne_nil {value more low high : Nat} {seen : List UInt8}
    (hs : (State.inside seen value more low high).Reached) : seen ≠ [] := by
  cases hs <;> simp

theorem lead_of_fault {b : UInt8} {bytes : List UInt8} (h : .fault bytes ∈ (lead b).1) :
    lead b = ([.fault [b]], .start) := by
  generalize hlead : lead b = r at h ⊢
  unfold lead at hlead
  dsimp only at hlead
  repeat' split at hlead
  all_goals
    subst hlead
    simp at h ⊢

section Inside

variable {seen bytes : List UInt8} {value more low high : Nat} {b : UInt8}

theorem not_within_of_fault (h : .fault bytes ∈ (step (.inside seen value more low high) b).1) :
    ¬ (low ≤ b.toNat ∧ b.toNat ≤ high) := by
  intro hrange
  simp only [step] at h
  rw [if_pos hrange] at h
  cases more <;> simp at h

theorem go_cons_of_not_within (h : ¬ (low ≤ b.toNat ∧ b.toNat ≤ high)) (bytes : List UInt8) :
    decode.go (.inside seen value more low high) (b :: bytes)
      =
    .fault seen :: decode.go .start (b :: bytes) := by
  rw [decode.go_cons, decode.go_cons]
  simp only [step]
  rw [if_neg h]
  rfl

theorem State.Reached.bounds (h : (State.inside seen value more low high).Reached) :
    0x80 ≤ low ∧ high ≤ 0xBF := by
  cases h with
  | two => omega
  | three =>
    constructor
    . split <;> omega
    . split <;> omega
  | threeSecond => omega
  | four =>
    constructor
    . split <;> omega
    . split <;> omega
  | fourSecond => omega
  | fourThird => omega

end Inside

theorem repairs_cons {b : UInt8} {bytes : List UInt8}
    (ih : ∀ {s : State}, s.Reached →
      Repairs (s.seen ++ bytes) ((decode.go s bytes).map Piece.shown)) :
    Repairs (b :: bytes) ((decode.go .start (b :: bytes)).map Piece.shown) := by
  rw [decode.go_cons]
  cases State.Reached.start.advances b with
  | @on s' hstep hs' hseen =>
    rw [hstep]
    have := ih hs'
    rw [hseen] at this
    exact this
  | @char c hstep hc =>
    rw [hstep]
    have := Repairs.char c (ih .start)
    rw [hc] at this
    exact this
  | fault first hmem =>
    have hlead : step .start b = ([.fault [b]], .start) := lead_of_fault hmem
    rw [hlead]
    exact .fault (isFault_singleton hmem bytes) (ih .start)

theorem repairs_go {s : State} (hs : s.Reached) (bytes : List UInt8) :
    Repairs (s.seen ++ bytes) ((decode.go s bytes).map Piece.shown) := by
  induction bytes generalizing s with
  | nil =>
    cases s with
    | start => exact .nil
    | inside seen value more low high =>
      exact .fault (isFault_of_end hs (seen_ne_nil hs)) .nil
  | cons b bytes ih =>
    cases s with
    | start => exact repairs_cons ih
    | inside seen value more low high =>
      cases hs.advances b with
      | @on s' hstep hs' hseen =>
        rw [decode.go_cons, hstep]
        have := ih hs'
        rw [hseen, List.append_assoc] at this
        exact this
      | @char c hstep hc =>
        rw [decode.go_cons, hstep]
        have := Repairs.char c (ih .start)
        rw [hc, List.append_assoc] at this
        exact this
      | fault first hmem =>
        rw [go_cons_of_not_within (not_within_of_fault hmem)]
        exact .fault (isFault_seen hs (seen_ne_nil hs) hmem bytes) (repairs_cons ih)

theorem repairs_decodeLossy (bytes : List UInt8) : Repairs bytes (decodeLossy bytes) :=
  repairs_go .start bytes

theorem reached_lead (b : UInt8) : (lead b).2.Reached := by
  cases State.Reached.start.advances b with
  | on hstep hs' _ =>
    rw [show lead b = _ from hstep]
    exact hs'
  | char hstep _ =>
    rw [show lead b = _ from hstep]
    exact .start
  | fault _ hmem =>
    rw [lead_of_fault hmem]
    exact .start

theorem State.Reached.step {s : State} (hs : s.Reached) (b : UInt8) : (step s b).2.Reached := by
  cases hs.advances b with
  | on hstep hs' _ =>
    rw [hstep]
    exact hs'
  | char hstep _ =>
    rw [hstep]
    exact .start
  | fault _ hmem =>
    cases s with
    | start => exact reached_lead b
    | inside seen value more low high =>
      have hrange := not_within_of_fault hmem
      simp only [Utf8.step]
      rw [if_neg hrange]
      exact reached_lead b

theorem exists_encodeChar_eq_cons (c : Char) :
    ∃ b rest, String.utf8EncodeChar c = b :: rest ∧ (b.toNat < 0x80 ∨ 0xC0 ≤ b.toNat) := by
  unfold String.utf8EncodeChar
  generalize c.val.toNat = v
  dsimp only
  split
  . refine ⟨_, _, rfl, .inl ?_⟩
    rw [toNat_byte (by omega)]
    omega
  . split
    . refine ⟨_, _, rfl, .inr ?_⟩
      rw [toNat_byte (by omega)]
      omega
    . split
      . refine ⟨_, _, rfl, .inr ?_⟩
        rw [toNat_byte (by omega)]
        omega
      . refine ⟨_, _, rfl, .inr ?_⟩
        rw [toNat_byte (by omega)]
        omega

theorem go_append_encode {s : State} (hs : s.Reached) (bytes : List UInt8) (cs : List Char) :
    decode.go s (bytes ++ encode cs) = decode.go s bytes ++ cs.map .char := by
  induction bytes generalizing s with
  | nil =>
    have hstart : decode.go .start (encode cs) = cs.map .char := decode_encode cs
    cases s with
    | start => exact hstart
    | inside seen value more low high =>
      cases cs with
      | nil => rfl
      | cons c cs =>
        obtain ⟨b, rest, hc, hb⟩ := exists_encodeChar_eq_cons c
        have hbounds := hs.bounds
        have hall : encode (c :: cs) = b :: (rest ++ encode cs) := by
          rw [encode, List.flatMap_cons, hc]
          rfl
        rw [List.nil_append, hall, go_cons_of_not_within (by omega), ← hall, hstart]
        rfl
  | cons b bytes ih =>
    rw [List.cons_append, decode.go_cons, decode.go_cons, ih (hs.step b), List.append_assoc]

theorem decode_append_encode (bytes : List UInt8) (cs : List Char) :
    decode (bytes ++ encode cs) = decode bytes ++ cs.map .char :=
  go_append_encode .start bytes cs

theorem decode_encode_append (cs : List Char) (bytes : List UInt8) :
    decode (encode cs ++ bytes) = cs.map .char ++ decode bytes := by
  unfold decode encode
  induction cs with
  | nil => rfl
  | cons c cs ih =>
    rw [List.flatMap_cons, List.append_assoc, decode.go_encodeChar, ih]
    rfl

theorem decodeLossy_between (before : List Char) (bytes : List UInt8) (after : List Char) :
    decodeLossy (encode before ++ bytes ++ encode after)
      =
    before ++ decodeLossy bytes ++ after := by
  unfold decodeLossy
  rw [decode_append_encode, decode_encode_append]
  simp [Function.comp_def, Piece.shown]

theorem decodeLossy_encode (cs : List Char) : decodeLossy (encode cs) = cs := by
  unfold decodeLossy
  rw [decode_encode]
  simp [Function.comp_def, Piece.shown]

theorem exists_chars?_of_no_fault {pieces : List Piece} (h : ∀ bytes, .fault bytes ∉ pieces) :
    ∃ cs, chars? pieces = some cs := by
  induction pieces with
  | nil => exact ⟨[], rfl⟩
  | cons piece rest ih =>
    cases piece with
    | fault bytes => exact absurd List.mem_cons_self (h bytes)
    | char c =>
      obtain ⟨cs, hcs⟩ := ih fun bytes hmem => h bytes (List.mem_cons_of_mem _ hmem)
      exact ⟨c :: cs, by simp [chars?, hcs]⟩

theorem replacement_mem_decodeLossy {bytes : List UInt8} (h : ∀ cs, bytes ≠ encode cs) :
    replacement ∈ decodeLossy bytes := by
  apply Decidable.byContradiction
  intro hmem
  have hnone : ∀ bad, .fault bad ∉ decode bytes := by
    intro bad hbad
    exact hmem (List.mem_map.mpr ⟨_, hbad, rfl⟩)
  obtain ⟨cs, hcs⟩ := exists_chars?_of_no_fault hnone
  exact h cs (decode?_eq_some_iff.mp hcs)

end KubePlugin.Utf8
