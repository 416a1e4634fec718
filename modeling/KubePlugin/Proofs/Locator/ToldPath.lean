import KubePlugin.Proofs.Locator.Delegation
import KubePlugin.Proofs.Text.Repair

namespace KubePlugin.Locator

open Request Stateful Utf8

def HasTold (s : System) (config : LocatorConfig) (past : List Request) (output : RawText) : Prop :=
  ∃ neonCli before later status,
    (after (locate s.host config .helm) past).2
      = past ++ (before ++ .capture neonCli ["toolpath", "helm"] :: later)
    ∧ s.capture (past ++ before) neonCli ["toolpath", "helm"] = .ended status output
    ∧ status.code? = some 0

variable {s : System} {config : LocatorConfig} {past : List Request} {output : RawText}
  {r : Resolved}

theorem hasTold_of_ask {neonCli : Path} {status : WaitStatus}
    (h : plan config (s.files past) .helm = .ask neonCli)
    (hcapture : s.capture (past ++ untilAsking config (s.files past) neonCli) neonCli
      (question .helm) = .ended status output)
    (hstatus : status.code? = some 0) : HasTold s config past output := by
  have hasked := congrArg Prod.snd (locate_of_ask h)
  exact ⟨neonCli, untilAsking config (s.files past) neonCli, _, status, hasked, hcapture, hstatus⟩

theorem captures_of_settled {outcome : Except PluginError Resolved}
    (h : plan config (s.files past) .helm = .settled outcome) {new : List Request}
    (hnew : (after (locate s.host config .helm) past).2 = past ++ new) :
    captures new = [] := by
  rw [locate_of_settled h] at hnew
  rw [← List.append_cancel_left hnew]
  exact captures_map_log _

theorem HasTold.told (h : HasTold s config past output) :
    ∃ neonCli status, status.code? = some 0
      ∧ Told neonCli (.ended status output) (after (locate s.host config .helm) past).1 := by
  obtain ⟨neonCli, before, later, status, hnew, hcapture, hstatus⟩ := h
  refine ⟨neonCli, status, hstatus, ?_⟩
  cases hplan : plan config (s.files past) .helm with
  | settled outcome =>
    have hnone := captures_of_settled hplan hnew
    rw [captures_append] at hnone
    simp [captures] at hnone
  | ask path =>
    have hasked := locate_of_ask hplan
    rw [hasked] at hnew
    have hsame := List.append_cancel_left hnew
    have hbefore : Request.capture neonCli ["toolpath", "helm"] ∉
        untilAsking config (s.files past) path := by
      simp [untilAsking]
    have hafter : Request.capture neonCli ["toolpath", "helm"] ∉ (resolvedEvents (answer .helm path
        (s.capture (past ++ untilAsking config (s.files past) path) path (question .helm)))).map
          .log := by
      simp
    obtain ⟨rfl, hpath, _⟩ := (List.append_cons_inj_of_notMem hbefore hafter).mp hsame
    injection hpath with hpath
    subst hpath
    rw [hasked]
    have htold := told_answer path
      (s.capture (past ++ untilAsking config (s.files past) path) path (question .helm))
    rwa [show question .helm = ["toolpath", "helm"] from rfl, hcapture] at htold ⊢

theorem toList_lossy : output.lossy.toList = decodeLossy output.bytes := String.toList_ofList

theorem ofString_trimmed_lossy :
    RawText.ofString (trimmed output.lossy) = ⟨encode (trim (decodeLossy output.bytes))⟩ := by
  unfold RawText.ofString trimmed
  rw [String.toList_ofList, toList_lossy]

theorem HasTold.outcome_eq_ok_iff (h : HasTold s config past output) :
    (after (locate s.host config .helm) past).1 = .ok r
      ↔
    trim (decodeLossy output.bytes) ≠ []
      ∧ r = ⟨.helm, ⟨encode (trim (decodeLossy output.bytes))⟩, .toolPath⟩ := by
  obtain ⟨neonCli, status, hstatus, htold⟩ := h.told
  generalize (after (locate s.host config .helm) past).1 = outcome at htold
  cases htold with
  | failed output hfailed => contradiction
  | blank _ hblank =>
    rw [toList_lossy] at hblank
    simp [trim_eq_nil_iff.mpr hblank]
  | answered _ hshown =>
    have hne : trim (decodeLossy output.bytes) ≠ [] := by
      rw [toList_lossy] at hshown
      obtain ⟨c, hc, hnot⟩ := hshown
      exact List.ne_nil_of_mem (mem_trim hc hnot)
    rw [ofString_trimmed_lossy, Except.ok.injEq, eq_comm]
    simp [hne]

theorem HasTold.exists_ok_iff (h : HasTold s config past output) {p : List UInt8} :
    (∃ r, (after (locate s.host config .helm) past).1 = .ok r ∧ r.path.bytes = p)
      ↔
    trim (decodeLossy output.bytes) ≠ [] ∧ encode (trim (decodeLossy output.bytes)) = p := by
  simp only [h.outcome_eq_ok_iff]
  constructor
  . rintro ⟨r, ⟨hne, rfl⟩, hp⟩
    exact ⟨hne, hp⟩
  . rintro ⟨hne, hp⟩
    exact ⟨_, ⟨hne, rfl⟩, hp⟩

theorem HasTold.exists_ok_between_iff (h : HasTold s config past output) {before later : List Char}
    {p : List UInt8} (hbefore : ∀ c ∈ before, isBlank c) (hlater : ∀ c ∈ later, isBlank c)
    (houtput : output.bytes = encode before ++ p ++ encode later) (q : List UInt8) :
    (∃ r, (after (locate s.host config .helm) past).1 = .ok r ∧ r.path.bytes = q)
      ↔
    trim (decodeLossy p) ≠ [] ∧ encode (trim (decodeLossy p)) = q := by
  rw [h.exists_ok_iff, houtput, decodeLossy_between, trim_append_blank hbefore hlater]

/-- Between white space, a path that neon-cli writes is read as it is if it is UTF-8 and has no
white space at its ends, and not else. One that is no UTF-8 is read with a mark for each of its
faults, which makes another path of it. What is read has no white space at its ends, and is read
from itself again. -/
theorem locate_helm_reads (h : HasTold s config past output) :
    (∀ before p later, (∀ c ∈ before, isBlank c) → (∀ c ∈ later, isBlank c) → p ≠ [] →
      output.bytes = encode before ++ p ++ encode later →
      ((∃ r, (after (locate s.host config .helm) past).1 = .ok r ∧ r.path.bytes = p)
          ↔ ∃ cs, p = encode cs ∧ IsTrimmed cs)
        ∧ ((∀ cs, p ≠ encode cs) → ∃ r cs,
          (after (locate s.host config .helm) past).1 = .ok r
            ∧ Repairs p cs ∧ r.path.bytes = encode (trim cs) ∧ r.path.bytes ≠ p))
      ∧ ∀ r, (after (locate s.host config .helm) past).1 = .ok r →
        (∃ cs, r.path.bytes = encode cs ∧ cs ≠ [] ∧ IsTrimmed cs)
          ∧ ∀ s' config' past', HasTold s' config' past' r.path →
            (after (locate s'.host config' .helm) past').1 = .ok r := by
  constructor
  . intro before p later hbefore hlater hne houtput
    have hread := h.exists_ok_between_iff hbefore hlater houtput
    constructor
    . rw [hread]
      constructor
      . rintro ⟨_, hp⟩
        exact ⟨_, hp.symm, isTrimmed_trim _⟩
      . rintro ⟨cs, rfl, hcs⟩
        rw [decodeLossy_encode, trim_eq_self_iff.mpr hcs]
        refine ⟨?_, rfl⟩
        rintro rfl
        exact hne rfl
    . intro hinvalid
      have hmark : replacement ∈ trim (decodeLossy p) :=
        mem_trim (replacement_mem_decodeLossy hinvalid) (by decide)
      obtain ⟨r, hr, hpath⟩ := (hread _).mpr ⟨List.ne_nil_of_mem hmark, rfl⟩
      refine ⟨r, decodeLossy p, hr, repairs_decodeLossy p, hpath, ?_⟩
      rw [hpath]
      exact (hinvalid _).symm
  . intro r hr
    obtain ⟨hne, rfl⟩ := h.outcome_eq_ok_iff.mp hr
    refine ⟨⟨_, rfl, hne, isTrimmed_trim _⟩, ?_⟩
    intro s' config' past' h'
    have hagain : trim (trim (decodeLossy output.bytes)) = trim (decodeLossy output.bytes) :=
      trim_eq_self_iff.mpr (isTrimmed_trim _)
    rw [h'.outcome_eq_ok_iff]
    dsimp only
    rw [decodeLossy_encode, hagain]
    exact ⟨hne, rfl⟩

def brokenOff : System where
  files _ := oneBuild
  capture _ _ _ :=
    .ended (.exited 0) ⟨encode ['\u3000'] ++ [0x2F, 0xE2, 0x82] ++ encode ['\u2003', '\n']⟩
  launch _ _ := .ok 0

theorem locate_helm_reads_brokenOff :
    HasTold brokenOff oneCheckout []
        ⟨encode ['\u3000'] ++ [0x2F, 0xE2, 0x82] ++ encode ['\u2003', '\n']⟩
      ∧ ∃ r cs, (after (locate brokenOff.host oneCheckout .helm) []).1 = .ok r
        ∧ Repairs [0x2F, 0xE2, 0x82] cs ∧ r.path.bytes = encode (trim cs)
        ∧ r.path.bytes ≠ [0x2F, 0xE2, 0x82] := by
  have hask : plan oneCheckout oneBuild .helm = .ask "/nc/Build/neon-cli/neon-cli" := by
    have hneonCli : neonCli oneCheckout oneBuild
        = .ok ⟨.neonCli, "/nc/Build/neon-cli/neon-cli", .sourceRoot⟩ := by
      decide +kernel
    rw [plan_helm rfl, hneonCli]
  have htold : HasTold brokenOff oneCheckout [] _ := hasTold_of_ask hask rfl rfl
  have hinvalid : ∀ cs, [0x2F, 0xE2, 0x82] ≠ encode cs := by
    intro cs hcs
    have hdecode : decode? [0x2F, 0xE2, 0x82] = none := by decide
    rw [hcs, decode?_encode] at hdecode
    contradiction
  have hread := (locate_helm_reads htold).1 ['\u3000'] [0x2F, 0xE2, 0x82] ['\u2003', '\n']
    (List.forall_mem_singleton.mpr (by decide))
    (List.forall_mem_cons.mpr ⟨by decide, List.forall_mem_singleton.mpr (by decide)⟩)
    (by simp) rfl
  exact ⟨htold, hread.2 hinvalid⟩

end KubePlugin.Locator
