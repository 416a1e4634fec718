import KubePlugin.Command.Surface
import KubePlugin.Proofs.CommandLine.Verbatim

namespace KubePlugin.Surface

open CommandLine

def helmArgs : Positional := ⟨"ARGS", "Arguments passed to Helm as-is", true⟩

theorem helm_collects : helm.Collects helmArgs := ⟨rfl, rfl, rfl, rfl⟩

theorem plugin_leads_helm : plugin.Leads ["helm"] helm := .single rfl rfl (by decide)

theorem plugin_parse_helm (program : RawText) {words : List RawText}
    (hwords : ∀ word ∈ words.head?, ¬ (Word.ofRaw word).IsIllegible) :
    plugin.parse (program :: RawText.ofString "helm" :: words)
      =
    .ok ⟨["helm"], .ofWords (withoutDashes words)⟩ := by
  obtain ⟨s, hs, hread⟩ := plugin_leads_helm.exists_parse program words
  have hcollects : s.spec.Collects helmArgs := by
    rw [hs]
    exact helm_collects
  exact hread.trans (Scope.read_collected hcollects ["helm"] hwords)

theorem parse_helm (program : RawText) {words : List RawText}
    (hwords : ∀ word ∈ words.head?, ¬ (Word.ofRaw word).IsIllegible) :
    parse (program :: RawText.ofString "helm" :: words) = .ok (.helm (withoutDashes words)) := by
  unfold parse
  rw [plugin_parse_helm program hwords]
  dsimp only [command?]
  rw [Given.words_ofWords]
  rfl

theorem read_helm (program : RawText) (words : List RawText) :
    read (program :: RawText.ofString "helm" :: words) = .ok (.helm words) := by
  unfold read
  dsimp only
  rw [if_pos rfl]

theorem withoutDashes_map_ofString (words : List String) :
    withoutDashes (words.map RawText.ofString)
      =
    (if words.head? = some "--" then words.tail else words).map RawText.ofString := by
  cases words with
  | nil => rfl
  | cons word rest =>
    unfold withoutDashes
    by_cases hword : word = "--" <;> simp [hword]

/-- The words after `helm` are its arguments, whatever their bytes. Read by the description of the
command line, strings are its arguments too, less two dashes in front: this is where the two ways to
read the line part. -/
theorem helm_passThrough (program : RawText) :
    (∀ words : List RawText,
      read (program :: RawText.ofString "helm" :: words) = .ok (.helm words))
      ∧ ∀ words : List String,
        let line := program :: ("helm" :: words).map RawText.ofString
        parse line = .ok (.helm
          ((if words.head? = some "--" then words.tail else words).map RawText.ofString))
          ∧ (parse line = read line ↔ words.head? ≠ some "--") := by
  refine ⟨read_helm program, ?_⟩
  intro words line
  have hparse : parse line = .ok (.helm (withoutDashes (words.map RawText.ofString))) := by
    apply parse_helm
    intro word hword
    rw [List.head?_map, Option.mem_def, Option.map_eq_some_iff] at hword
    obtain ⟨first, _, rfl⟩ := hword
    exact Word.not_isIllegible_ofString first
  constructor
  . rw [hparse, withoutDashes_map_ofString]
  . rw [hparse, show read line = .ok (.helm (words.map RawText.ofString)) from read_helm program _]
    simp only [Except.ok.injEq, Command.helm.injEq]
    rw [withoutDashes_eq_iff, List.head?_map]
    cases words.head? <;> simp

end KubePlugin.Surface
