import BslLint.Check.Registry
import BslLint.Command.Output
import BslLint.Proofs.Configuration.RoundTrip
import BslLint.Proofs.Rule.Build
import BslLint.Rule.Analysis

/-! The configuration that a workspace starts with. It is read as it was meant, and under it every rule is as it is
without any setting. -/

set_option autoImplicit false

namespace BslLint

namespace Registry

variable {State : Type} {registry : Registry State} {left right : Snapshot} (context : Context)
  (same : ∀ descriptor ∈ registry.descriptors, descriptor.activation left = descriptor.activation right)

include same

theorem selected_of_activation : registry.selected context left = registry.selected context right := by
  refine List.filter_congr fun descriptor member => ?_
  rw [Descriptor.isSelected, Descriptor.isSelected, same descriptor member]

theorem instances_of_activation [Rule State] (language : left.language = right.language) :
    registry.instances context left = registry.instances context right := by
  rw [instances, instances, selected_of_activation context same]
  refine List.filterMap_congr fun descriptor member => ?_
  rw [instantiate, instantiate, language, same descriptor (List.mem_of_mem_filter member)]

theorem analyze_of_activation [Rule State] (language : left.language = right.language)
    (only : Option (List String)) (path : Path) (content : String) :
    registry.analyze left context only path content = registry.analyze right context only path content := by
  rw [analyze, analyze, instances_of_activation context same language]

end Registry

namespace Command

variable {State : Type} {registry : Registry State} (language : Language)

theorem toggles_of_initialSnapshot :
    ∀ entry ∈ (initialSnapshot registry language).settings, ∃ enabled, entry.2 = .toggle enabled := by
  intro entry member
  obtain ⟨descriptor, _, rfl⟩ := List.mem_map.mp (Dictionary.mem_of_mem_ofList member)
  exact ⟨_, rfl⟩

theorem wellFormed_initialSnapshot : (initialSnapshot registry language).WellFormed where
  ascending := Dictionary.ascending_ofList _
  ordered entry member := by
    obtain ⟨enabled, toggle⟩ := toggles_of_initialSnapshot language entry member
    rw [toggle]
    trivial

theorem depth_initialSnapshot :
    (JsonForm.ofJson (initialSnapshot registry language).toJson).depth ≤ Json.depthLimit := by
  refine Snapshot.depth_toJson_le_iff.mpr fun entry member => ?_
  obtain ⟨enabled, toggle⟩ := toggles_of_initialSnapshot language entry member
  rw [toggle]
  exact Nat.zero_le _

/-- The text of the first configuration is read as the snapshot it was written for. -/
theorem parse_initialText :
    Snapshot.parse .json (initialText registry language) = .ok (initialSnapshot registry language) := by
  refine Snapshot.parse_of_padded (wellFormed_initialSnapshot language) (depth_initialSnapshot language) (.refl _) ?_
  have integral : (initialSnapshot registry language).toJson.Integral := by
    change ((initialSnapshot registry language).listing (initialSnapshot registry language).settings).toJson.Integral
    refine Snapshot.integral_listing (fun entry member => ?_) (.refl _)
    obtain ⟨enabled, toggle⟩ := toggles_of_initialSnapshot language entry member
    rw [toggle]
    trivial
  have text : (initialText registry language).toList =
      [] ++ (Json.prettyChars 0 (initialSnapshot registry language).toJson ++ ['\n']) := by
    simp [initialText, lines, Json.pretty]
  rw [text]
  exact .blanks JsonForm.blank_nil (JsonForm.written_prettyChars 0 integral) (by simp [JsonForm.Blank])

theorem activation_initialSnapshot (distinct : registry.codes.Nodup) {descriptor : Descriptor}
    (member : descriptor ∈ registry.descriptors) :
    descriptor.activation (initialSnapshot registry language) = ⟨descriptor.metadata.activatedByDefault, []⟩ := by
  have setting : (initialSnapshot registry language).setting? descriptor.code =
      some (.toggle descriptor.metadata.activatedByDefault) := by
    rw [Snapshot.setting?, initialSnapshot, Dictionary.get?_ofList]
    refine lastGiven?_of_mem ?_ (List.mem_map.mpr ⟨descriptor, member, rfl⟩)
    rw [List.map_map]
    exact distinct
  rw [Descriptor.activation, setting]

/-- The first configuration changes nothing: it only says what holds without it. -/
theorem initialText_preserves [Rule State] {catalog : Catalog} {rules : List (RuleMetadata × State)}
    (built : Registry.build catalog rules = .ok registry) :
    let defaults := Snapshot.standard.withLanguage language
    ∃ snapshot, Snapshot.parse .json (initialText registry language) = .ok snapshot ∧
      snapshot.language = language ∧ snapshot.configurationRoot = none ∧
      (∀ descriptor ∈ registry.descriptors,
        descriptor.activation snapshot = ⟨descriptor.metadata.activatedByDefault, []⟩ ∧
        descriptor.activation defaults = ⟨descriptor.metadata.activatedByDefault, []⟩) ∧
      ∀ context : Context, registry.selected context snapshot = registry.selected context defaults ∧
        registry.instances context snapshot = registry.instances context defaults ∧
        ∀ (only : Option (List String)) (path : Path) (content : String),
          registry.analyze snapshot context only path content = registry.analyze defaults context only path content := by
  intro defaults
  have distinct := Registry.nodup_codes_of_build built
  have own : ∀ descriptor ∈ registry.descriptors, descriptor.activation (initialSnapshot registry language) =
      ⟨descriptor.metadata.activatedByDefault, []⟩ :=
    fun descriptor member => activation_initialSnapshot language distinct member
  have unset (descriptor : Descriptor) :
      descriptor.activation defaults = ⟨descriptor.metadata.activatedByDefault, []⟩ := rfl
  have same : ∀ descriptor ∈ registry.descriptors, descriptor.activation (initialSnapshot registry language) =
      descriptor.activation defaults :=
    fun descriptor member => (own descriptor member).trans (unset descriptor).symm
  refine ⟨initialSnapshot registry language, parse_initialText language, rfl, rfl, ?_, fun context => ⟨?_, ?_, ?_⟩⟩
  · exact fun descriptor member => ⟨own descriptor member, unset descriptor⟩
  · exact Registry.selected_of_activation context same
  · exact Registry.instances_of_activation context same rfl
  · exact fun only path content => Registry.analyze_of_activation context same rfl only path content

/-- A rule whose code has to be escaped, and one that is off by default. -/
theorem initialText_preserves_escapedCode :
    let texts : RuleTexts := ⟨"Rule", "Found", "A rule."⟩
    let code := "Line \"length\"\n\\ы"
    let entries := [(Named.name Builtin.commentedCode, texts), (code, texts)]
    let lineLength : RuleMetadata × BuiltinRule :=
      ({ Builtin.metadata .lineLength with code }, Builtin.fresh .lineLength)
    let rules := [lineLength, Builtin.registration .commentedCode]
    let registry : Registry BuiltinRule := ⟨rules.map fun rule => ⟨⟨rule.1, ⟨texts, texts⟩⟩, rule.2⟩⟩
    Registry.build ⟨entries, entries⟩ rules = .ok registry ∧
      ∃ snapshot, Snapshot.parse .json (initialText registry .en) = .ok snapshot ∧ snapshot.language = .en ∧
        ∀ context path content, registry.analyze snapshot context none path content =
          registry.analyze (Snapshot.standard.withLanguage .en) context none path content := by
  intro texts code entries lineLength rules registry
  have built : Registry.build ⟨entries, entries⟩ rules = .ok registry := by decide +kernel
  obtain ⟨snapshot, parsed, language, _, _, same⟩ := initialText_preserves .en built
  exact ⟨built, snapshot, parsed, language, fun context path content => (same context).2.2 none path content⟩

end Command

end BslLint
