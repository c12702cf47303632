import DocShape.Proofs.Opening
import DocShape.Domain
import DocShape.Schema.Loading

namespace DocShape

/-! What of a configuration decides about building: the limits, and nothing else.

A registry hands its configuration on to the schemas that are built with it, which only look
at it when they check a document.  So building under one configuration and under another with
the same limits is one computation, and the results differ in the configuration they carry.
-/

/-- Two configurations set the same limits; how they report and match is left open. -/
structure Config.SameLimits (first second : Config) : Prop where
  depth : second.maxDepth = first.maxDepth
  fragments : second.maxFragments = first.maxFragments
  fileSize : second.maxFileSize = first.maxFileSize

namespace Registry

/-- The same fragments under another configuration. -/
def governed (registry : Registry) (config : Config) : Registry := { registry with config }

variable {registry : Registry} {config first second : Config}

theorem absorb_governed (depth : config.maxDepth = registry.config.maxDepth)
    (declared : Catalog Value) :
    (registry.governed config).absorb declared =
      (registry.absorb declared).map fun (grown, names) => (grown.governed config, names) := by
  simp only [absorb, governed, depth]
  exact bind_eq_map fun scope => bind_eq_map fun built => rfl

theorem registerSource_governed (depth : config.maxDepth = registry.config.maxDepth)
    (source : Value) :
    (registry.governed config).registerSource source =
      (registry.registerSource source).map fun (grown, names) => (grown.governed config, names) :=
  bind_eq_map fun declared => absorb_governed depth declared

theorem ofSources_governed (depth : second.maxDepth = first.maxDepth)
    (sources : List (Except SchemaError Value)) :
    ofSources second sources = (ofSources first sources).map (·.governed second) := by
  refine bind_eq_map fun declared => ?_
  have absorbed : ((withConfig first).governed second).absorb declared = _ :=
    absorb_governed depth declared
  change (((withConfig first).governed second).absorb declared >>= _) = _
  rw [absorbed]
  exact map_bind_eq_map fun done _ => rfl

theorem sourcesIn_of_sameLimits (limits : first.SameLimits second)
    (items : List (String × StoredItem)) : sourcesIn second items = sourcesIn first items := by
  have ofStored (name : String) (stored : Stored) :
      Source.ofStored second name stored = Source.ofStored first name stored := by
    simp only [Source.ofStored, Source.textOf, limits.fileSize]
  have source (candidate : (String × Option ByteArray) × Nat) :
      sourceIn second candidate = sourceIn first candidate := by
    obtain ⟨⟨name, content⟩, before⟩ := candidate
    cases content with
    | none => rfl
    | some content => simp only [sourceIn, limits.fragments, ofStored]
  unfold sourcesIn
  exact List.map_congr_left fun candidate _ => source candidate

theorem ofDirectory_governed (limits : first.SameLimits second) (storage : Storage)
    (path : String) :
    ofDirectory storage second path = (ofDirectory storage first path).map (·.governed second) := by
  unfold ofDirectory
  cases storage.list path with
  | error fault => rfl
  | ok items =>
      simp only [sourcesIn_of_sameLimits limits]
      exact ofSources_governed limits.depth _

end Registry

theorem Domain.link_governed {registry : Registry} {config : Config}
    (depth : config.maxDepth = registry.config.maxDepth) :
    link (registry.governed config) = (link registry).map (·.governed config) := by
  have contains : (registry.governed config).contains responsesName =
      registry.contains responsesName := rfl
  unfold link
  rw [contains]
  split
  · rfl
  · rw [Registry.registerSource_governed depth]
    cases registry.registerSource responsesSource with
    | error error => rfl
    | ok done => rfl

namespace Schema

variable {registry : Registry} {config : Config}

theorem ofSource_governed (depth : config.maxDepth = registry.config.maxDepth) (source : Value) :
    ofSource (registry.governed config) source =
      (ofSource registry source).map (·.withConfig config) := by
  cases source with
  | map entries =>
      simp only [ofSource, Registry.governed, depth]
      exact bind_eq_map fun parts => bind_eq_map fun scope => bind_eq_map fun built =>
        bind_eq_map fun linked => rfl
  | _ => rfl

theorem ofFile_governed (limits : registry.config.SameLimits config) (storage : Storage)
    (path : String) :
    ofFile storage (registry.governed config) path =
      (ofFile storage registry path).map (·.withConfig config) := by
  unfold ofFile
  cases storage.find path with
  | error fault => rfl
  | ok stored =>
      have read : Source.ofStored config path stored =
          Source.ofStored registry.config path stored := by
        simp only [Source.ofStored, Source.textOf, limits.fileSize]
      simp only [Registry.governed, read]
      exact bind_eq_map fun source => ofSource_governed limits.depth source

end Schema
end DocShape
