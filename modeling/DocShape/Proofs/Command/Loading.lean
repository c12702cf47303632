import DocShape.Command
import DocShape.Proofs.Registry.Configuration
import DocShape.Proofs.Registry.Growth

namespace DocShape.Command

/-! Loading a schema for a task: checking the schema alone tells whether documents can be
checked with it, whatever the flags of that run.
-/

variable {storage : Storage} {choice : SchemaChoice} {config first second : Config}

theorem during_map {α β : Type} (step : Step) (change : α → β) (result : Except SchemaError α) :
    during step (result.map change) = (during step result).map change := by
  cases result with
  | error error => rfl
  | ok found => rfl

theorem during_eq_ok {α : Type} {step : Step} {result : Except SchemaError α} {found : α} :
    during step result = .ok found ↔ result = .ok found := by
  cases result <;> simp [during, Except.mapError]

def LoadedSchema.governed (loaded : LoadedSchema) (config : Config) : LoadedSchema :=
  { loaded with schema := loaded.schema.withConfig config }

theorem startingRegistry_governed (limits : first.SameLimits second) (storage : Storage)
    (choice : SchemaChoice) :
    startingRegistry storage second choice =
      (startingRegistry storage first choice).map (·.governed second) := by
  unfold startingRegistry
  cases choice.fragments with
  | none => rfl
  | some directory =>
      simp only [Registry.ofDirectory_governed limits]
      exact during_map _ _ _

theorem startingRegistry_config {registry : Registry}
    (started : startingRegistry storage config choice = .ok registry) :
    registry.config = config := by
  unfold startingRegistry at started
  cases fragments : choice.fragments with
  | none =>
      simp only [fragments, pure_eq_ok] at started
      rw [← started]
      rfl
  | some directory =>
      simp only [fragments, during_eq_ok, Registry.ofDirectory] at started
      cases listed : storage.list directory with
      | error fault => simp [listed] at started
      | ok items =>
          simp only [listed, Registry.ofSources, bind_eq_ok, pure_eq_ok] at started
          obtain ⟨declared, _, ⟨grown, names⟩, absorbed, rfl⟩ := started
          exact (Registry.absorbs_of_absorb absorbed).1.config

theorem schemaOver_governed {registry : Registry} (limits : registry.config.SameLimits config) :
    schemaOver storage choice (registry.governed config) =
      (schemaOver storage choice registry).map (·.governed config) := by
  unfold schemaOver
  cases choice.schema with
  | some file =>
      simp only [Schema.ofFile_governed limits, during_map]
      exact map_bind_eq_map fun schema _ => rfl
  | none =>
      simp only [Domain.link_governed limits.depth, during_map]
      refine map_bind_eq_map fun linked linking => ?_
      have sameConfig := (Domain.link_within (during_eq_ok.mp linking)).1.config
      have depth : config.maxDepth = linked.config.maxDepth := by
        rw [sameConfig, limits.depth]
      simp only [Schema.ofSource_governed depth, during_map]
      exact map_bind_eq_map fun schema _ => rfl

/-- Loading under two configurations with the same limits fails alike, or gives the same schema
with the one configuration or the other. -/
theorem loadSchema_governed (limits : first.SameLimits second) (storage : Storage)
    (choice : SchemaChoice) :
    loadSchema storage second choice =
      (loadSchema storage first choice).map (·.governed second) := by
  rw [loadSchema, loadSchema, startingRegistry_governed limits]
  refine map_bind_eq_map fun registry started => ?_
  have config := startingRegistry_config started
  exact schemaOver_governed (config ▸ limits)

theorem sameLimits_configOf (arguments : Arguments) :
    Config.standard.SameLimits (Request.configOf arguments) :=
  ⟨rfl, rfl, rfl⟩

theorem Failure.code_ne_success (failure : Failure) : failure.code ≠ success := by
  unfold Failure.code
  split
  · decide
  · decide

theorem Failure.outcome_errors_ne (failure : Failure) (wording : Wording) :
    (failure.outcome wording).errors ≠ "" := by
  simp [Failure.outcome]

theorem checkSchema_of_loadSchema {wording : Wording} {format : Format} {loaded : LoadedSchema}
    (loads : loadSchema storage .standard choice = .ok loaded) :
    checkSchema storage wording format choice = ⟨success, schemaText format loaded, ""⟩ := by
  simp only [checkSchema, loads]

theorem checkSchema_of_failure {wording : Wording} {format : Format} {failure : Failure}
    (fails : loadSchema storage .standard choice = .error failure) :
    checkSchema storage wording format choice = failure.outcome wording := by
  simp only [checkSchema, fails]

theorem validate_of_loadSchema {wording : Wording} {format : Format} {files : List String}
    {loaded : LoadedSchema} (loads : loadSchema storage config choice = .ok loaded) :
    validate storage wording format files choice config =
      ⟨codeOf (files.map (report storage wording loaded.schema)),
        reportsText format (files.map (report storage wording loaded.schema)), ""⟩ := by
  simp only [validate, loads]

theorem validate_of_failure {wording : Wording} {format : Format} {files : List String}
    {failure : Failure} (fails : loadSchema storage config choice = .error failure) :
    validate storage wording format files choice config = failure.outcome wording := by
  simp only [validate, fails]

/-- Building under one configuration and then taking another is building under the other. -/
theorem ofSource_ignores_policies (fragments : Catalog Node) (source : Value)
    (depth : first.maxDepth = second.maxDepth) :
    (∃ error, Schema.ofSource ⟨fragments, first⟩ source = .error error ∧
      Schema.ofSource ⟨fragments, second⟩ source = .error error) ∨
    ∃ schema other, Schema.ofSource ⟨fragments, first⟩ source = .ok schema ∧
      Schema.ofSource ⟨fragments, second⟩ source = .ok other ∧
      schema.root = other.root ∧ schema.fragments = other.fragments ∧
      ∀ document, (schema.withConfig second).validate document = other.validate document := by
  have governed : Schema.ofSource ⟨fragments, second⟩ source =
      (Schema.ofSource ⟨fragments, first⟩ source).map (·.withConfig second) :=
    @Schema.ofSource_governed ⟨fragments, first⟩ second depth.symm source
  cases made : Schema.ofSource ⟨fragments, first⟩ source with
  | error error =>
      rw [made] at governed
      exact .inl ⟨error, rfl, governed⟩
  | ok schema =>
      rw [made] at governed
      exact .inr ⟨schema, schema.withConfig second, rfl, governed, rfl, rfl, fun _ => rfl⟩

/-- A schema that passes the check can be used under every configuration with the standard
limits, and one that does not is refused in the same words. -/
theorem checkSchema_predicts (limits : Config.standard.SameLimits config) (storage : Storage)
    (wording : Wording) (format other : Format) (choice : SchemaChoice) (files : List String) :
    let checked := checkSchema storage wording format choice
    let validated := validate storage wording other files choice config
    (checked.code = success ↔ ∃ loaded, loadSchema storage config choice = .ok loaded) ∧
    (checked.code = success ↔ validated.errors = "") ∧
    (checked.code ≠ success → validated = checked) := by
  intro checked validated
  have governed := loadSchema_governed limits storage choice
  cases loads : loadSchema storage .standard choice with
  | error failure =>
      have fails : loadSchema storage config choice = .error failure := by
        rw [governed, loads]
        rfl
      have failed : checked = failure.outcome wording := checkSchema_of_failure loads
      have alsoFailed : validated = failure.outcome wording := validate_of_failure fails
      have code : checked.code ≠ success := by
        rw [failed]
        exact failure.code_ne_success
      refine ⟨iff_of_false code ?_, iff_of_false code ?_, fun _ => alsoFailed.trans failed.symm⟩
      · rw [fails]
        exact nofun
      · rw [alsoFailed]
        exact failure.outcome_errors_ne wording
  | ok loaded =>
      have alsoLoads : loadSchema storage config choice = .ok (loaded.governed config) := by
        rw [governed, loads]
        rfl
      have succeeded : checked = _ := checkSchema_of_loadSchema loads
      have reported : validated = _ := validate_of_loadSchema alsoLoads
      have code : checked.code = success := by rw [succeeded]
      have silent : validated.errors = "" := by rw [reported]
      exact ⟨iff_of_true code ⟨_, alsoLoads⟩, iff_of_true code silent, fun failed =>
        absurd code failed⟩

/-- Policies have no say in building: they only change the reports of a schema that is built all
the same.  So checking a schema tells whether a run with any flags gets to its documents, and
if not, all that this run says. -/
theorem building_ignores_policies :
    (∀ (fragments : Catalog Node) (first second : Config) (source : Value),
      first.maxDepth = second.maxDepth →
        (∃ error, Schema.ofSource ⟨fragments, first⟩ source = .error error ∧
          Schema.ofSource ⟨fragments, second⟩ source = .error error) ∨
        ∃ schema other, Schema.ofSource ⟨fragments, first⟩ source = .ok schema ∧
          Schema.ofSource ⟨fragments, second⟩ source = .ok other ∧
          schema.root = other.root ∧ schema.fragments = other.fragments ∧
          ∀ document, (schema.withConfig second).validate document = other.validate document) ∧
    ∀ (storage : Storage) (wording : Wording) (format other : Format) (choice : SchemaChoice)
      (files : List String) (arguments : Arguments),
      let checked := checkSchema storage wording format choice
      let validated := validate storage wording other files choice (Request.configOf arguments)
      (checked.code = success ↔
        ∃ loaded, loadSchema storage (Request.configOf arguments) choice = .ok loaded) ∧
      (checked.code = success ↔ validated.errors = "") ∧
      (checked.code ≠ success → validated = checked) :=
  ⟨fun fragments _ _ source depth => ofSource_ignores_policies fragments source depth,
    fun storage wording format other choice files arguments =>
      checkSchema_predicts (sameLimits_configOf arguments) storage wording format other choice
        files⟩

/-- A schema whose reports depend on the configuration, and a schema file that is not there. -/
theorem building_ignores_policies_missing :
    let source : Value :=
      Domain.typed "seq" [Domain.items [Domain.typed "int" [], Domain.typed "bool" []]]
    let eager : Config := { Config.standard with elementReport := .all }
    let storage : Storage := ⟨fun _ => .error .missing, fun _ => .error .missing⟩
    let choice : SchemaChoice := ⟨some "schema.yml", none⟩
    let wording : Wording := ⟨"", ""⟩
    let validated := validate storage wording .json ["bot.yml"] choice
      (Request.configOf ⟨["all-patterns"], [], ["bot.yml"]⟩)
    (∃ schema other, Schema.ofSource ⟨.empty, .standard⟩ source = .ok schema ∧
      Schema.ofSource ⟨.empty, eager⟩ source = .ok other ∧
      ∀ document, (schema.withConfig eager).validate document = other.validate document) ∧
    validated.code = loadFailure ∧ validated = checkSchema storage wording .pretty choice := by
  intro source eager storage choice wording validated
  have builds : (Schema.ofSource ⟨.empty, .standard⟩ source).isOk = true := by decide +kernel
  obtain ⟨built, made⟩ := exists_of_isOk builds
  have code : (checkSchema storage wording .pretty choice).code = loadFailure := rfl
  have unloaded : (checkSchema storage wording .pretty choice).code ≠ success := by
    rw [code]
    decide
  have same : validated = checkSchema storage wording .pretty choice :=
    (building_ignores_policies.2 storage wording .pretty .json choice ["bot.yml"]
      ⟨["all-patterns"], [], ["bot.yml"]⟩).2.2 unloaded
  refine ⟨?_, same ▸ code, same⟩
  rcases building_ignores_policies.1 .empty .standard eager source rfl with
    ⟨error, fails, _⟩ | ⟨schema, other, ofStandard, ofEager, _, _, agree⟩
  · rw [made] at fails
    cases fails
  · exact ⟨schema, other, ofStandard, ofEager, agree⟩

end DocShape.Command
