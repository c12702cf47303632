import DocShape.Proofs.Grammar.Source

namespace DocShape

/-! Definitions that are read alike wherever they stand, and the sources that are made of such
definitions.

A definition with a fault need only be replaced by one with a fault: nothing is built of either,
whatever the faults are.
-/

/-- Both definitions are read alike wherever they stand, unless both have a fault. -/
structure Value.ReadAlike (value other : Value) : Prop where
  required : ∀ path, Definition.requiredOf path value = Definition.requiredOf path other
  read : ∀ limit path depth,
    (Definition.read limit path depth value).Sound ∨ (Definition.read limit path depth other).Sound →
      Definition.read limit path depth value = Definition.read limit path depth other

namespace Value.ReadAlike

variable {value other third : Value}

theorem refl (value : Value) : value.ReadAlike value := ⟨fun _ => rfl, fun _ _ _ _ => rfl⟩

theorem symm (alike : value.ReadAlike other) : other.ReadAlike value :=
  ⟨fun path => (alike.required path).symm,
    fun limit path depth sound => (alike.read limit path depth sound.symm).symm⟩

theorem trans (first : value.ReadAlike other) (second : other.ReadAlike third) :
    value.ReadAlike third := by
  refine ⟨fun path => (first.required path).trans (second.required path), ?_⟩
  intro limit path depth sound
  rcases sound with sound | sound
  · have same := first.read limit path depth (.inl sound)
    rw [same] at sound ⊢
    exact second.read limit path depth (.inl sound)
  · have same := second.read limit path depth (.inr sound)
    rw [← same] at sound ⊢
    exact first.read limit path depth (.inr sound)

end Value.ReadAlike

namespace Source

variable {entries others : Entries} {registered : Catalog Node} {limit : Nat} {name : String}

/-- Sources with fragments of the same names, and with a root and fragments that are read alike. -/
structure ReadAlike (entries others : Entries) : Prop where
  root : (Value.map (remaining entries)).ReadAlike (.map (remaining others))
  names : ((declarations entries).map (·.1)).Perm ((declarations others).map (·.1))
  here : ∀ name own, Declares entries name own →
    ∃ body, Declares others name body ∧ own.ReadAlike body
  there : ∀ name body, Declares others name body →
    ∃ own, Declares entries name own ∧ own.ReadAlike body

namespace ReadAlike

theorem symm (alike : ReadAlike entries others) : ReadAlike others entries := by
  refine ⟨alike.root.symm, alike.names.symm, fun name body declares => ?_,
    fun name own declares => ?_⟩
  · obtain ⟨own, ownDeclares, readAlike⟩ := alike.there name body declares
    exact ⟨own, ownDeclares, readAlike.symm⟩
  · obtain ⟨body, bodyDeclares, readAlike⟩ := alike.here name own declares
    exact ⟨body, bodyDeclares, readAlike.symm⟩

/-- It is enough that the fragments are read alike one by one, in some order. -/
theorem of_paired (root : (Value.map (remaining entries)).ReadAlike (.map (remaining others)))
    {middle : List (String × Value)} (order : (declarations entries).Perm middle)
    (pairs : List.Forall₂
      (fun declaration other => declaration.1 = other.1 ∧ declaration.2.ReadAlike other.2)
      middle (declarations others)) : ReadAlike entries others := by
  have names : middle.map (·.1) = (declarations others).map (·.1) := by
    rw [← List.forall₂_eq_eq_eq, List.forall₂_map_left_iff, List.forall₂_map_right_iff]
    exact pairs.imp fun _ _ paired => paired.1
  refine ⟨root, names ▸ order.map _, fun name own declares => ?_, fun name body declares => ?_⟩
  · have member := order.mem_iff.mp (mem_declarations_iff.mpr declares)
    obtain ⟨⟨_, body⟩, inOthers, rfl, readAlike⟩ := result_of_mem pairs member
    exact ⟨body, mem_declarations_iff.mp inOthers, readAlike⟩
  · obtain ⟨⟨_, own⟩, inMiddle, rfl, readAlike⟩ :=
      source_of_mem pairs (mem_declarations_iff.mpr declares)
    exact ⟨own, mem_declarations_iff.mp (order.mem_iff.mpr inMiddle), readAlike⟩

variable (alike : ReadAlike entries others)

include alike

/-- Where the fragments of one of them have no fault, both have the same scope. -/
theorem scope_eq (once : ((declarations entries).map (·.1)).Nodup)
    (sound : ∀ name definition, (scope registered limit entries).declared.find? name =
      some definition → definition.Sound) :
    scope registered limit others = scope registered limit entries := by
  have still := alike.names.nodup_iff.mp once
  have read {name : String} {own body : Value} (declares : Declares entries name own)
      (readAlike : own.ReadAlike body) :
      Definition.read limit (fragmentPath name) 0 own =
        Definition.read limit (fragmentPath name) 0 body :=
    readAlike.read _ _ _ (.inl (sound name _ ((scope_declared_iff once).mpr ⟨own, declares, rfl⟩)))
  have declared : (scope registered limit others).declared =
      (scope registered limit entries).declared := by
    refine Catalog.ext_find? fun name definition => ?_
    rw [scope_declared_iff still, scope_declared_iff once]
    constructor
    · intro declared
      obtain ⟨body, declares, rfl⟩ := declared
      obtain ⟨own, ownDeclares, readAlike⟩ := alike.there name body declares
      exact ⟨own, ownDeclares, read ownDeclares readAlike⟩
    · intro declared
      obtain ⟨own, declares, rfl⟩ := declared
      obtain ⟨body, bodyDeclares, readAlike⟩ := alike.here name own declares
      exact ⟨body, bodyDeclares, (read declares readAlike).symm⟩
  change Scope.mk registered _ = Scope.mk registered _
  exact congrArg _ declared

end ReadAlike
end Source

namespace Schema

variable {registry : Registry} {entries others : Entries} {schema : Schema}

theorem ofSource_of_readAlike (alike : Source.ReadAlike entries others)
    (made : ofSource registry (.map entries) = .ok schema) :
    ofSource registry (.map others) = .ok schema := by
  obtain ⟨_, same, nonempty, once, free, built, filled, root, fragments, linked, isSchema⟩ :=
    ofSource_eq_ok_iff.mp made
  cases same
  obtain ⟨_, same, _, _, _, buildable, sound, _⟩ :=
    ofSource_succeeds_iff_buildable.mp ⟨schema, made⟩
  cases same
  have still := alike.names.nodup_iff.mp once
  have scope := alike.scope_eq once buildable.sound
  have body : Source.body registry.config.maxDepth others =
      Source.body registry.config.maxDepth entries :=
    (alike.root.read _ _ _ (.inl sound)).symm
  refine ofSource_eq_ok_iff.mpr ⟨others, rfl, ?_, still, ?_, built, scope ▸ filled, root, fragments,
    ?_, isSchema⟩
  · intro declaration member
    obtain ⟨own, declares, _⟩ := alike.there _ _ (Source.mem_declarations_iff.mp member)
    exact nonempty (declaration.1, own) (Source.mem_declarations_iff.mpr declares)
  · intro name member
    obtain ⟨_, declares⟩ := (Source.mem_names_fragments_iff still).mp member
    obtain ⟨own, ownDeclares, _⟩ := alike.there name _ declares
    exact free name ((Source.mem_names_fragments_iff once).mpr ⟨own, ownDeclares⟩)
  · rw [scope, body]
    exact linked

/-- Such sources make the same schema, or none of them makes one. -/
theorem ofSource_iff_of_readAlike (alike : Source.ReadAlike entries others) :
    ofSource registry (.map entries) = .ok schema ↔ ofSource registry (.map others) = .ok schema :=
  ⟨ofSource_of_readAlike alike, ofSource_of_readAlike alike.symm⟩

end Schema
end DocShape
