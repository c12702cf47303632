import DocShape.Proofs.Linking.Mentions
import DocShape.Proofs.Linking.Success
import DocShape.Schema
import Mathlib.Data.List.Chain

namespace DocShape

/-! Cycles of includes: the only reason why fragments cannot be built whose bodies are
without fault and whose includes all name something.
-/

namespace Linking

variable {α β : Type} {expected : SchemaError → Prop}

/-- The computation fails with none but these errors, whatever was built before. -/
def FailsOnly (expected : SchemaError → Prop) (computation : Linking α) : Prop :=
  ∀ before error, computation before = .error error → expected error

theorem failsOnly_pure {value : α} : FailsOnly expected (pure value : Linking α) := nofun

theorem FailsOnly.bind {first : Linking α} {next : α → Linking β}
    (ofFirst : FailsOnly expected first) (ofNext : ∀ found, FailsOnly expected (next found)) :
    FailsOnly expected (first >>= next) := by
  intro before error failed
  rcases bind_eq_error.mp failed with failed | ⟨found, _, failed⟩
  · exact ofFirst before error failed
  · exact ofNext found.1 found.2 error failed

theorem failsOnly_ofExcept {found : Except SchemaError α} {value : α} (done : found = .ok value) :
    FailsOnly expected (ofExcept found) := by
  subst done
  exact failsOnly_pure

end Linking

namespace Definition

variable {expected : SchemaError → Prop} {resolve : String → Linking Node}

theorem linkFields_failsOnly
    {definitions : List (Definition × Except SchemaError (FieldKey × Bool))}
    (ofField : ∀ field ∈ definitions, Linking.FailsOnly expected (field.1.link resolve))
    (labelled : ∀ field ∈ definitions, ∃ label, field.2 = .ok label) :
    Linking.FailsOnly expected (linkFields resolve definitions) := by
  induction definitions with
  | nil => exact Linking.failsOnly_pure
  | cons first rest inRest =>
      obtain ⟨ofFirst, ofOthers⟩ := List.forall_mem_cons.mp ofField
      obtain ⟨⟨label, isLabel⟩, labels⟩ := List.forall_mem_cons.mp labelled
      exact ofFirst.bind fun _ => (Linking.failsOnly_ofExcept isLabel).bind fun _ =>
        (inRest ofOthers labels).bind fun _ => Linking.failsOnly_pure

theorem linkVariants_failsOnly {definitions : List Definition}
    (ofVariant : ∀ variant ∈ definitions, Linking.FailsOnly expected (variant.link resolve)) :
    Linking.FailsOnly expected (linkVariants resolve definitions) := by
  induction definitions with
  | nil => exact Linking.failsOnly_pure
  | cons first rest inRest =>
      obtain ⟨ofFirst, ofOthers⟩ := List.forall_mem_cons.mp ofVariant
      exact ofFirst.bind fun _ => (inRest ofOthers).bind fun _ => Linking.failsOnly_pure

/-- A definition without fault fails only where one of its includes does. -/
theorem link_failsOnly {definition : Definition} (sound : definition.Sound)
    (resolves : ∀ name, definition.Includes name → Linking.FailsOnly expected (resolve name)) :
    Linking.FailsOnly expected (definition.link resolve) := by
  induction definition using Definition.induction with
  | refused error => exact absurd sound not_sound_refused
  | included name => exact (resolves name (.here name)).bind fun _ => Linking.failsOnly_pure
  | map definitions allowEmpty ofField =>
      have each := sound_map_iff.mp sound
      have ofFields := linkFields_failsOnly
        (fun field member => ofField field member (each field member).1
          fun name includes => resolves name (.field member includes))
        fun field member => (each field member).2
      exact ofFields.bind fun _ => Linking.failsOnly_pure
  | seq definitions matching ofVariant =>
      have each := sound_seq_iff.mp sound
      have ofVariants := linkVariants_failsOnly fun variant member =>
        ofVariant variant member (each variant member)
          fun name includes => resolves name (.variant member includes)
      exact ofVariants.bind fun _ => Linking.failsOnly_pure
  | scalar leaf => exact Linking.failsOnly_pure

end Definition

/-- A chain of steps that comes back, with its last name, to a place it has passed, and to
none before. -/
structure IsCycle (step : String → String → Prop) (chain : List String) : Prop where
  linked : chain.IsChain step
  distinct : chain.dropLast.Nodup
  closed : ∃ last ∈ chain.dropLast, chain.getLast? = some last

namespace Scope

variable {scope : Scope}

/-- The error that reports a cycle of includes. -/
def ReportsCycle (scope : Scope) (error : SchemaError) : Prop :=
  ∃ chain, error = .includeCycle chain ∧ IsCycle scope.Includes chain

/-- A chain of open fragments that goes on to one of them has come back. -/
theorem Fits.isCycle {room : Nat} {opened : List String} {name : String}
    (fits : scope.Fits room opened) (linked : (opened ++ [name]).IsChain scope.Includes)
    (isOpen : name ∈ opened) : IsCycle scope.Includes (opened ++ [name]) := by
  constructor
  case linked => exact linked
  case distinct =>
    rw [List.dropLast_concat]
    exact fits.distinct
  case closed =>
    rw [List.dropLast_concat]
    exact ⟨name, isOpen, List.getLast?_concat⟩

section Search

variable
  (sound : ∀ name definition, scope.declared.find? name = some definition → definition.Sound)
  (known : ∀ outer inner, scope.Includes outer inner → scope.Knows inner)

include sound known

/-- The open fragments are a chain of includes, so that a lookup that comes back to one of
them closes a cycle. -/
theorem resolve_failsOnly (room : Nat) (opened : List String) (name : String)
    (knows : scope.Knows name) (fits : scope.Fits room opened)
    (linked : (opened ++ [name]).IsChain scope.Includes) :
    Linking.FailsOnly scope.ReportsCycle (scope.resolve room opened name) := by
  intro before error failed
  rw [resolve_eq] at failed
  cases built : before.find? name with
  | some node =>
      rw [built] at failed
      cases failed
  | none =>
      simp only [built] at failed
      by_cases isOpen : name ∈ opened
      · rw [if_pos (by simpa using isOpen)] at failed
        cases failed
        exact ⟨opened ++ [name], rfl, fits.isCycle linked isOpen⟩
      · rw [if_neg (by simpa using isOpen)] at failed
        cases declared : scope.declared.find? name with
        | none =>
            have undeclared : ¬ scope.declared.contains name = true := by
              simp [Catalog.contains_eq_isSome_find?, declared]
            obtain ⟨node, registered⟩ := Catalog.contains_iff.mp (knows.resolve_left undeclared)
            simp [declared, registered] at failed
        | some definition =>
            obtain ⟨inner, rfl, fitsInside⟩ :=
              fits.insert isOpen (Catalog.contains_iff.mpr ⟨definition, declared⟩)
            have ofIncluded (other : String) (includes : definition.Includes other) :
                Linking.FailsOnly scope.ReportsCycle
                  (scope.resolve inner (opened ++ [name]) other) := by
              have step : scope.Includes name other := ⟨definition, declared, includes⟩
              refine resolve_failsOnly inner (opened ++ [name]) other (known name other step)
                fitsInside (List.isChain_append.mpr ⟨linked, List.isChain_singleton other, ?_⟩)
              simpa using step
            have ofBody := Definition.link_failsOnly (sound name definition declared) ofIncluded
            simp only [declared] at failed
            rcases bind_eq_error.mp failed with failed | ⟨_, _, failed⟩
            · exact ofBody before error failed
            · cases failed
termination_by room

theorem forM_lookUp_failsOnly {names : List String} (knows : ∀ name ∈ names, scope.Knows name) :
    Linking.FailsOnly scope.ReportsCycle (names.forM fun name => discard (scope.lookUp name)) := by
  induction names with
  | nil => exact Linking.failsOnly_pure
  | cons name rest inRest =>
      obtain ⟨knowsFirst, knowsRest⟩ := List.forall_mem_cons.mp knows
      have ofFirst := resolve_failsOnly sound known scope.declared.size [] name knowsFirst
        (fits_nil scope) (List.isChain_singleton name)
      simp only [List.forM_eq_forM, List.forM_cons]
      exact (ofFirst.bind fun _ => Linking.failsOnly_pure).bind fun _ => inRest knowsRest

theorem buildDeclared_failsOnly : Linking.FailsOnly scope.ReportsCycle scope.buildDeclared := by
  apply forM_lookUp_failsOnly sound known
  intro name member
  exact .inl (Catalog.contains_iff.mpr (Catalog.mem_names_iff.mp member))

theorem buildDeclared_fails_iff :
    (∃ error, scope.buildDeclared .empty = .error error) ↔
      ∃ name, Relation.TransGen scope.Includes name name := by
  constructor
  · intro ⟨error, failed⟩
    by_contra acyclic
    obtain ⟨_, _, done⟩ := buildDeclared_total ⟨sound, known, not_exists.mp acyclic⟩ .empty
    rw [failed] at done
    cases done
  · intro ⟨name, cycle⟩
    cases done : scope.buildDeclared .empty with
    | error error => exact ⟨error, rfl⟩
    | ok found =>
        obtain ⟨advances, filled⟩ := buildDeclared_fills linked_empty done
        exact absurd cycle ((buildable_of_filled advances.linked filled).acyclic name)

end Search

end Scope

namespace Source

variable {registry : Registry} {declared : Catalog Value}

/-- The body of a declared fragment. -/
def Bodies (declared : Catalog Value) (name : String) (body : Value) : Prop :=
  declared.find? name = some body

/-- The body of a fragment would be built with other fragments registered. -/
def Builds (limit : Nat) (name : String) (body : Value) : Prop :=
  ∃ registered node after,
    (Scope.mk registered .empty).build (.read limit (fragmentPath name) 0 body) .empty =
      .ok (node, after)

/-- Declared fragments that only wait for each other: their names are free, each of their
includes names a fragment, and each body would be built if its includes were. -/
structure Waiting (registry : Registry) (declared : Catalog Value) : Prop where
  free : ∀ name ∈ declared.names, registry.contains name = false
  known : ∀ outer inner, Includes (Bodies declared) outer inner →
    declared.contains inner = true ∨ registry.contains inner = true
  builds : ∀ name body, declared.find? name = some body →
    Builds registry.config.maxDepth name body

theorem Builds.sound {limit : Nat} {name : String} {body : Value}
    (builds : Builds limit name body) : (Definition.read limit (fragmentPath name) 0 body).Sound := by
  obtain ⟨registered, node, after, built⟩ := builds
  obtain ⟨_, expanded⟩ := Scope.link_built (Scope.resolve_resolves _ []) _ _ _ _
    Scope.linked_empty built
  exact Definition.sound_of_expand expanded

section Waiting

variable (waiting : Waiting registry declared)

include waiting

theorem scopeWith_sound (name : String) (definition : Definition)
    (found : (scopeWith registry.fragments registry.config.maxDepth declared).declared.find? name =
      some definition) : definition.Sound := by
  obtain ⟨body, isBody, rfl⟩ := declared_scopeWith_iff.mp found
  exact (waiting.builds name body isBody).sound

theorem scopeWith_includes :
    (scopeWith registry.fragments registry.config.maxDepth declared).Includes =
      Includes (Bodies declared) :=
  Scope.includes_eq (fun _ _ => declared_scopeWith_iff) (scopeWith_sound waiting)

theorem scopeWith_known (outer inner : String)
    (includes : (scopeWith registry.fragments registry.config.maxDepth declared).Includes outer
      inner) : (scopeWith registry.fragments registry.config.maxDepth declared).Knows inner := by
  rw [scopeWith_includes waiting] at includes
  rcases waiting.known outer inner includes with isDeclared | isRegistered
  · obtain ⟨body, found⟩ := Catalog.contains_iff.mp isDeclared
    exact .inl (Catalog.contains_iff.mpr ⟨_, declared_scopeWith_iff.mpr ⟨body, found, rfl⟩⟩)
  · exact .inr isRegistered

/-- Fragments that wait for each other can be built unless one of them waits for itself, and
then the error shows the way back to it, for a registry and for a schema alike. -/
theorem buildDeclared_fails_iff_cyclic :
    ∃ scope, scopeOf registry.fragments registry.config.maxDepth declared = .ok scope ∧
      ((∃ error, scope.buildDeclared.run .empty = .error error) ↔
        ∃ name, Relation.TransGen (Includes (Bodies declared)) name name) ∧
      (∀ error, scope.buildDeclared.run .empty = .error error →
        ∃ chain, error = .includeCycle chain ∧ IsCycle (Includes (Bodies declared)) chain) ∧
      (∀ error, registry.absorb declared = .error error ↔
        scope.buildDeclared.run .empty = .error error) ∧
      ∀ error entries rest, split entries = .ok (declared, rest) →
        scope.buildDeclared.run .empty = .error error →
          Schema.ofSource registry (.map entries) = .error error := by
  have isScope := scopeOf_of_free registry.config.maxDepth waiting.free
  have sound := scopeWith_sound waiting
  have known := scopeWith_known waiting
  refine ⟨_, isScope, ?_, ?_, ?_, ?_⟩
  · rw [← scopeWith_includes waiting]
    exact Scope.buildDeclared_fails_iff sound known
  · intro error failed
    rw [← scopeWith_includes waiting]
    exact Scope.buildDeclared_failsOnly sound known .empty error failed
  · intro error
    simp [Registry.absorb, isScope, bind_eq_error, pure, Except.pure]
  · intro error entries rest isSplit failed
    simp only [Schema.ofSource, isSplit, isScope, failed, bind, Except.bind]

end Waiting

/-- A fragment with two fields of the same shape, and one whose elements come back to it. -/
def pairBody : Value := .map [(.string "map", .map
  [(.string "first", .map [(.string "include", .string "list")]),
    (.string "second", .map [(.string "include", .string "list")])])]

def listBody : Value := .map [(.string "seq", .seq [.map [(.string "include", .string "pair")]])]

def crossing : Catalog Value := .ofList [("pair", pairBody), ("list", listBody)]

theorem crossing_find?_iff {name : String} {body : Value} :
    crossing.find? name = some body ↔
      name = "pair" ∧ body = pairBody ∨ name = "list" ∧ body = listBody := by
  rw [crossing, Catalog.find?_ofList_eq_some_iff (by decide)]
  simp

theorem mentions_pairBody {name : String} : Mentions pairBody name ↔ "list" = name := by
  simp [pairBody, mentions_map_iff, inside_iff, Entries.get?, Value.isPlain, Value.text?,
    Value.content, exists_or]

theorem mentions_listBody {name : String} : Mentions listBody name ↔ "pair" = name := by
  simp [listBody, mentions_map_iff, inside_iff, Entries.get?, Value.isPlain, Value.text?,
    Value.content]

theorem includes_crossing {outer inner : String} :
    Includes (Bodies crossing) outer inner ↔
      outer = "pair" ∧ "list" = inner ∨ outer = "list" ∧ "pair" = inner := by
  simp [Includes, Bodies, crossing_find?_iff, or_and_right, exists_or, and_assoc, mentions_pairBody,
    mentions_listBody]

theorem waiting_crossing : Waiting .empty crossing := by
  constructor
  case free => exact fun _ _ => rfl
  case known =>
    intro outer inner includes
    rcases includes_crossing.mp includes with ⟨_, rfl⟩ | ⟨_, rfl⟩
    · exact .inl rfl
    · exact .inl rfl
  case builds =>
    let others : Catalog Node :=
      .ofList [("pair", .scalar (.ofKind .any)), ("list", .scalar (.ofKind .any))]
    intro name body found
    have isOk : ((Scope.mk others .empty).build
        (.read 64 (fragmentPath name) 0 body) .empty).isOk = true := by
      rcases crossing_find?_iff.mp found with ⟨rfl, rfl⟩ | ⟨rfl, rfl⟩ <;> decide +kernel
    obtain ⟨⟨node, after⟩, built⟩ := exists_of_isOk isOk
    exact ⟨others, node, after, built⟩

theorem buildDeclared_fails_iff_cyclic_crossing :
    ∃ scope, scopeOf .empty 64 crossing = .ok scope ∧
      ∃ chain, scope.buildDeclared.run .empty = .error (.includeCycle chain) ∧
        IsCycle (Includes (Bodies crossing)) chain := by
  obtain ⟨scope, isScope, fails, reports, _⟩ := buildDeclared_fails_iff_cyclic waiting_crossing
  have away : Includes (Bodies crossing) "pair" "list" := includes_crossing.mpr (.inl ⟨rfl, rfl⟩)
  have back : Includes (Bodies crossing) "list" "pair" := includes_crossing.mpr (.inr ⟨rfl, rfl⟩)
  obtain ⟨error, failed⟩ := fails.mpr ⟨"pair", .tail (.single away) back⟩
  obtain ⟨chain, rfl, isCycle⟩ := reports error failed
  exact ⟨scope, isScope, chain, failed, isCycle⟩

end Source
end DocShape
