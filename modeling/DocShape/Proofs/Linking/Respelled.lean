import DocShape.Proofs.Grammar.Respelled

namespace DocShape

/-! Sources that say the same in other words. -/

namespace Source

/-- Edits of words lead from the root of one source to the root of the other, and so for their
fragments, which may be declared in another order. -/
structure Reworded (entries others : Entries) : Prop where
  root : Relation.EqvGen Respelled (.map (remaining entries)) (.map (remaining others))
  fragments : ∃ middle, (declarations entries).Perm middle ∧
    List.Forall₂ (fun declaration other =>
      declaration.1 = other.1 ∧ Relation.EqvGen Respelled declaration.2 other.2)
      middle (declarations others)

theorem Reworded.readAlike {entries others : Entries} (reworded : Reworded entries others) :
    ReadAlike entries others := by
  obtain ⟨middle, order, pairs⟩ := reworded.fragments
  refine .of_paired (readAlike_of_edits reworded.root) order (pairs.imp fun _ _ paired => ?_)
  exact ⟨paired.1, readAlike_of_edits paired.2⟩

end Source

namespace Schema

/-- A source makes the same schema in whatever words, or in no words at all. -/
theorem ofSource_reworded {entries others : Entries} (reworded : Source.Reworded entries others)
    (registry : Registry) (schema : Schema) :
    ofSource registry (.map entries) = .ok schema ↔ ofSource registry (.map others) = .ok schema :=
  ofSource_iff_of_readAlike reworded.readAlike

/-- Edits of a shape, of the field around it and of the root, and of the bounds of a fragment. -/
theorem ofSource_reworded_nested :
    let size (bounds : Entries) : Value × Value :=
      (.string "schema;size", .map [(.string "type", .string "int"), (.string "range", .map bounds)])
    let sizes (type : String) (shape : Entries) : Value := .map [(.string "type", .string type),
      (.string "sequence", .seq [.map [(.string "include", .string "size")], .map shape])]
    let wordy : Entries := [(.string "type", .string "map"),
      size [(.string "min", .int 1), (.string "max", .int 9)],
      (.string "mapping", .map [(.string "sizes", sizes "sequence"
        [(.string "type", .string "str"), (.string "desc", .string "wide")])])]
    let terse : Entries := [(.string "map", .map [(.string "sizes", sizes "seq" [])]),
      size [(.string "max", .int 9), (.string "min", .int 1)]]
    Source.Reworded wordy terse ∧
      ∃ schema, ofSource .empty (.map wordy) = .ok schema ∧
        ofSource .empty (.map terse) = .ok schema := by
  intro size sizes wordy terse
  let untyped (child : Value) : Entries := [(.string "mapping", .map [(.string "sizes", child)])]
  let root (child : Value) : Value := .map ((.string "type", .string "map") :: untyped child)
  have inField {child other : Value} (edit : Source.Respelled child other) :
      Source.Respelled (root child) (root other) :=
    @Source.Respelled.field [(.string "type", .string "map")] [] [] [] _ _ _ _ List.mem_cons_self edit
  have inShape {shape other : Entries} (edit : Source.Respelled (.map shape) (.map other)) :
      Source.Respelled (root (sizes "sequence" shape)) (root (sizes "sequence" other)) :=
    inField (@Source.Respelled.variant [(.string "type", .string "sequence")] []
      [.map [(.string "include", .string "size")]] [] _ _ _ List.mem_cons_self edit)
  have implied : Source.Implies [(.string "desc", .string "wide")] "str" :=
    .str (by simp [Entries.get?, Value.isPlain])
  have shape := inShape (@Source.Respelled.untyped [] _ _ rfl implied)
  have undescribed := inShape (@Source.Respelled.described [] [] "wide" rfl)
  have renamed := inField (@Source.Respelled.renamed []
    [(.string "sequence", .seq [.map [(.string "include", .string "size")], .map []])]
    ["seq", "sequence"] "sequence" "seq" (by decide) (by decide) (by decide))
  have present : ¬ (untyped (sizes "seq" [])).Lacks ["mapping", "map"] := by
    simp [untyped, Entries.get?, Value.isPlain]
  have mapped := @Source.Respelled.untyped [] _ _ rfl (.map present)
  have exchanged := @Source.Respelled.synonym (untyped (sizes "seq" [])) "mapping" "map" (by decide)
  have ordered := @Source.Respelled.bounds [(.string "type", .string "int")] [] _ _
    (.swap (.string "max", .int 9) (.string "min", .int 1) [])
  have edits : Relation.EqvGen Source.Respelled
      (.map (Source.remaining wordy)) (.map (Source.remaining terse)) :=
    .trans _ _ _ (.rel _ _ shape) (.trans _ _ _ (.symm _ _ (.rel _ _ undescribed))
      (.trans _ _ _ (.rel _ _ renamed) (.trans _ _ _ (.rel _ _ mapped) (.rel _ _ exchanged))))
  have reworded : Source.Reworded wordy terse :=
    ⟨edits, _, List.Perm.refl _, .cons ⟨rfl, .rel _ _ ordered⟩ .nil⟩
  have builds : (ofSource .empty (.map wordy)).isOk = true := by
    decide +kernel
  obtain ⟨schema, made⟩ := exists_of_isOk builds
  exact ⟨reworded, schema, made, (ofSource_reworded reworded .empty schema).mp made⟩

end Schema
end DocShape
