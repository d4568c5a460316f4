/-
Binds and arguments of a statement that writes a row are aligned: the `k`-th bind
that the reader finds stands at the place of the column whose value is the `k`-th
argument. Quoted names may hold anything; fragments that are spliced in must be
self-contained, or they would hide or add binds.
-/
import SqlBind.Proofs.Write.Build
import SqlBind.Proofs.Write.Reading

namespace SqlBind

open Placeholder

/-- Where the reader finds the binds of a printed tree, and what is bound there. -/
theorem RowSyntax.offsets_text {tree : RowSyntax}
    (names : ∀ name ∈ tree.names, Identifier.check name = .ok ())
    (contained : ∀ sql ∈ tree.fragments, SelfContained sql) (row : Row) :
    offsets tree.text = (Chunk.placesFrom 0 tree.chunks).map Prod.fst ∧
      (tree.statement row).args = (Chunk.placesFrom 0 tree.chunks).map fun place =>
        row.value place.2 := by
  refine ⟨(RowSyntax.reads names contained).binds 0, ?_⟩
  rw [RowSyntax.statement, RowSyntax.bound, ← Chunk.map_snd_placesFrom 0, List.map_map]
  rfl

end SqlBind
