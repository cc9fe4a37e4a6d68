/-
Reading undoes writing.

A declaration that is written as source text, in its package, under any layout, is the one
declaration in this text.  The text is cut into the tokens that it was put together from, and
what they declare is known for the wider grammar, of which the declaration is a part.
-/
import ServiceAtlas.Proofs.Java.Canonical
import ServiceAtlas.Proofs.Java.UnitReading

namespace ServiceAtlas.Java

open Reader Written

/-- A unit without a package is read back. -/
theorem unit_type (d : TypeDeclaration) {ts : Tokens} (h : Spells d.pieces ts) (origin : String) :
    (Reader.unit ts).declarations origin = [d.declared "" origin] := by
  have hpieces : (Grammar.Source.mk none [] [.ofWritten d]).pieces = d.pieces :=
    Grammar.TypeDeclaration.pieces_ofWritten d
  rw [← hpieces] at h
  rw [Grammar.Source.unit_source _ h]
  exact (List.append_nil _).trans (Grammar.TypeDeclaration.declarations_ofWritten d "" origin)

/-- A unit with a package is read back. -/
theorem unit_package (q : Qualified) (d : TypeDeclaration) {ts : Tokens}
    (h : Spells (Source.packagePieces (some q) ++ d.pieces) ts) (origin : String) :
    (Reader.unit ts).declarations origin = [d.declared q.text origin] := by
  have hpieces : (Grammar.Source.mk (some (.ofQualified q)) [] [.ofWritten d]).pieces
      = Source.packagePieces (some q) ++ d.pieces := by
    rw [← Grammar.TypeDeclaration.pieces_ofWritten, Source.packagePieces,
      ← Grammar.Path.pieces_ofQualified]
    rfl
  rw [← hpieces] at h
  rw [Grammar.Source.unit_source _ h, ← Grammar.Path.text_ofQualified]
  exact (List.append_nil _).trans (Grammar.TypeDeclaration.declarations_ofWritten d _ origin)

-- White space is left out wherever nothing runs together without it.
example :
    let table : Annotation :=
      ⟨⟨[], ⟨"Table", by decide, by decide⟩⟩, .sole (.atom (.text [.plain 'o' (by decide)]))⟩
    let order : TypeDeclaration :=
      { comment := some ⟨" An order. ".toList, by decide⟩
        modifiers := [.annotated table, .word "public" (by decide)]
        name := ⟨"Order", by decide, by decide⟩
        shape := .plainClass (some (.reference ⟨[], ⟨"Base", by decide, by decide⟩⟩ [] 0)) [] []
        fields :=
          [{ comment := none
             modifiers := []
             type := .primitive "int" (by decide) 1
             first := ⟨⟨"lines", by decide, by decide⟩, 0, none⟩
             others := [⟨⟨"totals", by decide, by decide⟩, 1, none⟩] }]
        methods := [] }
    (Source.mk (some ⟨[], ⟨"shop", by decide, by decide⟩⟩) order).text
        ⟨fun _ => .none, fun _ => .none, .none⟩
      = ("package shop;/** An order. */@Table(\"o\")public class Order extends Base"
        ++ "\x7bint[]lines,totals[];\x7d").toList := by
  decide +kernel

end ServiceAtlas.Java
