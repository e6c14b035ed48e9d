import EntityQuery.Diagnostic.Basic
import EntityQuery.Text.Cut

/-!
# Path segments

A navigation path is a text such as `p.address.city`. Its segments are what stands between the
dots, each with the bytes it takes up in the query. Segments and dots tile the text: each segment
starts one byte after the one before it ends.
-/

namespace EntityQuery.Navigation

/-- A name in a path, and where it stands. -/
structure Segment where
  name : String
  span : Span
  deriving DecidableEq

/-- Names laid out one after the other from `offset`, one byte apart. -/
def layOut (offset : Nat) : List String → List Segment
  | [] => []
  | name :: names =>
    let stop := offset + name.utf8ByteSize
    ⟨name, ⟨offset, stop⟩⟩ :: layOut (stop + 1) names

/-- The segments of a text that starts at byte `offset` of a query. -/
def segments (text : String) (offset : Nat) : List Segment :=
  layOut offset (Text.dotted text)

end EntityQuery.Navigation
