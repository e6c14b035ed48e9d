import EntityQuery.Proofs.Positions
import Mathlib.Data.List.Chain

/-!
# Segments tile a path

The text of a path is cut at its dots, and each segment is laid out after the one before it. The
only thing carried along is a running byte position, so a slip would show on later segments, after
empty ones or after characters of several bytes, and nowhere else.

**The law** (`Navigation.segments_tile`): segments and dots tile the text, wherever it stands. The
names have no dots and joined by dots they are the text again; the spans follow each other one byte
apart from the start of the text to its end; and each span holds the bytes of its name. This says
all there is to say: no other list of segments does the same. No position is beyond the end of the
text, so none overflows where that end does not.
-/

namespace EntityQuery

/-! ## Texts, cut and joined -/

namespace Text

/-- What stands between two marks has none. -/
theorem not_mem_of_mem_splitOn {mark : Char} {cs part : List Char}
    (mem : part ∈ cs.splitOn mark) : mark ∉ part := by
  induction cs generalizing part with
  | nil =>
    rw [List.splitOn_nil, List.mem_singleton] at mem
    simp [mem]
  | cons c cs ih =>
    rw [List.splitOn_cons_eq_if_modifyHead] at mem
    split at mem
    · rcases List.mem_cons.mp mem with rfl | later
      · exact List.not_mem_nil
      · exact ih later
    · next other =>
      -- the character goes to the part that comes first in what is left
      obtain ⟨first, others, eq⟩ := List.exists_cons_of_ne_nil (List.splitOn_ne_nil mark cs)
      rw [eq, List.modifyHead_cons] at mem
      rcases List.mem_cons.mp mem with rfl | later
      · have rest : mark ∉ first := ih (eq ▸ List.mem_cons_self)
        have here : mark ≠ c := fun same => other (beq_iff_eq.mpr same.symm)
        simp [rest, here]
      · exact ih (eq ▸ List.mem_cons_of_mem _ later)

theorem plain_of_mem_dotted {text name : String} (mem : name ∈ dotted text) :
    '.' ∉ name.toList := by
  unfold dotted at mem
  obtain ⟨part, here, rfl⟩ := List.mem_map.mp mem
  rw [String.toList_ofList]
  exact not_mem_of_mem_splitOn here

/-- The segments of a text, joined by dots, are the text. -/
theorem intercalate_dotted (text : String) : ".".intercalate (dotted text) = text := by
  rw [← String.toList_inj, String.toList_intercalate]
  unfold dotted
  have parts : ((text.toList.splitOn '.').map String.ofList).map String.toList =
      text.toList.splitOn '.' := by
    simp [List.map_map, Function.comp_def]
  rw [parts]
  exact List.intercalate_splitOn '.'

/-- Names without dots are the segments of the text that they make up. -/
theorem dotted_intercalate {names : List String} (nonempty : names ≠ [])
    (plain : ∀ name ∈ names, '.' ∉ name.toList) : dotted (".".intercalate names) = names := by
  have parts : ∀ part ∈ names.map String.toList, '.' ∉ part := by
    intro part here
    obtain ⟨name, mem, rfl⟩ := List.mem_map.mp here
    exact plain name mem
  unfold dotted
  rw [String.toList_intercalate]
  have cut : (['.'].intercalate (names.map String.toList)).splitOn '.' = names.map String.toList :=
    List.splitOn_intercalate '.' parts (by simpa using nonempty)
  rw [show ".".toList = ['.'] from rfl, cut]
  simp [List.map_map, Function.comp_def]

/-- A span of the text holds as many bytes as it is long. -/
theorem length_bytesAt {text : String} {span : Span} (inside : span.stop ≤ text.utf8ByteSize) :
    (bytesAt text span).length = span.stop - span.start := by
  unfold bytesAt
  rw [List.length_take, List.length_drop, length_bytes]
  omega

end Text

namespace Navigation

variable {text : String} {offset : Nat} {names : List String} {segment first last : Segment}
  {laid : List Segment}

/-! ## Names laid out one byte apart -/

theorem layOut_cons (offset : Nat) (name : String) (names : List String) :
    layOut offset (name :: names) = ⟨name, offset, offset + name.utf8ByteSize⟩ ::
      layOut (offset + name.utf8ByteSize + 1) names := rfl

theorem start_of_head?_layOut (here : first ∈ (layOut offset names).head?) :
    first.span.start = offset := by
  cases names with
  | nil => cases here
  | cons name names =>
    cases here
    rfl

theorem layOut_apart (offset : Nat) (names : List String) :
    (layOut offset names).IsChain fun a b => b.span.start = a.span.stop + 1 := by
  induction names generalizing offset with
  | nil => exact .nil
  | cons name names ih =>
    rw [layOut_cons]
    exact List.isChain_cons.mpr ⟨fun _ here => start_of_head?_layOut here, ih _⟩

/-- The running position has passed a dot after every name but the last. -/
theorem stop_of_getLast?_layOut (here : last ∈ (layOut offset names).getLast?) :
    last.span.stop = offset + (".".intercalate names).utf8ByteSize := by
  induction names generalizing offset with
  | nil => cases here
  | cons name names ih =>
    cases names with
    | nil =>
      rw [layOut_cons, layOut, List.getLast?_singleton] at here
      cases here
      rw [String.intercalate_singleton]
    | cons next others =>
      rw [layOut_cons, layOut_cons, List.getLast?_cons_cons, ← layOut_cons] at here
      have dot : ".".utf8ByteSize = 1 := rfl
      rw [ih here, String.intercalate_cons_cons, String.utf8ByteSize_append,
        String.utf8ByteSize_append, dot]
      omega

/-- Segments that follow each other one byte apart, each as long as its name, are laid out. -/
theorem eq_layOut (starts : ∀ first ∈ laid.head?, first.span.start = offset)
    (apart : laid.IsChain fun a b => b.span.start = a.span.stop + 1)
    (sized : ∀ segment ∈ laid, segment.span.stop = segment.span.start + segment.name.utf8ByteSize) :
    laid = layOut offset (laid.map (·.name)) := by
  induction laid generalizing offset with
  | nil => rfl
  | cons segment laid ih =>
    obtain ⟨name, start, stop⟩ := segment
    obtain rfl : start = offset := starts _ rfl
    obtain rfl : stop = start + name.utf8ByteSize := sized _ List.mem_cons_self
    obtain ⟨next, others⟩ := List.isChain_cons.mp apart
    have onward := ih next others fun segment mem => sized segment (List.mem_cons_of_mem _ mem)
    rw [List.map_cons, layOut_cons, ← onward]

/-! ## Tilings -/

/-- **The segments tile the text** that stands at byte `offset`. -/
structure Tiles (text : String) (offset : Nat) (laid : List Segment) : Prop where
  nonempty : laid ≠ []
  plain : ∀ segment ∈ laid, '.' ∉ segment.name.toList
  joined : ".".intercalate (laid.map (·.name)) = text
  starts : ∀ first ∈ laid.head?, first.span.start = offset
  stops : ∀ last ∈ laid.getLast?, last.span.stop = offset + text.utf8ByteSize
  apart : laid.IsChain fun a b => b.span.start = a.span.stop + 1
  within : ∀ segment ∈ laid, offset ≤ segment.span.start ∧ segment.span.start ≤ segment.span.stop ∧
    segment.span.stop ≤ offset + text.utf8ByteSize
  named : ∀ segment ∈ laid,
    Text.bytesAt text ⟨segment.span.start - offset, segment.span.stop - offset⟩ =
      Text.bytes segment.name

/-- In a tiling each span is as long as its name. -/
theorem Tiles.sized (tiles : Tiles text offset laid) (mem : segment ∈ laid) :
    segment.span.stop = segment.span.start + segment.name.utf8ByteSize := by
  obtain ⟨after, ordered, inside⟩ := tiles.within segment mem
  have length := congrArg List.length (tiles.named segment mem)
  rw [Text.length_bytes, Text.length_bytesAt (by dsimp only; omega)] at length
  dsimp only at length
  omega

/-- **A text has one tiling.** -/
theorem Tiles.eq_segments (tiles : Tiles text offset laid) : laid = segments text offset := by
  have names : laid.map (·.name) = Text.dotted text := by
    rw [← tiles.joined]
    refine (Text.dotted_intercalate (by simpa using tiles.nonempty) ?_).symm
    intro name here
    obtain ⟨segment, mem, rfl⟩ := List.mem_map.mp here
    exact tiles.plain segment mem
  unfold segments
  rw [← names]
  exact eq_layOut tiles.starts tiles.apart fun _ => tiles.sized

/-- A segment holds the bytes of its name, counted from where the text starts. -/
theorem bytesAt_of_mem_segments (mem : segment ∈ segments text offset) :
    offset ≤ segment.span.start ∧ segment.span.start ≤ segment.span.stop ∧
      segment.span.stop ≤ offset + text.utf8ByteSize ∧
      Text.bytesAt text ⟨segment.span.start - offset, segment.span.stop - offset⟩ =
        Text.bytes segment.name := by
  obtain ⟨left, right, rfl, span⟩ := segments_split mem
  have back : (⟨segment.span.start - offset, segment.span.stop - offset⟩ : Span) =
      ⟨left.utf8ByteSize, left.utf8ByteSize + segment.name.utf8ByteSize⟩ := by
    rw [span, Span.mk.injEq]
    dsimp only
    omega
  rw [back, Text.bytesAt_append, span]
  simp only [String.utf8ByteSize_append, and_true]
  omega

/-- **Segments and dots tile the text of a path.** Take any text, and any byte of a query at which it
starts. Its segments tile it, and they are the only segments that do. -/
theorem segments_tile (text : String) (offset : Nat) (laid : List Segment) :
    Tiles text offset laid ↔ laid = segments text offset := by
  refine ⟨Tiles.eq_segments, ?_⟩
  rintro rfl
  have names : (segments text offset).map (·.name) = Text.dotted text := map_name_layOut _ _
  refine ⟨?_, ?_, ?_, ?_, ?_, ?_, ?_, ?_⟩
  · intro nothing
    rw [nothing] at names
    exact Text.dotted_ne_nil text names.symm
  · intro segment mem
    exact Text.plain_of_mem_dotted (names ▸ List.mem_map_of_mem mem)
  · rw [names, Text.intercalate_dotted]
  · intro first here
    exact start_of_head?_layOut here
  · intro last here
    rw [stop_of_getLast?_layOut here, Text.intercalate_dotted]
  · exact layOut_apart _ _
  · intro segment mem
    obtain ⟨after, ordered, inside, -⟩ := bytesAt_of_mem_segments mem
    exact ⟨after, ordered, inside⟩
  · intro segment mem
    exact (bytesAt_of_mem_segments mem).2.2.2

example : segments "ü..b" 7 = [⟨"ü", 7, 9⟩, ⟨"", 10, 10⟩, ⟨"b", 11, 12⟩] := by decide +kernel

end Navigation

end EntityQuery
