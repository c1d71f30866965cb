import Mathlib.Data.List.GetD
import Mathlib.Data.List.Infix
import ServoLink.Proofs.Word

/-!
# Buffers by their segments

A record is described by its segments: the bytes of each field with the offset at which
they stand.  Where the segments tile a buffer, without a gap and without an overlap, the
buffer with all of them in their places is the one that is laid out from them.
-/

namespace ServoLink

/-- Some bytes and the offset in a buffer at which they stand. -/
structure Segment where
  offset : Nat
  bytes : List UInt8

namespace Segment

/-- The buffer has the bytes of the segment at its offset. -/
def StandsIn (segment : Segment) (buffer : List UInt8) : Prop :=
  segment.bytes <+: buffer.drop segment.offset

/-- The buffer with the bytes of a segment in place of what stood there. -/
def write (buffer : List UInt8) (segment : Segment) : List UInt8 :=
  buffer.take segment.offset ++ segment.bytes ++
    buffer.drop (segment.offset + segment.bytes.length)

/-- The segments follow each other from `start` to `stop` without a gap or an overlap. -/
def Tile (start stop : Nat) : List Segment → Prop
  | [] => start = stop
  | segment :: rest =>
      segment.offset = start ∧ Tile (start + segment.bytes.length) stop rest

/-- A buffer of zeros with the segments written into it one after the other. -/
def layOut (size : Nat) (segments : List Segment) : List UInt8 :=
  segments.foldl write (List.replicate size 0)

variable {segments more : List Segment} {start middle stop size offset : Nat}
  {buffer : List UInt8}

/-! ## Tilings -/

theorem tile_nil (start : Nat) : Tile start start [] :=
  rfl

theorem Tile.append (front : Tile start middle segments) (back : Tile middle stop more) :
    Tile start stop (segments ++ more) := by
  induction segments generalizing start with
  | nil =>
      cases front
      exact back
  | cons first rest inductionHypothesis =>
      exact ⟨front.1, inductionHypothesis front.2⟩

theorem Tile.length (tile : Tile start stop segments) :
    start + (segments.flatMap bytes).length = stop := by
  induction segments generalizing start with
  | nil =>
      exact tile
  | cons first rest inductionHypothesis =>
      rw [List.flatMap_cons, List.length_append, ← Nat.add_assoc]
      exact inductionHypothesis tile.2

theorem foldl_write_of_tile (front : List UInt8) (tile : Tile front.length stop segments) :
    segments.foldl write (front ++ List.replicate (stop - front.length) 0) =
      front ++ segments.flatMap bytes := by
  -- What has been written so far is the front, and behind it there are zeros only.
  induction segments generalizing front with
  | nil =>
      cases tile
      simp
  | cons first rest inductionHypothesis =>
      obtain ⟨place, following⟩ := tile
      have written : write (front ++ List.replicate (stop - front.length) 0) first =
          (front ++ first.bytes) ++
            List.replicate (stop - (front ++ first.bytes).length) 0 := by
        unfold write
        rw [place, List.take_left, ← List.drop_drop, List.drop_left, List.drop_replicate,
          List.length_append, Nat.sub_sub]
      rw [List.foldl_cons, written,
        inductionHypothesis (front ++ first.bytes) (by rwa [List.length_append]),
        List.flatMap_cons, List.append_assoc]

theorem layOut_of_tile (tile : Tile 0 size segments) :
    layOut size segments = segments.flatMap bytes :=
  foldl_write_of_tile [] tile

theorem length_layOut (tile : Tile 0 size segments) : (layOut size segments).length = size := by
  rw [layOut_of_tile tile]
  simpa using tile.length

theorem append_prefix_iff {front back whole : List UInt8} :
    front ++ back <+: whole ↔ front <+: whole ∧ back <+: whole.drop front.length := by
  constructor
  · rintro ⟨rest, rfl⟩
    simp
  · rintro ⟨⟨rest, rfl⟩, following⟩
    rw [List.drop_left] at following
    exact (List.prefix_append_right_inj front).mpr following

/-- Segments that tile a part of a buffer stand in it if they do so as a whole. -/
theorem flatMap_prefix_iff (tile : Tile start stop segments) :
    segments.flatMap bytes <+: buffer.drop start ↔
      ∀ segment ∈ segments, segment.StandsIn buffer := by
  induction segments generalizing start with
  | nil =>
      simp
  | cons first rest inductionHypothesis =>
      obtain ⟨rfl, following⟩ := tile
      rw [List.forall_mem_cons, ← inductionHypothesis following, List.flatMap_cons,
        append_prefix_iff, List.drop_drop]
      rfl

/-- A buffer is laid out from segments that tile it if all of them stand in it. -/
theorem eq_layOut_iff (tile : Tile 0 size segments) :
    buffer = layOut size segments ↔
      buffer.length = size ∧ ∀ segment ∈ segments, segment.StandsIn buffer := by
  have length := length_layOut tile
  rw [← flatMap_prefix_iff tile, ← layOut_of_tile tile, List.drop_zero]
  constructor
  · rintro rfl
    exact ⟨length, List.prefix_rfl⟩
  · rintro ⟨same, whole⟩
    exact (whole.eq_of_length (by rw [length, same])).symm

theorem standsIn_layOut (tile : Tile 0 size segments) :
    ∀ segment ∈ segments, segment.StandsIn (layOut size segments) :=
  ((eq_layOut_iff tile).mp rfl).2

/-! ## Places -/

theorem Tile.bounds {segment : Segment} (tile : Tile start stop segments)
    (member : segment ∈ segments) :
    start ≤ segment.offset ∧ segment.offset + segment.bytes.length ≤ stop := by
  induction segments generalizing start with
  | nil =>
      cases member
  | cons first rest inductionHypothesis =>
      have length := tile.length
      obtain ⟨rfl, following⟩ := tile
      rcases List.mem_cons.mp member with rfl | later
      · rw [List.flatMap_cons, List.length_append] at length
        omega
      · have inside := inductionHypothesis following later
        omega

theorem Tile.exists_segment {place : Nat} (tile : Tile start stop segments)
    (above : start ≤ place) (below : place < stop) :
    ∃ segment ∈ segments,
      segment.offset ≤ place ∧ place < segment.offset + segment.bytes.length := by
  induction segments generalizing start with
  | nil =>
      cases tile
      omega
  | cons first rest inductionHypothesis =>
      obtain ⟨rfl, following⟩ := tile
      by_cases inside : place < first.offset + first.bytes.length
      · exact ⟨first, List.mem_cons_self, above, inside⟩
      · obtain ⟨segment, later, covers⟩ :=
          inductionHypothesis following (Nat.le_of_not_lt inside)
        exact ⟨segment, List.mem_cons_of_mem _ later, covers⟩

theorem standsIn_iff_getElem? {segment : Segment} :
    segment.StandsIn buffer ↔
      ∀ place < segment.bytes.length,
        buffer[segment.offset + place]? = segment.bytes[place]? := by
  unfold StandsIn
  rw [List.prefix_iff_getElem?]
  refine forall₂_congr fun place inside => ?_
  rw [List.getElem?_drop, List.getElem?_eq_getElem inside]

/-! ## Bytes and words -/

def byte (offset : Nat) (value : UInt8) : Segment :=
  ⟨offset, [value]⟩

def word (offset : Nat) (value : UInt16) : Segment :=
  ⟨offset, wordBytes value⟩

theorem byte_standsIn_iff {value : UInt8} (inside : offset < buffer.length) :
    (byte offset value).StandsIn buffer ↔ buffer.getD offset 0 = value := by
  unfold StandsIn byte
  dsimp only
  rw [List.drop_eq_getElem_cons inside, List.cons_prefix_cons, List.getD_eq_getElem _ _ inside]
  simp [eq_comm]

theorem wordBytes_eq_iff {low high : UInt8} {value : UInt16} :
    wordBytes value = [low, high] ↔ wordOfBytes low high = value := by
  constructor
  · intro equal
    cases equal
    exact wordOfBytes_split value
  · rintro rfl
    exact wordBytes_wordOfBytes low high

theorem word_standsIn_iff {value : UInt16} (inside : offset + 1 < buffer.length) :
    (word offset value).StandsIn buffer ↔ wordAt buffer offset = value := by
  unfold wordAt
  rw [List.getD_eq_getElem _ _ (Nat.lt_of_succ_lt inside), List.getD_eq_getElem _ _ inside,
    ← wordBytes_eq_iff]
  unfold StandsIn word
  dsimp only
  rw [List.drop_eq_getElem_cons (Nat.lt_of_succ_lt inside), List.drop_eq_getElem_cons inside,
    List.prefix_iff_eq_take]
  rfl

/-! ## Rows of equal items -/

section Rows

/-- The segments of some items that have `width` bytes each, one item after the other. -/
def row (segments : Nat → α → List Segment) (width : Nat) : Nat → List α → List Segment
  | _, [] => []
  | start, item :: rest => segments start item ++ row segments width (start + width) rest

variable {segments : Nat → α → List Segment} {width : Nat} {items : List α}

theorem tile_row
    (each : ∀ start item, Tile start (start + width) (segments start item)) :
    Tile start (start + width * items.length) (row segments width start items) := by
  induction items generalizing start with
  | nil =>
      exact tile_nil start
  | cons first rest inductionHypothesis =>
      have stop : start + width * (first :: rest).length =
          start + width + width * rest.length := by
        rw [List.length_cons, Nat.mul_succ]
        omega
      rw [stop]
      exact (each start first).append inductionHypothesis

theorem mem_row_iff {segment : Segment} :
    segment ∈ row segments width start items ↔
      ∃ slot item, items[slot]? = some item ∧
        segment ∈ segments (start + width * slot) item := by
  induction items generalizing start with
  | nil =>
      simp [row]
  | cons first rest inductionHypothesis =>
      have shifted (slot : Nat) : start + width + width * slot = start + width * (slot + 1) := by
        rw [Nat.mul_succ, Nat.add_comm (width * slot), Nat.add_assoc]
      rw [row, List.mem_append, inductionHypothesis]
      simp only [shifted]
      constructor
      · rintro (here | ⟨slot, item, found, later⟩)
        · exact ⟨0, first, rfl, here⟩
        · exact ⟨slot + 1, item, found, later⟩
      · rintro ⟨slot, item, found, member⟩
        cases slot with
        | zero =>
            cases found
            exact Or.inl member
        | succ slot => exact Or.inr ⟨slot, item, found, member⟩

/-- A row stands in a buffer if each of its items is what is read at its place. -/
theorem row_standsIn_iff
    {read : Nat → α}
    (reads : ∀ slot < items.length, ∀ item,
      (∀ segment ∈ segments (start + width * slot) item, segment.StandsIn buffer) ↔
        read slot = item) :
    (∀ segment ∈ row segments width start items, segment.StandsIn buffer) ↔
      (List.range items.length).map read = items := by
  constructor
  · intro stand
    apply List.ext_getElem (by simp)
    intro slot _ inside
    rw [List.getElem_map, List.getElem_range]
    refine (reads slot inside _).mp fun segment member => stand segment ?_
    exact mem_row_iff.mpr ⟨slot, _, List.getElem?_eq_getElem inside, member⟩
  · intro equal segment member
    obtain ⟨slot, item, found, member⟩ := mem_row_iff.mp member
    obtain ⟨inside, _⟩ := List.getElem?_eq_some_iff.mp found
    have value : ((List.range items.length).map read)[slot]? = some item := by
      rw [equal, found]
    simp only [List.getElem?_map, List.getElem?_range inside, Option.map_some,
      Option.some.injEq] at value
    exact (reads slot inside item).mpr value segment member

end Rows

end Segment

end ServoLink
