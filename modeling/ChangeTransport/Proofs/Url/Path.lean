import ChangeTransport.Url.Path
import ChangeTransport.Proofs.Text.Pieces
import ChangeTransport.Proofs.Url.Host

/-!
# Segments of a path

The segments of a path are placed one behind the other.  An empty segment in front of all others
stays there or is taken away together with another one, but changes nothing else.  Segments that are
neither dots nor hold a character that is barred are placed as they are.
-/

namespace ChangeTransport.Url

/-! ## An empty segment in front -/

/-- Segments that differ at most in an empty one that has been placed first. -/
def IsFronted (more less : List (List Char)) : Prop := more = less ∨ more = less ++ [[]]

variable {more less : List (List Char)}

theorem IsFronted.cons (fronted : IsFronted more less) (segment : List Char) :
    IsFronted (segment :: more) (segment :: less) := by
  rcases fronted with rfl | rfl
  · exact .inl rfl
  · exact .inr rfl

theorem IsFronted.withoutLast (fronted : IsFronted more less) :
    IsFronted (withoutLast more) (withoutLast less) := by
  rcases fronted with rfl | rfl
  · exact .inl rfl
  · cases less with
    -- the empty segment is the last one and is taken away itself
    | nil => exact .inl rfl
    | cons last before =>
        rw [List.cons_append, Url.withoutLast, Url.withoutLast]
        split
        · exact .inr rfl
        · exact .inr rfl

theorem IsFronted.placeSegment (fronted : IsFronted more less) (isLast : Bool)
    (segment : List Char) :
    IsFronted (placeSegment isLast more segment) (placeSegment isLast less segment) := by
  unfold Url.placeSegment
  split
  · split
    · exact fronted.withoutLast.cons []
    · exact fronted.withoutLast
  · split
    · split
      · exact fronted.cons []
      · exact fronted
    · exact fronted.cons _

theorem IsFronted.placeSegments (fronted : IsFronted more less) (segments : List (List Char)) :
    IsFronted (placeSegments Url.placeSegment more segments)
      (placeSegments Url.placeSegment less segments) := by
  induction segments generalizing more less with
  | nil => exact fronted
  | cons segment rest induction =>
      cases rest with
      | nil => exact fronted.placeSegment true segment
      | cons next further => exact induction (fronted.placeSegment false segment)

/-- A slash in front of a path adds at most an empty segment in front. -/
theorem normalSegments_cons {isSlash : Char → Bool} {slash : Char} (marked : isSlash slash = true)
    (characters : List Char) :
    normalSegments isSlash (slash :: characters) = normalSegments isSlash characters ∨
      normalSegments isSlash (slash :: characters) =
        [] :: normalSegments isSlash characters := by
  have nonempty : Text.piecesWhere isSlash characters ≠ [] := Text.piecesWhere_ne_nil characters
  rcases List.exists_cons_of_ne_nil nonempty with ⟨piece, pieces, cut⟩
  have first : placeSegments placeSegment [] ([] :: piece :: pieces) =
      placeSegments placeSegment [[]] (piece :: pieces) := rfl
  have fronted : IsFronted [[]] [] := .inr rfl
  rw [normalSegments, normalSegments, Text.piecesWhere_cons_of_mark marked, cut, first]
  rcases fronted.placeSegments (piece :: pieces) with same | more
  · exact .inl (by rw [same])
  · exact .inr (by rw [more, List.reverse_append]; rfl)

/-! ## Segments that are kept -/

/-- A segment that is neither one dot nor two, and holds nothing that is barred or escaped. -/
structure IsKept (segment : List Char) : Prop where
  notDots : segment ≠ ['.'] ∧ segment ≠ ['.', '.']
  plain : ∀ character ∈ segment, character ≠ '%' ∧ isBarredInPath character = false

theorem plainDots_of_plain {segment : List Char} (plain : '%' ∉ segment) :
    plainDots segment = segment := by
  fun_induction plainDots segment with
  | case1 rest induction => simp at plain
  | case2 rest induction => simp at plain
  | case3 first rest other other' induction =>
      rw [List.mem_cons, not_or] at plain
      rw [induction plain.2]
  | case4 => rfl

theorem IsKept.placeSegment {segment : List Char} (kept : IsKept segment) (isLast : Bool)
    (before : List (List Char)) :
    Url.placeSegment isLast before segment = segment :: before := by
  have whole : plainDots segment = segment :=
    plainDots_of_plain fun among => (kept.plain '%' among).1 rfl
  have same : escapeWhere isBarredInPath segment = segment :=
    escapeWhere_of_unbarred fun character among => (kept.plain character among).2
  have notTwo : ¬ isTwoDots segment = true := by
    rw [isTwoDots, whole, beq_iff_eq]
    exact kept.notDots.2
  have notOne : ¬ isDot segment = true := by
    rw [isDot, whole, beq_iff_eq]
    exact kept.notDots.1
  rw [Url.placeSegment, if_neg notTwo, if_neg notOne, same]

/-- A path of segments that are kept is made of its pieces. -/
theorem normalSegments_of_kept {isSlash : Char → Bool} {characters : List Char}
    (kept : ∀ segment ∈ Text.piecesWhere isSlash characters, IsKept segment) :
    normalSegments isSlash characters = Text.piecesWhere isSlash characters := by
  have placed : ∀ before segments, (∀ segment ∈ segments, IsKept segment) →
      placeSegments placeSegment before segments = segments.reverse ++ before := by
    intro before segments
    induction segments generalizing before with
    | nil => exact fun _ => rfl
    | cons segment rest induction =>
        intro kept
        have first := kept segment (by simp)
        cases rest with
        | nil => exact first.placeSegment true before
        | cons next further =>
            rw [placeSegments, first.placeSegment,
              induction _ fun other among => kept other (List.mem_cons_of_mem _ among)]
            · simp
            · simp
  rw [normalSegments, placed _ _ kept, List.append_nil, List.reverse_reverse]

end ChangeTransport.Url
