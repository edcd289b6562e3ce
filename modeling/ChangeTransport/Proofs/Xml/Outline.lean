import Mathlib.Data.List.DropRight
import Mathlib.Data.List.Forall2
import ChangeTransport.Proofs.Xml.RootEnd

/-!
# What counts of a tag

A view takes out of a tag what counts of it.  The outline of an element holds the views of its tags
and its texts, and nothing else.  Two builders that stand at the same place and differ in nothing
that their outlines show stay so with every token, and in the end they build elements of one
outline.

Inside an open element the name counts as well, since its end tag has to repeat it, and blanks in
front of a text do not.
-/

namespace ChangeTransport.Xml

/-- What is left of a part of a content when a view is taken of every tag. -/
inductive Outline (γ : Type) where
  | element (label : γ) (content : List (Outline γ))
  | text (characters : Option (List Char))

section View

variable {γ : Type} (view : List Char → γ)

mutual

/-- The outline of a part of a content. -/
def Node.outline : Node → Outline γ
  | .element tag content => .element (view tag) (Node.outlines content)
  | .text characters => .text characters

/-- The outlines of the parts of a content. -/
def Node.outlines : List Node → List (Outline γ)
  | [] => []
  | node :: rest => node.outline :: Node.outlines rest

end

theorem Node.outlines_eq_map (content : List Node) :
    Node.outlines view content = content.map (Node.outline view) := by
  induction content with
  | nil => rfl
  | cons node rest induction => rw [outlines, induction, List.map_cons]

/-- The outline of an element. -/
def Element.outline (element : Element) : Outline γ :=
  .element (view element.tag) (element.content.map (Node.outline view))

theorem Node.outline_element (tag : List Char) (content : List Node) :
    Node.outline view (.element tag content) = Element.outline view ⟨tag, content⟩ := by
  rw [outline, outlines_eq_map, Element.outline]

mutual

/-- Parts of one outline are equally deep. -/
theorem Node.depth_eq_of_outline : ∀ {first second : Node},
    first.outline view = second.outline view → first.depth = second.depth
  | .text _, .text _, _ => rfl
  | .text _, .element _ _, same => by simp [Node.outline] at same
  | .element _ _, .text _, same => by simp [Node.outline] at same
  | .element _ content, .element _ other, same => by
      rw [Node.outline, Node.outline] at same
      rw [Node.depth, Node.depth, Node.depthOfAll_eq_of_outlines (Outline.element.inj same).2]

theorem Node.depthOfAll_eq_of_outlines : ∀ {first second : List Node},
    Node.outlines view first = Node.outlines view second →
      Node.depthOfAll first = Node.depthOfAll second
  | [], [], _ => rfl
  | [], _ :: _, same => by simp [Node.outlines] at same
  | _ :: _, [], same => by simp [Node.outlines] at same
  | node :: rest, other :: others, same => by
      rw [Node.outlines, Node.outlines] at same
      have heads := (List.cons.inj same).1
      have tails := (List.cons.inj same).2
      rw [Node.depthOfAll, Node.depthOfAll, Node.depth_eq_of_outline heads,
        Node.depthOfAll_eq_of_outlines tails]

end

mutual

/-- Parts of one outline have one outline in every view that takes less. -/
theorem Node.outline_eq_of_outline {δ : Type} {less : List Char → δ}
    (factors : ∀ {tag other}, view tag = view other → less tag = less other) :
    ∀ {first second : Node}, first.outline view = second.outline view →
      first.outline less = second.outline less
  | .text _, .text _, same => congrArg Outline.text (Outline.text.inj same)
  | .text _, .element _ _, same => by simp [Node.outline] at same
  | .element _ _, .text _, same => by simp [Node.outline] at same
  | .element _ _, .element _ _, same => by
      rw [Node.outline, Node.outline] at same
      rcases Outline.element.inj same with ⟨labels, contents⟩
      rw [Node.outline, Node.outline, factors labels, Node.outlines_eq_of_outlines factors contents]

theorem Node.outlines_eq_of_outlines {δ : Type} {less : List Char → δ}
    (factors : ∀ {tag other}, view tag = view other → less tag = less other) :
    ∀ {first second : List Node}, Node.outlines view first = Node.outlines view second →
      Node.outlines less first = Node.outlines less second
  | [], [], _ => rfl
  | [], _ :: _, same => by simp [Node.outlines] at same
  | _ :: _, [], same => by simp [Node.outlines] at same
  | _ :: _, _ :: _, same => by
      rw [Node.outlines, Node.outlines] at same
      rcases List.cons.inj same with ⟨heads, tails⟩
      rw [Node.outlines, Node.outlines, Node.outline_eq_of_outline factors heads,
        Node.outlines_eq_of_outlines factors tails]

end

theorem Element.outline_eq_of_outline {δ : Type} {less : List Char → δ}
    (factors : ∀ {tag other}, view tag = view other → less tag = less other)
    {first second : Element} (same : first.outline view = second.outline view) :
    first.outline less = second.outline less := by
  rw [← Node.outline_element, ← Node.outline_element] at same ⊢
  exact Node.outline_eq_of_outline view factors same

/-- Lists of the same images have the same images under every function that keeps less apart. -/
theorem map_eq_map_of_imp {α β δ : Type} {f : α → β} {g : α → δ}
    (imp : ∀ {first second}, f first = f second → g first = g second) {firsts seconds : List α}
    (same : firsts.map f = seconds.map f) : firsts.map g = seconds.map g := by
  rw [← List.forall₂_eq_eq_eq, List.forall₂_map_left_iff, List.forall₂_map_right_iff] at same ⊢
  exact same.imp fun _ _ => imp

/-! ## Open elements -/

/-- Blanks in front of pieces may be taken away before further pieces come. -/
theorem withoutLeadingBlanks_append (front behind : List Piece) :
    withoutLeadingBlanks (front ++ behind) =
      withoutLeadingBlanks (withoutLeadingBlanks front ++ behind) := by
  induction front with
  | nil => rfl
  | cons piece rest induction =>
      cases piece with
      | «section» characters => rfl
      | raw characters =>
          rw [List.cons_append, withoutLeadingBlanks, withoutLeadingBlanks]
          cases kept : characters.dropWhile isBlank with
          | nil => exact induction
          | cons first others =>
              -- the first character that is left is no blank, so it is left again
              have again : (first :: others).dropWhile isBlank = first :: others := by
                rw [← kept, List.dropWhile_idempotent]
              simp only [List.cons_append, withoutLeadingBlanks, again]

theorem Node.ofPieces?_eq_of_withoutLeadingBlanks {first second : List Piece}
    (same : withoutLeadingBlanks first = withoutLeadingBlanks second) :
    Node.ofPieces? first = Node.ofPieces? second := by
  unfold ofPieces?
  rw [same]

/-- What an open element shows: its name, the view of its tag, its content and its last text. -/
structure FrameOutline (γ : Type) where
  name : List Char
  label : γ
  content : List (Outline γ)
  pieces : List Piece

/-- The outline of an open element. -/
def Frame.outline (frame : Frame) : FrameOutline γ :=
  ⟨tagName frame.tag, view frame.tag, frame.before.map (Node.outline view),
    withoutLeadingBlanks frame.pieces.reverse⟩

namespace Frame

variable {view} {frame other : Frame} (same : frame.outline view = other.outline view)

theorem outline_eq_iff : frame.outline view = other.outline view ↔
    tagName frame.tag = tagName other.tag ∧ view frame.tag = view other.tag ∧
      frame.before.map (Node.outline view) = other.before.map (Node.outline view) ∧
      withoutLeadingBlanks frame.pieces.reverse = withoutLeadingBlanks other.pieces.reverse := by
  simp [outline]

include same

theorem outline_flush : frame.flush.outline view = other.flush.outline view := by
  rcases outline_eq_iff.mp same with ⟨names, labels, contents, pieces⟩
  have texts := Node.ofPieces?_eq_of_withoutLeadingBlanks pieces
  unfold flush
  rw [texts]
  cases Node.ofPieces? other.pieces.reverse with
  | none => exact outline_eq_iff.mpr ⟨names, labels, contents, rfl⟩
  | some text =>
      refine outline_eq_iff.mpr ⟨names, labels, ?_, rfl⟩
      rw [List.map_cons, List.map_cons, contents]

theorem outline_push {node node' : Node} (nodes : node.outline view = node'.outline view) :
    (frame.push node).outline view = (other.push node').outline view := by
  rcases outline_eq_iff.mp (outline_flush same) with ⟨names, labels, contents, pieces⟩
  refine outline_eq_iff.mpr ⟨names, labels, ?_, pieces⟩
  exact congrArg₂ List.cons nodes contents

theorem outline_pushPiece (piece : Piece) :
    (frame.pushPiece piece).outline view = (other.pushPiece piece).outline view := by
  rcases outline_eq_iff.mp same with ⟨names, labels, contents, pieces⟩
  refine outline_eq_iff.mpr ⟨names, labels, contents, ?_⟩
  have later (pieces : List Piece) : withoutLeadingBlanks (piece :: pieces).reverse =
      withoutLeadingBlanks (withoutLeadingBlanks pieces.reverse ++ [piece]) := by
    rw [List.reverse_cons, withoutLeadingBlanks_append]
  exact (later _).trans (pieces ▸ (later _).symm)

theorem outline_close : frame.close.outline view = other.close.outline view := by
  rcases outline_eq_iff.mp (outline_flush same) with ⟨-, -, contents, -⟩
  have labels := (outline_eq_iff.mp same).2.1
  unfold close Element.outline
  rw [labels, List.map_reverse, List.map_reverse, contents]

end Frame

/-! ## Builders -/

/-- Builders that stand at the same place and show the same. -/
inductive Builder.Alike : Builder → Builder → Prop
  | before : Alike .before .before
  | inside {frame other : Frame} {outer others : List Frame}
      (same : frame.outline view = other.outline view)
      (around : outer.map (Frame.outline view) = others.map (Frame.outline view)) :
      Alike (.inside frame outer) (.inside other others)
  | whole {root other : Element} (same : root.outline view = other.outline view) :
      Alike (.whole root) (.whole other)
  | stopped : Alike .stopped .stopped

namespace Builder

variable {view} {builder other third : Builder}

@[refl]
theorem Alike.refl (builder : Builder) : builder.Alike view builder := by
  cases builder with
  | before => exact .before
  | inside frame outer => exact .inside rfl rfl
  | whole root => exact .whole rfl
  | stopped => exact .stopped

theorem Alike.symm (alike : builder.Alike view other) : other.Alike view builder := by
  cases alike with
  | before => exact .before
  | inside same around => exact .inside same.symm around.symm
  | whole same => exact .whole same.symm
  | stopped => exact .stopped

theorem Alike.trans (first : builder.Alike view other) (second : other.Alike view third) :
    builder.Alike view third := by
  cases first with
  | before => exact second
  | inside same around =>
      cases second with
      | inside same' around' => exact .inside (same.trans same') (around.trans around')
  | whole same =>
      cases second with
      | whole same' => exact .whole (same.trans same')
  | stopped => exact second

theorem alike_complete {element element' : Element} {outer outer' : List Frame}
    (same : element.outline view = element'.outline view)
    (around : outer.map (Frame.outline view) = outer'.map (Frame.outline view)) :
    (complete element outer).Alike view (complete element' outer') := by
  cases outer with
  | nil =>
      cases outer' with
      | nil => exact .whole same
      | cons frame outer' => cases around
  | cons frame outer =>
      cases outer' with
      | nil => cases around
      | cons frame' outer' =>
          rw [List.map_cons, List.map_cons] at around
          refine .inside (Frame.outline_push (List.cons.inj around).1 ?_) (List.cons.inj around).2
          rw [Node.outline_element, Node.outline_element]
          exact same

/-- A token keeps builders alike. -/
theorem Alike.step (alike : builder.Alike view other) (token : Token) :
    (builder.step token).Alike view (other.step token) := by
  cases alike with
  | before => exact .refl _
  | whole same => exact .whole same
  | stopped => exact .stopped
  | inside same around =>
      have all := congrArg₂ List.cons same around
      cases token with
      | text raw => exact .inside (Frame.outline_pushPiece same _) around
      | «section» characters => exact .inside (Frame.outline_pushPiece same _) around
      | startTag tag => exact .inside rfl all
      | emptyTag tag => exact @alike_complete _ _ _ _ (_ :: _) (_ :: _) rfl all
      | endTag name =>
          have names := (Frame.outline_eq_iff.mp same).1
          rw [Builder.step, Builder.step, ← names]
          split
          · exact alike_complete (Frame.outline_close same) around
          · exact .stopped
      | documentType => exact .inside (Frame.outline_flush same) around
      | aside => exact .inside same around
      | broken => exact .stopped

theorem Alike.foldl_step (alike : builder.Alike view other) (tokens : List Token) :
    (tokens.foldl Builder.step builder).Alike view (tokens.foldl Builder.step other) := by
  induction tokens generalizing builder other with
  | nil => exact alike
  | cons token rest induction => exact induction (alike.step token)

/-- What is alike in a view is alike in every view that takes less. -/
theorem Alike.of_view {δ : Type} {less : List Char → δ} (alike : builder.Alike view other)
    (factors : ∀ {tag other}, view tag = view other → less tag = less other) :
    builder.Alike less other := by
  have frames {frame other : Frame} (same : frame.outline view = other.outline view) :
      frame.outline less = other.outline less := by
    rcases Frame.outline_eq_iff.mp same with ⟨names, labels, contents, pieces⟩
    exact Frame.outline_eq_iff.mpr ⟨names, factors labels,
      map_eq_map_of_imp (Node.outline_eq_of_outline view factors) contents, pieces⟩
  cases alike with
  | before => exact .before
  | inside same around => exact .inside (frames same) (map_eq_map_of_imp frames around)
  | whole same => exact .whole (Element.outline_eq_of_outline view factors same)
  | stopped => exact .stopped

theorem Alike.exists_whole {root : Element} (alike : Builder.Alike view (.whole root) other) :
    ∃ root', other = .whole root' ∧ root.outline view = root'.outline view := by
  cases alike with
  | whole same => exact ⟨_, rfl, same⟩

end Builder

end View

end ChangeTransport.Xml
