import ChangeTransport.Xml.Decoder

/-!
# Elements inside elements

The elements that stand directly inside an element and have a given local name, and those to which
a path of local names leads.  The runs of an element hold exactly its elements, in their order.
-/

namespace ChangeTransport.Xml

/-- The element in a part of the content, if its local name is the given one. -/
def Node.named (name : String) : Node → List Element
  | .element tag content =>
      if String.ofList (Element.localName ⟨tag, content⟩) = name then [⟨tag, content⟩] else []
  | .text _ => []

/-- The elements in a run, if their local name is the given one. -/
def Run.named (name : String) : Run → List Element
  | .elements first others =>
      if String.ofList first.localName = name then first :: others else []
  | .text _ => []

/-- An element that joins a run has the full name, and so the local name, of the first one there. -/
theorem Run.named_cons (name : String) (node : Node) (runs : List Run) :
    (Run.cons node runs).flatMap (Run.named name) =
      node.named name ++ runs.flatMap (Run.named name) := by
  cases node with
  | text characters => rfl
  | element tag content =>
      have alone :
          Run.named name (.elements ⟨tag, content⟩ []) = Node.named name (.element tag content) :=
        rfl
      cases runs with
      | nil => simp [Run.cons, alone]
      | cons run rest =>
          cases run with
          | text characters => simp [Run.cons, alone]
          | elements first others =>
              unfold Run.cons
              dsimp only
              split
              · next same =>
                  have samePlace : Element.localName ⟨tag, content⟩ = first.localName := by
                    unfold Element.localName
                    rw [same]
                  by_cases wanted : String.ofList first.localName = name <;>
                    simp [Run.named, Node.named, samePlace, wanted]
              · rw [List.flatMap_cons, alone]

namespace Element

/-- The elements directly inside an element that have a local name, in their order. -/
def childrenNamed (name : String) (element : Element) : List Element :=
  element.content.flatMap (Node.named name)

/-- The elements to which a path of local names leads from an element, in their order. -/
def descend : List String → Element → List Element
  | [], element => [element]
  | name :: path, element => (element.childrenNamed name).flatMap (descend path)

theorem runs_named (name : String) (element : Element) :
    element.runs.flatMap (Run.named name) = element.childrenNamed name := by
  unfold runs childrenNamed
  induction element.content with
  | nil => rfl
  | cons node rest induction =>
      rw [List.foldr_cons, Run.named_cons, List.flatMap_cons, induction]

@[simp]
theorem descend_nil (element : Element) : element.descend [] = [element] := rfl

theorem descend_cons (name : String) (path : List String) (element : Element) :
    element.descend (name :: path) = (element.childrenNamed name).flatMap (descend path) := rfl

@[simp]
theorem descend_singleton (name : String) (element : Element) :
    element.descend [name] = element.childrenNamed name := by
  simp [descend]

/-- A path is followed by following its front, and then the rest. -/
theorem descend_append (front rest : List String) (element : Element) :
    element.descend (front ++ rest) = (element.descend front).flatMap (descend rest) := by
  induction front generalizing element with
  | nil => simp
  | cons name front induction =>
      simp only [List.cons_append, descend_cons, List.flatMap_assoc]
      congr 1
      funext child
      exact induction child

end Element

end ChangeTransport.Xml
