import ChangeTransport.Proofs.Xml.Record
import ChangeTransport.Proofs.Xml.RecordWriting

/-!
# Contents read part by part

How a record takes the content of an element, told without runs: texts are looked at, elements that
are no fields are passed over, and a field takes elements of one full name that stand behind each
other.  That no more of them follow need not be said, since no field is given twice.
-/

namespace ChangeTransport.Xml

variable {ρ : Type}

/-- Whether a part of a content is a text. -/
def Node.isText : Node → Bool
  | .element _ _ => false
  | .text _ => true

/-- A content that is taken into a record that is being read. -/
inductive Reads (fields : List (Field ρ)) : Filling ρ → List Node → Filling ρ → Prop
  | nil (filling : Filling ρ) : Reads fields filling [] filling
  | text {characters : Option (List Char)} {rest : List Node} {filling filled : Filling ρ}
      (legible : checkText characters = .ok ()) (behind : Reads fields filling rest filled) :
      Reads fields filling (.text characters :: rest) filled
  /-- An element that is no field. -/
  | other {element : Element} {rest : List Node} {filling filled : Filling ρ}
      (unknown : Field.find? fields (String.ofList element.localName) = none)
      (passed : element.pass = .ok ()) (behind : Reads fields filling rest filled) :
      Reads fields filling (element.node :: rest) filled
  /-- The elements of a field. -/
  | given {first : Element} {others : List Element} {rest : List Node}
      {filling filled : Filling ρ} {index : Nat} {field : Field ρ} {change : ρ → ρ}
      (alike : ∀ other ∈ others, other.name = first.name)
      (found : Field.find? fields (String.ofList first.localName) = some (index, field))
      (fresh : index ∉ filling.seen) (taken : field.value.Takes (first :: others) change)
      (apart : field.value.isList = true → ∀ next ∈ rest.head?, next.isText = false)
      (behind : Reads fields ⟨index :: filling.seen, change filling.record⟩ rest filled) :
      Reads fields filling ((first :: others).map Element.node ++ rest) filled

/-! ## Runs and their parts -/

namespace Run

/-- The parts of a content that a run holds. -/
def nodes : Run → List Node
  | .text characters => [.text characters]
  | .elements first others => (first :: others).map Element.node

/-- Elements of a run have one full name. -/
def IsAlike : Run → Prop
  | .text _ => True
  | .elements first others => ∀ other ∈ others, other.name = first.name

theorem nodes_cons (node : Node) (runs : List Run) :
    (Run.cons node runs).flatMap nodes = node :: runs.flatMap nodes := by
  unfold cons
  split
  · rfl
  · dsimp only
    split <;> rfl
  · rfl

theorem isAlike_cons {runs : List Run} (each : ∀ run ∈ runs, run.IsAlike) (node : Node) :
    ∀ run ∈ Run.cons node runs, run.IsAlike := by
  intro run member
  unfold cons at member
  split at member
  · rcases List.mem_cons.mp member with rfl | later
    · exact True.intro
    · exact each run later
  · next first others rest =>
      dsimp only at member
      split at member
      · next same =>
          rcases List.mem_cons.mp member with rfl | later
          · intro other held
            rcases List.mem_cons.mp held with rfl | held
            · exact same.symm
            · have together := each (.elements first others) List.mem_cons_self
              exact (together other held).trans same.symm
          · exact each run (List.mem_cons_of_mem _ later)
      · rcases List.mem_cons.mp member with rfl | later
        · exact List.forall_mem_nil _
        · exact each run later
  · rcases List.mem_cons.mp member with rfl | later
    · exact List.forall_mem_nil _
    · exact each run later

end Run

/-- The runs of a content. -/
def runsOf (content : List Node) : List Run := content.foldr Run.cons []

theorem flatMap_nodes_runsOf (content : List Node) :
    (runsOf content).flatMap Run.nodes = content := by
  induction content with
  | nil => rfl
  | cons node rest induction =>
      rw [runsOf, List.foldr_cons, Run.nodes_cons]
      exact congrArg (node :: ·) induction

theorem isAlike_runsOf (content : List Node) : ∀ run ∈ runsOf content, run.IsAlike := by
  induction content with
  | nil => exact List.forall_mem_nil _
  | cons node rest induction => exact Run.isAlike_cons induction node

section Runs

variable {fields : List (Field ρ)} {filling filled : Filling ρ}

/-- Where no run of a content begins with a text, its parts do not. -/
theorem isText_of_beginsWithText {runs : List Run} (apart : beginsWithText runs = false) :
    ∀ next ∈ (runs.flatMap Run.nodes).head?, next.isText = false := by
  cases runs with
  | nil => simp
  | cons run rest =>
      cases run with
      | text characters => cases apart
      | elements first others => simp [Run.nodes, Element.node, Node.isText]

theorem forM_pass_cons (element : Element) (others : List Element) :
    (element :: others).forM Element.pass =
      element.pass >>= fun _ => others.forM Element.pass := rfl

/-- Elements that are no fields are passed over one by one. -/
theorem Reads.others {elements : List Element} {rest : List Node}
    (unknown : ∀ element ∈ elements,
      Field.find? fields (String.ofList element.localName) = none)
    (passed : elements.forM Element.pass = .ok ()) (behind : Reads fields filling rest filled) :
    Reads fields filling (elements.map Element.node ++ rest) filled := by
  induction elements with
  | nil => exact behind
  | cons element others induction =>
      rw [forM_pass_cons] at passed
      rcases exists_of_bind_eq_ok passed with ⟨done, first, later⟩
      exact .other (unknown element List.mem_cons_self) first
        (induction (fun other member => unknown other (List.mem_cons_of_mem _ member)) later)

/-- What is taken run by run is taken part by part. -/
theorem reads_of_content {runs : List Run} (each : ∀ run ∈ runs, run.IsAlike)
    (taken : filling.content fields runs = .ok filled) :
    Reads fields filling (runs.flatMap Run.nodes) filled := by
  induction runs generalizing filling with
  | nil =>
      cases taken
      exact .nil _
  | cons run rest induction =>
      have eachLater : ∀ run ∈ rest, run.IsAlike :=
        fun later member => each later (List.mem_cons_of_mem _ member)
      rw [List.flatMap_cons]
      cases run with
      | text characters =>
          rw [Filling.content] at taken
          rcases exists_of_bind_eq_ok taken with ⟨done, legible, continued⟩
          exact .text legible (induction eachLater continued)
      | elements first others =>
          have alike : ∀ other ∈ others, other.name = first.name := each _ List.mem_cons_self
          rcases Filling.content_elements_iff.mp taken with
            ⟨unknown, passed, continued⟩ |
            ⟨index, field, change, found, fresh, takes, apart, continued⟩
          · refine Reads.others ?_ passed (induction eachLater continued)
            intro element member
            rcases List.mem_cons.mp member with rfl | later
            · exact unknown
            · rwa [Element.localName, alike element later]
          · exact .given alike found fresh takes
              (fun isList => isText_of_beginsWithText (apart isList))
              (induction eachLater continued)

/-- An element that is no field is passed over, whatever run it belongs to. -/
theorem Filling.content_cons_other {element : Element}
    (unknown : Field.find? fields (String.ofList element.localName) = none)
    (passed : element.pass = .ok ()) (runs : List Run) :
    filling.content fields (Run.cons element.node runs) = filling.content fields runs := by
  have alone : filling.content fields (.elements element [] :: runs) =
      filling.content fields runs := by
    rw [content, unknown]
    dsimp only
    rw [forM_pass_cons, passed]
    rfl
  cases runs with
  | nil => exact alone
  | cons run rest =>
      cases run with
      | text characters => exact alone
      | elements first others =>
          by_cases same : element.name = first.name
          · have joined : Run.cons element.node (.elements first others :: rest) =
                .elements element (first :: others) :: rest := if_pos same
            have unknownFirst :
                Field.find? fields (String.ofList first.localName) = none := by
              rwa [Element.localName, ← same]
            rw [joined, content, content, unknown, unknownFirst]
            dsimp only
            rw [forM_pass_cons, passed, ok_bind]
          · have apart : Run.cons element.node (.elements first others :: rest) =
                .elements element [] :: .elements first others :: rest := if_neg same
            rw [apart]
            exact alone

theorem Element.node_inj {element other : Element}
    (same : element.node = other.node) : element = other := by
  cases element
  cases other
  cases same
  rfl

/-- The first element of a content is no field that has been given before. -/
theorem Reads.fresh_of_head {element : Element} {rest : List Node} {index : Nat}
    {field : Field ρ} (reads : Reads fields filling (element.node :: rest) filled)
    (found : Field.find? fields (String.ofList element.localName) = some (index, field)) :
    index ∉ filling.seen := by
  generalize whole : element.node :: rest = content at reads
  cases reads with
  | nil => cases whole
  | text legible behind => cases whole
  | other unknown passed behind =>
      rw [← Element.node_inj (List.cons.inj whole).1, found] at unknown
      cases unknown
  | given alike found' fresh taken apart behind =>
      rw [List.map_cons, List.cons_append] at whole
      rw [← Element.node_inj (List.cons.inj whole).1, found] at found'
      cases found'
      exact fresh

/-- Elements of one full name stand in one run, if no other of that name follows. -/
theorem foldr_cons_of_alike {first : Element} {others : List Element} {runs : List Run}
    (alike : ∀ other ∈ others, other.name = first.name)
    (ends : ∀ next more behind, runs = .elements next more :: behind → next.name ≠ first.name) :
    ((first :: others).map Element.node).foldr Run.cons runs =
      .elements first others :: runs := by
  induction others generalizing first with
  | nil =>
      cases runs with
      | nil => rfl
      | cons run behind =>
          cases run with
          | text characters => rfl
          | elements next more => exact if_neg fun same => ends next more behind rfl same.symm
  | cons second others induction =>
      have same : second.name = first.name := alike second List.mem_cons_self
      have behind := @induction second
        (fun other member => (alike other (List.mem_cons_of_mem _ member)).trans same.symm)
        (fun next more behind shape => same ▸ ends next more behind shape)
      rw [List.map_cons, List.foldr_cons, behind]
      exact if_pos same.symm

/-- What is taken part by part is taken run by run. -/
theorem Reads.content_eq_ok {content : List Node} (reads : Reads fields filling content filled) :
    filling.content fields (runsOf content) = .ok filled := by
  induction reads with
  | nil => rfl
  | @text characters rest filling filled legible behind induction =>
      have shape : runsOf (.text characters :: rest) = .text characters :: runsOf rest := rfl
      rw [shape, Filling.content, legible]
      exact induction
  | other unknown passed behind induction =>
      exact (Filling.content_cons_other unknown passed _).trans induction
  | @given first others rest filling filled index field change alike found fresh taken apart
      behind induction =>
      have shape : runsOf ((first :: others).map Element.node ++ rest) =
          .elements first others :: runsOf rest := by
        rw [runsOf, List.foldr_append]
        refine foldr_cons_of_alike alike ?_
        intro next more later shape same
        have parts : rest = next.node :: (more.map Element.node ++ later.flatMap Run.nodes) := by
          rw [← flatMap_nodes_runsOf rest, runsOf, shape]
          rfl
        rw [parts] at behind
        have again : Field.find? fields (String.ofList next.localName) = some (index, field) := by
          rwa [Element.localName, same]
        exact behind.fresh_of_head again List.mem_cons_self
      rw [shape]
      refine Filling.content_elements_iff.mpr
        (.inr ⟨index, field, change, found, fresh, taken, ?_, induction⟩)
      intro isList
      cases runs : runsOf rest with
      | nil => rfl
      | cons run later =>
          cases run with
          | elements next more => rfl
          | text characters =>
              have parts : rest = .text characters :: later.flatMap Run.nodes := by
                rw [← flatMap_nodes_runsOf rest, runs]
                rfl
              have noText := apart isList (.text characters) (by rw [parts]; rfl)
              cases noText

end Runs

end ChangeTransport.Xml
