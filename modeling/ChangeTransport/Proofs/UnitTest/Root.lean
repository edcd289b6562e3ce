import ChangeTransport.Proofs.Xml.Reached
import ChangeTransport.UnitTest.Run

/-!
# The root element of a result

The name that is checked is the one of the element that is decoded: both are those of the first tag
of the document.  So no page that only speaks of a result, or holds one inside another element, is
taken for one.
-/

namespace ChangeTransport

open Xml

/-- Neither a comment in front of a page nor an element inside it is taken for a result. -/
example :
    decodeDocument (fun element => .ok element.tag) "runResult"
        ⟨200, [], Text.Utf8.ofText "<!-- <runResult/> --><html><runResult/></html>"⟩ =
      .error (.xml (.otherRoot "runResult" "html")) := by
  decide +kernel

end ChangeTransport
