import ChangeTransport.UnitTest.Configuration
import ChangeTransport.Proofs.Xml.Spaced

/-!
# What a run configuration says

The name of the package is escaped, so it stands inside the quotes in which it has been put,
whatever it holds.  Read as markup, every run configuration has the same elements and attributes,
and one of the attributes ends in the name.
-/

namespace ChangeTransport

open Xml

/-- The address at which a package is found by the tools of the system. -/
def packageUri (package : String) : String := "/sap/bc/adt/packages/" ++ package

section Tree

variable {τ : Type} (part : String → List (String × String) → List τ → τ)

/-- The reference to a package, made of its name and its attributes. -/
def packageReference (package : String) : τ :=
  part "adtcore:objectReference" [("adtcore:uri", packageUri package)] []

/-- The elements of a run configuration, each made of its name, its attributes and its children. -/
def configurationTree (package : String) : τ :=
  part "aunit:runConfiguration" [("xmlns:aunit", "http://www.sap.com/adt/aunit")]
    [ part "external" [] [part "coverage" [("active", "false")] []],
      part "options" []
        [ part "uriType" [("value", "semantic")] [],
          part "testDeterminationStrategy"
            [ ("sameProgram", "true"), ("assignedTests", "false"),
              ("appendAssignedTestsPreview", "true") ] [],
          part "testRiskLevels"
            [("harmless", "true"), ("dangerous", "true"), ("critical", "true")] [],
          part "testDurations" [("short", "true"), ("medium", "true"), ("long", "true")] [] ],
      part "adtcore:objectSets" [("xmlns:adtcore", "http://www.sap.com/adt/core")]
        [ part "objectSet" [("kind", "inclusive")]
            [part "adtcore:objectReferences" [] [packageReference part package]] ] ]

end Tree

/-- An element by its label and its children. -/
def labelled (name : String) (given : List (String × String))
    (children : List (Outline (Option Label))) : Outline (Option Label) :=
  .element (some (.of name given)) children

variable (package : String)

/-- The root element of a run configuration. -/
def configurationRoot : Element := configurationTree Element.of package

theorem areNames_packageReference :
    AreNames ([("adtcore:uri", packageUri package)].map Prod.fst) := by
  have named : AreNames ["adtcore:uri"] := by decide +kernel
  exact named

theorem outline_configurationRoot :
    (configurationRoot package).outline label? = configurationTree labelled package := by
  unfold configurationRoot configurationTree packageReference labelled
  simp (disch := first | decide +kernel | exact areNames_packageReference package) only
    [Element.outline_of, List.map_cons, List.map_nil]

theorem isPlain_configurationRoot : (configurationRoot package).node.IsPlain := by
  unfold configurationRoot configurationTree packageReference
  repeat' first
    | exact List.forall_mem_nil _
    | refine List.forall_mem_cons.mpr ⟨?_, ?_⟩
    | refine Element.isPlain_of (by decide +kernel) (by decide +kernel) ?_
    | refine Element.isPlain_of (by decide +kernel) (areNames_packageReference package) ?_

/-! ## The tokens of a run configuration -/

/-- The tag of the reference to a package. -/
def packageTag : List Char :=
  tagOf "adtcore:objectReference".toList (attributesOf [("adtcore:uri", packageUri package)])

/-- The tag of the reference up to the name of the package. -/
def packageFront : List Char :=
  "adtcore:objectReference adtcore:uri=\"/sap/bc/adt/packages/".toList

theorem packageTag_eq :
    packageTag package = packageFront ++ escaped package.toList ++ ['"'] := by
  have fixed : escaped "/sap/bc/adt/packages/".toList = "/sap/bc/adt/packages/".toList := by
    decide +kernel
  have front : packageFront = "adtcore:objectReference".toList ++
      (' ' :: "adtcore:uri".toList ++ ['=', '"'] ++ "/sap/bc/adt/packages/".toList) := by
    decide +kernel
  rw [front]
  unfold packageTag tagOf attributesOf packageUri Attribute.written
  simp only [List.map_cons, List.map_nil, List.flatMap_cons, List.flatMap_nil, List.append_nil,
    String.toList_append, escaped_append, fixed, List.append_assoc, List.cons_append,
    List.nil_append]

/-- The tags in front of the reference are thirteen, and no tag but the reference varies. -/
theorem tokens_configurationRoot :
    (configurationRoot package).node.tokens =
      (configurationRoot "").node.tokens.take 13 ++
        .emptyTag (packageTag package) :: (configurationRoot "").node.tokens.drop 14 := by
  unfold configurationRoot configurationTree packageReference packageTag Element.of Element.node
  simp only [List.map_cons, List.map_nil, Node.tokens, Node.tokensOfAll, List.cons_append,
    List.nil_append, List.append_nil, List.take_succ_cons, List.take_zero, List.drop_succ_cons,
    List.drop_zero]

/-- The tokens in front of the reference to the package. -/
def configurationOpening : List Token := (scan configurationFront.toList).before.reverse

/-- What stands behind the reference to the package. -/
def configurationRest : List Char := configurationBack.toList.drop 3

/-- The tokens behind the reference to the package. -/
def configurationEnding : List Token := tokensBehind configurationRest

-- Literals are unfolded to their characters by rewriting, which evaluating them does slowly.
set_option maxRecDepth 2000 in
theorem configurationFront_read :
    (scan configurationFront.toList).place = .tag false (some '"') packageFront.reverse ∧
      AreSpacedTags configurationOpening ∧
      configurationOpening.filter Token.isTag = (configurationRoot "").node.tokens.take 13 := by
  unfold configurationOpening configurationFront packageFront
  simp only [String.toList_intercalate, List.map_cons, List.map_nil, String.toList_append]
  repeat rw [String.toList_ofList]
  decide +kernel

theorem configurationBack_read :
    configurationBack.toList.take 3 = ['"', '/', '>'] ∧
      (configurationRest.foldl Scanner.step .start).place = .text [] ∧
      AreSpacedTags configurationEnding ∧
      configurationEnding.filter Token.isTag = (configurationRoot "").node.tokens.drop 14 := by
  unfold configurationEnding configurationRest configurationBack
  simp only [String.toList_intercalate, List.map_cons, List.map_nil]
  repeat rw [String.toList_ofList]
  decide +kernel

theorem toList_runConfiguration :
    (runConfiguration package).toList =
      configurationFront.toList ++ escaped package.toList ++ configurationBack.toList := by
  simp only [runConfiguration, String.toList_append, escape, String.toList_ofList, escaped]

/-- Whatever the name of the package is, it stands in the value of the one attribute. -/
theorem tokens_runConfiguration :
    tokens (runConfiguration package).toList =
      configurationOpening ++ .emptyTag (packageTag package) :: configurationEnding := by
  rcases configurationFront_read with ⟨place, -, -⟩
  rcases configurationBack_read with ⟨front, ending, -, -⟩
  have scanned : scan configurationFront.toList =
      ⟨configurationOpening.reverse, .tag false (some '"') packageFront.reverse⟩ := by
    rw [configurationOpening, List.reverse_reverse, ← Scanner.eq_of_place place]
  have back : configurationBack.toList = ['"', '/', '>'] ++ configurationRest := by
    rw [← front, configurationRest, List.take_append_drop]
  have nonempty : configurationFront.toList ≠ [] := by
    intro empty
    rw [empty] at place
    cases place
  have closed (read : List Token) (inside : List Char) :
      ['"', '/', '>'].foldl Scanner.step ⟨read, .tag false (some '"') inside⟩ =
        Scanner.behind .start (.emptyTag (inside.reverse ++ ['"']) :: read) := by
    rw [← List.reverse_cons]
    rfl
  rw [tokens_eq_finish_scan, toList_runConfiguration, back, List.append_assoc,
    scan_append nonempty, scanned, List.foldl_append,
    Scanner.foldl_step_quoted _ _ (not_mem_escaped (by decide) _), List.foldl_append, closed,
    Scanner.foldl_step_behind, List.reverse_append, List.reverse_reverse, List.reverse_reverse,
    ← packageTag_eq]
  unfold Scanner.behind Scanner.finish
  rw [ending]
  simp [configurationEnding, tokensBehind]

/-! ## What is read -/

theorem areSpacedTags_runConfiguration :
    AreSpacedTags (tokens (runConfiguration package).toList) := by
  rcases configurationFront_read with ⟨-, opening, -⟩
  rcases configurationBack_read with ⟨-, -, ending, -⟩
  rw [tokens_runConfiguration]
  exact opening.append (List.forall_mem_cons.mpr ⟨.inl rfl, ending⟩)

theorem filter_isTag_runConfiguration :
    (tokens (runConfiguration package).toList).filter Token.isTag =
      (configurationRoot package).node.tokens := by
  rcases configurationFront_read with ⟨-, -, opening⟩
  rcases configurationBack_read with ⟨-, -, -, ending⟩
  rw [tokens_configurationRoot package, tokens_runConfiguration, List.filter_append,
    List.filter_cons_of_pos rfl, opening, ending]

theorem label?_packageTag :
    label? (packageTag package) =
      some (.of "adtcore:objectReference" [("adtcore:uri", packageUri package)]) :=
  label?_tagOf (by decide +kernel) (areNames_packageReference package)

theorem runConfiguration_injective : Function.Injective runConfiguration := by
  intro package other same
  have written := congrArg String.toList same
  rw [toList_runConfiguration, toList_runConfiguration] at written
  have escapes := List.append_cancel_left (List.append_cancel_right written)
  have resolved := congrArg resolve escapes
  rw [resolve_escaped, resolve_escaped] at resolved
  exact String.toList_inj.mp (Option.some.inj resolved)

/--
A run configuration is a fixed text with the escaped name of the package in it.  The escaped name
holds none of the marks of tags and values, every ampersand in it begins one of the predefined
references, and resolved it is the name.  So the tokens of all run configurations are the same but
for one tag, their elements and attributes are the same but for the address of the package, and
different packages have different run configurations.
-/
theorem runConfiguration_says_package_only :
    (∀ package : String, ∃ written : List Char,
      (runConfiguration package).toList =
        configurationFront.toList ++ written ++ configurationBack.toList ∧
      (∀ mark ∈ ['<', '>', '"', '\''], mark ∉ written) ∧
      (∀ front rest, written = front ++ '&' :: rest →
        ∃ name ∈ predefined, name ++ [';'] <+: rest) ∧
      resolve written = some package.toList) ∧
    (∃ opening ending : List Token, ∀ package : String, ∃ tag : List Char,
      tokens (runConfiguration package).toList = opening ++ .emptyTag tag :: ending ∧
      label? tag = some (.of "adtcore:objectReference" [("adtcore:uri", packageUri package)])) ∧
    (∀ package : String, ∃ root : Element,
      Element.ofTokens? (tokens (runConfiguration package).toList) = some root ∧
      root.outline label? = configurationTree labelled package) ∧
    Function.Injective runConfiguration := by
  refine ⟨fun package => ?_, ?_, fun package => ?_, runConfiguration_injective⟩
  · exact ⟨escaped package.toList, toList_runConfiguration package,
      fun mark marked => not_mem_escaped marked _,
      fun front rest split => exists_predefined_of_escaped split, resolve_escaped _⟩
  · exact ⟨configurationOpening, configurationEnding, fun package =>
      ⟨packageTag package, tokens_runConfiguration package, label?_packageTag package⟩⟩
  · rcases Element.exists_ofTokens?_of_spaced label? (areSpacedTags_runConfiguration package)
      (isPlain_configurationRoot package) (filter_isTag_runConfiguration package) with
      ⟨root, whole, same⟩
    exact ⟨root, whole, same.trans (outline_configurationRoot package)⟩

end ChangeTransport
