import ChangeTransport.Xml.Reference

/-!
# Run configurations

The document that asks for a run of all unit tests of one package.
-/

namespace ChangeTransport

/-- What stands before the name of the package. -/
def configurationFront : String :=
  "\n".intercalate
    [ "<?xml version=\"1.0\" encoding=\"UTF-8\"?>",
      "<aunit:runConfiguration xmlns:aunit=\"http://www.sap.com/adt/aunit\">",
      "  <external>",
      "    <coverage active=\"false\"/>",
      "  </external>",
      "  <options>",
      "    <uriType value=\"semantic\"/>",
      "    <testDeterminationStrategy sameProgram=\"true\" assignedTests=\"false\" " ++
        "appendAssignedTestsPreview=\"true\"/>",
      "    <testRiskLevels harmless=\"true\" dangerous=\"true\" critical=\"true\"/>",
      "    <testDurations short=\"true\" medium=\"true\" long=\"true\"/>",
      "  </options>",
      "  <adtcore:objectSets xmlns:adtcore=\"http://www.sap.com/adt/core\">",
      "    <objectSet kind=\"inclusive\">",
      "      <adtcore:objectReferences>",
      "        <adtcore:objectReference adtcore:uri=\"/sap/bc/adt/packages/" ]

/-- What stands behind the name of the package. -/
def configurationBack : String :=
  "\n".intercalate
    [ "\"/>",
      "      </adtcore:objectReferences>",
      "    </objectSet>",
      "  </adtcore:objectSets>",
      "</aunit:runConfiguration>" ]

/-- The document that asks for a run of the tests of a package. -/
def runConfiguration (package : String) : String :=
  configurationFront ++ Xml.escape package ++ configurationBack

end ChangeTransport
