import RaceFarm.Json.Basic
import RaceFarm.Text.Blank

namespace RaceFarm

/-- Stands for the revision until one has been published. -/
def unknownRevision : String := "-1"

/-- The revision in a step's output or a marker file: the text without blanks at its end, unless it
    is blank altogether. -/
def parseRevision (output : String) : Option String :=
  let text := Text.trimEnd output.toList
  if text = [] then none else some (String.ofList text)

/-- The source revision of one run, published at most once. -/
structure RevisionSlot where
  revision : Option String
deriving DecidableEq

/-- A second revision was published. -/
structure RevisionConflict where
  existing : String
  attempted : String
deriving DecidableEq

def RevisionConflict.message (c : RevisionConflict) : String :=
  "revision already published as `" ++ c.existing ++ "`, refusing to overwrite with `" ++
    c.attempted ++ "`"

namespace RevisionSlot

def empty : RevisionSlot := ⟨none⟩

def orUnknown (slot : RevisionSlot) : String := slot.revision.getD unknownRevision

def publish (slot : RevisionSlot) (attempted : String) : Except RevisionConflict RevisionSlot :=
  match slot.revision with
  | some existing => .error { existing, attempted }
  | none => .ok ⟨some attempted⟩

def toJson (slot : RevisionSlot) : Json :=
  .object [("revision", Json.optional .str slot.revision)]

end RevisionSlot

end RaceFarm
