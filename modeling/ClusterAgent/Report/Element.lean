import ClusterAgent.Report.Section

/-!
Contract: the sections that are reported for one host.

Owns: sections by name, and the lines of an element: a header and a payload for
each section.
Does not own: host names.
-/

namespace ClusterAgent

structure Element where
  sections : Table Name Section

namespace Element

def empty : Element := ⟨.empty⟩

instance : Inhabited Element := ⟨empty⟩

def names (element : Element) : List Name := element.sections.keys

/-- The section of a name, empty as long as nothing made one. -/
def sectionAt (element : Element) (name : Name) : Section :=
  (element.sections.get? name).getD .empty

/-- Makes sure that there is a section of a name. -/
def ensure (element : Element) (name : Name) : Element :=
  ⟨element.sections.set name (element.sectionAt name)⟩

/-- Inserts data into the section of a name, which is made if there is none. -/
def insert (element : Element) (name : Name) (data : List (Name × Value)) : Attempt Element :=
  let attempt := (element.sectionAt name).insert data
  ⟨⟨element.sections.set name attempt.state⟩, attempt.fault⟩

def header (name : Name) : String := s!"<<<{name.label}:sep(0)>>>"

def lines (element : Element) : List String :=
  element.sections.entries.flatMap fun (name, held) => [header name, held.payload]

/-- Whether an element can be written: the name of every section has a text. -/
def isTold (element : Element) : Bool := element.names.all Name.hasText

end Element

end ClusterAgent
