import ClusterAgent.Report.Element

/-!
Contract: elements of several hosts, wrapped as data that one host reports for others.

Owns: elements by host, joining data into one section of many hosts, the lines
of a group: an opening line, the element's lines and a closing line per host.
Does not own: which hosts there are.
-/

namespace ClusterAgent

structure Group where
  elements : Table Name Element

namespace Group

def empty : Group := ⟨.empty⟩

instance : Inhabited Group := ⟨empty⟩

def hosts (group : Group) : List Name := group.elements.keys

/-- The element of a host, empty as long as nothing made one. -/
def elementAt (group : Group) (host : Name) : Element :=
  (group.elements.get? host).getD .empty

/-- Makes sure that there is an element of a host. -/
def ensure (group : Group) (host : Name) : Group :=
  ⟨group.elements.set host (group.elementAt host)⟩

def insert
    (group : Group)
    (host name : Name)
    (data : List (Name × Value)) :
    Attempt Group :=
  let attempt := (group.elementAt host).insert name data
  ⟨⟨group.elements.set host attempt.state⟩, attempt.fault⟩

/-- Inserts each host's data into that host's section of a name, up to the first refusal. -/
def join (group : Group) (name : Name) : List (Name × List (Name × Value)) → Attempt Group
  | [] => ⟨group, none⟩
  | (host, data) :: rest =>
    let attempt := group.insert host name data
    match attempt.fault with
    | none => join attempt.state name rest
    | some fault => ⟨attempt.state, some fault⟩

def opening (host : Name) : String := s!"<<<<{host.label}>>>>"

def closing : String := "<<<<>>>>"

def lines (group : Group) : List String :=
  group.elements.entries.flatMap fun (host, element) =>
    opening host :: element.lines ++ [closing]

/-- Whether a group can be written: every host and every section has a text for its name. -/
def isTold (group : Group) : Bool :=
  group.elements.entries.all fun (host, element) => host.hasText && element.isTold

end Group

end ClusterAgent
