import ClusterAgent.Proofs.Report.Framing

/-!
Contract: the structure of a group, read back from what is written of it.

A host without a name opens like any host closes, and a section may be named
like a marker. What a line means is told by where it stands: after an opening
line headers and payloads alternate until a line stands for a header that is
too short for one.

Owns: outlines of elements and groups, groups that are made by calls, reading
outlines back.
Does not own: what payloads hold.
-/

namespace ClusterAgent

/-- The sections of an element in their order, each with its payload. -/
def Element.outline (element : Element) : List (Name × String) :=
  element.sections.entries.map fun (name, held) => (name, held.payload)

/-- The hosts of a group in their order, each with its sections and their payloads. -/
def Group.outline (group : Group) : List (Name × List (Name × String)) :=
  group.elements.entries.map fun (host, element) => (host, element.outline)

/-! ## Calls -/

/-- What can be asked of an element: to look a section up, which is made if there is none, or to
insert data into it, which may stop half-way. -/
inductive Element.Call where
  | get (name : String)
  | insert (name : String) (data : List (Name × Value))

/-- What can be asked of a group: to look a host up, which is made if there is none, to ask
something of its element, or to join data into a section of several hosts. -/
inductive Group.Call where
  | get (host : String)
  | within (host : String) (call : Element.Call)
  | join (name : String) (pairs : List (String × List (Name × Value)))

/-- The names of sections that a call gives. -/
def Element.Call.names : Element.Call → List String
  | get name => [name]
  | insert name _ => [name]

/-- The names of hosts and sections that a call gives. -/
def Group.Call.names : Group.Call → List String
  | get host => [host]
  | within host call => host :: call.names
  | join name pairs => name :: pairs.map Prod.fst

/-- What a call leaves behind, whether it fails or not. -/
def Element.Call.on (element : Element) : Element.Call → Element
  | get name => element.ensure name
  | insert name data => (element.insert name data).state

/-- What a call leaves behind, whether it fails or not. -/
def Group.Call.on (group : Group) : Group.Call → Group
  | get host => group.ensure host
  | within host call => ⟨group.elements.set host (call.on (group.elementAt host))⟩
  | join name pairs =>
    (group.join name (pairs.map fun (host, data) => (.text host, data))).state

/-- The element that calls make, one after the other. -/
def Element.ofCalls (calls : List Element.Call) : Element := calls.foldl Element.Call.on .empty

/-- The group that calls make, one after the other. -/
def Group.ofCalls (calls : List Group.Call) : Group := calls.foldl Group.Call.on .empty

/-! ## Names without line breaks -/

/-- A name that is a text without a line break. -/
def Name.IsLine (name : Name) : Prop := ∃ text, name = .text text ∧ ClusterAgent.IsLine text

theorem Name.isLine_text {text : String} (isLine : ClusterAgent.IsLine text) :
    (Name.text text).IsLine :=
  ⟨text, rfl, isLine⟩

/-- Every section has a text without a line break for its name. -/
def Element.IsNamed (element : Element) : Prop := ∀ name ∈ element.names, name.IsLine

/-- Every host and every section has a text without a line break for its name. -/
def Group.IsNamed (group : Group) : Prop :=
  ∀ entry ∈ group.elements.entries, entry.1.IsLine ∧ entry.2.IsNamed

namespace Element

variable {element : Element}

theorem isNamed_empty : empty.IsNamed := fun _ member => absurd member List.not_mem_nil

theorem IsNamed.set (named : element.IsNamed) {name : Name} (isLine : name.IsLine)
    (held : Section) : IsNamed ⟨element.sections.set name held⟩ := by
  intro other member
  have keys := Table.keys_set element.sections name held
  change other ∈ (element.sections.set name held).keys at member
  rw [keys] at member
  split at member
  · exact named other member
  · rcases List.mem_append.1 member with earlier | last
    · exact named other earlier
    · exact List.mem_singleton.1 last ▸ isLine

theorem IsNamed.on (named : element.IsNamed) {call : Call}
    (areLines : ∀ name ∈ call.names, IsLine name) : (call.on element).IsNamed := by
  cases call with
  | get name => exact named.set (Name.isLine_text (areLines name (by simp [Call.names]))) _
  | insert name data => exact named.set (Name.isLine_text (areLines name (by simp [Call.names]))) _

theorem isNamed_ofCalls {calls : List Call}
    (areLines : ∀ call ∈ calls, ∀ name ∈ call.names, IsLine name) : (ofCalls calls).IsNamed :=
  List.foldlRecOn calls Call.on isNamed_empty fun _ named call member =>
    named.on (areLines call member)

end Element

namespace Group

variable {group : Group}

theorem isNamed_empty : empty.IsNamed := fun _ member => absurd member List.not_mem_nil

theorem IsNamed.elementAt (named : group.IsNamed) (host : Name) :
    (group.elementAt host).IsNamed := by
  unfold Group.elementAt
  cases found : group.elements.get? host with
  | none => exact Element.isNamed_empty
  | some element => exact (named _ (Table.mem_entries_of_get? found)).2

theorem IsNamed.set (named : group.IsNamed) {host : Name} (isLine : host.IsLine)
    {element : Element} (elementNamed : element.IsNamed) :
    IsNamed ⟨group.elements.set host element⟩ := by
  intro entry member
  rcases Table.mem_setEntry member with rfl | before
  · exact ⟨isLine, elementNamed⟩
  · exact named entry before

theorem IsNamed.join (named : group.IsNamed) {name : Name} (isLine : name.IsLine)
    {pairs : List (Name × List (Name × Value))} (hostLines : ∀ pair ∈ pairs, pair.1.IsLine) :
    (group.join name pairs).state.IsNamed :=
  join_keeps IsNamed (fun _ named pair member =>
    named.set (hostLines pair member) ((named.elementAt pair.1).set isLine _)) named

theorem IsNamed.on (named : group.IsNamed) {call : Call}
    (areLines : ∀ name ∈ call.names, IsLine name) : (call.on group).IsNamed := by
  cases call with
  | get host =>
    exact named.set (Name.isLine_text (areLines host (by simp [Call.names]))) (named.elementAt _)
  | within host call =>
    obtain ⟨hostLine, sectionLines⟩ := List.forall_mem_cons.1 areLines
    exact named.set (Name.isLine_text hostLine) ((named.elementAt _).on sectionLines)
  | join name pairs =>
    obtain ⟨nameLine, hostLines⟩ := List.forall_mem_cons.1 areLines
    refine named.join (Name.isLine_text nameLine) ?_
    rw [List.forall_mem_map]
    exact fun pair member => Name.isLine_text (hostLines pair.1 (List.mem_map_of_mem member))

theorem isNamed_ofCalls {calls : List Call}
    (areLines : ∀ call ∈ calls, ∀ name ∈ call.names, IsLine name) : (ofCalls calls).IsNamed :=
  List.foldlRecOn calls Call.on isNamed_empty fun _ named call member =>
    named.on (areLines call member)

end Group

/-! ## Lines as they are told by outlines -/

/-- The lines of sections. -/
def sectionLines (outline : List (Name × String)) : List String :=
  outline.flatMap fun (name, payload) => [Element.header name, payload]

/-- The lines of hosts. -/
def hostLines (outline : List (Name × List (Name × String))) : List String :=
  outline.flatMap fun (host, sections) =>
    Group.opening host :: sectionLines sections ++ [Group.closing]

theorem Element.lines_eq (element : Element) : element.lines = sectionLines element.outline := by
  rw [lines, sectionLines, outline, List.flatMap_map]

theorem Group.lines_eq (group : Group) : group.lines = hostLines group.outline := by
  simp only [lines, hostLines, outline, List.flatMap_map, Element.lines_eq]

theorem exists_texts {names : List Name} (areLines : ∀ name ∈ names, name.IsLine) :
    ∃ texts : List String, names = texts.map Name.text ∧ ∀ text ∈ texts, IsLine text := by
  induction names with
  | nil => exact ⟨[], rfl, by simp⟩
  | cons name rest inductionHypothesis =>
    obtain ⟨⟨text, rfl, isLine⟩, restLines⟩ := List.forall_mem_cons.1 areLines
    obtain ⟨texts, rfl, textLines⟩ := inductionHypothesis restLines
    exact ⟨text :: texts, rfl, List.forall_mem_cons.2 ⟨isLine, textLines⟩⟩

theorem Element.IsNamed.areLines {element : Element} (named : element.IsNamed) :
    ∀ line ∈ element.lines, IsLine line ∧ line ≠ "" := by
  obtain ⟨texts, areTexts, areLines⟩ := exists_texts named
  exact (areSections_lines areTexts).areLines areLines

theorem Group.IsNamed.areLines {group : Group} (named : group.IsNamed) :
    ∀ line ∈ group.lines, IsLine line ∧ line ≠ "" := by
  intro line member
  obtain ⟨⟨host, element⟩, isEntry, isIn⟩ := List.mem_flatMap.1 member
  obtain ⟨⟨text, rfl, isLine⟩, elementNamed⟩ := named _ isEntry
  obtain ⟨texts, areTexts, areLines⟩ := exists_texts elementNamed
  have opened : opening (.text text) = s!"<<<<{text}>>>>" := by rw [opening, Name.label_text]
  dsimp only at isIn
  rw [opened] at isIn
  exact (Element.areSections_lines areTexts).areLines_of_host isLine areLines line isIn

/-! ## Reading back -/

theorem header_inj {left right : Name} (leftLine : left.IsLine) (rightLine : right.IsLine)
    (same : Element.header left = Element.header right) : left = right := by
  obtain ⟨left, rfl, -⟩ := leftLine
  obtain ⟨right, rfl, -⟩ := rightLine
  simpa [Element.header, toString] using same

theorem opening_inj {left right : Name} (leftLine : left.IsLine) (rightLine : right.IsLine)
    (same : Group.opening left = Group.opening right) : left = right := by
  obtain ⟨left, rfl, -⟩ := leftLine
  obtain ⟨right, rfl, -⟩ := rightLine
  simpa [Group.opening, toString] using same

/-- No header is as short as a closing line. -/
theorem header_ne_closing (name : Name) : Element.header name ≠ Group.closing := by
  intro same
  have ending : ":sep(0)>>>".length = 10 := rfl
  have closing : "<<<<>>>>".length = 8 := rfl
  have lengths := congrArg String.length same
  simp only [Element.header, Group.closing, toString, String.length_append, ending,
    closing] at lengths
  omega

/-- Sections are told by their lines up to a closing line, and so is what follows. -/
theorem sectionLines_append_inj {left right : List (Name × String)}
    {leftRest rightRest : List String} (leftLines : ∀ entry ∈ left, entry.1.IsLine)
    (rightLines : ∀ entry ∈ right, entry.1.IsLine)
    (same : sectionLines left ++ Group.closing :: leftRest =
      sectionLines right ++ Group.closing :: rightRest) :
    left = right ∧ leftRest = rightRest := by
  induction left generalizing right with
  | nil =>
    cases right with
    | nil => exact ⟨rfl, (List.cons.inj same).2⟩
    | cons entry others => exact absurd (List.cons.inj same).1.symm (header_ne_closing entry.1)
  | cons entry others inductionHypothesis =>
    obtain ⟨name, payload⟩ := entry
    cases right with
    | nil => exact absurd (List.cons.inj same).1 (header_ne_closing name)
    | cons otherEntry rightOthers =>
      obtain ⟨otherName, otherPayload⟩ := otherEntry
      obtain ⟨nameLine, othersLines⟩ := List.forall_mem_cons.1 leftLines
      obtain ⟨otherNameLine, rightOthersLines⟩ := List.forall_mem_cons.1 rightLines
      obtain ⟨sameHeader, sameAfter⟩ := List.cons.inj same
      obtain ⟨rfl, sameOthers⟩ := List.cons.inj sameAfter
      obtain rfl : name = otherName := header_inj nameLine otherNameLine sameHeader
      obtain ⟨rfl, sameRest⟩ := inductionHypothesis othersLines rightOthersLines sameOthers
      exact ⟨rfl, sameRest⟩

/-- Hosts are told by their lines. -/
theorem hostLines_inj {left right : List (Name × List (Name × String))}
    (leftLines : ∀ entry ∈ left, entry.1.IsLine ∧ ∀ inner ∈ entry.2, inner.1.IsLine)
    (rightLines : ∀ entry ∈ right, entry.1.IsLine ∧ ∀ inner ∈ entry.2, inner.1.IsLine)
    (same : hostLines left = hostLines right) : left = right := by
  induction left generalizing right with
  | nil =>
    cases right with
    | nil => rfl
    | cons entry others => cases same
  | cons entry others inductionHypothesis =>
    obtain ⟨host, sections⟩ := entry
    cases right with
    | nil => cases same
    | cons otherEntry rightOthers =>
      obtain ⟨otherHost, otherSections⟩ := otherEntry
      obtain ⟨⟨hostLine, innerLines⟩, othersLines⟩ := List.forall_mem_cons.1 leftLines
      obtain ⟨⟨otherHostLine, otherInnerLines⟩, rightOthersLines⟩ :=
        List.forall_mem_cons.1 rightLines
      have blocks : Group.opening host :: (sectionLines sections ++ Group.closing ::
          hostLines others) = Group.opening otherHost :: (sectionLines otherSections ++
          Group.closing :: hostLines rightOthers) := by
        simpa [hostLines] using same
      obtain ⟨sameOpening, sameAfter⟩ := List.cons.inj blocks
      obtain rfl : host = otherHost := opening_inj hostLine otherHostLine sameOpening
      obtain ⟨rfl, sameOthers⟩ :=
        sectionLines_append_inj innerLines otherInnerLines sameAfter
      rw [inductionHypothesis othersLines rightOthersLines sameOthers]

theorem Element.IsNamed.outline {element : Element} (named : element.IsNamed) :
    ∀ entry ∈ element.outline, entry.1.IsLine := by
  intro entry member
  obtain ⟨held, isEntry, rfl⟩ := List.mem_map.1 member
  exact named _ (List.mem_map_of_mem isEntry)

theorem Group.IsNamed.outline {group : Group} (named : group.IsNamed) :
    ∀ entry ∈ group.outline, entry.1.IsLine ∧ ∀ inner ∈ entry.2, inner.1.IsLine := by
  intro entry member
  obtain ⟨held, isEntry, rfl⟩ := List.mem_map.1 member
  obtain ⟨hostLine, elementNamed⟩ := named _ isEntry
  exact ⟨hostLine, elementNamed.outline⟩

/-- Groups that calls make with names without line breaks, empty names and names like markers
included, are told by what is written of them: by the text, their hosts, the sections of each host
and all payloads are the same, and in the same order. So are elements. -/
theorem outline_of_written :
    (∀ left right : List Group.Call,
      (∀ call ∈ left, ∀ name ∈ call.names, IsLine name) →
      (∀ call ∈ right, ∀ name ∈ call.names, IsLine name) →
      "\n".intercalate (Group.ofCalls left).lines =
        "\n".intercalate (Group.ofCalls right).lines →
      (Group.ofCalls left).outline = (Group.ofCalls right).outline) ∧
    ∀ left right : List Element.Call,
      (∀ call ∈ left, ∀ name ∈ call.names, IsLine name) →
      (∀ call ∈ right, ∀ name ∈ call.names, IsLine name) →
      "\n".intercalate (Element.ofCalls left).lines =
        "\n".intercalate (Element.ofCalls right).lines →
      (Element.ofCalls left).outline = (Element.ofCalls right).outline := by
  constructor
  · intro left right leftLines rightLines written
    have leftNamed := Group.isNamed_ofCalls leftLines
    have rightNamed := Group.isNamed_ofCalls rightLines
    have sameLines := intercalate_lines_inj leftNamed.areLines rightNamed.areLines written
    rw [Group.lines_eq, Group.lines_eq] at sameLines
    exact hostLines_inj leftNamed.outline rightNamed.outline sameLines
  · intro left right leftLines rightLines written
    have leftNamed := Element.isNamed_ofCalls leftLines
    have rightNamed := Element.isNamed_ofCalls rightLines
    have sameLines := intercalate_lines_inj leftNamed.areLines rightNamed.areLines written
    rw [Element.lines_eq, Element.lines_eq] at sameLines
    -- An element has no closing line of its own; any rest will do.
    have closed : sectionLines (Element.ofCalls left).outline ++ [Group.closing] =
        sectionLines (Element.ofCalls right).outline ++ [Group.closing] := by rw [sameLines]
    exact (sectionLines_append_inj leftNamed.outline rightNamed.outline closed).1

theorem outline_of_written_of_markers :
    ∃ left right : List Group.Call, left ≠ right ∧
      (∀ call ∈ left, ∀ name ∈ call.names, IsLine name) ∧
      (∀ call ∈ right, ∀ name ∈ call.names, IsLine name) ∧
      "\n".intercalate (Group.ofCalls left).lines =
        "\n".intercalate (Group.ofCalls right).lines ∧
      (Group.ofCalls left).outline = (Group.ofCalls right).outline ∧
      (Group.ofCalls left).hosts = [.text "", .text "<"] := by
  let left : List Group.Call :=
    [.get "", .join ":sep(0)>>>" [("<", [("x", .null)]), ("", [("y", .null)])]]
  let right : List Group.Call :=
    [.within "" (.get ":sep(0)>>>"), .within "<" (.insert ":sep(0)>>>" [("x", .null)]),
      .within "" (.insert ":sep(0)>>>" [("y", .null)]),
      .within "" (.insert ":sep(0)>>>" [("y", .text "refused")])]
  have leftLines : ∀ call ∈ left, ∀ name ∈ call.names, IsLine name := by decide
  have rightLines : ∀ call ∈ right, ∀ name ∈ call.names, IsLine name := by decide
  have sameGroup : Group.ofCalls left = Group.ofCalls right := rfl
  have written : "\n".intercalate (Group.ofCalls left).lines =
      "\n".intercalate (Group.ofCalls right).lines := by rw [sameGroup]
  exact ⟨left, right, by simp [left, right], leftLines, rightLines, written,
    outline_of_written.1 left right leftLines rightLines written, rfl⟩

end ClusterAgent
