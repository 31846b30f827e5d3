import ClusterAgent.Proofs.Payload.Printable
import ClusterAgent.Proofs.Report.Blocks
import ClusterAgent.Proofs.Run.Stages
import ClusterAgent.Proofs.Text.Lines

/-!
Contract: the lines of a written report.

A report is sections about the cluster, hosts with their sections, and sections
about custom metrics, each section being a header and a payload. Line breaks
stand between lines only, since payloads are printable and headers are fixed, as
long as no host has one in its name.

Owns: the grammar of written reports.
Does not own: what payloads hold, when a report is written.
-/

namespace ClusterAgent

/-! ## The grammar -/

/-- A line that holds a payload: printable, and between braces, unlike any header. -/
structure IsPayload (line : String) : Prop where
  printable : ∀ c ∈ line.toList, IsPrintable c
  braced : ∃ inner, line = "\x7b" ++ inner ++ "\x7d"

/-- Headers with payloads after them, for sections of some names. -/
inductive AreSections : List String → List String → Prop where
  | nil : AreSections [] []
  | cons {name payload : String} {names lines : List String} (isPayload : IsPayload payload)
      (others : AreSections names lines) :
      AreSections (name :: names) (s!"<<<{name}:sep(0)>>>" :: payload :: lines)

/-- The lines of a host: one that opens it, one or more of the sections that hosts can have, and one
that closes it. -/
def IsHostBlock (host : String) (lines : List String) : Prop :=
  ∃ names sections, names ≠ [] ∧ names.Sublist Inventory.nodeSections ∧
    AreSections names sections ∧ lines = s!"<<<<{host}>>>>" :: sections ++ ["<<<<>>>>"]

theorem IsPayload.isLine {line : String} (isPayload : IsPayload line) : IsLine line :=
  fun member => (isPayload.printable '\n' member).ne_newline rfl

/-- No payload can be read as a header or as the name of a host. -/
theorem IsPayload.not_header {line : String} (isPayload : IsPayload line) :
    ¬ "<<<".toList <+: line.toList := by
  obtain ⟨inner, rfl⟩ := isPayload.braced
  rw [String.toList_append, String.toList_append]
  rintro ⟨rest, isHeader⟩
  cases isHeader

theorem isPayload_encodeMembers (members : List (Name × Value)) :
    IsPayload (Payload.encodeMembers members) := by
  obtain ⟨inner, encoded, printable⟩ := Payload.exists_encodeMembers members
  constructor
  · rw [encoded, String.toList_ofList]
    exact List.forall_mem_cons.2
      ⟨by decide, List.forall_mem_append.2 ⟨printable, isPrintable_of_all rfl⟩⟩
  · refine ⟨String.ofList inner, ?_⟩
    apply String.toList_injective
    rw [encoded]
    simp

namespace AreSections

variable {names lines : List String}

/-- Sections of names without line breaks are lines, none of which is empty. -/
theorem areLines (sections : AreSections names lines) (areLines : ∀ name ∈ names, IsLine name) :
    ∀ line ∈ lines, IsLine line ∧ line ≠ "" := by
  induction sections with
  | nil => simp
  | @cons name payload names lines isPayload others inductionHypothesis =>
    obtain ⟨nameIsLine, othersAreLines⟩ := List.forall_mem_cons.1 areLines
    refine List.forall_mem_cons.2 ⟨⟨?_, ?_⟩, List.forall_mem_cons.2 ⟨⟨isPayload.isLine, ?_⟩,
      inductionHypothesis othersAreLines⟩⟩
    · have start : IsLine "<<<" := by decide
      have finish : IsLine ":sep(0)>>>" := by decide
      exact (start.append nameIsLine).append finish
    · intro isEmpty
      simp [toString] at isEmpty
    · rintro rfl
      obtain ⟨inner, isBraced⟩ := isPayload.braced
      simpa using congrArg String.toList isBraced

theorem ne_nil (sections : AreSections names lines) (nonempty : names ≠ []) : lines ≠ [] := by
  cases sections with
  | nil => exact absurd rfl nonempty
  | cons => simp

end AreSections

/-! ## The lines of elements and groups -/

/-- An element is written as its sections. -/
theorem Element.areSections_lines {element : Element} {names : List String}
    (named : element.names = names.map Name.text) : AreSections names element.lines := by
  obtain ⟨⟨entries⟩⟩ := element
  change entries.map Prod.fst = names.map Name.text at named
  unfold lines
  dsimp only
  induction entries generalizing names with
  | nil =>
    rw [List.map_eq_nil_iff.1 named.symm]
    exact .nil
  | cons entry rest inductionHypothesis =>
    obtain ⟨name, held⟩ := entry
    cases names with
    | nil => cases named
    | cons first others =>
      rw [List.map_cons, List.map_cons, List.cons.injEq] at named
      obtain ⟨rfl, othersNamed⟩ := named
      have headerEq : header (.text first) = s!"<<<{first}:sep(0)>>>" := by
        rw [header, Name.label_text]
      rw [List.flatMap_cons]
      change AreSections _ (header (.text first) :: held.payload :: _)
      rw [headerEq]
      exact .cons (isPayload_encodeMembers held.content.entries) (inductionHypothesis othersNamed)

theorem Inventory.isLine_nodeSections : ∀ name ∈ nodeSections, IsLine name := by decide

/-- What is written of one host is lines if no name has a line break. -/
theorem AreSections.areLines_of_host {host : String} {names sections : List String}
    (areSections : AreSections names sections) (isLine : IsLine host)
    (sectionNames : ∀ name ∈ names, IsLine name) :
    ∀ line ∈ s!"<<<<{host}>>>>" :: sections ++ ["<<<<>>>>"], IsLine line ∧ line ≠ "" := by
  have start : IsLine "<<<<" := by decide
  have finish : IsLine ">>>>" := by decide
  refine List.forall_mem_append.2 ⟨List.forall_mem_cons.2 ⟨⟨?_, ?_⟩, ?_⟩, by decide⟩
  · exact (start.append isLine).append finish
  · intro isEmpty
    simp [toString] at isEmpty
  · exact areSections.areLines sectionNames

theorem IsHostBlock.areLines {host : String} {lines : List String} (block : IsHostBlock host lines)
    (isLine : IsLine host) : ∀ line ∈ lines, IsLine line ∧ line ≠ "" := by
  obtain ⟨names, sections, _, inOrder, areSections, rfl⟩ := block
  exact areSections.areLines_of_host isLine fun name member =>
    Inventory.isLine_nodeSections name (inOrder.subset member)

/-- A group whose hosts have sections is written host by host. -/
theorem Group.exists_blocks {group : Group}
    (sections : group.HasSections (Inventory.nodeSections.map Name.text)) :
    ∃ blocks, group.lines = blocks.flatten ∧
      List.Forall₂ (fun host block => IsHostBlock host.label block) group.hosts blocks := by
  obtain ⟨⟨entries⟩⟩ := group
  refine ⟨entries.map fun entry => opening entry.1 :: entry.2.lines ++ [closing], ?_, ?_⟩
  · exact List.flatMap_def
  · change List.Forall₂ _ (entries.map Prod.fst) _
    rw [List.forall₂_map_left_iff, List.forall₂_map_right_iff, List.forall₂_same]
    rintro ⟨host, element⟩ member
    obtain ⟨nonempty, inOrder⟩ := sections (host, element) member
    obtain ⟨names, namesInOrder, isNames⟩ := List.sublist_map_iff.1 inOrder
    refine ⟨names, element.lines, ?_, namesInOrder, Element.areSections_lines isNames, rfl⟩
    rintro rfl
    exact nonempty isNames

/-! ## The lines of a report -/

namespace Inventory

variable {inventory : Inventory}

theorem areSections_clusterLines {lines : List String} (made : inventory.clusterLines = .ok lines) :
    AreSections clusterSections lines ∧ Entity.names inventory.nodes ≠ [] := by
  unfold clusterLines at made
  obtain ⟨element, elementMade, made⟩ := Outcome.bind_eq_ok.1 made
  obtain ⟨_, _, rendered⟩ := Outcome.bind_eq_ok.1 made
  cases rendered
  obtain ⟨named, nodesNamed⟩ := names_clusterElement elementMade
  exact ⟨Element.areSections_lines named, nodesNamed⟩

theorem exists_blocks_nodeLines {lines : List String} (made : inventory.nodeLines = .ok lines)
    (nodesNamed : Entity.names inventory.nodes ≠ []) :
    ∃ blocks, lines = blocks.flatten ∧ blocks ≠ [] ∧
      ∀ block ∈ blocks, ∃ host ∈ inventory.hostNames, IsHostBlock host.label block := by
  unfold nodeLines at made
  obtain ⟨group, groupMade, made⟩ := Outcome.bind_eq_ok.1 made
  obtain ⟨_, _, made⟩ := Outcome.bind_eq_ok.1 made
  obtain ⟨_, _, rendered⟩ := Outcome.bind_eq_ok.1 made
  cases rendered
  obtain ⟨sections, hosts, nodesAreHosts⟩ := nodeGroup_hosts groupMade
  obtain ⟨blocks, isFlat, framed⟩ := Group.exists_blocks sections
  refine ⟨blocks, isFlat, ?_, ?_⟩
  · rintro rfl
    obtain ⟨name, isName⟩ := List.exists_mem_of_ne_nil _ nodesNamed
    have noHosts : group.hosts = [] := List.forall₂_nil_right_iff.1 framed
    have isHost := nodesAreHosts name isName
    rw [noHosts] at isHost
    cases isHost
  · intro block member
    obtain ⟨host, isHost, isBlock⟩ := Outcome.exists_of_mem_right framed block member
    exact ⟨host, hosts host isHost, isBlock⟩

theorem areSections_customMetricsLines {lines : List String}
    (groups : inventory.podMetrics.map Prod.fst = PodMetrics.groups.map Prod.fst)
    (made : inventory.customMetricsLines = .ok lines) : AreSections metricSectionNames lines := by
  obtain ⟨element, elementMade, rfl⟩ := Outcome.map_eq_ok.1 made
  exact Element.areSections_lines (names_customMetricsElement groups elementMade)

/-- The text of a report, split at line breaks. -/
theorem splitLines_blocks {cluster nodes metrics : List String}
    (clusterMade : inventory.clusterLines = .ok cluster)
    (nodesMade : inventory.nodeLines = .ok nodes)
    (metricsMade : inventory.customMetricsLines = .ok metrics)
    (groups : inventory.podMetrics.map Prod.fst = PodMetrics.groups.map Prod.fst)
    (unbroken : ∀ host ∈ inventory.hostNames, IsLine host.label) :
    ∃ blocks, AreSections clusterSections cluster ∧ blocks ≠ [] ∧
      (∀ block ∈ blocks, ∃ host ∈ inventory.hostNames, IsHostBlock host.label block) ∧
      AreSections metricSectionNames metrics ∧
      (∀ line ∈ cluster ++ blocks.flatten ++ metrics, line ≠ "") ∧
      splitLines (String.join ([block cluster, block nodes, block metrics].map (· ++ "\n"))) =
        cluster ++ blocks.flatten ++ metrics ++ [""] := by
  obtain ⟨clusterFramed, nodesNamed⟩ := areSections_clusterLines clusterMade
  obtain ⟨blocks, rfl, blocksNonempty, blocksFramed⟩ := exists_blocks_nodeLines nodesMade nodesNamed
  have metricsFramed := areSections_customMetricsLines groups metricsMade
  have clusterAreLines := clusterFramed.areLines (by decide)
  have metricsAreLines := metricsFramed.areLines (by decide)
  have nodesAreLines : ∀ line ∈ blocks.flatten, IsLine line ∧ line ≠ "" := by
    intro line member
    obtain ⟨block, inBlocks, inBlock⟩ := List.mem_flatten.1 member
    obtain ⟨host, isHost, framed⟩ := blocksFramed block inBlocks
    exact framed.areLines (unbroken host isHost) line inBlock
  have allLines : ∀ line ∈ cluster ++ blocks.flatten ++ metrics, IsLine line ∧ line ≠ "" :=
    List.forall_mem_append.2
      ⟨List.forall_mem_append.2 ⟨clusterAreLines, nodesAreLines⟩, metricsAreLines⟩
  have nonempty : ∀ lines ∈ [cluster, blocks.flatten, metrics], lines ≠ [] := by
    have clusterNonempty := clusterFramed.ne_nil (by decide)
    have metricsNonempty := metricsFramed.ne_nil (by decide)
    obtain ⟨first, isFirst⟩ := List.exists_mem_of_ne_nil _ blocksNonempty
    obtain ⟨host, _, names, sections, _, _, _, isBlock⟩ := blocksFramed first isFirst
    have nodesNonempty : blocks.flatten ≠ [] := by
      apply List.ne_nil_of_mem (a := s!"<<<<{host.label}>>>>")
      exact List.mem_flatten.2 ⟨first, isFirst, by rw [isBlock]; simp⟩
    simp [clusterNonempty, nodesNonempty, metricsNonempty]
  have split := splitLines_join_blocks nonempty (by
    intro line member
    exact (allLines line (by simpa using member)).1)
  refine ⟨blocks, clusterFramed, blocksNonempty, blocksFramed, metricsFramed,
    fun line member => (allLines line member).2, ?_⟩
  rw [List.append_assoc, List.append_assoc]
  simpa using split

end Inventory

/-! ## Written reports -/

/-- A run that asks for a report and writes something has rendered all three blocks. -/
theorem exists_blocks_of_written [Platform] {connect : Connector} {arguments : List Value}
    {environment : Environment} {config : Config} {source : Source} {inventory : Inventory}
    {text : String} (asked : Command.read arguments environment = .ok (.collect config))
    (connected : (connect config).outcome = .ok source)
    (collected : (Inventory.collect .kept source).outcome = .ok inventory)
    (written : (run connect arguments environment).stdout = [text]) :
    ∃ cluster nodes metrics, inventory.clusterLines = .ok cluster ∧
      inventory.nodeLines = .ok nodes ∧ inventory.customMetricsLines = .ok metrics ∧
      text = String.join ([Inventory.block cluster, Inventory.block nodes,
        Inventory.block metrics].map (· ++ "\n")) := by
  have cycled := runOutcome_of_written written
  rw [runOutcome_of_read asked, outcome_reportCycle, connected, Outcome.ok_bind, collected,
    Outcome.ok_bind] at cycled
  obtain ⟨blocks, rendered, joined⟩ := Outcome.bind_eq_ok.1 cycled
  obtain ⟨cluster, nodes, metrics, clusterMade, nodesMade, metricsMade, rfl⟩ :=
    Inventory.outcome_report_eq_ok.1 rendered
  exact ⟨cluster, nodes, metrics, clusterMade, nodesMade, metricsMade,
    (Except.ok.inj joined).symm⟩

theorem Inventory.ne_empty_of_mem_hostNames {inventory : Inventory} {host : Name}
    (member : host ∈ inventory.hostNames) {text : String} (isText : host = .text text) :
    text ≠ "" := by
  rintro rfl
  have given := isGiven_of_mem_hostNames member
  rw [isText] at given
  exact absurd given (by decide)

/-- The pieces of a written report between line breaks: the sections about the cluster, one or more
hosts with up to three sections each, the sections about custom metrics, and an empty piece after
the last break. Of all data, only names of hosts stand in a line as they are, so these alone must
not hold a line break. -/
theorem run_writes_framed_report [Platform] (connect : Connector) (arguments : List Value)
    (environment : Environment) (config : Config) (source : Source) (inventory : Inventory)
    (text : String) (asked : Command.read arguments environment = .ok (.collect config))
    (connected : (connect config).outcome = .ok source)
    (collected : (Inventory.collect .kept source).outcome = .ok inventory)
    (written : (run connect arguments environment).stdout = [text])
    (unbroken : ∀ host ∈ inventory.hostNames, '\n' ∉ host.label.toList) :
    ∃ cluster blocks metrics,
      splitLines text = cluster ++ blocks.flatten ++ metrics ++ [""] ∧
      AreSections Inventory.clusterSections cluster ∧
      blocks ≠ [] ∧
      (∀ block ∈ blocks, ∃ host ∈ inventory.hostNames,
        (∀ name, host = .text name → name ≠ "") ∧ IsHostBlock host.label block) ∧
      AreSections Inventory.metricSectionNames metrics ∧
      (∀ line ∈ cluster ++ blocks.flatten ++ metrics, line ≠ "") ∧
      ∀ payload, IsPayload payload →
        '\n' ∉ payload.toList ∧ ¬ "<<<".toList <+: payload.toList := by
  obtain ⟨cluster, nodes, metrics, clusterMade, nodesMade, metricsMade, rfl⟩ :=
    exists_blocks_of_written asked connected collected written
  obtain ⟨blocks, clusterFramed, nonempty, blocksFramed, metricsFramed, noneEmpty, split⟩ :=
    Inventory.splitLines_blocks clusterMade nodesMade metricsMade
      (Inventory.podMetrics_of_collect collected).1 unbroken
  refine ⟨cluster, blocks, metrics, split, clusterFramed, nonempty, ?_, metricsFramed, noneEmpty,
    fun payload isPayload => ⟨isPayload.isLine, isPayload.not_header⟩⟩
  intro block member
  obtain ⟨host, isHost, framed⟩ := blocksFramed block member
  exact ⟨host, isHost, fun _ isText => Inventory.ne_empty_of_mem_hostNames isHost isText, framed⟩

section Universal

attribute [local instance] Platform.universal

/-- The report of a cluster in which two nodes have one name and two hosts are no nodes. -/
theorem run_writes_framed_report_of_crowdedCluster :
    ∃ config text, Command.read reportArguments ⟨none⟩ = .ok (.collect config) ∧
      (Connector.direct Inventory.crowdedCluster config).outcome =
        .ok (.ofCluster Inventory.crowdedCluster) ∧
      (Inventory.collect .kept (.ofCluster Inventory.crowdedCluster)).outcome =
        .ok (Inventory.collectedFrom Inventory.crowdedCluster) ∧
      (run (.direct Inventory.crowdedCluster) reportArguments ⟨none⟩).stdout = [text] ∧
      (∀ host ∈ (Inventory.collectedFrom Inventory.crowdedCluster).hostNames,
        '\n' ∉ host.label.toList) ∧
      ∃ cluster blocks metrics,
        splitLines text = cluster ++ blocks.flatten ++ metrics ++ [""] ∧
        AreSections Inventory.clusterSections cluster ∧ blocks ≠ [] := by
  obtain ⟨config, asked⟩ := exists_config_of_reportArguments
  obtain ⟨text, came⟩ := Inventory.exists_runOutcome_crowdedCluster
  have connected : (Connector.direct Inventory.crowdedCluster config).outcome =
      .ok (.ofCluster Inventory.crowdedCluster) := rfl
  have collected : (Inventory.collect .kept (.ofCluster Inventory.crowdedCluster)).outcome =
      .ok (Inventory.collectedFrom Inventory.crowdedCluster) := rfl
  have written : (run (.direct Inventory.crowdedCluster) reportArguments ⟨none⟩).stdout = [text] :=
    (run_of_ok came).2.1
  have unbroken : ∀ host ∈ (Inventory.collectedFrom Inventory.crowdedCluster).hostNames,
      '\n' ∉ host.label.toList := by
    have names : (Inventory.collectedFrom Inventory.crowdedCluster).hostNames =
        ["b", "a", "b", "z", "b", "c"].map Name.text := rfl
    rw [names, List.forall_mem_map]
    simp only [Name.label_text]
    decide
  obtain ⟨cluster, hosts, metrics, split, clusterFramed, nonempty, _⟩ :=
    run_writes_framed_report (.direct Inventory.crowdedCluster) reportArguments ⟨none⟩ config
      (.ofCluster Inventory.crowdedCluster) (Inventory.collectedFrom Inventory.crowdedCluster)
      text asked connected collected written unbroken
  exact ⟨config, text, asked, connected, collected, written, unbroken, cluster, hosts, metrics, split,
    clusterFramed, nonempty⟩

end Universal

end ClusterAgent
