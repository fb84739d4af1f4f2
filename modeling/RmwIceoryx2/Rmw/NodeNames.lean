import RmwIceoryx2.Common.Names
import RmwIceoryx2.Library.OrderedSet
import RmwIceoryx2.Rmw.Endpoint
import RmwIceoryx2.Rmw.StringArray

namespace RmwIceoryx2.Rmw

open RmwIceoryx2.Common RmwIceoryx2.Library RmwIceoryx2.Library.Separator

structure NodeName where
  ns : String
  name : String
  deriving DecidableEq, Repr

namespace NodeName

def Lt (a b : NodeName) : Prop := if a.ns ≠ b.ns then a.ns < b.ns else a.name < b.name

instance : DecidableRel Lt := fun a b ↦ by unfold Lt; infer_instance

instance : IsStrictTotalOrder NodeName Lt :=
  lexicographic_isStrictTotalOrder fun a b hns hname ↦ by
    cases a
    cases b
    cases hns
    cases hname
    rfl

def ros2Prefix : List Char := "ros2://context/".toList

def nodesMarker : List Char := "/nodes/".toList

def parseName (fullName : String) : Option NodeName :=
  let fullName := fullName.toList
  if fullName.take ros2Prefix.length ≠ ros2Prefix then none
  else
    match find nodesMarker fullName with
    | none => none
    | some nodesPos =>
      let nodePart := fullName.drop (nodesPos + nodesMarker.length)
      if nodePart = [] then none
      else
        match findLastOf '/' nodePart with
        | none => some ⟨"", String.ofList nodePart⟩
        | some lastSlash => some ⟨String.ofList (nodePart.take lastSlash),
            String.ofList (nodePart.drop (lastSlash + 1))⟩

variable {contextId : ℕ} {ns name fullName : String}

theorem nodesMarker_eq : nodesMarker = '/' :: 'n' :: "odes/".toList := by decide

theorem toList_context (contextId : ℕ) :
    (Names.context contextId).toList = ros2Prefix ++ (toString contextId).toList :=
  String.toList_append

theorem toList_parts (a b c d e f : String) : (a ++ b ++ c ++ (d ++ e) ++ f).toList =
    a.toList ++ b.toList ++ c.toList ++ (d.toList ++ e.toList ++ f.toList) := by
  simp only [String.toList_append, List.append_assoc]

theorem toList_node (hns : ns ≠ "") : (Names.node contextId name (some ns)).toList =
    ros2Prefix ++ (toString contextId).toList ++ nodesMarker ++ (ns.toList ++ '/' :: name.toList) := by
  have hnode : Names.node contextId name (some ns) =
      "ros2://context/" ++ toString contextId ++ "/nodes/" ++ (ns ++ "/") ++ name := if_pos hns
  have hslash : "/".toList = ['/'] := rfl
  rw [hnode, toList_parts, hslash, List.append_assoc ns.toList]
  rfl

/-- No digit of the number can begin the marker, and neither can anything before it. -/
theorem context_apart (contextId : ℕ) :
    Apart '/' 'n' (ros2Prefix ++ (toString contextId).toList) := by
  refine apart_append (by decide) fun h ↦ ?_
  exact absurd (isDigit_of_mem_toString h) (by decide)

theorem cut_at_marker {contextId : ℕ} {s rest : List Char}
    (hs : s = ros2Prefix ++ (toString contextId).toList ++ nodesMarker ++ rest) :
    s.take ros2Prefix.length = ros2Prefix ∧
      find nodesMarker s = some (ros2Prefix ++ (toString contextId).toList).length ∧
        s.take (ros2Prefix ++ (toString contextId).toList).length =
          ros2Prefix ++ (toString contextId).toList ∧
        s.drop ((ros2Prefix ++ (toString contextId).toList).length + nodesMarker.length) = rest := by
  have happart : Apart '/' 'n' (ros2Prefix ++ (toString contextId).toList ++ ['/']) :=
    apart_append (context_apart contextId) (by decide)
  subst hs
  refine ⟨?_, ?_, ?_, ?_⟩
  · rw [List.append_assoc, List.append_assoc, List.take_left]
  · rw [nodesMarker_eq]
    exact find_marker happart
  · rw [List.append_assoc, List.take_left]
  · rw [← List.length_append, List.drop_left]

/-- The parser inverts the naming of nodes, whatever the namespace contains. -/
theorem parseName_node (hns : ns ≠ "") (hslash : '/' ∉ name.toList) :
    parseName (Names.node contextId name (some ns)) = some ⟨ns, name⟩ := by
  have hchars : (Names.node contextId name (some ns)).toList = _ := toList_node hns
  obtain ⟨htake, hfind, -, hdrop⟩ := cut_at_marker hchars
  have hpart : ns.toList ++ '/' :: name.toList ≠ [] := by simp
  have hrest : (ns.toList ++ '/' :: name.toList).drop (ns.toList.length + 1) = name.toList := by
    rw [← List.drop_drop, List.drop_left, List.drop_one, List.tail_cons]
  simp only [parseName, htake, ne_eq, not_true_eq_false, if_false, hfind, hdrop, hpart,
    findLastOf_last hslash, List.take_left, hrest, String.ofList_toList]

theorem parseName_context (contextId : ℕ) : parseName (Names.context contextId) = none := by
  have hfind : find nodesMarker (ros2Prefix ++ (toString contextId).toList) = none := by
    rw [nodesMarker_eq]
    exact find_none (context_apart contextId)
  simp only [parseName, toList_context, List.take_left, ne_eq, not_true_eq_false, if_false, hfind]

theorem parseName_foreign (h : ¬ ros2Prefix <+: fullName.toList) : parseName fullName = none := by
  have htake : fullName.toList.take ros2Prefix.length ≠ ros2Prefix :=
    fun hsame ↦ h (List.prefix_iff_eq_take.mpr hsame.symm)
  rw [parseName, if_pos htake]

end NodeName

/-- The state in which iceoryx2 lists a node, with its name where its details can be read. -/
inductive NodeState
  | alive (details : Option String)
  | dead | inaccessible | undefined
  deriving DecidableEq, Repr

structure NodeListing where
  nodes : List NodeState
  result : Except String Unit

abbrev NodeNameSet := OrderedSet NodeName.Lt

def collectNode (names : NodeNameSet) : NodeState → NodeNameSet
  | .alive (some name) =>
    match NodeName.parseName name with
    | some nodeName => names.emplace nodeName
    | none => names
  | _ => names

def collectNodeNames (listing : NodeListing) (names : NodeNameSet) : RmwRet × NodeNameSet :=
  (match listing.result with | .ok _ => .ok | .error _ => .error,
    listing.nodes.foldl collectNode names)

structure NodeNamesOutcome where
  ret : RmwRet
  chain : List String
  nodeNames : Option StringArray
  nodeNamespaces : Option StringArray
  deriving DecidableEq, Repr

def checkNodeNames (rmwNode : Option RmwNode) (nodeNames nodeNamespaces : Option StringArray) :
    Except (Failure RmwRet) (StringArray × StringArray) := do
  let node ← ensureNotNull "rmw_node" .invalidArgument rmwNode
  ensureImplementation "rmw_node->implementation_identifier" .incorrectRmwImplementation
    node.implementationIdentifier
  let names ← ensureNotNull "node_names" .invalidArgument nodeNames
  ensureZeroStringArray .invalidArgument names
  let namespaces ← ensureNotNull "node_namespaces" .invalidArgument nodeNamespaces
  ensureZeroStringArray .invalidArgument namespaces
  return (names, namespaces)

def listNodeNames (rc : Rcutils) (names : List NodeName) (nodeNames nodeNamespaces : StringArray) :
    Except MemoryFault NodeNamesOutcome :=
  let allocator := rc.getDefaultAllocator
  match rc.stringArrayInit 0 nodeNames names.length allocator with
  | (.ok, nodeNames) =>
    match rc.stringArrayInit 1 nodeNamespaces names.length allocator with
    | (.ok, nodeNamespaces) =>
      match fillPair rc NodeName.name NodeName.ns "failed to populate node name array"
          "failed to populate node namespace array" (2 ^ 31 - 1) 0 names nodeNames
          nodeNamespaces with
      | .error fault => .error fault
      | .ok filled => .ok ⟨filled.ret, filled.chain, some filled.first, some filled.second⟩
    | (ret, nodeNamespaces) => .ok ⟨rc.convertRet ret,
        ["failed to allocate memory for node namespaces", rc.errorString], some nodeNames,
        some nodeNamespaces⟩
  | (ret, nodeNames) => .ok ⟨rc.convertRet ret,
      ["failed to allocate memory for node names", rc.errorString], some nodeNames,
      some nodeNamespaces⟩

def rmwGetNodeNames (rc : Rcutils) (listing : NodeListing) (rmwNode : Option RmwNode)
    (nodeNames nodeNamespaces : Option StringArray) : Except MemoryFault NodeNamesOutcome :=
  match checkNodeNames rmwNode nodeNames nodeNamespaces with
  | .error f => .ok ⟨f.error, f.chain, nodeNames, nodeNamespaces⟩
  | .ok (names, namespaces) =>
    match collectNodeNames listing (.empty _) with
    | (.ok, collected) => listNodeNames rc collected.toList names namespaces
    | (ret, _) => .ok ⟨ret, [], nodeNames, nodeNamespaces⟩

theorem mem_collectNodes {nodes : List NodeState} {names : NodeNameSet} {e : NodeName} :
    e ∈ nodes.foldl collectNode names ↔ e ∈ names ∨ ∃ fullName,
      NodeState.alive (some fullName) ∈ nodes ∧ NodeName.parseName fullName = some e := by
  induction nodes generalizing names with
  | nil => simp
  | cons node nodes ih =>
    have hstep : e ∈ collectNode names node ↔ e ∈ names ∨ ∃ fullName,
        NodeState.alive (some fullName) = node ∧ NodeName.parseName fullName = some e := by
      cases node with
      | alive details =>
        cases details with
        | none => simp [collectNode]
        | some fullName =>
          cases hparse : NodeName.parseName fullName with
          | none => simp [collectNode, hparse]
          | some d =>
            simp only [collectNode, hparse, OrderedSet.mem_emplace, NodeState.alive.injEq,
              Option.some_inj, exists_eq_left, eq_comm (a := e)]
            exact or_comm
      | dead => simp [collectNode]
      | inaccessible => simp [collectNode]
      | undefined => simp [collectNode]
    rw [List.foldl_cons, ih, hstep, or_assoc]
    simp only [List.mem_cons, or_and_right, exists_or]

theorem ensureZeroStringArray_rejects {returnValue : RmwRet} {arr : StringArray}
    {f : Failure RmwRet} (h : ensureZeroStringArray returnValue arr = .error f) :
    f.error = returnValue := by
  simp only [ensureZeroStringArray] at h
  split at h
  · obtain rfl := Except.error.inj h
    rfl
  · cases h

theorem checkNodeNames_rejects {rmwNode : Option RmwNode}
    {nodeNames nodeNamespaces : Option StringArray} {f : Failure RmwRet}
    (h : checkNodeNames rmwNode nodeNames nodeNamespaces = .error f) : f.error ≠ .ok := by
  simp only [checkNodeNames, bind_eq_error, ensureNotNull_eq_error, ensureImplementation_eq_error,
    pure, Except.pure, reduceCtorEq, and_false, exists_false, or_false] at h
  obtain ⟨-, rfl⟩ | ⟨_, -, ⟨-, rfl⟩ | ⟨_, -, ⟨-, rfl⟩ | ⟨_, -, hzero | ⟨_, -, ⟨-, rfl⟩ |
    ⟨_, -, hzero⟩⟩⟩⟩⟩ := h
  any_goals simp
  all_goals simp [ensureZeroStringArray_rejects hzero]

theorem listNodeNames_filled {rc : Rcutils} (hrc : rc.Documented) {names : List NodeName}
    {nodeNames nodeNamespaces : StringArray} {r : NodeNamesOutcome} (hret : r.ret = .ok)
    (h : listNodeNames rc names nodeNames nodeNamespaces = .ok r) :
    ∃ first second, r.nodeNames = some first ∧ r.nodeNamespaces = some second ∧
      (first.size = names.length ∧ first.entries = names.map fun e ↦ some e.name) ∧
        second.size = names.length ∧ second.entries = names.map fun e ↦ some e.ns := by
  have hfirst := hrc.stringArrayInit 0 nodeNames names.length rc.getDefaultAllocator
  have hsecond := hrc.stringArrayInit 1 nodeNamespaces names.length rc.getDefaultAllocator
  simp only [listNodeNames] at h
  split at h
  · rename_i first hinit
    rw [hinit] at hfirst
    obtain ⟨hsize, hentries⟩ := hfirst rfl
    split at h
    · rename_i second hinit'
      rw [hinit'] at hsecond
      obtain ⟨hsize', hentries'⟩ := hsecond rfl
      split at h
      · cases h
      · rename_i filled hfill
        obtain rfl := Except.ok.inj h
        obtain ⟨⟨hkept, hnames⟩, hkept', hnamespaces⟩ := fillPair_all hrc hret
          (by rw [hentries, List.length_replicate]) (by rw [hentries', List.length_replicate]) hfill
        exact ⟨_, _, rfl, rfl, ⟨hkept.trans hsize, hnames⟩, hkept'.trans hsize', hnamespaces⟩
    · rename_i ret _ hne _
      obtain rfl := Except.ok.inj h
      exact absurd (hrc.convertRet _ hret) hne
  · rename_i ret _ hne _
    obtain rfl := Except.ok.inj h
    exact absurd (hrc.convertRet _ hret) hne

/-- What a successful call lists is the set that it collected, in the order of the set. -/
theorem rmwGetNodeNames_ok {rc : Rcutils} (hrc : rc.Documented) {listing : NodeListing}
    {rmwNode : Option RmwNode} {nodeNames nodeNamespaces : Option StringArray}
    {r : NodeNamesOutcome}
    (h : rmwGetNodeNames rc listing rmwNode nodeNames nodeNamespaces = .ok r) (hret : r.ret = .ok) :
    ∃ names namespaces, r.nodeNames = some names ∧ r.nodeNamespaces = some namespaces ∧
      let entries := (listing.nodes.foldl collectNode (.empty _)).toList
      (names.size = entries.length ∧ names.entries = entries.map fun e ↦ some e.name) ∧
        namespaces.size = entries.length ∧
          namespaces.entries = entries.map fun e ↦ some e.ns := by
  simp only [rmwGetNodeNames] at h
  split at h
  · rename_i f hcheck
    obtain rfl := Except.ok.inj h
    exact absurd hret (checkNodeNames_rejects hcheck)
  split at h
  · rename_i collected hcollect
    obtain rfl : listing.nodes.foldl collectNode (.empty _) = collected :=
      congrArg Prod.snd hcollect
    exact listNodeNames_filled hrc hret h
  · rename_i ret _ hne _
    obtain rfl := Except.ok.inj h
    exact absurd hret hne

/-- A node of this implementation that lives, by what it was created with. -/
structure LiveNode where
  contextId : ℕ
  ns : String
  name : String
  deriving DecidableEq, Repr

/-- Those nodes of iceoryx2 are alive that belong to the contexts and to the nodes, and some that
belong to neither. A context may be listed when it is gone, if a wait set still holds a port of
it. -/
structure Lists (listing : NodeListing) (contexts : List ℕ) (nodes : List LiveNode)
    (foreign : List String) : Prop where
  listsContexts : ∀ contextId ∈ contexts,
    .alive (some (Names.context contextId)) ∈ listing.nodes
  listsNodes : ∀ n ∈ nodes,
    .alive (some (Names.node n.contextId n.name (some n.ns))) ∈ listing.nodes
  listsOnly : ∀ fullName, .alive (some fullName) ∈ listing.nodes →
    (∃ contextId, fullName = Names.context contextId) ∨
      (∃ n ∈ nodes, fullName = Names.node n.contextId n.name (some n.ns)) ∨ fullName ∈ foreign

/-- Entry by entry the two arrays name the nodes, in order and each once. -/
def Enumerates (nodes : List LiveNode) (nodeNames nodeNamespaces : StringArray) : Prop :=
  ∃ entries : List NodeName, entries.Pairwise NodeName.Lt ∧
    (∀ e, e ∈ entries ↔ ∃ n ∈ nodes, e = ⟨n.ns, n.name⟩) ∧
      (nodeNames.size = entries.length ∧ nodeNames.entries = entries.map fun e ↦ some e.name) ∧
        nodeNamespaces.size = entries.length ∧
          nodeNamespaces.entries = entries.map fun e ↦ some e.ns

section Listing

variable {contexts : List ℕ} {nodes : List LiveNode} {foreign : List String} {listing : NodeListing}

theorem mem_listed (hnodes : ∀ n ∈ nodes, n.ns ≠ "" ∧ '/' ∉ n.name.toList)
    (hforeign : ∀ fullName ∈ foreign, ¬ NodeName.ros2Prefix <+: fullName.toList)
    (hlists : Lists listing contexts nodes foreign) {e : NodeName} :
    e ∈ listing.nodes.foldl collectNode (.empty _) ↔ ∃ n ∈ nodes, e = ⟨n.ns, n.name⟩ := by
  rw [mem_collectNodes]
  constructor
  · intro h
    obtain hempty | ⟨fullName, hfull, hparse⟩ := h
    · exact absurd hempty (OrderedSet.not_mem_empty e)
    obtain ⟨contextId, rfl⟩ | ⟨n, hn, rfl⟩ | hfull := hlists.listsOnly fullName hfull
    · rw [NodeName.parseName_context] at hparse
      cases hparse
    · rw [NodeName.parseName_node (hnodes n hn).1 (hnodes n hn).2] at hparse
      exact ⟨n, hn, (Option.some_inj.mp hparse).symm⟩
    · rw [NodeName.parseName_foreign (hforeign _ hfull)] at hparse
      cases hparse
  · intro h
    obtain ⟨n, hn, rfl⟩ := h
    refine Or.inr ⟨_, hlists.listsNodes n hn, ?_⟩
    exact NodeName.parseName_node (hnodes n hn).1 (hnodes n hn).2

/-- Listing the nodes gives back what they were created with. -/
theorem node_names_exact {rc : Rcutils} (hrc : rc.Documented)
    (hnodes : ∀ n ∈ nodes, n.ns ≠ "" ∧ '/' ∉ n.name.toList)
    (hforeign : ∀ fullName ∈ foreign, ¬ NodeName.ros2Prefix <+: fullName.toList)
    (hlists : Lists listing contexts nodes foreign) {rmwNode : Option RmwNode}
    {nodeNames nodeNamespaces : Option StringArray} {r : NodeNamesOutcome}
    (h : rmwGetNodeNames rc listing rmwNode nodeNames nodeNamespaces = .ok r) (hret : r.ret = .ok) :
    ∃ names namespaces, r.nodeNames = some names ∧ r.nodeNamespaces = some namespaces ∧
      Enumerates nodes names namespaces := by
  obtain ⟨names, namespaces, hnames, hnamespaces, hfilled, hfilled'⟩ :=
    rmwGetNodeNames_ok hrc h hret
  exact ⟨names, namespaces, hnames, hnamespaces, _, OrderedSet.sorted _,
    fun e ↦ mem_listed hnodes hforeign hlists, hfilled, hfilled'⟩

end Listing

def crowdedNodes : List LiveNode := [⟨3, "/", "talker"⟩, ⟨3, "/a/nodes/b", "talker"⟩]

def crowdedListing : NodeListing where
  nodes := [.alive (some (Names.context 3)), .alive (some (Names.node 3 "talker" (some "/"))), .dead,
    .alive (some (Names.node 3 "talker" (some "/a/nodes/b"))), .alive (some "My/App"), .alive none]
  result := .ok ()

def listedArray (texts : List String) : StringArray :=
  ⟨texts.length, some (texts.map some), hostAllocator⟩

theorem crowdedListing_lists : Lists crowdedListing [3] crowdedNodes ["My/App"] where
  listsContexts := by decide
  listsNodes := by decide
  listsOnly fullName h := by
    simp only [crowdedListing, List.mem_cons, NodeState.alive.injEq, Option.some_inj, reduceCtorEq,
      List.not_mem_nil, or_false, false_or] at h
    rcases h with rfl | rfl | rfl | rfl
    · exact Or.inl ⟨3, rfl⟩
    · exact Or.inr (Or.inl ⟨_, List.mem_cons_self, rfl⟩)
    · exact Or.inr (Or.inl ⟨_, List.mem_cons_of_mem _ List.mem_cons_self, rfl⟩)
    · exact Or.inr (Or.inr List.mem_cons_self)

theorem crowded_listed : rmwGetNodeNames hostRcutils crowdedListing
    (some ⟨rmwGetImplementationIdentifier, some (some ()), some ()⟩) (some zeroStringArray)
      (some zeroStringArray) = .ok ⟨.ok, [], some (listedArray ["talker", "talker"]),
        some (listedArray ["/", "/a/nodes/b"])⟩ := by decide

theorem node_names_exact_crowded : ∃ names namespaces,
    some (listedArray ["talker", "talker"]) = some names ∧
      some (listedArray ["/", "/a/nodes/b"]) = some namespaces ∧
        Enumerates crowdedNodes names namespaces :=
  node_names_exact hostRcutils_documented (by decide) (by decide) crowdedListing_lists
    crowded_listed rfl

end RmwIceoryx2.Rmw
