import RmwIceoryx2.Library.Numeral
import RmwIceoryx2.Rmw.NodeNames

namespace RmwIceoryx2.Rmw.NodeName

open RmwIceoryx2.Common RmwIceoryx2.Library RmwIceoryx2.Library.Separator

/-- Where the parser cuts a name that it accepts: before and behind the marker. -/
def acceptedParts (fullName : String) : Option (List Char × List Char) :=
  if fullName.toList.take ros2Prefix.length ≠ ros2Prefix then none
  else
    match find nodesMarker fullName.toList with
    | none => none
    | some nodesPos =>
      if fullName.toList.drop (nodesPos + nodesMarker.length) = [] then none
      else some (fullName.toList.take nodesPos,
        fullName.toList.drop (nodesPos + nodesMarker.length))

def splitNode (nodePart : List Char) : NodeName :=
  match findLastOf '/' nodePart with
  | none => ⟨"", String.ofList nodePart⟩
  | some lastSlash => ⟨String.ofList (nodePart.take lastSlash),
      String.ofList (nodePart.drop (lastSlash + 1))⟩

def nodeText (e : NodeName) : List Char :=
  if e.ns ≠ "" then e.ns.toList ++ '/' :: e.name.toList else e.name.toList

def IsContextName (before : List Char) : Prop :=
  IsNumeral (before.drop ros2Prefix.length) ∧
    numeralValue (before.drop ros2Prefix.length) < 2 ^ 32

/-- No slash at the end, and none at the beginning unless another one follows. -/
def IsNodePart (nodePart : List Char) : Prop :=
  nodePart.getLast? ≠ some '/' ∧ (nodePart.head? = some '/' → '/' ∈ nodePart.tail)

/-- The name is rejected, or both of its parts are as the naming of nodes writes them. -/
def WellFormed (fullName : String) : Prop :=
  ∀ parts ∈ acceptedParts fullName, IsContextName parts.1 ∧ IsNodePart parts.2

instance (before : List Char) : Decidable (IsContextName before) := by
  unfold IsContextName
  infer_instance

instance (nodePart : List Char) : Decidable (IsNodePart nodePart) := by
  unfold IsNodePart
  infer_instance

instance (fullName : String) : Decidable (WellFormed fullName) := by
  unfold WellFormed
  infer_instance

/-- The parsed name is that of a node, and the full name is the one such a node has. -/
def Encodes (fullName : String) (e : NodeName) : Prop :=
  e.name ≠ "" ∧ ∃ contextId < 2 ^ 32, Names.node contextId e.name (some e.ns) = fullName

variable {fullName : String} {before nodePart : List Char} {e : NodeName}

theorem parseName_eq (fullName : String) :
    parseName fullName = (acceptedParts fullName).map fun parts ↦ splitNode parts.2 := by
  simp only [parseName, acceptedParts]
  by_cases hstart : fullName.toList.take ros2Prefix.length = ros2Prefix
  · simp only [hstart, ne_eq, not_true_eq_false, if_false]
    cases find nodesMarker fullName.toList with
    | none => rfl
    | some nodesPos =>
      dsimp only
      split
      · rfl
      · rw [Option.map_some, splitNode]
        cases findLastOf '/' (fullName.toList.drop (nodesPos + nodesMarker.length)) <;> rfl
  · simp only [ne_eq, hstart, not_false_eq_true, if_true, Option.map_none]

theorem acceptedParts_some (h : acceptedParts fullName = some (before, nodePart)) :
    fullName.toList = before ++ nodesMarker ++ nodePart ∧ ros2Prefix <+: fullName.toList ∧
      nodePart ≠ [] := by
  simp only [acceptedParts, ne_eq, ite_not] at h
  split at h
  · rename_i hstart
    split at h
    · cases h
    · rename_i nodesPos hfind
      split at h
      · cases h
      · rename_i hpart
        obtain ⟨rfl, rfl⟩ := Prod.mk.inj (Option.some_inj.mp h)
        exact ⟨find_eq_some hfind, List.prefix_iff_eq_take.mpr hstart.symm, hpart⟩
  · cases h

theorem toList_node_text (contextId : ℕ) (e : NodeName) :
    (Names.node contextId e.name (some e.ns)).toList =
      ros2Prefix ++ (toString contextId).toList ++ nodesMarker ++ nodeText e := by
  by_cases hns : e.ns = ""
  · have hnode : Names.node contextId e.name (some e.ns) =
        "ros2://context/" ++ toString contextId ++ "/nodes/" ++ e.name := if_neg (not_not.mpr hns)
    have htext : nodeText e = e.name.toList := if_neg (not_not.mpr hns)
    rw [hnode, htext, String.toList_append, String.toList_append, String.toList_append]
    rfl
  · rw [toList_node hns, nodeText, if_pos hns]

theorem acceptedParts_node {contextId : ℕ} (htext : nodeText e ≠ []) :
    acceptedParts (Names.node contextId e.name (some e.ns)) =
      some (ros2Prefix ++ (toString contextId).toList, nodeText e) := by
  obtain ⟨hstart, hfind, hbefore, hbehind⟩ := cut_at_marker (toList_node_text contextId e)
  simp only [acceptedParts, hstart, ne_eq, not_true_eq_false, if_false, hfind, hbehind, htext,
    hbefore]

theorem isNodePart_of_not_mem (h : '/' ∉ nodePart) : IsNodePart nodePart :=
  ⟨fun hlast ↦ h (List.mem_of_getLast? hlast), fun hhead ↦ absurd (List.mem_of_head? hhead) h⟩

theorem isNodePart_split {ns name : List Char} (h : '/' ∉ name) :
    IsNodePart (ns ++ '/' :: name) ↔ name ≠ [] ∧ ns ≠ [] := by
  have hlast : (ns ++ '/' :: name).getLast? ≠ some '/' ↔ name ≠ [] := by
    cases name with
    | nil => simp
    | cons d name =>
      have hend : (ns ++ '/' :: d :: name).getLast? = (d :: name).getLast? := by
        rw [List.getLast?_append_of_ne_nil _ (List.cons_ne_nil _ _), List.getLast?_cons_cons]
      rw [hend, iff_true_right (List.cons_ne_nil d name)]
      exact fun hlast ↦ h (List.mem_of_getLast? hlast)
  have hfirst : ((ns ++ '/' :: name).head? = some '/' → '/' ∈ (ns ++ '/' :: name).tail) ↔
      ns ≠ [] := by
    cases ns with
    | nil => simpa using h
    | cons d ns => simp
  rw [IsNodePart, hlast, hfirst]

theorem nodeText_splitNode_iff (hpart : nodePart ≠ []) :
    ((splitNode nodePart).name ≠ "" ∧ nodeText (splitNode nodePart) = nodePart) ↔
      IsNodePart nodePart := by
  cases hslash : findLastOf '/' nodePart with
  | none =>
    have hsplit : splitNode nodePart = ⟨"", String.ofList nodePart⟩ := by rw [splitNode, hslash]
    rw [hsplit, iff_true_right (isNodePart_of_not_mem (findLastOf_eq_none hslash))]
    exact ⟨by simpa using hpart, by simp [nodeText]⟩
  | some lastSlash =>
    obtain ⟨hparts, hname⟩ := findLastOf_eq_some hslash
    have hsplit : splitNode nodePart = ⟨String.ofList (nodePart.take lastSlash),
        String.ofList (nodePart.drop (lastSlash + 1))⟩ := by rw [splitNode, hslash]
    generalize nodePart.take lastSlash = ns at hparts hsplit
    generalize nodePart.drop (lastSlash + 1) = name at hparts hname hsplit
    subst hparts
    rw [hsplit, isNodePart_split hname]
    refine and_congr (by simp) ?_
    by_cases hns : ns = []
    · simp [nodeText, hns]
    · simp [nodeText, hns]

theorem isContextName_context {contextId : ℕ} :
    IsContextName (ros2Prefix ++ (toString contextId).toList) ↔ contextId < 2 ^ 32 := by
  rw [IsContextName, List.drop_left, numeralValue_toString]
  exact and_iff_right (isNumeral_toString contextId)

/-- Behind the prefix there is a number, so that the marker does not overlap with the prefix. -/
theorem context_of_isContextName (hcontext : IsContextName before)
    (hstart : ros2Prefix <+: before ++ nodesMarker ++ nodePart) :
    before = ros2Prefix ++
      (toString (numeralValue (before.drop ros2Prefix.length))).toList := by
  have hlong : ros2Prefix.length ≤ before.length := by
    by_contra hshort
    exact hcontext.1.1 (List.drop_eq_nil_of_le (by omega))
  rw [List.append_assoc] at hstart
  obtain ⟨rest, hrest⟩ := List.prefix_of_prefix_length_le hstart
    (List.prefix_append before (nodesMarker ++ nodePart)) hlong
  rw [isNumeral_iff.mp hcontext.1, ← hrest, List.drop_left]

theorem encodes_iff (h : acceptedParts fullName = some (before, nodePart)) :
    Encodes fullName (splitNode nodePart) ↔ IsContextName before ∧ IsNodePart nodePart := by
  obtain ⟨hfull, hstart, hpart⟩ := acceptedParts_some h
  constructor
  · intro hencodes
    obtain ⟨hname, contextId, hid, rfl⟩ := hencodes
    have htext : nodeText (splitNode nodePart) ≠ [] := by
      rw [nodeText]
      split
      · simp
      · simpa using hname
    rw [acceptedParts_node htext] at h
    obtain ⟨rfl, hsame⟩ := Prod.mk.inj (Option.some_inj.mp h)
    exact ⟨isContextName_context.mpr hid, (nodeText_splitNode_iff hpart).mp ⟨hname, hsame⟩⟩
  · intro hparts
    obtain ⟨hcontext, hnode⟩ := hparts
    obtain ⟨hname, htext⟩ := (nodeText_splitNode_iff hpart).mpr hnode
    rw [hfull] at hstart
    refine ⟨hname, _, hcontext.2, String.toList_inj.mp ?_⟩
    rw [toList_node_text, htext, hfull, ← context_of_isContextName hcontext hstart]

theorem accepts_encoded_iff (fullName : String) :
    (∀ e, parseName fullName = some e → Encodes fullName e) ↔ WellFormed fullName := by
  simp only [parseName_eq, Option.map_eq_some_iff, WellFormed, Option.mem_def]
  constructor
  · intro h parts hparts
    exact (encodes_iff hparts).mp (h _ ⟨parts, hparts, rfl⟩)
  · intro h e hparse
    obtain ⟨parts, hparts, rfl⟩ := hparse
    exact (encodes_iff hparts).mpr (h parts hparts)

example : ∀ fullName ∈ ["ros2://context/nodes/a", "ros2://context/07/nodes/a",
    "ros2://context/4294967296/nodes/a", "ros2://context/7/b/nodes/a", "ros2://context/7/nodes//a"],
      ¬ WellFormed fullName := by decide

/-- The parser accepts a name only as that of a node exactly if the name is well formed, and if all
names of living nodes are, then every node reported is one of them under its own name. -/
theorem only_encoded_names_accepted (fullName : String) (nodes : List NodeState) :
    ((∀ e, parseName fullName = some e → Encodes fullName e) ↔ WellFormed fullName) ∧
      ((∀ listed, NodeState.alive (some listed) ∈ nodes → WellFormed listed) →
        ∀ e ∈ nodes.foldl collectNode (.empty _),
          ∃ listed, NodeState.alive (some listed) ∈ nodes ∧ Encodes listed e) := by
  refine ⟨accepts_encoded_iff fullName, fun hnodes e he ↦ ?_⟩
  obtain hempty | ⟨listed, hlisted, hparse⟩ := mem_collectNodes.mp he
  · exact absurd hempty (OrderedSet.not_mem_empty e)
  · exact ⟨listed, hlisted, (accepts_encoded_iff listed).mpr (hnodes listed hlisted) e hparse⟩

def strayName : String := "ros2://context/abc/nodes/talker"

def namelessName : String := "ros2://context/7/nodes/ns/"

/-- Neither the letters nor the empty name keep the parser from accepting. -/
theorem stray_names_accepted :
    (parseName strayName = some ⟨"", "talker"⟩ ∧
        ¬ ∀ e, parseName strayName = some e → Encodes strayName e) ∧
      parseName namelessName = some ⟨"ns", ""⟩ ∧
        ¬ ∀ e, parseName namelessName = some e → Encodes namelessName e := by
  rw [accepts_encoded_iff, accepts_encoded_iff]
  decide

end RmwIceoryx2.Rmw.NodeName
