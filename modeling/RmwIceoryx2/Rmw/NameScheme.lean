import RmwIceoryx2.Rmw.Graph
import RmwIceoryx2.Rmw.NodeNameGrammar

namespace RmwIceoryx2.Rmw

open RmwIceoryx2.Common RmwIceoryx2.Library.Separator

inductive NamedEntity
  | context (contextId : ℕ)
  | node (contextId : ℕ) (e : NodeName)
  | guardCondition (contextId guardConditionId : ℕ)
  | topic (text : String)
  deriving DecidableEq, Repr

namespace NamedEntity

def iceoryxName : NamedEntity → String
  | context contextId => Names.context contextId
  | node contextId e => Names.node contextId e.name (some e.ns)
  | guardCondition contextId guardConditionId => Names.guardCondition contextId guardConditionId
  | topic text => Names.topic text

/-- A node has a name, which has no slash in it, and a topic is not empty. -/
def Proper : NamedEntity → Prop
  | node _ e => e.name ≠ "" ∧ '/' ∉ e.name.toList
  | topic text => text ≠ ""
  | _ => True

instance : DecidablePred Proper := fun entity ↦ by
  cases entity <;> unfold Proper <;> infer_instance

def nodeName : NamedEntity → Option NodeName
  | node _ e => some e
  | _ => none

def topicName : NamedEntity → Option String
  | topic text => some text
  | _ => none

/-- The context that an entity belongs to, with what its name says behind the number of it. -/
def inContext : NamedEntity → Option (ℕ × List Char)
  | context contextId => some (contextId, [])
  | node contextId e => some (contextId, NodeName.nodesMarker ++ NodeName.nodeText e)
  | guardCondition contextId guardConditionId =>
    some (contextId, "/guard_conditions/".toList ++ (toString guardConditionId).toList)
  | topic _ => none

end NamedEntity

namespace NodeName

variable {e e' : NodeName}

theorem splitNode_nodeText (hslash : '/' ∉ e.name.toList) : splitNode (nodeText e) = e := by
  by_cases hns : e.ns = ""
  · rw [nodeText, if_neg (not_not.mpr hns), splitNode, findLastOf_none hslash, String.ofList_toList,
      ← hns]
  · have hrest : (e.ns.toList ++ '/' :: e.name.toList).drop (e.ns.toList.length + 1) =
        e.name.toList := by
      rw [← List.drop_drop, List.drop_left, List.drop_one, List.tail_cons]
    rw [nodeText, if_pos hns, splitNode, findLastOf_last hslash]
    simp only [List.take_left, hrest, String.ofList_toList]

theorem nodeText_ne_nil (hname : e.name ≠ "") : nodeText e ≠ [] := by
  rw [nodeText]
  split
  · simp
  · simpa using hname

theorem nodeText_inj (hslash : '/' ∉ e.name.toList) (hslash' : '/' ∉ e'.name.toList)
    (h : nodeText e = nodeText e') : e = e' := by
  rw [← splitNode_nodeText hslash, h, splitNode_nodeText hslash']

end NodeName

namespace NamedEntity

variable {entity entity' : NamedEntity} {contextId : ℕ} {rest : List Char}

theorem toList_iceoryxName (h : entity.inContext = some (contextId, rest)) :
    entity.iceoryxName.toList = NodeName.ros2Prefix ++ (toString contextId).toList ++ rest := by
  cases entity with
  | context id =>
    cases h
    rw [List.append_nil]
    exact NodeName.toList_context contextId
  | node id e =>
    cases h
    rw [iceoryxName, NodeName.toList_node_text, List.append_assoc]
  | guardCondition id guardConditionId =>
    cases h
    have hname : (guardCondition contextId guardConditionId).iceoryxName =
        "ros2://context/" ++ toString contextId ++ "/guard_conditions/" ++
          toString guardConditionId := rfl
    rw [hname, String.toList_append, String.toList_append, String.toList_append, List.append_assoc]
    rfl
  | topic text => cases h

theorem head_of_inContext (h : entity.inContext = some (contextId, rest)) :
    ∀ d ∈ rest.head?, d = '/' := by
  cases entity with
  | context id =>
    cases h
    intro d hd
    cases hd
  | node id e =>
    cases h
    rintro d ⟨⟩
    rfl
  | guardCondition id guardConditionId =>
    cases h
    rintro d ⟨⟩
    rfl
  | topic text => cases h

theorem nodeRest_ne_guardConditionRest (text digits : List Char) :
    NodeName.nodesMarker ++ text ≠ "/guard_conditions/".toList ++ digits := by
  rw [NodeName.nodesMarker_eq]
  simp

theorem inContext_inj (hproper : entity.Proper) (hproper' : entity'.Proper)
    (h : entity.inContext = some (contextId, rest))
    (h' : entity'.inContext = some (contextId, rest)) : entity = entity' := by
  cases entity with
  | context id =>
    obtain ⟨rfl, rfl⟩ := Prod.mk.inj (Option.some_inj.mp h)
    cases entity' with
    | context id' =>
      rw [(Prod.mk.inj (Option.some_inj.mp h')).1]
    | node id' e' => simpa [NodeName.nodesMarker_eq] using (Prod.mk.inj (Option.some_inj.mp h')).2
    | guardCondition id' number' => simpa using (Prod.mk.inj (Option.some_inj.mp h')).2
    | topic text' => cases h'
  | node id e =>
    obtain ⟨rfl, rfl⟩ := Prod.mk.inj (Option.some_inj.mp h)
    cases entity' with
    | context id' =>
      simpa [NodeName.nodesMarker_eq] using (Prod.mk.inj (Option.some_inj.mp h')).2
    | node id' e' =>
      obtain ⟨hid, hrest⟩ := Prod.mk.inj (Option.some_inj.mp h')
      rw [hid, NodeName.nodeText_inj hproper'.2 hproper.2 (List.append_cancel_left hrest)]
    | guardCondition id' number' =>
      exact absurd (Prod.mk.inj (Option.some_inj.mp h')).2.symm
        (nodeRest_ne_guardConditionRest _ _)
    | topic text' => cases h'
  | guardCondition id number =>
    obtain ⟨rfl, rfl⟩ := Prod.mk.inj (Option.some_inj.mp h)
    cases entity' with
    | context id' => simpa using (Prod.mk.inj (Option.some_inj.mp h')).2
    | node id' e' =>
      exact absurd (Prod.mk.inj (Option.some_inj.mp h')).2 (nodeRest_ne_guardConditionRest _ _)
    | guardCondition id' number' =>
      obtain ⟨hid, hrest⟩ := Prod.mk.inj (Option.some_inj.mp h')
      rw [hid, toString_nat_inj (List.append_cancel_left hrest)]
    | topic text' => cases h'
  | topic text => cases h

theorem topic_not_inContext (text : String) :
    ¬ NodeName.ros2Prefix <+: (Names.topic text).toList := by
  rw [TopicDetails.toList_topic]
  intro h
  obtain ⟨rest, hrest⟩ := h
  -- both begin with "ros2://", and the characters behind it differ
  have hnext : NodeName.ros2Prefix[7]? ≠ TopicDetails.ros2Prefix[7]? := by decide
  have hsame := congrArg (·[7]?) hrest
  rw [List.getElem?_append_left (by decide), List.getElem?_append_left (by decide)] at hsame
  exact hnext hsame

theorem inContext_eq_none (h : entity.inContext = none) : ∃ text, entity = topic text := by
  cases entity with
  | context id => cases h
  | node id e => cases h
  | guardCondition id number => cases h
  | topic text => exact ⟨text, rfl⟩

theorem prefix_of_inContext (h : entity.inContext = some (contextId, rest)) :
    NodeName.ros2Prefix <+: entity.iceoryxName.toList := by
  rw [toList_iceoryxName h, List.append_assoc]
  exact List.prefix_append _ _

theorem iceoryxName_inj (hproper : entity.Proper) (hproper' : entity'.Proper)
    (h : entity.iceoryxName = entity'.iceoryxName) : entity = entity' := by
  cases hin : entity.inContext with
  | none =>
    obtain ⟨text, rfl⟩ := inContext_eq_none hin
    cases hin' : entity'.inContext with
    | none =>
      obtain ⟨text', rfl⟩ := inContext_eq_none hin'
      rw [Names.topic_injective h]
    | some cut' =>
      have hstart := prefix_of_inContext hin'
      rw [← h] at hstart
      exact absurd hstart (topic_not_inContext text)
  | some cut =>
    obtain ⟨contextId, rest⟩ := cut
    cases hin' : entity'.inContext with
    | none =>
      obtain ⟨text', rfl⟩ := inContext_eq_none hin'
      have hstart := prefix_of_inContext hin
      rw [h] at hstart
      exact absurd hstart (topic_not_inContext text')
    | some cut' =>
      obtain ⟨contextId', rest'⟩ := cut'
      have hchars := congrArg String.toList h
      rw [toList_iceoryxName hin, toList_iceoryxName hin', List.append_assoc, List.append_assoc]
        at hchars
      obtain ⟨hdigits, rfl⟩ := eq_of_cut (slash_not_mem_toString contextId)
        (slash_not_mem_toString contextId') (head_of_inContext hin) (head_of_inContext hin')
        (List.append_cancel_left hchars)
      obtain rfl := toString_nat_inj hdigits
      exact inContext_inj hproper hproper' hin hin'

theorem parseName_node_text (contextId : ℕ) {e : NodeName} (hname : e.name ≠ "")
    (hslash : '/' ∉ e.name.toList) :
    NodeName.parseName (Names.node contextId e.name (some e.ns)) = some e := by
  rw [NodeName.parseName_eq, NodeName.acceptedParts_node (NodeName.nodeText_ne_nil hname),
    Option.map_some, NodeName.splitNode_nodeText hslash]

theorem parseName_guardCondition (contextId guardConditionId : ℕ) :
    NodeName.parseName (Names.guardCondition contextId guardConditionId) = none := by
  have hchars : (Names.guardCondition contextId guardConditionId).toList =
      NodeName.ros2Prefix ++ (toString contextId).toList ++
        ("/guard_conditions/".toList ++ (toString guardConditionId).toList) :=
    (toList_iceoryxName (rfl : (guardCondition contextId guardConditionId).inContext = some _))
  have hbehind : Apart '/' 'n'
      ("/guard_conditions/".toList ++ (toString guardConditionId).toList) :=
    apart_append (by decide) fun hmem ↦ absurd (isDigit_of_mem_toString hmem) (by decide)
  have hfind : find NodeName.nodesMarker (Names.guardCondition contextId guardConditionId).toList =
      none := by
    rw [hchars, NodeName.nodesMarker_eq]
    refine find_none (List.isChain_append.mpr ⟨NodeName.context_apart contextId, hbehind, ?_⟩)
    rintro d - e ⟨⟩ hmarker
    exact absurd hmarker.2 (by decide)
  have htake : (Names.guardCondition contextId guardConditionId).toList.take
      NodeName.ros2Prefix.length = NodeName.ros2Prefix := by
    rw [hchars, List.append_assoc, List.take_left]
  simp only [NodeName.parseName, htake, ne_eq, not_true_eq_false, if_false, hfind]

theorem parseName_iceoryxName (hproper : entity.Proper) :
    NodeName.parseName entity.iceoryxName = entity.nodeName := by
  cases entity with
  | context id => exact NodeName.parseName_context id
  | node id e => exact parseName_node_text id hproper.1 hproper.2
  | guardCondition id number => exact parseName_guardCondition id number
  | topic text => exact NodeName.parseName_foreign (topic_not_inContext text)

theorem parseTopicName_iceoryxName (hproper : entity.Proper) :
    TopicDetails.parseTopicName entity.iceoryxName = entity.topicName := by
  cases hin : entity.inContext with
  | none =>
    obtain ⟨text, rfl⟩ := inContext_eq_none hin
    exact TopicDetails.parseTopicName_eq_some.mpr ⟨hproper, rfl⟩
  | some cut =>
    have hnone : entity.topicName = none := by
      cases entity with
      | topic text => cases hin
      | _ => rfl
    rw [hnone, Option.eq_none_iff_forall_ne_some]
    intro text htext
    obtain ⟨-, hname⟩ := TopicDetails.parseTopicName_eq_some.mp htext
    have hstart := prefix_of_inContext (show entity.inContext = some (cut.1, cut.2) from hin)
    rw [hname] at hstart
    exact topic_not_inContext text hstart

end NamedEntity

/-- The names of contexts, nodes, guard conditions and topics are all different, and the parsers of
the graph queries take back exactly the names of nodes and of topics. -/
theorem names_tell_apart (entity entity' : NamedEntity) (hproper : entity.Proper)
    (hproper' : entity'.Proper) :
    (entity.iceoryxName = entity'.iceoryxName ↔ entity = entity') ∧
      NodeName.parseName entity.iceoryxName = entity.nodeName ∧
      TopicDetails.parseTopicName entity.iceoryxName = entity.topicName := by
  refine ⟨⟨NamedEntity.iceoryxName_inj hproper hproper', fun h ↦ by rw [h]⟩, ?_, ?_⟩
  · exact NamedEntity.parseName_iceoryxName hproper
  · exact NamedEntity.parseTopicName_iceoryxName hproper

/-- A node in a namespace with a component "guard_conditions", and a guard condition. -/
theorem names_tell_apart_nested :
    let node := NamedEntity.node 7 ⟨"/guard_conditions", "3"⟩
    (node.iceoryxName = (NamedEntity.guardCondition 7 3).iceoryxName ↔
        node = .guardCondition 7 3) ∧
      NodeName.parseName node.iceoryxName = some ⟨"/guard_conditions", "3"⟩ ∧
      TopicDetails.parseTopicName node.iceoryxName = none :=
  names_tell_apart (.node 7 ⟨"/guard_conditions", "3"⟩) (.guardCondition 7 3) (by decide)
    (by decide)

end RmwIceoryx2.Rmw
