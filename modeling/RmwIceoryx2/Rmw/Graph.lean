import RmwIceoryx2.Common.Error
import RmwIceoryx2.Common.Names
import RmwIceoryx2.Library.OrderedSet

namespace RmwIceoryx2.Rmw

open RmwIceoryx2.Common RmwIceoryx2.Library

inductive MessagingPattern
  | publishSubscribe | event | requestResponse
  deriving DecidableEq, Repr

structure StaticConfig where
  name : String
  messagingPattern : MessagingPattern
  deriving DecidableEq, Repr

/-- The answer of iceoryx2 when services are listed: those handed to the callback, and the result. -/
structure ServiceListing where
  services : List StaticConfig
  result : Except String Unit

structure TopicDetails where
  topic : String
  type : String
  deriving DecidableEq, Repr

namespace TopicDetails

def Lt (a b : TopicDetails) : Prop :=
  if a.topic ≠ b.topic then a.topic < b.topic else a.type < b.type

instance : DecidableRel Lt := fun a b ↦ by unfold Lt; infer_instance

theorem lt_iff {a b : TopicDetails} :
    Lt a b ↔ a.topic < b.topic ∨ (a.topic = b.topic ∧ a.type < b.type) :=
  lexicographic_iff

instance : IsStrictTotalOrder TopicDetails Lt :=
  lexicographic_isStrictTotalOrder fun a b htopic htype ↦ by
    cases a
    cases b
    cases htopic
    cases htype
    rfl

def ros2Prefix : List Char := "ros2://topics".toList

def parseTopicName (fullName : String) : Option String :=
  let fullView := fullName.toList
  if fullView.take ros2Prefix.length ≠ ros2Prefix then none
  else
    let topicPart := fullView.drop ros2Prefix.length
    if topicPart = [] then none else some (String.ofList topicPart)

theorem toList_topic (topic : String) : (Names.topic topic).toList = ros2Prefix ++ topic.toList :=
  String.toList_append

theorem parseTopicName_eq_some {fullName topic : String} :
    parseTopicName fullName = some topic ↔ topic ≠ "" ∧ fullName = Names.topic topic := by
  constructor
  · intro h
    simp only [parseTopicName, ne_eq, ite_not] at h
    split at h
    · rename_i hstart
      split at h
      · cases h
      · rename_i hpart
        obtain rfl := Option.some_inj.mp h
        refine ⟨fun hempty ↦ hpart (by simpa using hempty), String.toList_inj.mp ?_⟩
        rw [toList_topic, String.toList_ofList]
        calc fullName.toList
            = fullName.toList.take ros2Prefix.length ++ fullName.toList.drop ros2Prefix.length :=
              (List.take_append_drop _ _).symm
          _ = ros2Prefix ++ fullName.toList.drop ros2Prefix.length := by rw [hstart]
    · cases h
  · intro h
    obtain ⟨hne, rfl⟩ := h
    have hpart : topic.toList ≠ [] := by simpa using hne
    simp [parseTopicName, toList_topic, hpart]

end TopicDetails

inductive Fatal
  | emptyOptional
  deriving DecidableEq, Repr

abbrev Topics := OrderedSet TopicDetails.Lt

def collectTopic (predicate : StaticConfig → Bool) (topics : Topics) (service : StaticConfig) :
    Except Fatal Topics :=
  if predicate service then
    match TopicDetails.parseTopicName service.name with
    | none => .error .emptyOptional
    | some topic => .ok (topics.emplace ⟨topic, ""⟩)
  else .ok topics

def collectTopicNamesAndTypes (listing : ServiceListing) (topics : Topics)
    (predicate : StaticConfig → Bool) : Except Fatal (RmwRet × Topics) := do
  let topics ← listing.services.foldlM (collectTopic predicate) topics
  match listing.result with
  | .ok () => return (.ok, topics)
  | .error _ => return (.error, topics)

def isPublishSubscribe (serviceDetails : StaticConfig) : Bool :=
  serviceDetails.messagingPattern = .publishSubscribe

section Collect

variable {predicate : StaticConfig → Bool} {services : List StaticConfig} {topics topics' : Topics}

theorem collectTopic_eq_ok {service : StaticConfig} :
    collectTopic predicate topics service = .ok topics' ↔
      (predicate service = false ∧ topics' = topics) ∨ (predicate service = true ∧
        ∃ topic, TopicDetails.parseTopicName service.name = some topic ∧
          topics' = topics.emplace ⟨topic, ""⟩) := by
  cases hpred : predicate service with
  | false => simp [collectTopic, hpred, eq_comm]
  | true =>
    cases hparse : TopicDetails.parseTopicName service.name <;>
      simp [collectTopic, hpred, hparse, eq_comm]

theorem collect_isOk_iff :
    (∃ topics', services.foldlM (collectTopic predicate) topics = .ok topics') ↔
      ∀ service ∈ services, predicate service = true →
        ∃ topic, TopicDetails.parseTopicName service.name = some topic := by
  induction services generalizing topics with
  | nil => simp [pure, Except.pure]
  | cons service services ih =>
    simp only [List.foldlM_cons, bind_eq_ok, List.forall_mem_cons]
    constructor
    · intro h
      obtain ⟨topics', middle, hstep, hrest⟩ := h
      refine ⟨fun hpred ↦ ?_, ih.mp ⟨topics', hrest⟩⟩
      rcases collectTopic_eq_ok.mp hstep with ⟨hno, -⟩ | ⟨-, topic, hparse, -⟩
      · rw [hpred] at hno
        cases hno
      · exact ⟨topic, hparse⟩
    · intro h
      obtain ⟨hfirst, hrest⟩ := h
      have hstep : ∃ middle, collectTopic predicate topics service = .ok middle := by
        cases hpred : predicate service with
        | false => exact ⟨topics, collectTopic_eq_ok.mpr (Or.inl ⟨hpred, rfl⟩)⟩
        | true =>
          obtain ⟨topic, hparse⟩ := hfirst hpred
          exact ⟨_, collectTopic_eq_ok.mpr (Or.inr ⟨hpred, topic, hparse, rfl⟩)⟩
      obtain ⟨middle, hmiddle⟩ := hstep
      obtain ⟨topics', htopics'⟩ := (@ih middle).mpr hrest
      exact ⟨topics', middle, hmiddle, htopics'⟩

theorem mem_collect (h : services.foldlM (collectTopic predicate) topics = .ok topics')
    {d : TopicDetails} : d ∈ topics' ↔ d ∈ topics ∨ ∃ service ∈ services,
      predicate service = true ∧ ∃ topic, TopicDetails.parseTopicName service.name = some topic ∧
        d = ⟨topic, ""⟩ := by
  induction services generalizing topics with
  | nil =>
    obtain rfl : topics = topics' := by simpa [pure, Except.pure] using h
    simp
  | cons service services ih =>
    simp only [List.foldlM_cons, bind_eq_ok] at h
    obtain ⟨middle, hstep, hrest⟩ := h
    rw [ih hrest]
    simp only [List.exists_mem_cons_iff]
    rcases collectTopic_eq_ok.mp hstep with ⟨hno, rfl⟩ | ⟨hpred, topic, hparse, rfl⟩
    · simp [hno]
    · rw [OrderedSet.mem_emplace]
      simp only [hpred, hparse, Option.some_inj, true_and, exists_eq_left']
      rw [or_assoc]
      exact or_left_comm

def topicNames (topics : Topics) : List String := topics.toList.map (·.topic)

theorem mem_topicNames
    (h : services.foldlM (collectTopic predicate) (.empty _) = .ok topics) {topic : String} :
    topic ∈ topicNames topics ↔ ∃ service ∈ services, predicate service = true ∧
      TopicDetails.parseTopicName service.name = some topic := by
  simp only [topicNames, List.mem_map, ← OrderedSet.mem_def, mem_collect h,
    OrderedSet.not_mem_empty, false_or]
  constructor
  · intro h
    obtain ⟨d, ⟨service, hservice, hpred, topic', hparse, rfl⟩, rfl⟩ := h
    exact ⟨service, hservice, hpred, hparse⟩
  · intro h
    obtain ⟨service, hservice, hpred, hparse⟩ := h
    exact ⟨⟨topic, ""⟩, ⟨service, hservice, hpred, topic, hparse, rfl⟩, rfl⟩

/-- All types are collected as the empty text, so that the topics are ordered by their names. -/
theorem topicNames_sorted
    (h : services.foldlM (collectTopic predicate) (.empty _) = .ok topics) :
    (topicNames topics).Pairwise (· < ·) := by
  have htype : ∀ d ∈ topics.toList, d.type = "" := by
    intro d hd
    rw [← OrderedSet.mem_def, mem_collect h] at hd
    rcases hd with hd | ⟨_, -, -, topic, -, rfl⟩
    · exact absurd hd (OrderedSet.not_mem_empty d)
    · rfl
  rw [topicNames, List.pairwise_map]
  refine topics.sorted.imp_of_mem fun {a b} ha hb hab ↦ ?_
  rcases TopicDetails.lt_iff.mp hab with hab | ⟨-, hab⟩
  · exact hab
  · rw [htype a ha, htype b hb] at hab
    exact absurd hab (lt_irrefl _)

end Collect

/-- Listing these services does not end the process, and if it succeeds the names are those of the
topics with a publish-subscribe service, in order and without repetition. -/
def TopicsExact (services : List StaticConfig) : Prop :=
  ∀ result, ∃ ret topics,
    collectTopicNamesAndTypes ⟨services, result⟩ (.empty _) isPublishSubscribe = .ok (ret, topics) ∧
      (ret = .ok → (topicNames topics).Pairwise (· < ·) ∧
        ∀ topic, topic ∈ topicNames topics ↔ topic ≠ "" ∧ ∃ service ∈ services,
          service.messagingPattern = .publishSubscribe ∧ service.name = Names.topic topic)

theorem collected {services : List StaticConfig} {result : Except String Unit} {ret : RmwRet}
    {predicate : StaticConfig → Bool} {topics topics' : Topics} :
    collectTopicNamesAndTypes ⟨services, result⟩ topics predicate = .ok (ret, topics') ↔
      services.foldlM (collectTopic predicate) topics = .ok topics' ∧
        ret = match result with | .ok _ => .ok | .error _ => .error := by
  simp only [collectTopicNamesAndTypes, bind_eq_ok]
  cases result <;> simp [pure, Except.pure, eq_comm, and_comm]

/-- The listing is exact exactly if every publish-subscribe service is named like a topic. -/
theorem topics_exact_iff (services : List StaticConfig) :
    TopicsExact services ↔ ∀ service ∈ services,
      service.messagingPattern = .publishSubscribe →
        ∃ topic, topic ≠ "" ∧ service.name = Names.topic topic := by
  have hparsed : (∀ service ∈ services, service.messagingPattern = .publishSubscribe →
      ∃ topic, topic ≠ "" ∧ service.name = Names.topic topic) ↔
        ∃ topics, services.foldlM (collectTopic isPublishSubscribe) (.empty _) = .ok topics := by
    simp only [collect_isOk_iff, isPublishSubscribe, decide_eq_true_eq,
      TopicDetails.parseTopicName_eq_some]
  rw [hparsed]
  constructor
  · intro h
    obtain ⟨ret, topics, hcollect, -⟩ := h (.ok ())
    exact ⟨topics, (collected.mp hcollect).1⟩
  · intro h result
    obtain ⟨topics, hcollect⟩ := h
    refine ⟨_, topics, collected.mpr ⟨hcollect, rfl⟩, fun _ ↦ ⟨topicNames_sorted hcollect, ?_⟩⟩
    intro topic
    rw [mem_topicNames hcollect]
    simp only [isPublishSubscribe, decide_eq_true_eq, TopicDetails.parseTopicName_eq_some]
    constructor
    · intro h
      obtain ⟨service, hservice, hpattern, hne, hname⟩ := h
      exact ⟨hne, service, hservice, hpattern, hname⟩
    · intro h
      obtain ⟨hne, service, hservice, hpattern, hname⟩ := h
      exact ⟨service, hservice, hpattern, hne, hname⟩

def foreignService : StaticConfig := ⟨"My/Funk/ServiceName", .publishSubscribe⟩

theorem foreign_service_is_fatal : ¬ TopicsExact [foreignService] := by
  intro h
  obtain ⟨ret, topics, hcollect, -⟩ := h (.ok ())
  have hfatal : collectTopicNamesAndTypes ⟨[foreignService], .ok ()⟩ (.empty _) isPublishSubscribe =
      .error .emptyOptional := rfl
  rw [hfatal] at hcollect
  cases hcollect

end RmwIceoryx2.Rmw
