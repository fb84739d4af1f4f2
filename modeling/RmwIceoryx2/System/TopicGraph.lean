import RmwIceoryx2.Rmw.NodeNames
import RmwIceoryx2.System.CountingQueries

namespace RmwIceoryx2.System.CountingQueries

open RmwIceoryx2.Common RmwIceoryx2.Runtime RmwIceoryx2.Message RmwIceoryx2.Rmw
open RmwIceoryx2.Library RmwIceoryx2.Library.Execution

variable {M : Type}

/-- The call asks for this service on behalf of the holder, and is served. -/
def Opens (rules : ServiceRules) (holder : ServiceHolder) (name : String) (g : Graph)
    (op : Op M) : Prop :=
  ∃ builder, op.step = some (.openOrCreate holder name builder) ∧
    (g.services.openOrCreate rules.terms holder name builder).isSome = true

def Releases (holder : ServiceHolder) (_ : Graph) (op : Op M) : Prop :=
  op.step = some (.release holder)

/-- Somebody has opened the service in the run and holds it since. -/
def HeldAfter (rules : ServiceRules) (ops : List (Op M)) (name : String) : Prop :=
  ∃ holder, Since (exec rules) (Opens rules holder name) (Releases holder) .initial ops

def ListsServices (g : Graph) (listing : ServiceListing) : Prop :=
  ∀ service : StaticConfig, service.messagingPattern = .publishSubscribe →
    (service ∈ listing.services ↔ g.services.Exists service.name)

variable {rules : ServiceRules} {g : Graph} {op : Op M} {ops : List (Op M)} {name : String}
  {holder : ServiceHolder}

theorem holds_exec_iff : (exec rules g op).services.Holds holder name ↔
    Opens rules holder name g op ∨ (g.services.Holds holder name ∧ ¬ Releases holder g op) := by
  rw [exec_services, Opens, Releases]
  cases op.step with
  | none => simp
  | some step =>
    rw [Resources.holds_exec]
    simp only [Option.some_inj, ne_eq]

theorem not_holds_initial : ¬ Graph.initial.services.Holds holder name := by
  intro h
  obtain ⟨e, he, -⟩ := h
  exact absurd he List.not_mem_nil

/-- A service exists while somebody holds it who has opened it. -/
theorem exists_run_iff :
    (run (exec rules) .initial ops).services.Exists name ↔ HeldAfter rules ops name := by
  rw [Resources.exists_iff_holds]
  refine exists_congr fun holder ↦ ?_
  have hall : Admissible (exec rules) (fun _ _ ↦ True) .initial ops :=
    admissible_of_forall _ fun _ _ _ ↦ trivial
  exact since_iff (I := fun _ ↦ True) (P := fun g ↦ g.services.Holds holder name)
    (fun _ _ _ _ ↦ trivial) (fun _ _ _ _ ↦ holds_exec_iff) trivial not_holds_initial hall

section Names

theorem countedService_named {env : EndpointAnswers} {mw : CountAnswers}
    {rmwNode : Option RmwNode} {topicName : Option String} {count : Option ℕ}
    (h : countedService env mw rmwNode topicName count = .ok name) :
    ∃ topic, name = Names.topic topic := by
  simp only [countedService, bind_eq_ok, Prod.exists] at h
  obtain ⟨node, topic, -, _, -, h⟩ := h
  split at h
  · cases h
  · exact ⟨topic, (Except.ok.inj h).symm⟩

theorem queriedService_named {env : EndpointAnswers} {mw : CountAnswers}
    {rmwNode : Option RmwNode} {topicName : Option String} {count : Option ℕ}
    (h : queriedService env mw rmwNode topicName count = some name) :
    ∃ topic, name = Names.topic topic := by
  obtain ⟨hcounted, -⟩ := Option.filter_eq_some_iff.mp h
  cases hservice : countedService env mw rmwNode topicName count with
  | error f =>
    rw [hservice] at hcounted
    cases hcounted
  | ok name' =>
    rw [hservice] at hcounted
    cases hcounted
    exact countedService_named hservice

theorem endpointService_named {checked : Except (Failure Unit) (RmwNode × TypeSupport M × String)}
    {allocate : RmwNode → Except (Failure Unit) Unit} {serviceName : String → Except String Unit}
    {refusal : String → Except String Unit}
    (h : granted refusal (endpointService checked allocate serviceName) = some name) :
    ∃ topic, name = Names.topic topic := by
  obtain ⟨hservice, -⟩ := Option.filter_eq_some_iff.mp h
  obtain ⟨node, typeSupport, topic, -, -, -, rfl⟩ := endpointService_eq_some.mp hservice
  exact ⟨topic, rfl⟩

theorem opens_named (h : Opens rules holder name g op) : ∃ topic, name = Names.topic topic := by
  obtain ⟨builder, hstep, -⟩ := h
  cases op with
  | countPublishers call env mw rmwNode topicName count =>
    obtain ⟨name', hname, hstep⟩ := Option.map_eq_some_iff.mp hstep
    obtain ⟨-, rfl, -⟩ := Resources.Step.openOrCreate.inj hstep
    exact queriedService_named hname
  | countSubscribers call env mw rmwNode topicName count =>
    obtain ⟨name', hname, hstep⟩ := Option.map_eq_some_iff.mp hstep
    obtain ⟨-, rfl, -⟩ := Resources.Step.openOrCreate.inj hstep
    exact queriedService_named hname
  | createPublisher call env mw rmwNode typeSupport topicName qos options =>
    obtain ⟨name', hname, hstep⟩ := Option.map_eq_some_iff.mp hstep
    obtain ⟨-, rfl, -⟩ := Resources.Step.openOrCreate.inj hstep
    exact endpointService_named hname
  | createSubscription call env mw rmwNode typeSupport topicName qos options =>
    obtain ⟨name', hname, hstep⟩ := Option.map_eq_some_iff.mp hstep
    obtain ⟨-, rfl, -⟩ := Resources.Step.openOrCreate.inj hstep
    exact endpointService_named hname
  | release holder => cases hstep

theorem named_of_held (h : HeldAfter rules ops name) : ∃ topic, name = Names.topic topic := by
  obtain ⟨holder, pre, op, post, -, hopens, -⟩ := h
  exact opens_named hopens

end Names

section Listing

variable {listing : ServiceListing}

theorem listed_iff (hlists : ListsServices (run (exec rules) .initial ops) listing) :
    (∃ service ∈ listing.services, isPublishSubscribe service = true ∧ service.name = name) ↔
      HeldAfter rules ops name := by
  rw [← exists_run_iff]
  simp only [isPublishSubscribe, decide_eq_true_eq]
  constructor
  · intro h
    obtain ⟨service, hservice, hpattern, rfl⟩ := h
    exact (hlists service hpattern).mp hservice
  · intro h
    exact ⟨⟨name, .publishSubscribe⟩, (hlists ⟨name, .publishSubscribe⟩ rfl).mpr h, rfl, rfl⟩

theorem collected_iff (hlists : ListsServices (run (exec rules) .initial ops) listing)
    {ret : RmwRet} {topics : Topics}
    (h : collectTopicNamesAndTypes listing (.empty _) isPublishSubscribe = .ok (ret, topics))
    (topic : String) : topic ∈ topicNames topics ↔
      topic ≠ "" ∧ HeldAfter rules ops (Names.topic topic) := by
  rw [mem_topicNames (collected.mp h).1, ← listed_iff hlists]
  simp only [TopicDetails.parseTopicName_eq_some]
  constructor
  · intro h
    obtain ⟨service, hservice, hpattern, hne, hname⟩ := h
    exact ⟨hne, service, hservice, hpattern, hname⟩
  · intro h
    obtain ⟨hne, service, hservice, hpattern, hname⟩ := h
    exact ⟨service, hservice, hpattern, hne, hname⟩

/-- The collection ends the process exactly if the service of the empty topic is held. -/
theorem collect_isOk_iff_held (hlists : ListsServices (run (exec rules) .initial ops) listing) :
    (∃ r, collectTopicNamesAndTypes listing (.empty _) isPublishSubscribe = .ok r) ↔
      ¬ HeldAfter rules ops (Names.topic "") := by
  have hcollects : (∃ r,
      collectTopicNamesAndTypes listing (.empty _) isPublishSubscribe = .ok r) ↔
        ∃ topics, listing.services.foldlM (collectTopic isPublishSubscribe) (.empty _) =
          .ok topics := by
    constructor
    · intro h
      obtain ⟨⟨ret, topics⟩, h⟩ := h
      exact ⟨topics, (collected.mp h).1⟩
    · intro h
      obtain ⟨topics, h⟩ := h
      exact ⟨_, collected.mpr ⟨h, rfl⟩⟩
  rw [hcollects, collect_isOk_iff, ← listed_iff hlists]
  simp only [TopicDetails.parseTopicName_eq_some]
  constructor
  · intro hall hempty
    obtain ⟨service, hservice, hpattern, hname⟩ := hempty
    obtain ⟨topic, hne, hname'⟩ := hall service hservice hpattern
    exact hne (Names.topic_injective (hname'.symm.trans hname))
  · intro hempty service hservice hpattern
    have hheld := (listed_iff hlists).mp ⟨service, hservice, hpattern, rfl⟩
    obtain ⟨topic, hname⟩ := named_of_held hheld
    refine ⟨topic, fun htopic ↦ hempty ⟨service, hservice, hpattern, ?_⟩, hname⟩
    rw [hname, htopic]

variable {rc : Rcutils} {rmwNode : Option RmwNode} {allocator : Option Allocator}
  {given : Option NamesAndTypes}

theorem fatal_collect {fatal : Fatal}
    (h : rmwGetTopicNamesAndTypes rc listing rmwNode allocator given = .error (.fatal fatal)) :
    collectTopicNamesAndTypes listing (.empty _) isPublishSubscribe = .error fatal := by
  simp only [rmwGetTopicNamesAndTypes] at h
  split at h
  · cases h
  split at h
  · cases h
  split at h
  · cases h
  split at h
  · rename_i fatal' hcollect
    obtain rfl := Crash.fatal.inj (Except.error.inj h)
    exact hcollect
  · rename_i topics _
    cases hlist : listTopics rc topics.toList _ _ with
    | error fault =>
      rw [hlist] at h
      cases h
    | ok r =>
      rw [hlist] at h
      cases h
  · cases h

end Listing

/-- At any point of any run of creations, queries and releases, in any number of processes: a
successful `rmw_get_topic_names_and_types` lists, in order and each once, the topics whose service
somebody has opened and holds since, be it an endpoint or a query that has not returned. The call
ends the process only if the service of the empty topic is held, and then it never succeeds. -/
theorem topics_listed_while_held {rc : Rcutils} (hrc : rc.Documented) {ops : List (Op M)}
    {listing : ServiceListing} (hlists : ListsServices (run (exec rules) .initial ops) listing)
    (rmwNode : Option RmwNode) (allocator : Option Allocator) (given : Option NamesAndTypes) :
    (∀ fatal, rmwGetTopicNamesAndTypes rc listing rmwNode allocator given = .error (.fatal fatal) →
      HeldAfter rules ops (Names.topic "")) ∧
    ∀ r, rmwGetTopicNamesAndTypes rc listing rmwNode allocator given = .ok r → r.ret = .ok →
      ¬ HeldAfter rules ops (Names.topic "") ∧
      ∃ out, ∃ topics : List String, r.topicNamesAndTypes = some out ∧ topics.Pairwise (· < ·) ∧
        (out.names.size = topics.length ∧ out.names.entries = topics.map some) ∧
          ∀ topic, topic ∈ topics ↔ HeldAfter rules ops (Names.topic topic) := by
  refine ⟨fun fatal h ↦ ?_, fun r h hret ↦ ?_⟩
  · by_contra hempty
    obtain ⟨collected, hok⟩ := (collect_isOk_iff_held hlists).mpr hempty
    rw [fatal_collect h] at hok
    cases hok
  · obtain ⟨out, topics, hout, hcollect, hsize, hentries⟩ := rmwGetTopicNamesAndTypes_ok hrc h hret
    have hempty := (collect_isOk_iff_held hlists).mp ⟨_, hcollect⟩
    refine ⟨hempty, out, topicNames topics, hout, topicNames_sorted (collected.mp hcollect).1,
      ⟨hsize, hentries⟩, fun topic ↦ ?_⟩
    rw [collected_iff hlists hcollect]
    constructor
    · intro h
      exact h.2
    · intro h
      refine ⟨fun htopic ↦ hempty ?_, h⟩
      rwa [htopic] at h

def publisherOn (call : ℕ) (topic : String) : Op Text :=
  .createPublisher call plainAnswers
    ⟨fun _ ↦ .ok (), fun _ ↦ .ok (), fun _ ↦ .ok (), fun _ ↦ .ok (), .ok ()⟩ (some plainNode)
    (some textTypeSupport) (some topic) (some plainQos) (some ())

def countOf (call : ℕ) (topic : String) : Op Text :=
  .countPublishers call plainAnswers ⟨fun _ ↦ .ok (), fun _ ↦ .ok ()⟩ (some plainNode) (some topic)
    (some 0)

def countedRun : List (Op Text) :=
  [publisherOn 1 "/stray", publisherOn 2 "/chatter", countOf 3 "/rosout", .release (.endpoint 1)]

def countedListing : ServiceListing :=
  ⟨[⟨Names.topic "/rosout", .publishSubscribe⟩, ⟨"My/App/Event", .event⟩,
    ⟨Names.topic "/chatter", .publishSubscribe⟩], .ok ()⟩

theorem countedRun_services :
    ((run (exec hostServiceRules) .initial countedRun).services.handles.map Handle.name) =
      [Names.topic "/rosout", Names.topic "/chatter"] := by
  decide

theorem countedListing_lists :
    ListsServices (run (exec hostServiceRules) .initial countedRun) countedListing := by
  intro service hpattern
  have hexists : (run (exec hostServiceRules) .initial countedRun).services.Exists service.name ↔
      service.name ∈ [Names.topic "/rosout", Names.topic "/chatter"] := by
    rw [← countedRun_services, List.mem_map]
    rfl
  rw [hexists]
  obtain ⟨name, pattern⟩ := service
  obtain rfl : pattern = .publishSubscribe := hpattern
  simp [countedListing]

theorem topics_listed_while_held_counted :
    ¬ HeldAfter hostServiceRules countedRun (Names.topic "") ∧
      ∃ out, ∃ topics : List String,
        some (⟨listedArray ["/chatter", "/rosout"],
          some [listedArray ["UNKNOWN", "UNKNOWN"], zeroStringArray]⟩ : NamesAndTypes) = some out ∧
        topics.Pairwise (· < ·) ∧
        (out.names.size = topics.length ∧ out.names.entries = topics.map some) ∧
          ∀ topic, topic ∈ topics ↔ HeldAfter hostServiceRules countedRun (Names.topic topic) := by
  have hcall : rmwGetTopicNamesAndTypes hostRcutils countedListing (some listingNode)
      (some hostAllocator) (some ⟨zeroStringArray, some [zeroStringArray]⟩) =
        .ok ⟨.ok, [], some ⟨listedArray ["/chatter", "/rosout"],
          some [listedArray ["UNKNOWN", "UNKNOWN"], zeroStringArray]⟩⟩ := by decide
  exact (topics_listed_while_held hostRcutils_documented countedListing_lists (some listingNode)
    (some hostAllocator) (some ⟨zeroStringArray, some [zeroStringArray]⟩)).2 _ hcall rfl

end RmwIceoryx2.System.CountingQueries
