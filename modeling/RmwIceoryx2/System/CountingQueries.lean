import RmwIceoryx2.Library.Execution
import RmwIceoryx2.Rmw.TopicNames
import RmwIceoryx2.Rmw.TopicServices
import RmwIceoryx2.System.Encoding

namespace RmwIceoryx2.System.CountingQueries

open RmwIceoryx2.Common RmwIceoryx2.Runtime RmwIceoryx2.Message RmwIceoryx2.Rmw
open RmwIceoryx2.Library RmwIceoryx2.Library.Execution

structure Graph where
  services : Services
  opened : List String

def Graph.initial : Graph := ⟨.empty, []⟩

/-- A query or the creation of an endpoint, up to the moment when it holds its service, and the
release of what is held: a query returns, or an endpoint is destroyed or not completed. -/
inductive Op (M : Type)
  | countPublishers (call : ℕ) (env : EndpointAnswers) (mw : CountAnswers)
    (rmwNode : Option RmwNode) (topicName : Option String) (count : Option ℕ)
  | countSubscribers (call : ℕ) (env : EndpointAnswers) (mw : CountAnswers)
    (rmwNode : Option RmwNode) (topicName : Option String) (count : Option ℕ)
  | createPublisher (call : ℕ) (env : EndpointAnswers) (mw : CreationAnswers)
    (rmwNode : Option RmwNode) (typeSupport : Option (TypeSupport M)) (topicName : Option String)
    (qos : Option QosProfile) (options : Option Unit)
  | createSubscription (call : ℕ) (env : EndpointAnswers) (mw : SubscriberCreationAnswers)
    (rmwNode : Option RmwNode) (typeSupport : Option (TypeSupport M)) (topicName : Option String)
    (qos : Option QosProfile) (options : Option Unit)
  | release (holder : ServiceHolder)

def Graph.enter (rules : ServiceRules) (g : Graph) (refusal : String → Except String Unit)
    (holder : ServiceHolder) (builder : PublishSubscribeBuilder) : Option String → Graph
  | none => g
  | some serviceName =>
    match rules.openOrCreate refusal g.services holder serviceName builder with
    | .error _ => g
    | .ok services => ⟨services, serviceName :: g.opened⟩

variable {M : Type}

def exec (rules : ServiceRules) (g : Graph) : Op M → Graph
  | .countPublishers call env mw rmwNode topicName count =>
    { g with
      services := (rmwCountPublishers rules env mw (.query call) rmwNode topicName count
        g.services).1 }
  | .countSubscribers call env mw rmwNode topicName count =>
    { g with
      services := (rmwCountSubscribers rules env mw (.query call) rmwNode topicName count
        g.services).1 }
  | .createPublisher call env mw rmwNode typeSupport topicName qos options =>
    g.enter rules mw.publishSubscribe (.endpoint call) Publisher.serviceBuilder
      (publisherService env mw rmwNode typeSupport topicName qos options)
  | .createSubscription call env mw rmwNode typeSupport topicName qos options =>
    g.enter rules mw.publishSubscribe (.endpoint call) Subscriber.serviceBuilder
      (subscriptionService env mw rmwNode typeSupport topicName qos options)
  | .release holder => { g with services := g.services.release holder }

def Succeeds (rules : ServiceRules) (g : Graph) : Op M → Prop
  | .createPublisher call env mw rmwNode typeSupport topicName qos options =>
    ∃ publisher, rmwCreatePublisher env (mw.on rules g.services (.endpoint call)) rmwNode
      typeSupport topicName qos options = .ok publisher
  | .createSubscription call env mw rmwNode typeSupport topicName qos options =>
    ∃ subscription, rmwCreateSubscription env (mw.on rules g.services (.endpoint call)) rmwNode
      typeSupport topicName qos options = .ok subscription
  | _ => False

namespace Op

def isQuery : Op M → Bool
  | .countPublishers .. | .countSubscribers .. => true
  | _ => false

def queried : Op M → Option String
  | .countPublishers _ env mw rmwNode topicName count
  | .countSubscribers _ env mw rmwNode topicName count =>
    queriedService env mw rmwNode topicName count
  | _ => none

def visible : Op M → Bool
  | .countPublishers .. | .countSubscribers .. => false
  | .release holder => holder.isEndpoint
  | _ => true

def step : Op M → Option (Resources.Step ServiceHolder String PublishSubscribeBuilder)
  | .countPublishers call env mw rmwNode topicName count
  | .countSubscribers call env mw rmwNode topicName count =>
    (queriedService env mw rmwNode topicName count).map fun serviceName ↦
      .openOrCreate (.query call) serviceName .unset
  | .createPublisher call env mw rmwNode typeSupport topicName qos options =>
    (granted mw.publishSubscribe (publisherService env mw rmwNode typeSupport topicName qos
      options)).map fun serviceName ↦
        .openOrCreate (.endpoint call) serviceName Publisher.serviceBuilder
  | .createSubscription call env mw rmwNode typeSupport topicName qos options =>
    (granted mw.publishSubscribe (subscriptionService env mw rmwNode typeSupport topicName qos
      options)).map fun serviceName ↦
        .openOrCreate (.endpoint call) serviceName Subscriber.serviceBuilder
  | .release holder => some (.release holder)

end Op

def withoutQueries (ops : List (Op M)) : List (Op M) := ops.filter Op.visible

/-- A query asks for a service that exists. -/
def OpensExisting (g : Graph) (op : Op M) : Prop :=
  ∀ serviceName ∈ op.queried, g.services.Exists serviceName

/-- A listing of the services in which no publish-subscribe service appears that does not exist. -/
def Graph.Shows (g : Graph) (listing : ServiceListing) : Prop :=
  ∀ service ∈ listing.services, service.messagingPattern = .publishSubscribe →
    g.services.Exists service.name

def Collected (listing : ServiceListing) (topic : String) : Prop :=
  ∃ ret topics, collectTopicNamesAndTypes listing (.empty _) isPublishSubscribe =
    .ok (ret, topics) ∧ topic ∈ topicNames topics

/-- What the call hands out it has collected. -/
theorem collected_of_listed {rc : Rcutils} (hrc : rc.Documented) {listing : ServiceListing}
    {rmwNode : Option RmwNode} {allocator : Option Allocator} {given : Option NamesAndTypes}
    {r : TopicNamesOutcome} {out : NamesAndTypes}
    (h : rmwGetTopicNamesAndTypes rc listing rmwNode allocator given = .ok r) (hret : r.ret = .ok)
    (hout : r.topicNamesAndTypes = some out) {topic : String}
    (htopic : some topic ∈ out.names.entries) : Collected listing topic := by
  obtain ⟨listed, topics, hlisted, hcollect, -, hentries⟩ :=
    rmwGetTopicNamesAndTypes_ok hrc h hret
  obtain rfl := Option.some_inj.mp (hout.symm.trans hlisted)
  rw [hentries] at htopic
  obtain ⟨topic', htopic', hsame⟩ := List.mem_map.mp htopic
  obtain rfl := Option.some_inj.mp hsame
  exact ⟨.ok, topics, hcollect, htopic'⟩

structure ReadOnly (rules : ServiceRules) (ops : List (Op M)) : Prop where
  adds_nothing : ∀ pre op, pre ++ [op] <+: ops → op.isQuery = true → ∀ name,
    (run (exec rules) .initial (pre ++ [op])).services.Exists name →
      (run (exec rules) .initial pre).services.Exists name
  shows_opened : ∀ pre, pre <+: ops → ∀ listing,
    (run (exec rules) .initial pre).Shows listing → ∀ topic, Collected listing topic →
      Names.topic topic ∈ (run (exec rules) .initial pre).opened
  lets_succeed : ∀ pre op, pre ++ [op] <+: ops →
    Succeeds rules (run (exec rules) .initial (withoutQueries pre)) op →
      Succeeds rules (run (exec rules) .initial pre) op

section Runs

variable {rules : ServiceRules} {g g' : Graph} {op : Op M} {ops : List (Op M)}

theorem enter_services {refusal : String → Except String Unit} {holder : ServiceHolder}
    {builder : PublishSubscribeBuilder} {serviceName : Option String} :
    (g.enter rules refusal holder builder serviceName).services =
      match granted refusal serviceName with
      | none => g.services
      | some serviceName =>
        g.services.exec rules.terms (.openOrCreate holder serviceName builder) := by
  cases serviceName with
  | none => rfl
  | some serviceName =>
    cases hrefusal : refusal serviceName with
    | error e =>
      simp [Graph.enter, ServiceRules.openOrCreate, granted, Option.filter, hrefusal, Except.isOk,
        Except.toBool]
    | ok u =>
      cases hopen : g.services.openOrCreate rules.terms holder serviceName builder <;>
        simp [Graph.enter, ServiceRules.openOrCreate, granted, Option.filter, hrefusal, hopen,
          Except.isOk, Except.toBool, Resources.exec]

theorem exec_services (op : Op M) : (exec rules g op).services =
    match op.step with
    | none => g.services
    | some step => g.services.exec rules.terms step := by
  cases op with
  | countPublishers call env mw rmwNode topicName count =>
    simp only [exec, rmwCountPublishers, countEndpoints_services, Op.step]
    cases queriedService env mw rmwNode topicName count <;> rfl
  | countSubscribers call env mw rmwNode topicName count =>
    simp only [exec, rmwCountSubscribers, countEndpoints_services, Op.step]
    cases queriedService env mw rmwNode topicName count <;> rfl
  | createPublisher call env mw rmwNode typeSupport topicName qos options =>
    simp only [exec, enter_services, Op.step]
    cases granted mw.publishSubscribe (publisherService env mw rmwNode typeSupport topicName qos
      options) <;> rfl
  | createSubscription call env mw rmwNode typeSupport topicName qos options =>
    simp only [exec, enter_services, Op.step]
    cases granted mw.publishSubscribe (subscriptionService env mw rmwNode typeSupport topicName qos
      options) <;> rfl
  | release holder => rfl

theorem step_holder {step : Resources.Step ServiceHolder String PublishSubscribeBuilder}
    (h : op.step = some step) : step.holder.isEndpoint = op.visible := by
  cases op with
  | release holder =>
    obtain rfl := Option.some_inj.mp h
    rfl
  | _ =>
    obtain ⟨serviceName, -, rfl⟩ := Option.map_eq_some_iff.mp h
    rfl

/-- All endpoints ask for a service alike, and a query that opens an existing one is no matter. -/
theorem step_polite {step : Resources.Step ServiceHolder String PublishSubscribeBuilder}
    (hop : OpensExisting g op) (h : op.step = some step) :
    Resources.Polite (fun _ ↦ Publisher.serviceBuilder) ServiceHolder.isEndpoint g.services
      step := by
  cases op with
  | release holder =>
    obtain rfl := Option.some_inj.mp h
    trivial
  | countPublishers call env mw rmwNode topicName count =>
    obtain ⟨serviceName, hqueried, rfl⟩ := Option.map_eq_some_iff.mp h
    exact hop serviceName hqueried
  | countSubscribers call env mw rmwNode topicName count =>
    obtain ⟨serviceName, hqueried, rfl⟩ := Option.map_eq_some_iff.mp h
    exact hop serviceName hqueried
  | createPublisher call env mw rmwNode typeSupport topicName qos options =>
    obtain ⟨serviceName, -, rfl⟩ := Option.map_eq_some_iff.mp h
    rfl
  | createSubscription call env mw rmwNode typeSupport topicName qos options =>
    obtain ⟨serviceName, -, rfl⟩ := Option.map_eq_some_iff.mp h
    exact Subscriber.serviceBuilder_eq

theorem query_adds_nothing_iff (rules : ServiceRules) (hquery : op.isQuery = true) :
    (∀ name, (exec rules g op).services.Exists name → g.services.Exists name) ↔
      OpensExisting g op := by
  cases op with
  | countPublishers call env mw rmwNode topicName count => exact countEndpoints_adds_nothing_iff
  | countSubscribers call env mw rmwNode topicName count => exact countEndpoints_adds_nothing_iff
  | _ => cases hquery

/-- Every service is as endpoints ask for it, and an endpoint has opened it. -/
structure Attended (rules : ServiceRules) (g : Graph) : Prop where
  uniform : g.services.Uniform rules.terms fun _ ↦ Publisher.serviceBuilder
  opened : ∀ name, g.services.Exists name → name ∈ g.opened

theorem attended_initial : Attended rules .initial := by
  refine ⟨Resources.uniform_empty, fun name h ↦ ?_⟩
  obtain ⟨h, hh, -⟩ := h
  cases hh

theorem enter_opened {refusal : String → Except String Unit} {holder : ServiceHolder}
    {builder : PublishSubscribeBuilder} {serviceName : Option String}
    (h : ∀ name, g.services.Exists name → name ∈ g.opened) :
    ∀ name, (g.enter rules refusal holder builder serviceName).services.Exists name →
      name ∈ (g.enter rules refusal holder builder serviceName).opened := by
  intro name hname
  cases serviceName with
  | none => exact h name hname
  | some serviceName =>
    simp only [Graph.enter] at hname ⊢
    cases hopen : rules.openOrCreate refusal g.services holder serviceName builder with
    | error e =>
      rw [hopen] at hname
      exact h name hname
    | ok services =>
      rw [hopen] at hname
      rcases (ServiceRules.exists_of_openOrCreate hopen).mp hname with rfl | hname
      · exact List.mem_cons_self
      · exact List.mem_cons_of_mem _ (h name hname)

theorem attended_exec (hrules : rules.Documented) (h : Attended rules g)
    (hop : OpensExisting g op) : Attended rules (exec rules g op) := by
  constructor
  · rw [exec_services]
    cases hstep : op.step with
    | none => exact h.uniform
    | some step => exact h.uniform.exec hrules (step_polite hop hstep)
  · cases op with
    | countPublishers call env mw rmwNode topicName count =>
      exact fun name hname ↦ h.opened name ((query_adds_nothing_iff rules rfl).mpr hop name hname)
    | countSubscribers call env mw rmwNode topicName count =>
      exact fun name hname ↦ h.opened name ((query_adds_nothing_iff rules rfl).mpr hop name hname)
    | createPublisher call env mw rmwNode typeSupport topicName qos options =>
      exact enter_opened h.opened
    | createSubscription call env mw rmwNode typeSupport topicName qos options =>
      exact enter_opened h.opened
    | release holder => exact fun name hname ↦ h.opened name (Resources.exists_of_keep hname)

theorem attended_run (hrules : rules.Documented)
    (h : Admissible (exec rules) OpensExisting .initial ops) :
    Attended rules (run (exec rules) .initial ops) :=
  invariant (fun _ _ ↦ attended_exec hrules) attended_initial h

/-- To the endpoints the services are as in the run without the queries. -/
theorem run_withoutQueries (hrules : rules.Documented)
    (h : Admissible (exec rules) OpensExisting .initial ops) :
    (run (exec rules) .initial ops).services.keep ServiceHolder.isEndpoint =
      (run (exec rules) .initial (withoutQueries ops)).services := by
  refine follows_filter (I := Attended rules)
    (R := fun g g' ↦ g.services.keep ServiceHolder.isEndpoint = g'.services)
    (fun _ _ ↦ attended_exec hrules) ?_ ?_ attended_initial rfl h
  · intro g g' op hg hop hvisible hsame
    rw [exec_services, exec_services, ← hsame]
    cases hstep : op.step with
    | none => rfl
    | some step =>
      refine hg.uniform.exec_keep_of_owner hrules (step_polite hop hstep) ?_
      rw [step_holder hstep, hvisible]
  · intro g g' op hg hop hinvisible hsame
    rw [exec_services, ← hsame]
    cases hstep : op.step with
    | none => rfl
    | some step =>
      refine Resources.exec_keep_of_guest ?_
      rwa [step_holder hstep]

theorem succeeds_iff (hrules : rules.Documented)
    (h : g.services.Uniform rules.terms fun _ ↦ Publisher.serviceBuilder)
    (h' : g'.services.Uniform rules.terms fun _ ↦ Publisher.serviceBuilder) :
    Succeeds rules g op ↔ Succeeds rules g' op := by
  have hopens : ∀ holder name, (g.services.openOrCreate rules.terms holder name
      Publisher.serviceBuilder).isSome = (g'.services.openOrCreate rules.terms holder name
        Publisher.serviceBuilder).isSome := by
    intro holder name
    rw [h.openOrCreate hrules holder name, h'.openOrCreate hrules holder name]
    rfl
  cases op with
  | createPublisher call env mw rmwNode typeSupport topicName qos options =>
    simp only [Succeeds, rmwCreatePublisher_on_iff, hopens]
  | createSubscription call env mw rmwNode typeSupport topicName qos options =>
    simp only [Succeeds, rmwCreateSubscription_on_iff, Subscriber.serviceBuilder_eq, hopens]
  | _ => exact Iff.rfl

theorem collected_opened (h : Attended rules g) {listing : ServiceListing}
    (hshows : g.Shows listing) {topic : String} (htopic : Collected listing topic) :
    Names.topic topic ∈ g.opened := by
  obtain ⟨ret, topics, hcollect, htopic⟩ := htopic
  obtain ⟨service, hservice, hpattern, hname⟩ :=
    (mem_topicNames (collected.mp hcollect).1).mp htopic
  obtain ⟨-, hname⟩ := TopicDetails.parseTopicName_eq_some.mp hname
  rw [← hname]
  exact h.opened _ (hshows service hservice (of_decide_eq_true hpattern))

theorem readOnly_of_opensExisting (hrules : rules.Documented)
    (h : Admissible (exec rules) OpensExisting .initial ops) : ReadOnly rules ops := by
  have hearlier : ∀ pre, pre <+: ops → Admissible (exec rules) OpensExisting .initial pre := by
    intro pre hpre
    obtain ⟨rest, rfl⟩ := hpre
    exact ((admissible_append _ _ _ _).mp h).1
  constructor
  · intro pre op hpre hquery
    rw [run_snoc]
    exact (query_adds_nothing_iff rules hquery).mpr (admissible_iff_forall.mp h pre op hpre)
  · intro pre hpre listing hshows topic htopic
    exact collected_opened (attended_run hrules (hearlier pre hpre)) hshows htopic
  · intro pre op hpre hsucceeds
    have hpermitted := hearlier pre ((List.prefix_append pre [op]).trans hpre)
    have hattended := attended_run hrules hpermitted
    refine (succeeds_iff hrules hattended.uniform ?_).mpr hsucceeds
    rw [← run_withoutQueries hrules hpermitted]
    exact hattended.uniform.keep

theorem opensExisting_of_readOnly (h : ReadOnly rules ops) :
    Admissible (exec rules) OpensExisting .initial ops := by
  rw [admissible_iff_forall]
  intro pre op hpre
  cases hquery : op.isQuery with
  | true =>
    rw [← query_adds_nothing_iff rules hquery]
    intro name hname
    refine h.adds_nothing pre op hpre hquery name ?_
    rwa [run_snoc]
  | false =>
    intro name hname
    cases op with
    | countPublishers call env mw rmwNode topicName count => cases hquery
    | countSubscribers call env mw rmwNode topicName count => cases hquery
    | _ => cases hname

/-- The queries of a run leave no trace exactly if none asks for a service that does not exist. -/
theorem queries_read_only_iff (hrules : rules.Documented) (ops : List (Op M)) :
    ReadOnly rules ops ↔ Admissible (exec rules) OpensExisting .initial ops :=
  ⟨opensExisting_of_readOnly, readOnly_of_opensExisting hrules⟩

end Runs

def chatterCount (call : ℕ) : Op Text :=
  .countSubscribers call plainAnswers ⟨fun _ ↦ .ok (), fun _ ↦ .ok ()⟩ (some plainNode)
    (some "/chatter") (some 0)

def chatterPublisher (call : ℕ) : Op Text :=
  .createPublisher call plainAnswers ⟨fun _ ↦ .ok (), fun _ ↦ .ok (), fun _ ↦ .ok (), fun _ ↦ .ok (),
    .ok ()⟩ (some plainNode) (some textTypeSupport) (some "/chatter") (some plainQos) (some ())

def attendedRun : List (Op Text) :=
  [chatterPublisher 1, chatterCount 2, .release (.endpoint 1), chatterPublisher 3,
    .release (.query 2)]

theorem attendedRun_opensExisting :
    Admissible (exec hostServiceRules) OpensExisting .initial attendedRun := by
  refine ⟨fun _ h ↦ (by cases h), fun name h ↦ ?_, fun _ h ↦ (by cases h), fun _ h ↦ (by cases h),
    fun _ h ↦ (by cases h), trivial⟩
  obtain rfl : Names.topic "/chatter" = name := Option.some_inj.mp h
  exact ⟨_, List.mem_cons_self, rfl⟩

theorem queries_read_only_iff_attended : ReadOnly hostServiceRules attendedRun :=
  (queries_read_only_iff hostServiceRules_documented attendedRun).mpr attendedRun_opensExisting

def strayRun : List (Op Text) := [chatterCount 1, chatterPublisher 2]

def strayListing : ServiceListing := ⟨[⟨Names.topic "/chatter", .publishSubscribe⟩], .ok ()⟩

/-- While the query runs the topic is listed that nobody has opened, and a publisher on it is
refused, as its service cannot have so many. -/
theorem stray_query_refuses_publisher :
    ¬ ReadOnly hostServiceRules strayRun ∧
      ((run (exec hostServiceRules) .initial [chatterCount 1]).Shows strayListing ∧
        Collected strayListing "/chatter" ∧
          (run (exec hostServiceRules) .initial [chatterCount 1]).opened = []) ∧
      Succeeds hostServiceRules .initial (chatterPublisher 2) ∧
        ¬ Succeeds hostServiceRules (run (exec hostServiceRules) .initial [chatterCount 1])
          (chatterPublisher 2) := by
  refine ⟨fun h ↦ ?_, ⟨?_, ⟨.ok, _, rfl, ?_⟩, rfl⟩, ⟨_, rfl⟩, fun h ↦ ?_⟩
  · obtain ⟨e, he, -⟩ := (opensExisting_of_readOnly h).1 (Names.topic "/chatter") rfl
    cases he
  · intro service hservice _
    obtain rfl := List.mem_singleton.mp hservice
    exact ⟨_, List.mem_cons_self, rfl⟩
  · decide
  · obtain ⟨publisher, hpublisher⟩ := h
    cases hpublisher

end RmwIceoryx2.System.CountingQueries
