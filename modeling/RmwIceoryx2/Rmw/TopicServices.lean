import RmwIceoryx2.Rmw.Endpoint
import RmwIceoryx2.Runtime.Services

namespace RmwIceoryx2.Rmw

open RmwIceoryx2.Common RmwIceoryx2.Runtime RmwIceoryx2.Message RmwIceoryx2.Library

/-- The answers of iceoryx2 to a query, apart from what the services decide. -/
structure CountAnswers where
  serviceName : String → Except String Unit
  publishSubscribe : String → Except String Unit

def checkCount (env : EndpointAnswers) (rmwNode : Option RmwNode) (topicName : Option String)
    (count : Option ℕ) : Except (Failure RmwRet) (RmwNode × String) := do
  let node ← ensureNotNull "rmw_node" .invalidArgument rmwNode
  ensureImplementation "rmw_node->implementation_identifier" .incorrectRmwImplementation
    node.implementationIdentifier
  let topicName ← ensureNotNull "topic_name" .invalidArgument topicName
  ensureValidTopicName env .invalidArgument topicName
  let _ ← ensureNotNull "count" .invalidArgument count
  return (node, topicName)

/-- Both queries up to the service builder, which is made for the service of this name. -/
def countedService (env : EndpointAnswers) (mw : CountAnswers) (rmwNode : Option RmwNode)
    (topicName : Option String) (count : Option ℕ) : Except (Failure RmwRet) String := do
  let (node, topicName) ← checkCount env rmwNode topicName count
  let _ ← uncheckedCast "failed to get NodeImpl" .error node.data
  let serviceName := Names.topic topicName
  match mw.serviceName serviceName with
  | .error _ => throw ⟨.error, ["failed to create service name"]⟩
  | .ok () => return serviceName

/-- Neither query returns a number; both end with a value that says that they are unsupported. -/
def countEndpoints (rules : ServiceRules) (env : EndpointAnswers) (mw : CountAnswers)
    (holder : ServiceHolder) (rmwNode : Option RmwNode) (topicName : Option String)
    (count : Option ℕ) (services : Services) : Services × Failure RmwRet :=
  match countedService env mw rmwNode topicName count with
  | .error f => (services, f)
  | .ok serviceName =>
    match rules.openOrCreate mw.publishSubscribe services holder serviceName .unset with
    | .error _ => (services, ⟨.error, ["failed to open service"]⟩)
    | .ok services => (services, ⟨.unsupported, []⟩)

def rmwCountPublishers (rules : ServiceRules) (env : EndpointAnswers) (mw : CountAnswers)
    (holder : ServiceHolder) (rmwNode : Option RmwNode) (topicName : Option String)
    (count : Option ℕ) (services : Services) : Services × Failure RmwRet :=
  countEndpoints rules env mw holder rmwNode topicName count services

def rmwCountSubscribers (rules : ServiceRules) (env : EndpointAnswers) (mw : CountAnswers)
    (holder : ServiceHolder) (rmwNode : Option RmwNode) (topicName : Option String)
    (count : Option ℕ) (services : Services) : Services × Failure RmwRet :=
  countEndpoints rules env mw holder rmwNode topicName count services

/-- The name of a service, unless iceoryx2 refuses it for reasons of its own. -/
def granted (refusal : String → Except String Unit) (serviceName : Option String) :
    Option String :=
  serviceName.filter fun serviceName ↦ (refusal serviceName).isOk

def queriedService (env : EndpointAnswers) (mw : CountAnswers) (rmwNode : Option RmwNode)
    (topicName : Option String) (count : Option ℕ) : Option String :=
  granted mw.publishSubscribe (countedService env mw rmwNode topicName count).toOption

section Queries

variable {rules : ServiceRules} {env : EndpointAnswers} {mw : CountAnswers}
  {holder : ServiceHolder} {rmwNode : Option RmwNode} {topicName : Option String}
  {count : Option ℕ} {services : Services}

theorem countEndpoints_services :
    (countEndpoints rules env mw holder rmwNode topicName count services).1 =
      match queriedService env mw rmwNode topicName count with
      | none => services
      | some name => services.exec rules.terms (.openOrCreate holder name .unset) := by
  simp only [countEndpoints, queriedService]
  cases countedService env mw rmwNode topicName count with
  | error f => rfl
  | ok name =>
    cases hrefusal : mw.publishSubscribe name with
    | error e =>
      simp [ServiceRules.openOrCreate, granted, Except.toOption, Option.filter, hrefusal,
        Except.isOk, Except.toBool]
    | ok u =>
      cases hopen : services.openOrCreate rules.terms holder name .unset <;>
        simp [ServiceRules.openOrCreate, granted, Except.toOption, Option.filter, hrefusal,
          Except.isOk, Except.toBool, Resources.exec, hopen]

theorem countEndpoints_adds_nothing_iff :
    (∀ n, (countEndpoints rules env mw holder rmwNode topicName count services).1.Exists n →
      services.Exists n) ↔
        ∀ name ∈ queriedService env mw rmwNode topicName count, services.Exists name := by
  rw [countEndpoints_services]
  cases queriedService env mw rmwNode topicName count with
  | none => simp
  | some name => simpa using Resources.open_adds_nothing_iff

end Queries

variable {M : Type}

def endpointService (checked : Except (Failure Unit) (RmwNode × TypeSupport M × String))
    (allocate : RmwNode → Except (Failure Unit) Unit) (serviceName : String → Except String Unit) :
    Option String := do
  let (node, _, topicName) ← checked.toOption
  (allocate node).toOption
  (serviceName (Names.topic topicName)).toOption
  return Names.topic topicName

def publisherService (env : EndpointAnswers) (mw : CreationAnswers) (rmwNode : Option RmwNode)
    (typeSupport : Option (TypeSupport M)) (topicName : Option String) (qos : Option QosProfile)
    (publisherOptions : Option Unit) : Option String :=
  endpointService (checkEndpoint env rmwNode typeSupport topicName "qos" qos "publisher_options"
    publisherOptions) (fun node ↦ allocateEndpoint env node
      "failed to allocate memory for rmw_publisher_t" "failed to allocate memory for Publisher")
    mw.serviceName

def subscriptionService (env : EndpointAnswers) (mw : SubscriberCreationAnswers)
    (rmwNode : Option RmwNode) (typeSupport : Option (TypeSupport M)) (topicName : Option String)
    (qosProfile : Option QosProfile) (subscriptionOptions : Option Unit) : Option String :=
  endpointService (checkEndpoint env rmwNode typeSupport topicName "qos_profile" qosProfile
    "subscription_options" subscriptionOptions) (fun node ↦ allocateEndpoint env node
      "failed to allocator memoery for rmw_subscription_t"
      "failed to allocate memory for Subscriber") mw.serviceName

theorem endpointService_eq_some
    {checked : Except (Failure Unit) (RmwNode × TypeSupport M × String)}
    {allocate : RmwNode → Except (Failure Unit) Unit} {serviceName : String → Except String Unit}
    {name : String} : endpointService checked allocate serviceName = some name ↔
      ∃ node typeSupport topic, checked = .ok (node, typeSupport, topic) ∧ allocate node = .ok () ∧
        serviceName (Names.topic topic) = .ok () ∧ Names.topic topic = name := by
  cases checked with
  | error f => simp [endpointService, Except.toOption]
  | ok checked =>
    obtain ⟨node, typeSupport, topic⟩ := checked
    cases hallocate : allocate node with
    | error f => simp [endpointService, Except.toOption, hallocate]
    | ok u =>
      cases hname : serviceName (Names.topic topic) <;>
        simp [endpointService, Except.toOption, hallocate, hname]

section Created

variable {env : EndpointAnswers} {rmwNode : Option RmwNode} {topicName : Option String}
  {typeSupport : Option (TypeSupport M)} {qos : Option QosProfile} {options : Option Unit}
  {answers : String → Except String Unit}

theorem rmwCreatePublisher_congr {mw : CreationAnswers}
    (h : ∀ name ∈ publisherService env mw rmwNode typeSupport topicName qos options,
      answers name = mw.publishSubscribe name) :
    rmwCreatePublisher env { mw with publishSubscribe := answers } rmwNode typeSupport topicName qos
      options = rmwCreatePublisher env mw rmwNode typeSupport topicName qos options := by
  simp only [rmwCreatePublisher]
  cases hcheck : checkEndpoint env rmwNode typeSupport topicName "qos" qos "publisher_options"
      options with
  | error f => rfl
  | ok checked =>
    obtain ⟨node, typeSupport', topic⟩ := checked
    cases hallocate : allocateEndpoint env node "failed to allocate memory for rmw_publisher_t"
        "failed to allocate memory for Publisher" with
    | error f => simp only [bind, Except.bind, hallocate]
    | ok u =>
      have hcreate : Publisher.create { mw with publishSubscribe := answers } topic typeSupport' =
          Publisher.create mw topic typeSupport' :=
        Publisher.create_congr fun hname ↦ h _ (endpointService_eq_some.mpr
          ⟨node, typeSupport', topic, hcheck, hallocate, hname, rfl⟩)
      simp only [bind, Except.bind, hallocate, hcreate]

theorem rmwCreatePublisher_granted {mw : CreationAnswers} {h : RmwPublisher M}
    (hok : rmwCreatePublisher env mw rmwNode typeSupport topicName qos options = .ok h) :
    ∃ name, publisherService env mw rmwNode typeSupport topicName qos options = some name ∧
      mw.publishSubscribe name = .ok () := by
  simp only [rmwCreatePublisher, bind_eq_ok, Prod.exists] at hok
  obtain ⟨node, typeSupport', topic, hcheck, u, hallocate, hok⟩ := hok
  cases hcreate : Publisher.create mw topic typeSupport' with
  | error f => simp [hcreate, throw, throwThe, MonadExceptOf.throw] at hok
  | ok p =>
    obtain ⟨hname, hopen⟩ := Publisher.create_granted hcreate
    exact ⟨_, endpointService_eq_some.mpr ⟨node, typeSupport', topic, hcheck, hallocate, hname,
      rfl⟩, hopen⟩

theorem rmwCreateSubscription_congr {mw : SubscriberCreationAnswers}
    (h : ∀ name ∈ subscriptionService env mw rmwNode typeSupport topicName qos options,
      answers name = mw.publishSubscribe name) :
    rmwCreateSubscription env { mw with publishSubscribe := answers } rmwNode typeSupport topicName
      qos options = rmwCreateSubscription env mw rmwNode typeSupport topicName qos options := by
  simp only [rmwCreateSubscription]
  cases hcheck : checkEndpoint env rmwNode typeSupport topicName "qos_profile" qos
      "subscription_options" options with
  | error f => rfl
  | ok checked =>
    obtain ⟨node, typeSupport', topic⟩ := checked
    cases hallocate : allocateEndpoint env node "failed to allocator memoery for rmw_subscription_t"
        "failed to allocate memory for Subscriber" with
    | error f => simp only [bind, Except.bind, hallocate]
    | ok u =>
      have hcreate : Subscriber.create { mw with publishSubscribe := answers } topic typeSupport' =
          Subscriber.create mw topic typeSupport' :=
        Subscriber.create_congr fun hname ↦ h _ (endpointService_eq_some.mpr
          ⟨node, typeSupport', topic, hcheck, hallocate, hname, rfl⟩)
      simp only [bind, Except.bind, hallocate, hcreate]

theorem rmwCreateSubscription_granted {mw : SubscriberCreationAnswers} {h : RmwSubscription M}
    (hok : rmwCreateSubscription env mw rmwNode typeSupport topicName qos options = .ok h) :
    ∃ name, subscriptionService env mw rmwNode typeSupport topicName qos options = some name ∧
      mw.publishSubscribe name = .ok () := by
  simp only [rmwCreateSubscription, bind_eq_ok, Prod.exists] at hok
  obtain ⟨node, typeSupport', topic, hcheck, u, hallocate, hok⟩ := hok
  cases hcreate : Subscriber.create mw topic typeSupport' with
  | error f => simp [hcreate, throw, throwThe, MonadExceptOf.throw] at hok
  | ok s =>
    obtain ⟨hname, hopen⟩ := Subscriber.create_granted hcreate
    exact ⟨_, endpointService_eq_some.mpr ⟨node, typeSupport', topic, hcheck, hallocate, hname,
      rfl⟩, hopen⟩

/-- The services decide nothing about a publisher but whether its own service can be opened. -/
theorem rmwCreatePublisher_on_iff {mw : CreationAnswers} {rules : ServiceRules}
    {services : Services} {holder : ServiceHolder} :
    (∃ h, rmwCreatePublisher env (mw.on rules services holder) rmwNode typeSupport topicName qos
      options = .ok h) ↔
        (∃ h, rmwCreatePublisher env mw rmwNode typeSupport topicName qos options = .ok h) ∧
          ∀ name ∈ publisherService env mw rmwNode typeSupport topicName qos options,
            (services.openOrCreate rules.terms holder name Publisher.serviceBuilder).isSome := by
  constructor
  · intro h
    obtain ⟨h, hok⟩ := h
    obtain ⟨name, hname, hopen⟩ := rmwCreatePublisher_granted hok
    have hall : ∀ n ∈ publisherService env mw rmwNode typeSupport topicName qos options,
        (services.openOrCreate rules.terms holder n Publisher.serviceBuilder).isSome := by
      intro n hn
      obtain rfl : name = n := Option.some_inj.mp (hname.symm.trans hn)
      exact (servicesAnswer_eq_ok.mp hopen).2
    refine ⟨⟨h, ?_⟩, hall⟩
    rw [← hok]
    exact (rmwCreatePublisher_congr fun n hn ↦ servicesAnswer_eq (hall n hn)).symm
  · intro h
    obtain ⟨⟨h, hok⟩, hall⟩ := h
    exact ⟨h, (rmwCreatePublisher_congr fun n hn ↦ servicesAnswer_eq (hall n hn)).trans hok⟩

theorem rmwCreateSubscription_on_iff {mw : SubscriberCreationAnswers} {rules : ServiceRules}
    {services : Services} {holder : ServiceHolder} :
    (∃ h, rmwCreateSubscription env (mw.on rules services holder) rmwNode typeSupport topicName qos
      options = .ok h) ↔
        (∃ h, rmwCreateSubscription env mw rmwNode typeSupport topicName qos options = .ok h) ∧
          ∀ name ∈ subscriptionService env mw rmwNode typeSupport topicName qos options,
            (services.openOrCreate rules.terms holder name Subscriber.serviceBuilder).isSome := by
  constructor
  · intro h
    obtain ⟨h, hok⟩ := h
    obtain ⟨name, hname, hopen⟩ := rmwCreateSubscription_granted hok
    have hall : ∀ n ∈ subscriptionService env mw rmwNode typeSupport topicName qos options,
        (services.openOrCreate rules.terms holder n Subscriber.serviceBuilder).isSome := by
      intro n hn
      obtain rfl : name = n := Option.some_inj.mp (hname.symm.trans hn)
      exact (servicesAnswer_eq_ok.mp hopen).2
    refine ⟨⟨h, ?_⟩, hall⟩
    rw [← hok]
    exact (rmwCreateSubscription_congr fun n hn ↦ servicesAnswer_eq (hall n hn)).symm
  · intro h
    obtain ⟨⟨h, hok⟩, hall⟩ := h
    exact ⟨h, (rmwCreateSubscription_congr fun n hn ↦ servicesAnswer_eq (hall n hn)).trans hok⟩

end Created

end RmwIceoryx2.Rmw
