import RmwIceoryx2.Rmw.Publisher
import RmwIceoryx2.Rmw.Subscription

namespace RmwIceoryx2.Rmw

open RmwIceoryx2.Common RmwIceoryx2.Runtime RmwIceoryx2.Message

inductive HistoryPolicy
  | systemDefault | keepLast | keepAll | unknown
  deriving DecidableEq, Repr

inductive ReliabilityPolicy
  | systemDefault | reliable | bestEffort | unknown | bestAvailable
  deriving DecidableEq, Repr

inductive DurabilityPolicy
  | systemDefault | transientLocal | volatile | unknown | bestAvailable
  deriving DecidableEq, Repr

inductive LivelinessPolicy
  | systemDefault | automatic | manualByNode | manualByTopic | unknown | bestAvailable
  deriving DecidableEq, Repr

structure QosProfile where
  history : HistoryPolicy
  reliability : ReliabilityPolicy
  durability : DurabilityPolicy
  liveliness : LivelinessPolicy
  avoidRosNamespaceConventions : Bool
  deriving DecidableEq, Repr

/-- `rmw_node_t`: `context` holds what the pointer to the context and its `impl` lead to. -/
structure RmwNode where
  implementationIdentifier : String
  context : Option (Option Unit)
  data : Option Unit

/-- What the surroundings answer while an endpoint is created: the texts for identifiers that do not
resolve, the validation of the topic's name (no result if it fails, else the reason why the name is
invalid, if it is) and the allocations. -/
structure EndpointAnswers where
  unresolved : Lang → String
  validateFullTopicName : String → Option (Option String)
  allocateHandle : Bool
  allocateCopy : Bool
  allocateImpl : Bool

variable {M ε : Type}

/-- `RMW_IOX2_ENSURE_VALID_TYPESUPPORT`: the identifier of either language may resolve. -/
def ensureValidTypesupport (env : EndpointAnswers) (returnValue : ε) (typeSupport : TypeSupport M) :
    Except (Failure ε) Unit :=
  match typeSupport.fastrtpsC, typeSupport.fastrtpsCpp with
  | none, none => .error ⟨returnValue,
      ["Invalid typesupport: " ++ env.unresolved .c ++ "\n" ++ env.unresolved .cpp]⟩
  | _, _ => .ok ()

/-- `RMW_IOX2_ENSURE_VALID_QOS` fails without a message. -/
def ensureValidQos (returnValue : ε) (qos : QosProfile) : Except (Failure ε) Unit :=
  if qos.history = .unknown ∨ qos.reliability = .unknown ∨ qos.durability = .unknown ∨
      qos.liveliness = .unknown then .error ⟨returnValue, []⟩
  else .ok ()

def ensureValidTopicName (env : EndpointAnswers) (returnValue : ε) (topicName : String) :
    Except (Failure ε) Unit :=
  match env.validateFullTopicName topicName with
  | none => .error ⟨returnValue, []⟩
  | some none => .ok ()
  | some (some reason) => .error ⟨returnValue, ["invalid topic name: " ++ reason]⟩

/-- The checks of `rmw_create_publisher` and `rmw_create_subscription`, which differ in the names of
two arguments. The value returned for a failure is the null pointer. -/
def checkEndpoint (env : EndpointAnswers) (rmwNode : Option RmwNode)
    (typeSupport : Option (TypeSupport M)) (topicName : Option String) (qosArgument : String)
    (qos : Option QosProfile) (optionsArgument : String) (options : Option Unit) :
    Except (Failure Unit) (RmwNode × TypeSupport M × String) := do
  let node ← ensureNotNull "rmw_node" () rmwNode
  let impl ← ensureNotNull "rmw_node->context" () node.context
  let _ ← ensureNotNull "rmw_node->context->impl" () impl
  ensureImplementation "rmw_node->implementation_identifier" () node.implementationIdentifier
  let typeSupport ← ensureNotNull "type_support" () typeSupport
  ensureValidTypesupport env () typeSupport
  let topicName ← ensureNotNull "topic_name" () topicName
  let qos ← ensureNotNull qosArgument () qos
  ensureValidQos () qos
  if !qos.avoidRosNamespaceConventions then ensureValidTopicName env () topicName
  let _ ← ensureNotNull optionsArgument () options
  return (node, typeSupport, topicName)

/-- The memory for the handle, the topic's name and the implementation is allocated, in this order,
and the node is retrieved in between. -/
def allocateEndpoint (env : EndpointAnswers) (node : RmwNode) (handleMsg implMsg : String) :
    Except (Failure Unit) Unit := do
  if !env.allocateHandle then throw ⟨(), [handleMsg]⟩
  if !env.allocateCopy then
    throw ⟨(), ["failed to allocate memory for topic name", "failed to allocate"]⟩
  let _ ← uncheckedCast "failed to retrieve Node" () node.data
  if !env.allocateImpl then throw ⟨(), [implMsg, "failed to allocate"]⟩

def rmwCreatePublisher (env : EndpointAnswers) (mw : CreationAnswers) (rmwNode : Option RmwNode)
    (typeSupport : Option (TypeSupport M)) (topicName : Option String) (qos : Option QosProfile)
    (publisherOptions : Option Unit) : Except (Failure Unit) (RmwPublisher M) := do
  let (node, typeSupport, topicName) ← checkEndpoint env rmwNode typeSupport topicName "qos" qos
    "publisher_options" publisherOptions
  allocateEndpoint env node "failed to allocate memory for rmw_publisher_t"
    "failed to allocate memory for Publisher"
  match Publisher.create mw topicName typeSupport with
  | .error f => throw (f.wrap () "failed to construct Publisher")
  | .ok p => return ⟨rmwGetImplementationIdentifier, isPod typeSupport, some p⟩

def rmwCreateSubscription (env : EndpointAnswers) (mw : SubscriberCreationAnswers)
    (rmwNode : Option RmwNode) (typeSupport : Option (TypeSupport M)) (topicName : Option String)
    (qosProfile : Option QosProfile) (subscriptionOptions : Option Unit) :
    Except (Failure Unit) (RmwSubscription M) := do
  let (node, typeSupport, topicName) ← checkEndpoint env rmwNode typeSupport topicName
    "qos_profile" qosProfile "subscription_options" subscriptionOptions
  allocateEndpoint env node "failed to allocator memoery for rmw_subscription_t"
    "failed to allocate memory for Subscriber"
  match Subscriber.create mw topicName typeSupport with
  | .error f => throw (f.wrap () "failed to construct Subscriber")
  | .ok s => return ⟨rmwGetImplementationIdentifier, isPod typeSupport, some s⟩

def rmwDestroyNode (rmwNode : Option RmwNode) : Except (Failure RmwRet) Unit :=
  ensureHandle "rmw_node" (rmwNode.map (·.implementationIdentifier))

def rmwDestroyPublisher (rmwNode : Option RmwNode) (rmwPublisher : Option (RmwPublisher M)) :
    Except (Failure RmwRet) Unit := do
  ensureHandle "rmw_node" (rmwNode.map (·.implementationIdentifier))
  ensureHandle "rmw_publisher" (rmwPublisher.map (·.implementationIdentifier))

def rmwDestroySubscription (rmwNode : Option RmwNode)
    (rmwSubscription : Option (RmwSubscription M)) : Except (Failure RmwRet) Unit := do
  ensureHandle "rmw_node" (rmwNode.map (·.implementationIdentifier))
  ensureHandle "rmw_subscription" (rmwSubscription.map (·.implementationIdentifier))

section Created

variable {env : EndpointAnswers} {rmwNode : Option RmwNode} {typeSupport : TypeSupport M}
  {topicName : Option String} {qos : Option QosProfile} {options : Option Unit}

theorem checkEndpoint_typeSupport {qosArgument optionsArgument : String} {node : RmwNode}
    {typeSupport' : TypeSupport M} {topicName' : String}
    (h : checkEndpoint env rmwNode (some typeSupport) topicName qosArgument qos optionsArgument
      options = .ok (node, typeSupport', topicName')) : typeSupport' = typeSupport := by
  simp only [checkEndpoint, bind_eq_ok, ensureNotNull_eq_ok, Option.some_inj] at h
  obtain ⟨_, -, _, -, _, -, _, -, _, rfl, _, -, _, -, q, -, _, -, h⟩ := h
  split at h
  · simp only [bind_eq_ok, pure, Except.pure, Except.ok.injEq, Prod.mk.injEq] at h
    obtain ⟨_, -, _, -, -, rfl, -⟩ := h
    rfl
  · simp only [bind_eq_ok, pure, Except.pure, Except.ok.injEq, Prod.mk.injEq] at h
    obtain ⟨_, -, -, rfl, -⟩ := h
    rfl

theorem rmwCreatePublisher_ok {mw : CreationAnswers} {h : RmwPublisher M}
    (hok : rmwCreatePublisher env mw rmwNode (some typeSupport) topicName qos options = .ok h) :
    ∃ topic p, Publisher.create mw topic typeSupport = .ok p ∧ h = publisherHandle p := by
  simp only [rmwCreatePublisher, bind_eq_ok, Prod.exists] at hok
  obtain ⟨node, typeSupport', topic, hcheck, _, -, hok⟩ := hok
  obtain rfl := checkEndpoint_typeSupport hcheck
  cases hp : Publisher.create mw topic typeSupport' with
  | error f => simp [hp, throw, throwThe, MonadExceptOf.throw] at hok
  | ok p =>
    simp only [hp, pure, Except.pure, Except.ok.injEq] at hok
    refine ⟨topic, p, hp, ?_⟩
    rw [← hok, publisherHandle, Publisher.create_ok hp]

theorem rmwCreateSubscription_ok {mw : SubscriberCreationAnswers} {h : RmwSubscription M}
    (hok : rmwCreateSubscription env mw rmwNode (some typeSupport) topicName qos options = .ok h) :
    ∃ topic s, Subscriber.create mw topic typeSupport = .ok s ∧ h = subscriptionHandle s := by
  simp only [rmwCreateSubscription, bind_eq_ok, Prod.exists] at hok
  obtain ⟨node, typeSupport', topic, hcheck, _, -, hok⟩ := hok
  obtain rfl := checkEndpoint_typeSupport hcheck
  cases hs : Subscriber.create mw topic typeSupport' with
  | error f => simp [hs, throw, throwThe, MonadExceptOf.throw] at hok
  | ok s =>
    simp only [hs, pure, Except.pure, Except.ok.injEq] at hok
    refine ⟨topic, s, hs, ?_⟩
    rw [← hok, subscriptionHandle, Subscriber.create_ok hs]

end Created

end RmwIceoryx2.Rmw
