import RmwIceoryx2.Library.Ledger
import RmwIceoryx2.Rmw.Context
import RmwIceoryx2.Rmw.Endpoint

namespace RmwIceoryx2.Rmw

open RmwIceoryx2.Common RmwIceoryx2.Runtime RmwIceoryx2.Message RmwIceoryx2.Library

/-- A block of memory, or an object that was constructed in it, by its address. -/
inductive Resource
  | block (address : ℕ)
  | object (address : ℕ)
  deriving DecidableEq, Repr

abbrev Heap := Ledger Resource

namespace Heap

def allocate (heap : Heap) (ptr : ℕ) : Heap := heap.acquire (.block ptr)

def strdup (heap : Heap) (ptr : Option ℕ) : Heap :=
  match ptr with
  | none => heap
  | some ptr => heap.allocate ptr

def construct (heap : Heap) (ptr : ℕ) : Heap := heap.acquire (.object ptr)

def free (heap : Heap) (ptr : ℕ) : Heap := heap.release (.block ptr)

def deallocate (heap : Heap) (ptr : Option ℕ) : Heap :=
  match ptr with
  | none => heap
  | some ptr => heap.free ptr

def destruct (heap : Heap) (ptr : Option ℕ) : Heap :=
  match ptr with
  | none => heap
  | some ptr => heap.release (.object ptr)

variable (heap : Heap) (ptr ptr' : ℕ)

@[simp] theorem free_allocate : (heap.allocate ptr).free ptr = heap := Ledger.release_acquire _ _

@[simp] theorem free_allocate_allocate :
    ((heap.allocate ptr).allocate ptr').free ptr = heap.allocate ptr' :=
  Ledger.release_acquire_acquire _ _ _

@[simp] theorem deallocate_none : heap.deallocate none = heap := rfl

@[simp] theorem deallocate_some : heap.deallocate (some ptr) = heap.free ptr := rfl

@[simp] theorem destruct_construct : (heap.construct ptr).destruct (some ptr) = heap :=
  Ledger.release_acquire _ _

@[simp] theorem balance_allocate : (heap.allocate ptr).balance = heap.balance + 1 :=
  Ledger.balance_acquire _ _

@[simp] theorem balance_free : (heap.free ptr).balance = heap.balance - 1 :=
  Ledger.balance_release _ _

@[simp] theorem balance_destruct_some : (heap.destruct (some ptr)).balance = heap.balance - 1 :=
  Ledger.balance_release _ _

end Heap

structure HandleAllocations where
  handle : Option ℕ
  impl : Option ℕ

structure HandleMemory where
  handle : ℕ
  impl : ℕ
  deriving DecidableEq, Repr

/-- What a guard condition and a wait set do with the memory while they are created; `construction`
tells if the constructor succeeds. -/
def createHandle (heap : Heap) (memory : HandleAllocations) (construction : Except Stale Bool) :
    Except Stale (Heap × Option HandleMemory) :=
  match memory.handle with
  | none => .ok (heap, none)
  | some handle =>
    let heap := heap.allocate handle
    match memory.impl with
    | none => .ok (heap.free handle, none)
    | some impl =>
      let heap := heap.allocate impl
      match construction with
      | .error stale => .error stale
      | .ok false =>
        .ok (((((heap.construct impl).destruct (some impl)).deallocate (some impl)).free handle),
          none)
      | .ok true => .ok (heap.construct impl, some ⟨handle, impl⟩)

def rmwCreateGuardConditionMemory (env : GuardConditionEnv) (memory : HandleAllocations)
    (heap : Heap) (impls : Impls) (rmwContext : Option RmwContext) :
    Except Stale (Heap × Option HandleMemory) :=
  match checkCreateGuardCondition rmwContext with
  | .error _ => .ok (heap, none)
  | .ok impl => createHandle heap memory ((deref impls impl).map fun context ↦
      (GuardCondition.create env.mw context).2.isOk)

def rmwCreateWaitSetMemory (env : WaitSetEnv) (memory : HandleAllocations) (heap : Heap)
    (impls : Impls) (rmwContext : Option RmwContext) : Except Stale (Heap × Option HandleMemory) :=
  match checkCreateWaitSet rmwContext with
  | .error _ => .ok (heap, none)
  | .ok impl => createHandle heap memory ((deref impls impl).map fun _ ↦ env.waitset.isOk)

structure EndpointAllocations where
  handle : Option ℕ
  topicName : Option ℕ
  impl : Option ℕ

structure EndpointMemory where
  handle : ℕ
  topicName : ℕ
  impl : ℕ
  deriving DecidableEq, Repr

/-- What a publisher and a subscription do with the memory while they are created, past the
checks. -/
def createEndpoint (heap : Heap) (memory : EndpointAllocations) (node : RmwNode)
    (constructed : Bool) : Heap × Option EndpointMemory :=
  match memory.handle with
  | none => (heap, none)
  | some handle =>
    let heap := heap.allocate handle
    match memory.topicName with
    | none => (heap.free handle, none)
    | some topicName =>
      let heap := heap.allocate topicName
      match node.data with
      | none => (heap.free handle, none)
      | some () =>
        match memory.impl with
        | none => (heap.free handle, none)
        | some impl =>
          let heap := (heap.allocate impl).construct impl
          if !constructed then
            (((heap.destruct (some impl)).deallocate (some impl)).free handle, none)
          else (heap, some ⟨handle, topicName, impl⟩)

variable {M : Type}

def rmwCreatePublisherMemory (env : EndpointAnswers) (mw : CreationAnswers)
    (memory : EndpointAllocations) (heap : Heap) (rmwNode : Option RmwNode)
    (typeSupport : Option (TypeSupport M)) (topicName : Option String) (qos : Option QosProfile)
    (publisherOptions : Option Unit) : Heap × Option EndpointMemory :=
  match checkEndpoint env rmwNode typeSupport topicName "qos" qos "publisher_options"
      publisherOptions with
  | .error _ => (heap, none)
  | .ok (node, typeSupport, topicName) =>
    createEndpoint heap memory node (Publisher.create mw topicName typeSupport).isOk

def rmwCreateSubscriptionMemory (env : EndpointAnswers) (mw : SubscriberCreationAnswers)
    (memory : EndpointAllocations) (heap : Heap) (rmwNode : Option RmwNode)
    (typeSupport : Option (TypeSupport M)) (topicName : Option String)
    (qosProfile : Option QosProfile) (subscriptionOptions : Option Unit) :
    Heap × Option EndpointMemory :=
  match checkEndpoint env rmwNode typeSupport topicName "qos_profile" qosProfile
      "subscription_options" subscriptionOptions with
  | .error _ => (heap, none)
  | .ok (node, typeSupport, topicName) =>
    createEndpoint heap memory node (Subscriber.create mw topicName typeSupport).isOk

/-- The pointers in `rmw_node_t` to what a node owns. -/
structure NodeFields where
  name : Option ℕ
  ns : Option ℕ
  data : Option ℕ
  deriving DecidableEq, Repr

/-- The answers to the allocations; `fresh` is what the memory of the handle holds before it is
written to. -/
structure NodeAllocations where
  handle : Option ℕ
  name : Option ℕ
  ns : Option ℕ
  impl : Option ℕ
  fresh : NodeFields

structure NodeMemory where
  handle : ℕ
  fields : NodeFields
  deriving DecidableEq, Repr

def cleanupNode (heap : Heap) (node : NodeMemory) : Heap :=
  let heap := (heap.deallocate node.fields.name).deallocate node.fields.ns
  match node.fields.data with
  | none => heap.free node.handle
  | some data =>
    ((heap.destruct (some data)).deallocate (some data)).free node.handle

/-- What a node does with the memory while it is created, past the checks. -/
def createNode (heap : Heap) (memory : NodeAllocations) (construction : Except Stale Bool) :
    Except Stale (Heap × Option NodeMemory) :=
  match memory.handle with
  | none => .ok (heap, none)
  | some handle =>
    let heap := heap.allocate handle
    let fields := memory.fresh
    match memory.name with
    | none => .ok (cleanupNode heap ⟨handle, fields⟩, none)
    | some name =>
      let heap := heap.allocate name
      let fields := { fields with name := some name }
      match memory.ns with
      | none => .ok (cleanupNode heap ⟨handle, fields⟩, none)
      | some ns =>
        let heap := heap.allocate ns
        let fields := { fields with ns := some ns }
        match memory.impl with
        | none => .ok (cleanupNode heap ⟨handle, fields⟩, none)
        | some impl =>
          let heap := heap.allocate impl
          match construction with
          | .error stale => .error stale
          | .ok false =>
            let heap := ((heap.construct impl).destruct (some impl)).deallocate (some impl)
            .ok (cleanupNode heap ⟨handle, fields⟩, none)
          | .ok true =>
            .ok (heap.construct impl, some ⟨handle, { fields with data := some impl }⟩)

def rmwCreateNodeMemory (env : NodeEnv) (memory : NodeAllocations) (heap : Heap) (impls : Impls)
    (rmwContext : Option RmwContext) (name ns : Option String) :
    Except Stale (Heap × Option NodeMemory) :=
  match checkCreateNode env rmwContext name ns with
  | .error _ => .ok (heap, none)
  | .ok (impl, name, ns) => createNode heap memory ((deref impls impl).map fun context ↦
      (Node.create env.handle env.mw context name ns).2.isOk)

def checkGetGraphGuardCondition (rmwNode : Option RmwNode) : Except (Failure Unit) RmwNode := do
  let node ← ensureNotNull "rmw_node" () rmwNode
  let impl ← ensureNotNull "rmw_node->context" () node.context
  let _ ← ensureNotNull "rmw_node->context->impl" () impl
  ensureImplementation "rmw_node->implementation_identifier" () node.implementationIdentifier
  return node

def rmwNodeGetGraphGuardConditionMemory (handle : Option ℕ) (heap : Heap)
    (rmwNode : Option RmwNode) : Heap × Option ℕ :=
  match checkGetGraphGuardCondition rmwNode with
  | .error _ => (heap, none)
  | .ok node =>
    match handle with
    | none => (heap, none)
    | some handle =>
      match node.data with
      | none => (heap.allocate handle, none)
      | some () => (heap.allocate handle, some handle)

/-- What the calls that destroy a publisher, a subscription and a guard condition do with the memory,
past the checks. -/
def destroyHandle (heap : Heap) (memory : HandleMemory) : Heap :=
  ((heap.destruct (some memory.impl)).deallocate (some memory.impl)).free memory.handle

def rmwDestroyPublisherMemory (heap : Heap) (memory : EndpointMemory) : Heap :=
  destroyHandle heap ⟨memory.handle, memory.impl⟩

def rmwDestroySubscriptionMemory (heap : Heap) (memory : EndpointMemory) : Heap :=
  destroyHandle heap ⟨memory.handle, memory.impl⟩

def rmwDestroyGuardConditionMemory (heap : Heap) (memory : HandleMemory) : Heap :=
  destroyHandle heap memory

/-- The handle of a wait set is not freed. -/
def rmwDestroyWaitSetMemory (heap : Heap) (memory : HandleMemory) : Heap :=
  (heap.destruct (some memory.impl)).deallocate (some memory.impl)

def rmwDestroyNodeMemory (heap : Heap) (node : NodeMemory) : Heap := cleanupNode heap node

section Answers

/-! What the calls return depends on an allocation only in that it may fail. -/

def HandleAllocations.guardCondition (memory : HandleAllocations) (env : GuardConditionEnv) :
    GuardConditionEnv :=
  { env with allocateHandle := memory.handle, allocateImpl := memory.impl.isSome }

def HandleAllocations.waitSet (memory : HandleAllocations) (env : WaitSetEnv) : WaitSetEnv :=
  { env with allocateHandle := memory.handle.isSome, allocateImpl := memory.impl.isSome }

def EndpointAllocations.endpoint (memory : EndpointAllocations) (env : EndpointAnswers) :
    EndpointAnswers :=
  { env with
    allocateHandle := memory.handle.isSome
    allocateCopy := memory.topicName.isSome
    allocateImpl := memory.impl.isSome }

def NodeAllocations.node (memory : NodeAllocations) (env : NodeEnv) : NodeEnv :=
  { env with
    allocateHandle := memory.handle
    allocateName := memory.name.isSome
    allocateNamespace := memory.ns.isSome
    allocateImpl := memory.impl.isSome }

variable {heap : Heap} {impls : Impls} {rmwContext : Option RmwContext}

theorem rmwCreateGuardConditionMemory_isSome (env : GuardConditionEnv)
    (memory : HandleAllocations) :
    (rmwCreateGuardConditionMemory env memory heap impls rmwContext).map (·.2.isSome) =
      (rmwCreateGuardCondition (memory.guardCondition env) impls rmwContext).map (·.2.isOk) := by
  simp only [rmwCreateGuardConditionMemory, rmwCreateGuardCondition, createHandle,
    HandleAllocations.guardCondition]
  cases checkCreateGuardCondition rmwContext with
  | error f => rfl
  | ok ptr =>
    obtain ⟨_ | handle, _ | impl⟩ := memory
    · rfl
    · rfl
    · rfl
    · simp only [Option.isSome_some, Bool.not_true, Bool.false_eq_true, if_false]
      cases deref impls ptr with
      | error stale => rfl
      | ok context =>
        cases hcreate : GuardCondition.create env.mw context with
        | mk context' r => cases r <;> simp [Except.map, hcreate, Except.isOk, Except.toBool]

theorem rmwCreateWaitSetMemory_isSome (env : WaitSetEnv) (memory : HandleAllocations) :
    (rmwCreateWaitSetMemory env memory heap impls rmwContext).map (·.2.isSome) =
      (rmwCreateWaitSet (memory.waitSet env) impls rmwContext).map Except.isOk := by
  simp only [rmwCreateWaitSetMemory, rmwCreateWaitSet, createHandle, HandleAllocations.waitSet]
  cases checkCreateWaitSet rmwContext with
  | error f => rfl
  | ok ptr =>
    obtain ⟨_ | handle, _ | impl⟩ := memory
    · rfl
    · rfl
    · rfl
    · simp only [Option.isSome_some, Bool.not_true, Bool.false_eq_true, if_false]
      cases deref impls ptr with
      | error stale => rfl
      | ok context => cases hwaitset : env.waitset <;> simp [Except.map, Except.isOk, Except.toBool]

theorem rmwCreateNodeMemory_isSome (env : NodeEnv) (memory : NodeAllocations)
    (name ns : Option String) :
    (rmwCreateNodeMemory env memory heap impls rmwContext name ns).map (·.2.isSome) =
      (rmwCreateNode (memory.node env) impls rmwContext name ns).map (·.2.isOk) := by
  have hcheck : checkCreateNode (memory.node env) rmwContext name ns =
    checkCreateNode env rmwContext name ns := rfl
  rw [rmwCreateNodeMemory, rmwCreateNode, hcheck]
  cases checkCreateNode env rmwContext name ns with
  | error f => rfl
  | ok checked =>
    obtain ⟨ptr, name', ns'⟩ := checked
    simp only [createNode, allocateNode, NodeAllocations.node]
    obtain ⟨_ | handle, _ | namePtr, _ | nsPtr, _ | impl, fresh⟩ := memory
    all_goals try rfl
    simp only [Option.isSome_some, Bool.not_true, Bool.false_eq_true, if_false]
    cases deref impls ptr with
    | error stale => rfl
    | ok context =>
      cases hcreate : Node.create env.handle env.mw context name' ns' with
      | mk context' r => cases r <;> simp [Except.map, hcreate, Except.isOk, Except.toBool]

theorem createEndpoint_isSome (heap : Heap) (env : EndpointAnswers) (memory : EndpointAllocations)
    (node : RmwNode) (handleMsg implMsg : String) (constructed : Bool) :
    (createEndpoint heap memory node constructed).2.isSome =
      ((allocateEndpoint (memory.endpoint env) node handleMsg implMsg).isOk && constructed) := by
  obtain ⟨_ | handle, _ | topicName, _ | impl⟩ := memory
  all_goals cases hdata : node.data <;> cases constructed
  all_goals simp [createEndpoint, allocateEndpoint, EndpointAllocations.endpoint, uncheckedCast,
    hdata, Except.isOk, Except.toBool, bind, Except.bind, throw, throwThe,
    MonadExceptOf.throw, pure, Except.pure]

variable {rmwNode : Option RmwNode} {typeSupport : Option (TypeSupport M)}
  {topicName : Option String} {qos : Option QosProfile} {options : Option Unit}

theorem rmwCreatePublisherMemory_isSome (env : EndpointAnswers) (mw : CreationAnswers)
    (memory : EndpointAllocations) :
    (rmwCreatePublisherMemory env mw memory heap rmwNode typeSupport topicName qos
      options).2.isSome =
      (rmwCreatePublisher (memory.endpoint env) mw rmwNode typeSupport topicName qos
        options).isOk := by
  have hcheck : checkEndpoint (memory.endpoint env) rmwNode typeSupport topicName "qos" qos
    "publisher_options" options = checkEndpoint env rmwNode typeSupport topicName "qos" qos
      "publisher_options" options := rfl
  rw [rmwCreatePublisherMemory, rmwCreatePublisher, hcheck]
  cases checkEndpoint env rmwNode typeSupport topicName "qos" qos "publisher_options" options with
  | error f => rfl
  | ok checked =>
    obtain ⟨node, typeSupport', topicName'⟩ := checked
    have hmemory := createEndpoint_isSome heap env memory node
      "failed to allocate memory for rmw_publisher_t" "failed to allocate memory for Publisher"
      (Publisher.create mw topicName' typeSupport').isOk
    simp only [hmemory, bind, Except.bind]
    cases allocateEndpoint (memory.endpoint env) node
        "failed to allocate memory for rmw_publisher_t"
        "failed to allocate memory for Publisher" with
    | error f => rfl
    | ok u => cases Publisher.create mw topicName' typeSupport' <;> rfl

theorem rmwCreateSubscriptionMemory_isSome (env : EndpointAnswers)
    (mw : SubscriberCreationAnswers) (memory : EndpointAllocations) :
    (rmwCreateSubscriptionMemory env mw memory heap rmwNode typeSupport topicName qos
      options).2.isSome =
      (rmwCreateSubscription (memory.endpoint env) mw rmwNode typeSupport topicName qos
        options).isOk := by
  have hcheck : checkEndpoint (memory.endpoint env) rmwNode typeSupport topicName "qos_profile" qos
    "subscription_options" options = checkEndpoint env rmwNode typeSupport topicName "qos_profile"
      qos "subscription_options" options := rfl
  rw [rmwCreateSubscriptionMemory, rmwCreateSubscription, hcheck]
  cases checkEndpoint env rmwNode typeSupport topicName "qos_profile" qos "subscription_options"
      options with
  | error f => rfl
  | ok checked =>
    obtain ⟨node, typeSupport', topicName'⟩ := checked
    have hmemory := createEndpoint_isSome heap env memory node
      "failed to allocator memoery for rmw_subscription_t" "failed to allocate memory for Subscriber"
      (Subscriber.create mw topicName' typeSupport').isOk
    simp only [hmemory, bind, Except.bind]
    cases allocateEndpoint (memory.endpoint env) node
        "failed to allocator memoery for rmw_subscription_t"
        "failed to allocate memory for Subscriber" with
    | error f => rfl
    | ok u => cases Subscriber.create mw topicName' typeSupport' <;> rfl

end Answers

section Created

variable {heap heap' : Heap}

theorem createHandle_ok {memory : HandleAllocations} {construction : Except Stale Bool}
    {m : HandleMemory} (h : createHandle heap memory construction = .ok (heap', some m)) :
    memory.handle = some m.handle ∧
      heap' = ((heap.allocate m.handle).allocate m.impl).construct m.impl := by
  simp only [createHandle] at h
  repeat' split at h
  all_goals cases h
  exact ⟨‹_›, rfl⟩

theorem createEndpoint_ok {memory : EndpointAllocations} {node : RmwNode} {constructed : Bool}
    {m : EndpointMemory} (h : createEndpoint heap memory node constructed = (heap', some m)) :
    memory.topicName = some m.topicName ∧ heap' =
      (((heap.allocate m.handle).allocate m.topicName).allocate m.impl).construct m.impl := by
  simp only [createEndpoint] at h
  repeat' split at h
  all_goals cases h
  exact ⟨‹_›, rfl⟩

theorem createNode_ok {memory : NodeAllocations} {construction : Except Stale Bool}
    {m : NodeMemory} (h : createNode heap memory construction = .ok (heap', some m)) :
    ∃ name ns impl, m.fields = ⟨some name, some ns, some impl⟩ ∧
      heap' = ((((heap.allocate m.handle).allocate name).allocate ns).allocate impl).construct
        impl := by
  simp only [createNode] at h
  repeat' split at h
  all_goals cases h
  exact ⟨_, _, _, rfl, rfl⟩

end Created

end RmwIceoryx2.Rmw
