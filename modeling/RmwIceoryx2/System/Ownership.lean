import RmwIceoryx2.Library.Execution
import RmwIceoryx2.Rmw.InitOptions

namespace RmwIceoryx2.System.Ownership

open RmwIceoryx2.Common RmwIceoryx2.Runtime RmwIceoryx2.Message RmwIceoryx2.Rmw
open RmwIceoryx2.Library RmwIceoryx2.Library.Execution

inductive Entity
  | node (context : ℕ) (memory : NodeMemory)
  | publisher (memory : EndpointMemory)
  | subscription (memory : EndpointMemory)
  | guardCondition (memory : HandleMemory)
  | waitSet (memory : HandleMemory)
  deriving DecidableEq, Repr

/-- The options and contexts that the caller provides the memory for, and what was created in them;
`none` is left of what was destroyed. -/
structure World where
  heap : Heap
  impls : Impls
  options : List InitOptions
  contexts : List RmwContext
  entities : List (Option Entity)

def World.initial (options contexts : ℕ) : World :=
  ⟨.empty _, [], List.replicate options zeroInitOptions, List.replicate contexts zeroContext, []⟩

inductive Op (M : Type)
  | initOptionsInit (valid : Allocator → Bool) (enclave : Option ℕ) (options : ℕ)
    (allocator : Allocator)
  | initOptionsCopy (src dst : ℕ)
  | initOptionsFini (valid : Allocator → Bool) (options : ℕ)
  | editOptions (options instanceId : ℕ) (enclave : Option String)
  | init (env : InitAnswers) (enclave : Option ℕ) (options context : ℕ)
  | shutdown (context : ℕ)
  | contextFini (context : ℕ)
  | createNode (env : NodeEnv) (memory : NodeAllocations) (context : ℕ) (name ns : Option String)
  | createPublisher (env : EndpointAnswers) (mw : CreationAnswers) (memory : EndpointAllocations)
    (node : ℕ) (typeSupport : Option (TypeSupport M)) (topicName : Option String)
    (qos : Option QosProfile) (options : Option Unit)
  | createSubscription (env : EndpointAnswers) (mw : SubscriberCreationAnswers)
    (memory : EndpointAllocations) (node : ℕ) (typeSupport : Option (TypeSupport M))
    (topicName : Option String) (qos : Option QosProfile) (options : Option Unit)
  | createGuardCondition (env : GuardConditionEnv) (memory : HandleAllocations) (context : ℕ)
  | createWaitSet (env : WaitSetEnv) (memory : HandleAllocations) (context : ℕ)
  | getGraphGuardCondition (handle : Option ℕ) (node : ℕ)
  | use
  | destroyNode (node : ℕ)
  | destroyPublisher (node publisher : ℕ)
  | destroySubscription (node subscription : ℕ)
  | destroyGuardCondition (guardCondition : ℕ)
  | destroyWaitSet (waitSet : ℕ)

variable {M : Type}

def World.entity (w : World) (entity : ℕ) : Option Entity := (w.entities[entity]?).join

/-- A node's handle, which leads to its context as it is at the time of the call. -/
def World.node (w : World) (node : ℕ) : Option RmwNode :=
  match w.entity node with
  | some (.node context _) => some ⟨rmwGetImplementationIdentifier,
      (w.contexts[context]?).map fun c ↦ c.impl.map fun _ ↦ (), some ()⟩
  | _ => none

def World.withOptions (w : World) (options : ℕ) (r : Except (Failure RmwRet) InitOptions) : World :=
  match r with
  | .error _ => w
  | .ok o => { w with options := w.options.set options o }

def World.withContext (w : World) (context : ℕ) (heap : Heap) (out : ContextOutcome) : World :=
  { w with
    heap := heap
    impls := out.impls
    contexts := w.contexts.set context (out.context.getD zeroContext) }

def World.add (w : World) (heap : Heap) (entity : Entity) : World :=
  { w with heap := heap, entities := w.entities ++ [some entity] }

def World.remove (w : World) (heap : Heap) (entity : ℕ) : World :=
  { w with heap := heap, entities := w.entities.set entity none }

def step (w : World) : Op M → Option World
  | .initOptionsInit valid enclave options allocator =>
    let r := rmwInitOptionsInit valid enclave w.heap w.options[options]? allocator
    some ({ w with heap := r.1 }.withOptions options r.2)
  | .initOptionsCopy src dst =>
    some (w.withOptions dst (rmwInitOptionsCopy w.options[src]? w.options[dst]?))
  | .initOptionsFini valid options =>
    some (w.withOptions options (rmwInitOptionsFini valid w.options[options]?))
  | .editOptions options instanceId enclave =>
    some { w with options := w.options.modify options fun o ↦
      { o with options := { o.options with instanceId := instanceId, enclave := enclave } } }
  | .init env enclave options context =>
    let o := (w.options[options]?).map (·.options)
    some (w.withContext context
      (rmwInitMemory env enclave w.heap w.impls o w.contexts[context]?)
      (rmwInit env w.impls o w.contexts[context]?))
  | .shutdown context =>
    some (w.withContext context (rmwShutdownMemory w.heap w.contexts[context]?)
      (rmwShutdown w.impls w.contexts[context]?))
  | .contextFini context =>
    some (w.withContext context w.heap (rmwContextFini w.impls w.contexts[context]?))
  | .createNode env memory context name ns =>
    match rmwCreateNodeMemory env memory w.heap w.impls w.contexts[context]? name ns,
      rmwCreateNode (memory.node env) w.impls w.contexts[context]? name ns with
    | .ok (heap, some m), .ok (impls, .ok _) =>
      some ({ w with impls := impls }.add heap (.node context m))
    | _, _ => none
  | .createPublisher env mw memory node typeSupport topicName qos options =>
    match rmwCreatePublisherMemory env mw memory w.heap (w.node node) typeSupport topicName qos
        options with
    | (heap, some m) => some (w.add heap (.publisher m))
    | _ => none
  | .createSubscription env mw memory node typeSupport topicName qos options =>
    match rmwCreateSubscriptionMemory env mw memory w.heap (w.node node) typeSupport topicName qos
        options with
    | (heap, some m) => some (w.add heap (.subscription m))
    | _ => none
  | .createGuardCondition env memory context =>
    match rmwCreateGuardConditionMemory env memory w.heap w.impls w.contexts[context]?,
      rmwCreateGuardCondition (memory.guardCondition env) w.impls w.contexts[context]? with
    | .ok (heap, some m), .ok (impls, .ok _) =>
      some ({ w with impls := impls }.add heap (.guardCondition m))
    | _, _ => none
  | .createWaitSet env memory context =>
    match rmwCreateWaitSetMemory env memory w.heap w.impls w.contexts[context]? with
    | .ok (heap, some m) => some (w.add heap (.waitSet m))
    | _ => none
  | .getGraphGuardCondition handle node =>
    match rmwNodeGetGraphGuardConditionMemory handle w.heap (w.node node) with
    | (heap, some _) => some { w with heap := heap }
    | _ => none
  -- Publishing, taking, waiting and triggering allocate and free nothing.
  | .use => some w
  | .destroyNode node =>
    match w.entity node with
    | some (.node _ m) => some (w.remove (rmwDestroyNodeMemory w.heap m) node)
    | _ => none
  | .destroyPublisher node publisher =>
    match w.node node, w.entity publisher with
    | some _, some (.publisher m) => some (w.remove (rmwDestroyPublisherMemory w.heap m) publisher)
    | _, _ => none
  | .destroySubscription node subscription =>
    match w.node node, w.entity subscription with
    | some _, some (.subscription m) =>
      some (w.remove (rmwDestroySubscriptionMemory w.heap m) subscription)
    | _, _ => none
  | .destroyGuardCondition guardCondition =>
    match w.entity guardCondition with
    | some (.guardCondition m) =>
      some (w.remove (rmwDestroyGuardConditionMemory w.heap m) guardCondition)
    | _ => none
  | .destroyWaitSet waitSet =>
    match w.entity waitSet with
    | some (.waitSet m) => some (w.remove (rmwDestroyWaitSetMemory w.heap m) waitSet)
    | _ => none

def exec (w : World) (op : Op M) : World := (step w op).getD w

def Succeeds (w : World) (op : Op M) : Prop := (step w op).isSome

/-- Everything is destroyed or finalised. -/
structure World.Finished (w : World) : Prop where
  options : ∀ o ∈ w.options, o = zeroInitOptions
  contexts : ∀ c ∈ w.contexts, c = zeroContext
  entities : ∀ e ∈ w.entities, e = none

def blockAt : Option ℕ → Multiset Resource
  | none => 0
  | some ptr => {.block ptr}

/-- A block that a call allocates and that no call frees: a copy of an enclave or of a topic's name,
and the handle of a wait set or of a node's graph guard condition. -/
def lost (w : World) : Op M → Multiset Resource
  | .initOptionsInit valid enclave options allocator =>
    if (checkInitOptionsInit valid w.options[options]? allocator).isOk then blockAt enclave else 0
  | .init _ enclave options context =>
    if (checkInit ((w.options[options]?).map (·.options)) w.contexts[context]?).isOk then
      blockAt enclave
    else 0
  | .createPublisher _ _ memory _ _ _ _ _ => blockAt memory.topicName
  | .createSubscription _ _ memory _ _ _ _ _ => blockAt memory.topicName
  | .createWaitSet _ memory _ => blockAt memory.handle
  | .getGraphGuardCondition handle _ => blockAt handle
  | _ => 0

def LosesNothing (w : World) (op : Op M) : Prop := lost w op = 0

def implAt : Option ℕ → Multiset Resource
  | none => 0
  | some ptr => .object ptr ::ₘ {.block ptr}

/-- What the call that destroys the entity releases. -/
def Entity.owned : Entity → Multiset Resource
  | .node _ m => blockAt m.fields.name + (blockAt m.fields.ns +
      (implAt m.fields.data + {.block m.handle}))
  | .publisher m | .subscription m => implAt (some m.impl) + {.block m.handle}
  | .guardCondition m => implAt (some m.impl) + {.block m.handle}
  | .waitSet m => implAt (some m.impl)

def World.owned (w : World) : Multiset Resource :=
  (w.entities.map fun e ↦ (e.map Entity.owned).getD 0).sum +
    (w.contexts.map fun c ↦ implAt c.impl).sum

/-- Whatever is allocated is owned or was lost, and nothing was released twice. -/
def Accounted (w : World) (lost : Multiset Resource) : Prop := w.heap.Accounts w.owned lost

section Heap

variable {heap heap' : Heap} {owned lost : Multiset Resource}

theorem accounts_strdup (h : heap.Accounts owned lost) (ptr : Option ℕ) :
    (heap.strdup ptr).Accounts owned (blockAt ptr + lost) := by
  cases ptr with
  | none => simpa only [Heap.strdup, blockAt, zero_add] using h
  | some ptr =>
    rw [blockAt, Multiset.singleton_add]
    exact (h.acquire (.block ptr)).lose

theorem accounts_deallocate {ptr : Option ℕ} (h : heap.Accounts (blockAt ptr + owned) lost) :
    (heap.deallocate ptr).Accounts owned lost := by
  cases ptr with
  | none => simpa only [Heap.deallocate, blockAt, zero_add] using h
  | some ptr =>
    rw [blockAt, Multiset.singleton_add] at h
    exact h.release

theorem accounts_construct (h : heap.Accounts owned lost) (ptr : ℕ) :
    ((heap.allocate ptr).construct ptr).Accounts (implAt (some ptr) + owned) lost := by
  rw [implAt, Multiset.cons_add, Multiset.singleton_add]
  exact (h.acquire (.block ptr)).acquire (.object ptr)

theorem accounts_destruct {ptr : Option ℕ} (h : heap.Accounts (implAt ptr + owned) lost) :
    ((heap.destruct ptr).deallocate ptr).Accounts owned lost := by
  cases ptr with
  | none => simpa only [Heap.destruct, Heap.deallocate, implAt, zero_add] using h
  | some ptr =>
    rw [implAt, Multiset.cons_add, Multiset.singleton_add] at h
    exact h.release.release

theorem accounts_free {ptr : ℕ} (h : heap.Accounts ({.block ptr} + owned) lost) :
    (heap.free ptr).Accounts owned lost := by
  rw [Multiset.singleton_add] at h
  exact h.release

theorem accounts_allocate (h : heap.Accounts owned lost) (ptr : ℕ) :
    (heap.allocate ptr).Accounts ({.block ptr} + owned) lost := by
  rw [Multiset.singleton_add]
  exact h.acquire (.block ptr)

theorem accounts_destroyHandle {m : HandleMemory}
    (h : heap.Accounts (implAt (some m.impl) + {.block m.handle} + owned) lost) :
    (destroyHandle heap m).Accounts owned lost := by
  rw [add_assoc] at h
  exact accounts_free (accounts_destruct h)

theorem accounts_cleanupNode {context : ℕ} {m : NodeMemory}
    (h : heap.Accounts ((Entity.node context m).owned + owned) lost) :
    (cleanupNode heap m).Accounts owned lost := by
  obtain ⟨handle, name, ns, data⟩ := m
  simp only [Entity.owned, add_assoc] at h
  have hnames := accounts_destruct (accounts_deallocate (accounts_deallocate h))
  simp only [cleanupNode]
  cases data with
  | none => exact accounts_free hnames
  | some data => exact accounts_free hnames

end Heap

variable {w w' : World} {op : Op M} {k : Multiset Resource}

theorem owned_add (w : World) (heap : Heap) (e : Entity) :
    (w.add heap e).owned = e.owned + w.owned := by
  simp only [World.owned, World.add, List.map_append, List.sum_append, List.map_cons, List.map_nil,
    List.sum_cons, List.sum_nil, Option.map_some, Option.getD_some, add_zero]
  ac_rfl

theorem owned_remove {i : ℕ} {e : Entity} (h : w.entity i = some e) (heap : Heap) :
    w.owned = e.owned + (w.remove heap i).owned := by
  have hget : w.entities[i]? = some (some e) := Option.join_eq_some_iff.mp h
  have hsum := sum_map_set (fun e : Option Entity ↦ (e.map Entity.owned).getD 0) hget none
  simp only [Option.map_some, Option.map_none, Option.getD_some, Option.getD_none,
    zero_add] at hsum
  simp only [World.owned, World.remove, ← hsum, add_assoc]

theorem owned_context {i : ℕ} {c : RmwContext} (h : w.contexts[i]? = some c) :
    ∃ rest, w.owned = implAt c.impl + rest ∧ ∀ heap out, (w.withContext i heap out).owned =
      implAt (out.context.getD zeroContext).impl + rest := by
  have hset : ∀ c', implAt c.impl + ((w.contexts.set i c').map fun c ↦ implAt c.impl).sum =
      implAt c'.impl + (w.contexts.map fun c ↦ implAt c.impl).sum :=
    fun c' ↦ sum_map_set (fun c : RmwContext ↦ implAt c.impl) h c'
  have hrest : (w.contexts.map fun c ↦ implAt c.impl).sum = implAt c.impl +
      ((w.contexts.set i zeroContext).map fun c ↦ implAt c.impl).sum := by
    rw [hset zeroContext]
    exact (zero_add _).symm
  refine ⟨(w.entities.map fun e ↦ (e.map Entity.owned).getD 0).sum +
    ((w.contexts.set i zeroContext).map fun c ↦ implAt c.impl).sum, ?_, fun heap out ↦ ?_⟩
  · rw [World.owned, hrest, add_left_comm]
  · have hnew := hset (out.context.getD zeroContext)
    rw [hrest, add_left_comm] at hnew
    simp only [World.owned, World.withContext, add_left_cancel hnew]
    rw [add_left_comm]

section Context

variable {heap : Heap} {impls : Impls} {context : RmwContext} {owned lost : Multiset Resource}

theorem accounts_init (h : heap.Accounts (implAt context.impl + owned) lost) (env : InitAnswers)
    (enclave : Option ℕ) (options : Option RmwInitOptions) :
    (rmwInitMemory env enclave heap impls options (some context)).Accounts
      (implAt ((rmwInit env impls options (some context)).context.getD zeroContext).impl + owned)
      ((if (checkInit options (some context)).isOk then blockAt enclave else 0) + lost) := by
  rw [rmwInitMemory, rmwInit]
  cases hcheck : checkInit options (some context) with
  | error f => simpa [Except.isOk, Except.toBool] using h
  | ok checked =>
    obtain ⟨options', context'⟩ := checked
    obtain rfl : context' = context := checkInit_ok hcheck
    have himpl := (checkInit_uninitialised hcheck).2
    have hcopied := accounts_strdup h enclave
    simp only [Except.isOk, Except.toBool, if_true]
    split
    · exact hcopied
    · rw [himpl, implAt, zero_add] at hcopied
      have hbuilt := accounts_construct hcopied impls.length
      cases Context.create env.handle options'.instanceId with
      | error f =>
        simp only [Option.getD_some, himpl, implAt, zero_add]
        exact accounts_destruct hbuilt
      | ok impl => exact hbuilt

theorem accounts_shutdown (h : heap.Accounts (implAt context.impl + owned) lost) :
    (rmwShutdownMemory heap (some context)).Accounts
      (implAt ((rmwShutdown impls (some context)).context.getD zeroContext).impl + owned) lost := by
  rw [rmwShutdownMemory, rmwShutdown]
  cases hcheck : checkInitialised (some context) with
  | error f => exact h
  | ok context' =>
    obtain rfl := checkInitialised_ok hcheck
    have hreleased := accounts_destruct h
    obtain ⟨instanceId, identifier, _ | ptr⟩ := context'
    · exact h
    · simpa only [Option.getD_some, implAt, zero_add] using hreleased

theorem implAt_contextFini (impls : Impls) (context : RmwContext) :
    implAt ((rmwContextFini impls (some context)).context.getD zeroContext).impl =
      implAt context.impl := by
  rw [rmwContextFini]
  cases hcheck : checkInitialised (some context) with
  | error f => rfl
  | ok context' =>
    obtain rfl := checkInitialised_ok hcheck
    simp only
    cases hfini : ensureNotInitialized "rmw_context" RmwRet.invalidArgument context'.impl with
    | error f => rfl
    | ok u =>
      rw [ensureNotInitialized_eq_ok.mp hfini]
      rfl

end Context

theorem accounted_initOptionsInit (h : Accounted w k) (valid : Allocator → Bool)
    (enclave : Option ℕ) (initOptions : Option InitOptions) (allocator : Allocator) :
    (rmwInitOptionsInit valid enclave w.heap initOptions allocator).1.Accounts w.owned
      ((if (checkInitOptionsInit valid initOptions allocator).isOk then blockAt enclave else 0) +
        k) := by
  rw [rmwInitOptionsInit]
  cases checkInitOptionsInit valid initOptions allocator with
  | error f => simpa [Except.isOk, Except.toBool, Accounted] using h
  | ok u => exact accounts_strdup h enclave

theorem accounted_withOptions (h : Accounted w k) (i : ℕ) (r : Except (Failure RmwRet) InitOptions) :
    Accounted (w.withOptions i r) k := by
  cases r <;> exact h

theorem accounted_withContext_none {i : ℕ} (h : Accounted w k) (hnone : w.contexts[i]? = none)
    (out : ContextOutcome) : Accounted (w.withContext i w.heap out) k := by
  have hset : w.contexts.set i (out.context.getD zeroContext) = w.contexts :=
    List.set_eq_of_length_le (List.getElem?_eq_none_iff.mp hnone)
  simp only [Accounted, World.owned, World.withContext, hset]
  exact h

/-- What a call does to a context that exists depends on nothing else that is owned. -/
theorem accounted_withContext {i : ℕ} {c : RmwContext} {heap : Heap} {out : ContextOutcome}
    {k' : Multiset Resource} (h : Accounted w k) (hget : w.contexts[i]? = some c)
    (hcall : ∀ rest, w.heap.Accounts (implAt c.impl + rest) k →
      heap.Accounts (implAt (out.context.getD zeroContext).impl + rest) k') :
    Accounted (w.withContext i heap out) k' := by
  obtain ⟨rest, howned, hset⟩ := owned_context hget
  rw [Accounted, howned] at h
  rw [Accounted, hset]
  exact hcall rest h

theorem accounted_init (h : Accounted w k) (env : InitAnswers) (enclave : Option ℕ)
    (options : Option RmwInitOptions) (i : ℕ) :
    Accounted (w.withContext i (rmwInitMemory env enclave w.heap w.impls options w.contexts[i]?)
      (rmwInit env w.impls options w.contexts[i]?))
        ((if (checkInit options w.contexts[i]?).isOk then blockAt enclave else 0) + k) := by
  cases hget : w.contexts[i]? with
  | none =>
    cases hcheck : checkInit options none with
    | error f =>
      simp only [rmwInitMemory, hcheck, Except.isOk, Except.toBool, Bool.false_eq_true, if_false,
        zero_add]
      exact accounted_withContext_none h hget _
    | ok checked =>
      simp only [checkInit, bind_eq_ok, ensureNotNull_eq_ok, reduceCtorEq, false_and,
        exists_false, and_false] at hcheck
  | some c => exact accounted_withContext h hget fun _ hc ↦ accounts_init hc env enclave options

theorem accounted_shutdown (h : Accounted w k) (i : ℕ) :
    Accounted (w.withContext i (rmwShutdownMemory w.heap w.contexts[i]?)
      (rmwShutdown w.impls w.contexts[i]?)) k := by
  cases hget : w.contexts[i]? with
  | none => exact accounted_withContext_none h hget _
  | some c => exact accounted_withContext h hget fun _ hc ↦ accounts_shutdown hc

theorem accounted_contextFini (h : Accounted w k) (i : ℕ) :
    Accounted (w.withContext i w.heap (rmwContextFini w.impls w.contexts[i]?)) k := by
  cases hget : w.contexts[i]? with
  | none => exact accounted_withContext_none h hget _
  | some c =>
    refine accounted_withContext h hget fun _ hc ↦ ?_
    rw [implAt_contextFini]
    exact hc

section Create

variable {heap : Heap} {impls : Impls} {rmwContext : Option RmwContext}

theorem accounts_createHandle {memory : HandleAllocations} {construction : Except Stale Bool}
    {m : HandleMemory} (h : Accounted w k)
    (hcreate : createHandle w.heap memory construction = .ok (heap, some m)) :
    heap.Accounts (implAt (some m.impl) + {.block m.handle} + w.owned) k := by
  rw [(createHandle_ok hcreate).2, add_assoc]
  exact accounts_construct (accounts_allocate h m.handle) m.impl

theorem accounts_createGuardCondition {env : GuardConditionEnv} {memory : HandleAllocations}
    {m : HandleMemory} (h : Accounted w k) (hcreate : rmwCreateGuardConditionMemory env memory
      w.heap impls rmwContext = .ok (heap, some m)) :
    heap.Accounts ((Entity.guardCondition m).owned + w.owned) k := by
  rw [rmwCreateGuardConditionMemory] at hcreate
  split at hcreate
  · cases hcreate
  · exact accounts_createHandle h hcreate

theorem accounts_createWaitSet {env : WaitSetEnv} {memory : HandleAllocations}
    {m : HandleMemory} (h : Accounted w k)
    (hcreate : rmwCreateWaitSetMemory env memory w.heap impls rmwContext = .ok (heap, some m)) :
    heap.Accounts ((Entity.waitSet m).owned + w.owned) (blockAt memory.handle + k) := by
  rw [rmwCreateWaitSetMemory] at hcreate
  split at hcreate
  · cases hcreate
  · have hheap := accounts_createHandle h hcreate
    rw [(createHandle_ok hcreate).1, blockAt, Multiset.singleton_add]
    rw [add_right_comm, add_comm, Multiset.singleton_add] at hheap
    exact hheap.lose

theorem accounts_createEndpoint {memory : EndpointAllocations} {node : RmwNode}
    {constructed : Bool} {m : EndpointMemory} (h : Accounted w k)
    (hcreate : createEndpoint w.heap memory node constructed = (heap, some m)) :
    heap.Accounts (implAt (some m.impl) + {.block m.handle} + w.owned)
      (blockAt memory.topicName + k) := by
  obtain ⟨htopic, hheap⟩ := createEndpoint_ok hcreate
  rw [htopic, blockAt, Multiset.singleton_add, hheap, add_assoc]
  have hcopied := (accounts_allocate h m.handle).acquire (.block m.topicName)
  exact accounts_construct hcopied.lose m.impl

theorem accounts_createPublisher {env : EndpointAnswers} {mw : CreationAnswers}
    {memory : EndpointAllocations} {rmwNode : Option RmwNode}
    {typeSupport : Option (TypeSupport M)} {topicName : Option String} {qos : Option QosProfile}
    {options : Option Unit} {m : EndpointMemory} (h : Accounted w k)
    (hcreate : rmwCreatePublisherMemory env mw memory w.heap rmwNode typeSupport topicName qos
      options = (heap, some m)) :
    heap.Accounts ((Entity.publisher m).owned + w.owned) (blockAt memory.topicName + k) := by
  rw [rmwCreatePublisherMemory] at hcreate
  split at hcreate
  · cases hcreate
  · exact accounts_createEndpoint h hcreate

theorem accounts_createSubscription {env : EndpointAnswers} {mw : SubscriberCreationAnswers}
    {memory : EndpointAllocations} {rmwNode : Option RmwNode}
    {typeSupport : Option (TypeSupport M)} {topicName : Option String} {qos : Option QosProfile}
    {options : Option Unit} {m : EndpointMemory} (h : Accounted w k)
    (hcreate : rmwCreateSubscriptionMemory env mw memory w.heap rmwNode typeSupport topicName qos
      options = (heap, some m)) :
    heap.Accounts ((Entity.subscription m).owned + w.owned) (blockAt memory.topicName + k) := by
  rw [rmwCreateSubscriptionMemory] at hcreate
  split at hcreate
  · cases hcreate
  · exact accounts_createEndpoint h hcreate

theorem accounts_createNode {env : NodeEnv} {memory : NodeAllocations} {name ns : Option String}
    {context : ℕ} {m : NodeMemory} (h : Accounted w k)
    (hcreate : rmwCreateNodeMemory env memory w.heap impls rmwContext name ns =
      .ok (heap, some m)) :
    heap.Accounts ((Entity.node context m).owned + w.owned) k := by
  rw [rmwCreateNodeMemory] at hcreate
  split at hcreate
  · cases hcreate
  · obtain ⟨namePtr, nsPtr, impl, hfields, hheap⟩ := createNode_ok hcreate
    have hallocated := accounts_allocate (accounts_allocate (accounts_allocate h m.handle) namePtr)
      nsPtr
    have hconstructed := accounts_construct hallocated impl
    have howned : (Entity.node context m).owned + w.owned = implAt (some impl) +
        ({.block nsPtr} + ({.block namePtr} + ({.block m.handle} + w.owned))) := by
      simp only [Entity.owned, hfields, blockAt]
      ac_rfl
    rw [hheap, howned]
    exact hconstructed

theorem accounts_getGraphGuardCondition {handle : Option ℕ} {rmwNode : Option RmwNode} {ptr : ℕ}
    (h : Accounted w k)
    (hget : rmwNodeGetGraphGuardConditionMemory handle w.heap rmwNode = (heap, some ptr)) :
    heap.Accounts w.owned (blockAt handle + k) := by
  simp only [rmwNodeGetGraphGuardConditionMemory] at hget
  repeat' split at hget
  all_goals cases hget
  exact accounts_strdup h (some ptr)

end Create

theorem accounted_add {heap : Heap} {e : Entity} {lost : Multiset Resource}
    (h : heap.Accounts (e.owned + w.owned) lost) : Accounted (w.add heap e) lost := by
  rw [Accounted, owned_add]
  exact h

theorem accounted_remove {i : ℕ} {e : Entity} {heap : Heap} (h : Accounted w k)
    (hentity : w.entity i = some e) (hheap : ∀ owned, w.heap.Accounts (e.owned + owned) k →
      heap.Accounts owned k) : Accounted (w.remove heap i) k := by
  rw [Accounted, owned_remove hentity heap] at h
  exact hheap _ h

theorem accounted_unlost (hlost : lost w op = 0) (h : Accounted w' k) :
    Accounted w' (lost w op + k) := by
  rw [hlost, zero_add]
  exact h

/-- A call that succeeds loses at most its own block. -/
theorem step_accounted (h : Accounted w k) (hstep : step w op = some w') :
    Accounted w' (lost w op + k) := by
  cases op with
  | initOptionsInit valid enclave options allocator =>
    cases hstep
    have hinit := accounted_initOptionsInit h valid enclave w.options[options]? allocator
    exact accounted_withOptions (w := { w with heap := _ }) hinit options _
  | initOptionsCopy src dst =>
    cases hstep
    exact accounted_unlost rfl (accounted_withOptions h _ _)
  | initOptionsFini valid options =>
    cases hstep
    exact accounted_unlost rfl (accounted_withOptions h _ _)
  | editOptions options instanceId enclave =>
    cases hstep
    exact accounted_unlost rfl h
  | init env enclave options context =>
    cases hstep
    exact accounted_init h env enclave _ context
  | shutdown context =>
    cases hstep
    exact accounted_unlost rfl (accounted_shutdown h context)
  | contextFini context =>
    cases hstep
    exact accounted_unlost rfl (accounted_contextFini h context)
  | createNode env memory context name ns =>
    simp only [step] at hstep
    split at hstep
    · rename_i hcreate _
      cases hstep
      exact accounted_unlost rfl (accounted_add (accounts_createNode h hcreate))
    · cases hstep
  | createPublisher env mw memory node typeSupport topicName qos options =>
    simp only [step] at hstep
    split at hstep
    · rename_i hcreate
      cases hstep
      exact accounted_add (accounts_createPublisher h hcreate)
    · cases hstep
  | createSubscription env mw memory node typeSupport topicName qos options =>
    simp only [step] at hstep
    split at hstep
    · rename_i hcreate
      cases hstep
      exact accounted_add (accounts_createSubscription h hcreate)
    · cases hstep
  | createGuardCondition env memory context =>
    simp only [step] at hstep
    split at hstep
    · rename_i hcreate _
      cases hstep
      exact accounted_unlost rfl (accounted_add (accounts_createGuardCondition h hcreate))
    · cases hstep
  | createWaitSet env memory context =>
    simp only [step] at hstep
    split at hstep
    · rename_i hcreate
      cases hstep
      exact accounted_add (accounts_createWaitSet h hcreate)
    · cases hstep
  | getGraphGuardCondition handle node =>
    simp only [step] at hstep
    split at hstep
    · rename_i hget
      cases hstep
      have hheap := accounts_getGraphGuardCondition h hget
      exact hheap
    · cases hstep
  | use =>
    cases hstep
    exact accounted_unlost rfl h
  | destroyNode node =>
    simp only [step] at hstep
    split at hstep
    · rename_i hentity
      cases hstep
      exact accounted_unlost rfl (accounted_remove h hentity fun _ hheap ↦ accounts_cleanupNode hheap)
    · cases hstep
  | destroyPublisher node publisher =>
    simp only [step] at hstep
    split at hstep
    · rename_i _ hentity
      cases hstep
      exact accounted_unlost rfl (accounted_remove h hentity fun _ hheap ↦ accounts_destroyHandle hheap)
    · cases hstep
  | destroySubscription node subscription =>
    simp only [step] at hstep
    split at hstep
    · rename_i _ hentity
      cases hstep
      exact accounted_unlost rfl (accounted_remove h hentity fun _ hheap ↦ accounts_destroyHandle hheap)
    · cases hstep
  | destroyGuardCondition guardCondition =>
    simp only [step] at hstep
    split at hstep
    · rename_i hentity
      cases hstep
      exact accounted_unlost rfl (accounted_remove h hentity fun _ hheap ↦ accounts_destroyHandle hheap)
    · cases hstep
  | destroyWaitSet waitSet =>
    simp only [step] at hstep
    split at hstep
    · rename_i hentity
      cases hstep
      exact accounted_unlost rfl (accounted_remove h hentity fun _ hheap ↦ accounts_destruct hheap)
    · cases hstep

theorem accounted_initial (options contexts : ℕ) : Accounted (.initial options contexts) 0 := by
  have howned : (World.initial options contexts).owned = 0 := by
    simp [World.owned, World.initial, zeroContext, implAt]
  rw [Accounted, howned]
  exact Ledger.accounts_empty

theorem run_accounted {ops : List (Op M)} (h : Accounted w k)
    (hok : Admissible exec Succeeds w ops) :
    ∃ k', Accounted (run exec w ops) (k' + k) ∧ (k' = 0 ↔ Admissible exec LosesNothing w ops) := by
  induction ops generalizing w k with
  | nil => exact ⟨0, by rw [zero_add]; exact h, iff_of_true rfl trivial⟩
  | cons op ops ih =>
    obtain ⟨hsucceeds, hrest⟩ := hok
    obtain ⟨w', hstep⟩ := Option.isSome_iff_exists.mp hsucceeds
    have hexec : exec w op = w' := by rw [exec, hstep, Option.getD_some]
    rw [hexec] at hrest
    obtain ⟨k', haccounted, hiff⟩ := ih (step_accounted h hstep) hrest
    refine ⟨k' + lost w op, ?_, ?_⟩
    · rw [run_cons, hexec, add_assoc]
      exact haccounted
    · rw [admissible_cons, hexec, ← hiff, LosesNothing, add_eq_zero, and_comm]

theorem owned_finished (h : w.Finished) : w.owned = 0 := by
  have hentities : ∀ e ∈ w.entities, (e.map Entity.owned).getD 0 = 0 := by
    intro e he
    rw [h.entities e he]
    rfl
  have hcontexts : ∀ c ∈ w.contexts, implAt c.impl = 0 := by
    intro c hc
    rw [h.contexts c hc]
    rfl
  rw [World.owned, List.map_congr_left hentities, List.map_congr_left hcontexts]
  simp

/-- Once everything is destroyed or finalised nothing is left allocated, and nothing was released
twice, exactly if no call allocated a block that no call frees. -/
theorem nothing_left_iff (options contexts : ℕ) (ops : List (Op M))
    (hok : Admissible exec Succeeds (.initial options contexts) ops)
    (hfinished : (run exec (.initial options contexts) ops).Finished) :
    ((run exec (.initial options contexts) ops).heap.held = 0 ∧
      (run exec (.initial options contexts) ops).heap.faults = 0) ↔
        Admissible exec LosesNothing (.initial options contexts) ops := by
  obtain ⟨lost, haccounted, hiff⟩ := run_accounted (accounted_initial options contexts) hok
  have hheld := haccounted.held
  rw [owned_finished hfinished, zero_add, add_zero] at hheld
  rw [hheld, haccounted.sound, hiff]
  exact and_iff_left rfl

/-- One context with a guard condition, while there is no memory for a copy of the enclave. -/
def withoutEnclave : List (Op Unit) :=
  [.initOptionsInit (fun _ ↦ true) none 0 hostAllocator, .editOptions 0 1 (some "/"),
    .init .granting none 0 0,
    .createGuardCondition ⟨none, true, .granting⟩ ⟨some 1, some 2⟩ 0, .use,
    .destroyGuardCondition 0, .shutdown 0, .contextFini 0, .initOptionsFini (fun _ ↦ true) 0]

theorem finished_of_singletons (hoptions : w.options = [zeroInitOptions])
    (hcontexts : w.contexts = [zeroContext]) (hentities : w.entities = [none]) : w.Finished := by
  refine ⟨?_, ?_, ?_⟩
  · rw [hoptions]
    exact fun o ho ↦ List.mem_singleton.mp ho
  · rw [hcontexts]
    exact fun c hc ↦ List.mem_singleton.mp hc
  · rw [hentities]
    exact fun e he ↦ List.mem_singleton.mp he

theorem nothing_left_iff_withoutEnclave :
    (run exec (.initial 1 1) withoutEnclave).heap.held = 0 ∧
      (run exec (.initial 1 1) withoutEnclave).heap.faults = 0 := by
  have hok : Admissible exec Succeeds (.initial 1 1) withoutEnclave :=
    ⟨rfl, rfl, rfl, rfl, rfl, rfl, rfl, rfl, rfl, trivial⟩
  apply (nothing_left_iff 1 1 withoutEnclave hok (finished_of_singletons rfl rfl rfl)).mpr
  exact ⟨rfl, rfl, rfl, rfl, rfl, rfl, rfl, rfl, rfl, trivial⟩

/-- One context with a wait set, where no call fails. -/
def waitSetCycle : List (Op Unit) :=
  [.initOptionsInit (fun _ ↦ true) (some 1) 0 hostAllocator, .init .granting (some 2) 0 0,
    .createWaitSet ⟨true, true, .ok ()⟩ ⟨some 3, some 4⟩ 0, .destroyWaitSet 0, .shutdown 0,
    .contextFini 0, .initOptionsFini (fun _ ↦ true) 0]

/-- The two copies of the enclave and the handle of the wait set stay allocated. -/
theorem wait_set_cycle_leaks :
    Admissible exec Succeeds (.initial 1 1) waitSetCycle ∧
      (run exec (.initial 1 1) waitSetCycle).Finished ∧
      (run exec (.initial 1 1) waitSetCycle).heap.held = {.block 3, .block 2, .block 1} ∧
      (run exec (.initial 1 1) waitSetCycle).heap.held ≠ 0 := by
  have hheld : (run exec (.initial 1 1) waitSetCycle).heap.held =
      {.block 3, .block 2, .block 1} := rfl
  refine ⟨⟨rfl, rfl, rfl, rfl, rfl, rfl, rfl, trivial⟩, finished_of_singletons rfl rfl rfl, hheld,
    ?_⟩
  rw [hheld]
  exact Multiset.cons_ne_zero

end RmwIceoryx2.System.Ownership
