import RmwIceoryx2.Rmw.Memory

namespace RmwIceoryx2.Rmw

open RmwIceoryx2.Common RmwIceoryx2.Runtime RmwIceoryx2.Message RmwIceoryx2.Library

variable {M : Type}

inductive CreateCall (M : Type)
  | node (env : NodeEnv) (memory : NodeAllocations) (impls : Impls)
    (rmwContext : Option RmwContext) (name ns : Option String)
  | publisher (env : EndpointAnswers) (mw : CreationAnswers) (memory : EndpointAllocations)
    (rmwNode : Option RmwNode) (typeSupport : Option (TypeSupport M)) (topicName : Option String)
    (qos : Option QosProfile) (options : Option Unit)
  | subscription (env : EndpointAnswers) (mw : SubscriberCreationAnswers)
    (memory : EndpointAllocations) (rmwNode : Option RmwNode)
    (typeSupport : Option (TypeSupport M)) (topicName : Option String) (qos : Option QosProfile)
    (options : Option Unit)
  | guardCondition (env : GuardConditionEnv) (memory : HandleAllocations) (impls : Impls)
    (rmwContext : Option RmwContext)
  | waitSet (env : WaitSetEnv) (memory : HandleAllocations) (impls : Impls)
    (rmwContext : Option RmwContext)

/-- The memory after the call, and whether the call returned something other than null. -/
def CreateCall.run (heap : Heap) : CreateCall M → Except Stale (Heap × Bool)
  | .node env memory impls rmwContext name ns =>
    (rmwCreateNodeMemory env memory heap impls rmwContext name ns).map
      fun r ↦ (r.1, r.2.isSome)
  | .publisher env mw memory rmwNode typeSupport topicName qos options =>
    let r := rmwCreatePublisherMemory env mw memory heap rmwNode typeSupport topicName qos options
    .ok (r.1, r.2.isSome)
  | .subscription env mw memory rmwNode typeSupport topicName qos options =>
    let r := rmwCreateSubscriptionMemory env mw memory heap rmwNode typeSupport topicName qos
      options
    .ok (r.1, r.2.isSome)
  | .guardCondition env memory impls rmwContext =>
    (rmwCreateGuardConditionMemory env memory heap impls rmwContext).map
      fun r ↦ (r.1, r.2.isSome)
  | .waitSet env memory impls rmwContext =>
    (rmwCreateWaitSetMemory env memory heap impls rmwContext).map fun r ↦ (r.1, r.2.isSome)

/-- A call that returns null leaves no block allocated and no object constructed, and frees and
destructs nothing else. -/
def Atomic (heap : Heap) (call : CreateCall M) : Prop :=
  ∀ heap', call.run heap = .ok (heap', false) → heap' = heap

def NodeFields.null : NodeFields := ⟨none, none, none⟩

/-- What the clean-up of a call that fails finds in the handle without having written it. -/
def NodeAllocations.leftover (memory : NodeAllocations) (construction : Except Stale Bool) :
    NodeFields :=
  match memory.name, memory.ns, memory.impl, construction with
  | none, _, _, _ => memory.fresh
  | some _, none, _, _ => { memory.fresh with name := none }
  | some _, some _, none, _ | some _, some _, some _, .ok false =>
    ⟨none, none, memory.fresh.data⟩
  | _, _, _, _ => .null

/-- The call fails between the copy of the topic's name and its end. -/
def EndpointAllocations.LosesTopicName (memory : EndpointAllocations) (node : RmwNode)
    (constructed : Bool) : Prop :=
  memory.handle.isSome ∧ memory.topicName.isSome ∧
    (node.data = none ∨ memory.impl = none ∨ constructed = false)

def CreateCall.Restores : CreateCall M → Prop
  | .node env memory impls rmwContext name ns => ∀ impl name' ns',
      checkCreateNode env rmwContext name ns = .ok (impl, name', ns') → memory.handle.isSome →
        memory.leftover ((deref impls impl).map fun context ↦
          (Node.create env.handle env.mw context name' ns').2.isOk) = .null
  | .publisher env mw memory rmwNode typeSupport topicName qos options =>
    ∀ node typeSupport' topicName', checkEndpoint env rmwNode typeSupport topicName "qos" qos
      "publisher_options" options = .ok (node, typeSupport', topicName') →
        ¬ memory.LosesTopicName node (Publisher.create mw topicName' typeSupport').isOk
  | .subscription env mw memory rmwNode typeSupport topicName qos options =>
    ∀ node typeSupport' topicName', checkEndpoint env rmwNode typeSupport topicName "qos_profile"
      qos "subscription_options" options = .ok (node, typeSupport', topicName') →
        ¬ memory.LosesTopicName node (Subscriber.create mw topicName' typeSupport').isOk
  | .guardCondition _ _ _ _ => True
  | .waitSet _ _ _ _ => True

variable {heap heap' : Heap}

theorem createHandle_restores {memory : HandleAllocations} {construction : Except Stale Bool}
    (h : createHandle heap memory construction = .ok (heap', none)) : heap' = heap := by
  simp only [createHandle] at h
  split at h
  · cases h
    rfl
  · split at h
    · cases h
      exact Heap.free_allocate _ _
    · split at h
      · cases h
      · cases h
        rw [Heap.destruct_construct, Heap.deallocate_some, Heap.free_allocate, Heap.free_allocate]
      · cases h

theorem createEndpoint_restores_iff (heap : Heap) (memory : EndpointAllocations) (node : RmwNode)
    (constructed : Bool) :
    (∀ heap', createEndpoint heap memory node constructed = (heap', none) → heap' = heap) ↔
      ¬ memory.LosesTopicName node constructed := by
  have hlost : ∀ ptr, heap.allocate ptr ≠ heap := by
    intro ptr h
    have hbalance := congrArg Ledger.balance h
    rw [Heap.balance_allocate] at hbalance
    omega
  obtain ⟨_ | handle, _ | topicName, impl⟩ := memory
  · simp [createEndpoint, EndpointAllocations.LosesTopicName]
  · simp [createEndpoint, EndpointAllocations.LosesTopicName]
  · simp [createEndpoint, EndpointAllocations.LosesTopicName]
  · cases hdata : node.data <;> cases impl <;> cases constructed
    all_goals simp [createEndpoint, EndpointAllocations.LosesTopicName, hdata, hlost]

/-- The pointers that the clean-up finds in the handle, weighted with what is released for them. -/
def NodeFields.owed (fields : NodeFields) : ℕ :=
  fields.name.toList.length + fields.ns.toList.length + 2 * fields.data.toList.length

theorem balance_deallocate (ptr : Option ℕ) :
    (heap.deallocate ptr).balance = heap.balance - ptr.toList.length := by
  cases ptr <;> simp

theorem balance_cleanupNode (handle : ℕ) (fields : NodeFields) :
    (cleanupNode heap ⟨handle, fields⟩).balance = heap.balance - fields.owed - 1 := by
  obtain ⟨name, ns, data⟩ := fields
  cases data
  all_goals
    simp only [cleanupNode, NodeFields.owed, Heap.balance_free, Heap.deallocate_some,
      Heap.balance_destruct_some, balance_deallocate, Option.toList_none, Option.toList_some,
      List.length_nil, List.length_singleton]
    omega

theorem NodeFields.owed_eq_zero {fields : NodeFields} : fields.owed = 0 ↔ fields = .null := by
  obtain ⟨_ | name, _ | ns, _ | data⟩ := fields <;> simp [NodeFields.owed, NodeFields.null]

theorem cleanupNode_allocate (heap : Heap) (handle : ℕ) (fields : NodeFields) :
    cleanupNode (heap.allocate handle) ⟨handle, fields⟩ = heap ↔ fields = .null := by
  rw [← NodeFields.owed_eq_zero]
  constructor
  · intro h
    have hbalance := congrArg Ledger.balance h
    rw [balance_cleanupNode, Heap.balance_allocate] at hbalance
    omega
  · intro h
    rw [NodeFields.owed_eq_zero.mp h]
    exact Heap.free_allocate _ _

theorem cleanupNode_name (heap : Heap) (handle name : ℕ) (ns data : Option ℕ) :
    cleanupNode ((heap.allocate handle).allocate name) ⟨handle, some name, ns, data⟩ =
      cleanupNode (heap.allocate handle) ⟨handle, none, ns, data⟩ := by
  simp only [cleanupNode, Heap.deallocate_some, Heap.free_allocate, Heap.deallocate_none]

theorem cleanupNode_names (heap : Heap) (handle name ns : ℕ) (data : Option ℕ) :
    cleanupNode (((heap.allocate handle).allocate name).allocate ns)
        ⟨handle, some name, some ns, data⟩ =
      cleanupNode (heap.allocate handle) ⟨handle, none, none, data⟩ := by
  simp only [cleanupNode, Heap.deallocate_some, Heap.free_allocate_allocate, Heap.free_allocate,
    Heap.deallocate_none]

/-- The clean-up of a node restores the memory exactly if it finds no pointer in the handle that the
call has not written. -/
theorem createNode_restores_iff (heap : Heap) (memory : NodeAllocations)
    (construction : Except Stale Bool) :
    (∀ heap', createNode heap memory construction = .ok (heap', none) → heap' = heap) ↔
      (memory.handle.isSome → memory.leftover construction = .null) := by
  have hexit : ∀ fields handle, (∀ heap', (Except.ok (cleanupNode (heap.allocate handle)
      ⟨handle, fields⟩, none) : Except Stale (Heap × Option NodeMemory)) = .ok (heap', none) →
        heap' = heap) ↔ fields = .null := by
    intro fields handle
    rw [← cleanupNode_allocate heap handle fields]
    simp
  obtain ⟨_ | handle, name, ns, impl, fresh⟩ := memory
  · simp [createNode]
  simp only [Option.isSome_some, forall_const]
  cases name with
  | none => exact hexit fresh handle
  | some name =>
    cases ns with
    | none =>
      simp only [createNode, cleanupNode_name]
      exact hexit { fresh with name := none } handle
    | some ns =>
      cases impl with
      | none =>
        simp only [createNode, cleanupNode_names]
        exact hexit ⟨none, none, fresh.data⟩ handle
      | some impl =>
        cases construction with
        | error stale => simp [createNode, NodeAllocations.leftover]
        | ok constructed =>
          cases constructed with
          | false =>
            simp only [createNode, Heap.destruct_construct, Heap.deallocate_some,
              Heap.free_allocate, cleanupNode_names]
            exact hexit ⟨none, none, fresh.data⟩ handle
          | true => simp [createNode, NodeAllocations.leftover]

theorem null_iff {α : Type} {r : Heap × Option α} :
    (r.1, r.2.isSome) = (heap', false) ↔ r = (heap', none) := by
  obtain ⟨heap, _ | a⟩ := r <;> simp

theorem map_null_iff {α : Type} {x : Except Stale (Heap × Option α)} :
    x.map (fun r ↦ (r.1, r.2.isSome)) = .ok (heap', false) ↔ x = .ok (heap', none) := by
  cases x with
  | error stale => simp [Except.map]
  | ok r => simp only [Except.map, Except.ok.injEq, null_iff]

theorem forall_checked {α β γ : Type} {P : α → β → γ → Prop} {a : α} {b : β} {c : γ} :
    (∀ a' b' c', (a, b, c) = (a', b', c') → P a' b' c') ↔ P a b c := by
  constructor
  · intro h
    exact h a b c rfl
  · rintro h _ _ _ ⟨⟩
    exact h

/-- A call that creates something and fails leaves the memory as it was, exactly if it does not lose
the name of a topic and cleans up no pointer that it has not written. -/
theorem create_atomic_iff (heap : Heap) (call : CreateCall M) :
    Atomic heap call ↔ call.Restores := by
  cases call with
  | node env memory impls rmwContext name ns =>
    simp only [Atomic, CreateCall.run, CreateCall.Restores, map_null_iff, rmwCreateNodeMemory]
    cases checkCreateNode env rmwContext name ns with
    | error f => simp
    | ok checked =>
      obtain ⟨impl, name', ns'⟩ := checked
      simp only [createNode_restores_iff, Except.ok.injEq, forall_checked]
  | publisher env mw memory rmwNode typeSupport topicName qos options =>
    simp only [Atomic, CreateCall.run, CreateCall.Restores, Except.ok.injEq, null_iff,
      rmwCreatePublisherMemory]
    cases checkEndpoint env rmwNode typeSupport topicName "qos" qos "publisher_options"
        options with
    | error f => simp
    | ok checked =>
      obtain ⟨node, typeSupport', topicName'⟩ := checked
      simp only [createEndpoint_restores_iff, Except.ok.injEq, forall_checked]
  | subscription env mw memory rmwNode typeSupport topicName qos options =>
    simp only [Atomic, CreateCall.run, CreateCall.Restores, Except.ok.injEq, null_iff,
      rmwCreateSubscriptionMemory]
    cases checkEndpoint env rmwNode typeSupport topicName "qos_profile" qos "subscription_options"
        options with
    | error f => simp
    | ok checked =>
      obtain ⟨node, typeSupport', topicName'⟩ := checked
      simp only [createEndpoint_restores_iff, Except.ok.injEq, forall_checked]
  | guardCondition env memory impls rmwContext =>
    refine iff_of_true (fun heap' h ↦ ?_) trivial
    simp only [CreateCall.run, map_null_iff, rmwCreateGuardConditionMemory] at h
    split at h
    · cases h
      rfl
    · exact createHandle_restores h
  | waitSet env memory impls rmwContext =>
    refine iff_of_true (fun heap' h ↦ ?_) trivial
    simp only [CreateCall.run, map_null_iff, rmwCreateWaitSetMemory] at h
    split at h
    · cases h
      rfl
    · exact createHandle_restores h

def withoutNotifier : CreateCall Text :=
  .publisher ⟨fun _ ↦ "", fun _ ↦ some none, true, true, true⟩
    ⟨fun _ ↦ .ok (), fun _ ↦ .ok (), fun _ ↦ .ok (), fun _ ↦ .ok (),
      .error "ExceedsMaxSupportedNotifiers"⟩
    ⟨some 0, some 1, some 2⟩ (some ⟨rmwGetImplementationIdentifier, some (some ()), some ()⟩)
    (some textTypeSupport) (some "/chatter")
    (some ⟨.keepLast, .reliable, .volatile, .systemDefault, false⟩) (some ())

/-- The copy of the topic's name stays allocated. -/
theorem topic_name_lost :
    withoutNotifier.run (.empty _) = .ok (Heap.allocate (.empty _) 1, false) ∧
      ¬ Atomic (.empty _) withoutNotifier := by
  have hrun : withoutNotifier.run (.empty _) = .ok (Heap.allocate (.empty _) 1, false) := rfl
  refine ⟨hrun, fun hatomic ↦ ?_⟩
  have hheap := congrArg Ledger.balance (hatomic _ hrun)
  rw [Heap.balance_allocate] at hheap
  omega

end RmwIceoryx2.Rmw
