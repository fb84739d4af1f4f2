import RmwIceoryx2.Rmw.Explanations
import RmwIceoryx2.Rmw.Memory

namespace RmwIceoryx2.Rmw

open RmwIceoryx2.Common RmwIceoryx2.Library

/-- `rosidl_service_type_support_t`, by which of the two identifiers resolve. -/
structure ServiceTypeSupport where
  fastrtpsC : Bool
  fastrtpsCpp : Bool
  deriving DecidableEq, Repr

/-- `rmw_client_t` and `rmw_service_t` in the memory: the handle's address and the pointer to the
copy of the name. -/
structure ServiceHandle where
  implementationIdentifier : String
  address : ℕ
  serviceName : Option ℕ
  deriving DecidableEq, Repr

structure ServiceAllocations where
  handle : Option ℕ
  serviceName : Option ℕ

section

variable {ε : Type}

def ensureValidServiceTypesupport (env : EndpointAnswers) (returnValue : ε)
    (typeSupport : ServiceTypeSupport) : Except (Failure ε) Unit :=
  if !typeSupport.fastrtpsC && !typeSupport.fastrtpsCpp then
    .error ⟨returnValue,
      ["Invalid typesupport: " ++ env.unresolved .c ++ "\n" ++ env.unresolved .cpp]⟩
  else .ok ()

def ensureValidServiceName (env : EndpointAnswers) (returnValue : ε) (serviceName : String) :
    Except (Failure ε) Unit := ensureValidTopicName env returnValue serviceName

end

/-- The checks of `rmw_create_client` and `rmw_create_service`. The context of the node is not
looked at. -/
def checkCreateServiceHandle (env : EndpointAnswers) (rmwNode : Option RmwNode)
    (typeSupport : Option ServiceTypeSupport) (serviceName : Option String)
    (qos : Option QosProfile) : Except (Failure Unit) Unit := do
  let node ← ensureNotNull "rmw_node" () rmwNode
  ensureImplementation "rmw_node->implementation_identifier" () node.implementationIdentifier
  let typeSupport ← ensureNotNull "type_support" () typeSupport
  ensureValidServiceTypesupport env () typeSupport
  let serviceName ← ensureNotNull "service_name" () serviceName
  ensureValidServiceName env () serviceName
  let qos ← ensureNotNull "qos" () qos
  ensureValidQos () qos

def allocateServiceHandle (handleMsg : String) (memory : ServiceAllocations) (heap : Heap) :
    Heap × Except (Failure Unit) ServiceHandle :=
  match memory.handle with
  | none => (heap, .error ⟨(), [handleMsg]⟩)
  | some handle =>
    let heap := heap.allocate handle
    match memory.serviceName with
    | none => (heap.free handle,
        .error ⟨(), ["failed to allocate memory for topic name", "failed to allocate"]⟩)
    | some serviceName => (heap.allocate serviceName,
        .ok ⟨rmwGetImplementationIdentifier, handle, some serviceName⟩)

def rmwCreateClient (env : EndpointAnswers) (memory : ServiceAllocations) (heap : Heap)
    (rmwNode : Option RmwNode) (typeSupport : Option ServiceTypeSupport)
    (serviceName : Option String) (qos : Option QosProfile) :
    Heap × Except (Failure Unit) ServiceHandle :=
  match checkCreateServiceHandle env rmwNode typeSupport serviceName qos with
  | .error f => (heap, .error f)
  | .ok () => allocateServiceHandle "failed to allocate memory for rmw_client_t" memory heap

/-- The message about the handle names another type. -/
def rmwCreateService (env : EndpointAnswers) (memory : ServiceAllocations) (heap : Heap)
    (rmwNode : Option RmwNode) (typeSupport : Option ServiceTypeSupport)
    (serviceName : Option String) (qos : Option QosProfile) :
    Heap × Except (Failure Unit) ServiceHandle :=
  match checkCreateServiceHandle env rmwNode typeSupport serviceName qos with
  | .error f => (heap, .error f)
  | .ok () => allocateServiceHandle "failed to allocate memory for rmw_publisher_t" memory heap

def checkDestroyServiceHandle (argument : String) (rmwNode : Option RmwNode)
    (handle : Option ServiceHandle) : Except (Failure RmwRet) Unit := do
  ensureHandle "rmw_node" (rmwNode.map (·.implementationIdentifier))
  ensureHandle argument (handle.map (·.implementationIdentifier))

def destroyServiceHandle (argument : String) (heap : Heap) (rmwNode : Option RmwNode)
    (handle : Option ServiceHandle) : Heap × Except (Failure RmwRet) Unit :=
  match checkDestroyServiceHandle argument rmwNode handle with
  | .error f => (heap, .error f)
  | .ok () => ((heap.deallocate (handle.bind (·.serviceName))).deallocate (handle.map (·.address)),
      .ok ())

def rmwDestroyClient (heap : Heap) (rmwNode : Option RmwNode) (rmwClient : Option ServiceHandle) :
    Heap × Except (Failure RmwRet) Unit := destroyServiceHandle "rmw_client" heap rmwNode rmwClient

def rmwDestroyService (heap : Heap) (rmwNode : Option RmwNode)
    (rmwService : Option ServiceHandle) : Heap × Except (Failure RmwRet) Unit :=
  destroyServiceHandle "rmw_service" heap rmwNode rmwService

def ServiceHandle.owned (handle : ServiceHandle) : Multiset Resource :=
  .block handle.address ::ₘ (handle.serviceName.elim 0 fun ptr ↦ {.block ptr})

section Creation

variable {env : EndpointAnswers} {memory : ServiceAllocations} {heap heap' : Heap}
  {rmwNode : Option RmwNode} {typeSupport : Option ServiceTypeSupport}
  {serviceName : Option String} {qos : Option QosProfile} {handle : ServiceHandle}
  {owned lost : Multiset Resource}

theorem checkCreateServiceHandle_explains :
    Explains (fun _ ↦ True) (Unexplained env serviceName qos)
      (checkCreateServiceHandle env rmwNode typeSupport serviceName qos) := by
  refine (explains_notNull _ trivial _).bind fun node _ ↦ ?_
  refine (explains_implementation _ trivial _).bind fun _ _ ↦ ?_
  refine (explains_notNull _ trivial _).bind fun t _ ↦ ?_
  refine Explains.bind ?_ fun _ _ ↦ ?_
  · rw [ensureValidServiceTypesupport]
    split
    · exact explains_throw trivial _ _
    · exact explains_ok _
  refine (explains_notNull _ trivial _).bind fun name hname ↦ ?_
  obtain rfl : serviceName = some name := by simpa using hname
  refine (explains_validTopicName name).bind fun _ _ ↦ ?_
  refine (explains_notNull _ trivial _).bind fun q hq ↦ ?_
  obtain rfl : qos = some q := by simpa using hq
  rw [ensureValidQos]
  split
  · exact explains_silent trivial (Or.inl ⟨q, rfl, ‹_›⟩)
  · exact explains_ok _

theorem allocateServiceHandle_cases (handleMsg : String) (memory : ServiceAllocations)
    (heap : Heap) :
    (∃ f, allocateServiceHandle handleMsg memory heap = (heap, .error f) ∧ f.chain ≠ []) ∨
    ∃ address name, allocateServiceHandle handleMsg memory heap =
      ((heap.allocate address).allocate name,
        .ok ⟨rmwGetImplementationIdentifier, address, some name⟩) := by
  obtain ⟨_ | address, _ | name⟩ := memory
  · exact Or.inl ⟨_, rfl, List.cons_ne_nil _ _⟩
  · exact Or.inl ⟨_, rfl, List.cons_ne_nil _ _⟩
  · left
    simp only [allocateServiceHandle, Heap.free_allocate]
    exact ⟨_, rfl, List.cons_ne_nil _ _⟩
  · exact Or.inr ⟨address, name, rfl⟩

theorem accounts_allocated (h : heap.Accounts owned lost) (address name : ℕ) :
    ((heap.allocate address).allocate name).Accounts
      (ServiceHandle.owned ⟨rmwGetImplementationIdentifier, address, some name⟩ + owned) lost := by
  have hboth := (h.acquire (.block name)).acquire (.block address)
  rw [Heap.allocate, Heap.allocate, Ledger.acquire_comm, ServiceHandle.owned, Multiset.cons_add]
  exact hboth

theorem accounts_destroyed (argument : String) {node : RmwNode}
    (hnode : node.implementationIdentifier = rmwGetImplementationIdentifier)
    (hhandle : handle.implementationIdentifier = rmwGetImplementationIdentifier)
    (h : heap.Accounts (handle.owned + owned) lost) :
    (destroyServiceHandle argument heap (some node) (some handle)).2 = .ok () ∧
      (destroyServiceHandle argument heap (some node) (some handle)).1.Accounts owned lost := by
  obtain ⟨identifier, address, name⟩ := handle
  obtain rfl : identifier = _ := hhandle
  have hcheck : checkDestroyServiceHandle argument (some node)
      (some ⟨rmwGetImplementationIdentifier, address, name⟩) = .ok () := by
    simp only [checkDestroyServiceHandle, Option.map_some, hnode]
    rfl
  simp only [destroyServiceHandle, hcheck, true_and]
  rw [ServiceHandle.owned, Multiset.cons_add] at h
  cases name with
  | none =>
    rw [Option.elim_none, zero_add] at h
    exact h.release
  | some name =>
    rw [Option.elim_some, Multiset.singleton_add, Multiset.cons_swap] at h
    exact h.release.release

theorem destroyServiceHandle_rejected {argument : String} {handle : Option ServiceHandle}
    {f : Failure RmwRet} (h : (destroyServiceHandle argument heap rmwNode handle).2 = .error f) :
    (destroyServiceHandle argument heap rmwNode handle).1 = heap := by
  simp only [destroyServiceHandle] at h ⊢
  split
  · rfl
  · rename_i hcheck
    rw [hcheck] at h
    cases h

theorem destroyServiceHandle_ok {argument : String} {handle : Option ServiceHandle}
    (h : (destroyServiceHandle argument heap rmwNode handle).2 = .ok ()) :
    ∃ node handle', rmwNode = some node ∧
      node.implementationIdentifier = rmwGetImplementationIdentifier ∧ handle = some handle' := by
  simp only [destroyServiceHandle] at h
  split at h
  · cases h
  · rename_i hcheck
    simp only [checkDestroyServiceHandle, ensureHandle, bind_eq_ok, ensureNotNull_eq_ok,
      ensureImplementation_eq_ok, Option.map_eq_some_iff] at hcheck
    obtain ⟨_, ⟨_, ⟨node, rfl, rfl⟩, hnode⟩, _, ⟨handle', rfl, -⟩, -⟩ := hcheck
    exact ⟨node, handle', rfl, hnode, rfl⟩

end Creation

end RmwIceoryx2.Rmw
