import RmwIceoryx2.Library.Execution
import RmwIceoryx2.Rmw.ServiceHandles

namespace RmwIceoryx2.System.ServiceLedger

open RmwIceoryx2.Common RmwIceoryx2.Rmw RmwIceoryx2.Library RmwIceoryx2.Library.Execution

inductive Kind
  | client | service
  deriving DecidableEq, Repr

/-- The clients and services that were created; `none` is left of what was destroyed. -/
structure World where
  heap : Heap
  handles : List (Option (Kind × ServiceHandle))

inductive Op
  | createClient (env : EndpointAnswers) (memory : ServiceAllocations) (rmwNode : Option RmwNode)
    (typeSupport : Option ServiceTypeSupport) (serviceName : Option String)
    (qos : Option QosProfile)
  | createService (env : EndpointAnswers) (memory : ServiceAllocations) (rmwNode : Option RmwNode)
    (typeSupport : Option ServiceTypeSupport) (serviceName : Option String)
    (qos : Option QosProfile)
  | destroyClient (rmwNode : Option RmwNode) (client : Option ℕ)
  | destroyService (rmwNode : Option RmwNode) (service : Option ℕ)

namespace World

/-- What a pointer leads to: nothing where it is null, or the handle that was created as the `i`-th.
A pointer to what was destroyed, or to a handle of the other kind, leads nowhere. -/
def lookup (w : World) (kind : Kind) : Option ℕ → Option (Option ServiceHandle)
  | none => some none
  | some i =>
    match w.handles[i]? with
    | some (some (kind', h)) => if kind' = kind then some (some h) else none
    | _ => none

def created (w : World) (kind : Kind) (r : Heap × Except (Failure Unit) ServiceHandle) : World :=
  match r with
  | (heap, .error _) => { w with heap := heap }
  | (heap, .ok h) => ⟨heap, w.handles ++ [some (kind, h)]⟩

def destroyed (w : World) (pointer : Option ℕ) (r : Heap × Except (Failure RmwRet) Unit) : World :=
  match pointer, r with
  | some i, (heap, .ok ()) => ⟨heap, w.handles.set i none⟩
  | _, (heap, _) => { w with heap := heap }

def owned (w : World) : Multiset Resource :=
  (w.handles.map fun e ↦ (e.map fun e ↦ e.2.owned).getD 0).sum

end World

def exec (w : World) : Op → World
  | .createClient env memory rmwNode typeSupport serviceName qos =>
    w.created .client (rmwCreateClient env memory w.heap rmwNode typeSupport serviceName qos)
  | .createService env memory rmwNode typeSupport serviceName qos =>
    w.created .service (rmwCreateService env memory w.heap rmwNode typeSupport serviceName qos)
  | .destroyClient rmwNode client =>
    match w.lookup .client client with
    | some h => w.destroyed client (rmwDestroyClient w.heap rmwNode h)
    -- the call reads freed memory, and nothing is said about what it does
    | none => w
  | .destroyService rmwNode service =>
    match w.lookup .service service with
    | some h => w.destroyed service (rmwDestroyService w.heap rmwNode h)
    | none => w

/-- A handle is passed to the function that destroys its kind, and not once it is destroyed. -/
def Defined (w : World) : Op → Prop
  | .destroyClient _ client => (w.lookup .client client).isSome
  | .destroyService _ service => (w.lookup .service service).isSome
  | _ => True

def chainOf {ε α : Type} : Except (Failure ε) α → Option (List String)
  | .error f => some f.chain
  | .ok _ => none

def complaint (w : World) : Op → Option (List String)
  | .createClient env memory rmwNode typeSupport serviceName qos =>
    chainOf (rmwCreateClient env memory w.heap rmwNode typeSupport serviceName qos).2
  | .createService env memory rmwNode typeSupport serviceName qos =>
    chainOf (rmwCreateService env memory w.heap rmwNode typeSupport serviceName qos).2
  | .destroyClient rmwNode client =>
    (w.lookup .client client).bind fun h ↦ chainOf (rmwDestroyClient w.heap rmwNode h).2
  | .destroyService rmwNode service =>
    (w.lookup .service service).bind fun h ↦ chainOf (rmwDestroyService w.heap rmwNode h).2

/-- A creation that was asked for with an unknown policy or a name that could not be validated. -/
def Doubtful : Op → Prop
  | .createClient env _ _ _ serviceName qos | .createService env _ _ _ serviceName qos =>
    Unexplained env serviceName qos
  | _ => False

/-- Whatever is allocated belongs to a handle that lives or was there before, and nothing was freed
twice. -/
structure Accounted (before : Multiset Resource) (w : World) : Prop where
  ours : ∀ e ∈ w.handles, ∀ kind h, e = some (kind, h) →
    h.implementationIdentifier = rmwGetImplementationIdentifier
  accounts : w.heap.Accounts w.owned before

variable {w : World} {before : Multiset Resource} {kind : Kind} {i : ℕ} {h : ServiceHandle}
  {pointer : Option ℕ} {handle : Option ServiceHandle}

theorem lookup_eq_some (hlookup : w.lookup kind pointer = some (some h)) :
    ∃ i, pointer = some i ∧ w.handles[i]? = some (some (kind, h)) := by
  cases pointer with
  | none => cases hlookup
  | some i =>
    simp only [World.lookup] at hlookup
    split at hlookup
    · rename_i kind' h' hget
      split at hlookup
      · rename_i hkind
        cases hlookup
        exact ⟨i, rfl, hkind ▸ hget⟩
      · cases hlookup
    · cases hlookup

theorem destroyed_error (pointer : Option ℕ) (heap : Heap) (f : Failure RmwRet) :
    w.destroyed pointer (heap, .error f) = { w with heap := heap } := by
  cases pointer <;> rfl

theorem chainOf_eq_some {ε α : Type} {r : Except (Failure ε) α} {chain : List String} :
    chainOf r = some chain ↔ ∃ f, r = .error f ∧ f.chain = chain := by
  cases r with
  | error f => simp [chainOf]
  | ok a => simp [chainOf]

theorem owned_append (heap : Heap) (kind : Kind) (h : ServiceHandle) :
    (World.mk heap (w.handles ++ [some (kind, h)])).owned = h.owned + w.owned := by
  simp only [World.owned, List.map_append, List.sum_append, List.map_cons, List.map_nil,
    List.sum_cons, List.sum_nil, Option.map_some, Option.getD_some, add_zero]
  exact add_comm _ _

theorem owned_set (hget : w.handles[i]? = some (some (kind, h))) (heap : Heap) :
    w.owned = h.owned + (World.mk heap (w.handles.set i none)).owned := by
  have hsum := sum_map_set
    (fun e : Option (Kind × ServiceHandle) ↦ (e.map fun e ↦ e.2.owned).getD 0) hget none
  simp only [Option.map_some, Option.map_none, Option.getD_some, Option.getD_none,
    zero_add] at hsum
  simp only [World.owned, ← hsum]

/-- What creating a handle comes to: a refusal that changes nothing, or two blocks. -/
inductive CreationOf (silent : Prop) (heap : Heap) :
    Heap × Except (Failure Unit) ServiceHandle → Prop
  | refused (f : Failure Unit) (explained : f.chain = [] → silent) :
    CreationOf silent heap (heap, .error f)
  | granted (address name : ℕ) : CreationOf silent heap ((heap.allocate address).allocate name,
      .ok ⟨rmwGetImplementationIdentifier, address, some name⟩)

section Calls

variable {env : EndpointAnswers} {memory : ServiceAllocations} {heap : Heap}
  {rmwNode : Option RmwNode} {typeSupport : Option ServiceTypeSupport}
  {serviceName : Option String} {qos : Option QosProfile}

theorem creationOf_allocate {silent : Prop} (handleMsg : String) :
    CreationOf silent heap (allocateServiceHandle handleMsg memory heap) := by
  obtain ⟨f, hr, hf⟩ | ⟨address, name, hr⟩ := allocateServiceHandle_cases handleMsg memory heap
  · rw [hr]
    exact .refused f fun hnil ↦ absurd hnil hf
  · rw [hr]
    exact .granted address name

theorem creationOf_client : CreationOf (Unexplained env serviceName qos) heap
    (rmwCreateClient env memory heap rmwNode typeSupport serviceName qos) := by
  simp only [rmwCreateClient]
  split
  · rename_i f hcheck
    exact .refused f (checkCreateServiceHandle_explains f hcheck).2
  · exact creationOf_allocate _

theorem creationOf_service : CreationOf (Unexplained env serviceName qos) heap
    (rmwCreateService env memory heap rmwNode typeSupport serviceName qos) := by
  simp only [rmwCreateService]
  split
  · rename_i f hcheck
    exact .refused f (checkCreateServiceHandle_explains f hcheck).2
  · exact creationOf_allocate _

theorem Accounted.create {silent : Prop} {r : Heap × Except (Failure Unit) ServiceHandle}
    (hw : Accounted before w) (hr : CreationOf silent w.heap r) :
    Accounted before (w.created kind r) := by
  cases hr with
  | refused f hf => exact hw
  | granted address name =>
    constructor
    · intro e he kind' h' heq
      rcases List.mem_append.mp he with hold | hnew
      · exact hw.ours e hold kind' h' heq
      · obtain rfl := List.mem_singleton.mp hnew
        cases heq
        rfl
    · rw [World.created, owned_append]
      exact accounts_allocated hw.accounts address name

theorem Accounted.destroy (hw : Accounted before w) (argument : String)
    (hlookup : w.lookup kind pointer = some handle) : Accounted before
      (w.destroyed pointer (destroyServiceHandle argument w.heap rmwNode handle)) := by
  cases hr : destroyServiceHandle argument w.heap rmwNode handle with
  | mk heap result =>
  cases result with
  | error f =>
    have hsame : heap = w.heap := by
      have hrejected := destroyServiceHandle_rejected (congrArg Prod.snd hr)
      rw [hr] at hrejected
      exact hrejected
    rw [destroyed_error, hsame]
    exact hw
  | ok u =>
    obtain ⟨node, h, rfl, hnode, rfl⟩ := destroyServiceHandle_ok (congrArg Prod.snd hr)
    obtain ⟨i, rfl, hget⟩ := lookup_eq_some hlookup
    have hours := hw.ours _ (List.mem_of_getElem? hget) kind h rfl
    have haccounts := hw.accounts
    rw [owned_set hget heap] at haccounts
    have hfreed := (accounts_destroyed argument hnode hours haccounts).2
    rw [hr] at hfreed
    refine ⟨fun e he kind' h' heq ↦ ?_, hfreed⟩
    rcases List.mem_or_eq_of_mem_set he with hold | rfl
    · exact hw.ours e hold kind' h' heq
    · cases heq

end Calls

theorem exec_accounted (hw : Accounted before w) {op : Op} (hop : Defined w op) :
    Accounted before (exec w op) := by
  cases op with
  | createClient env memory rmwNode typeSupport serviceName qos => exact hw.create creationOf_client
  | createService env memory rmwNode typeSupport serviceName qos =>
    exact hw.create creationOf_service
  | destroyClient rmwNode client =>
    obtain ⟨handle, hlookup⟩ := Option.isSome_iff_exists.mp hop
    simp only [exec, hlookup]
    exact hw.destroy "rmw_client" hlookup
  | destroyService rmwNode service =>
    obtain ⟨handle, hlookup⟩ := Option.isSome_iff_exists.mp hop
    simp only [exec, hlookup]
    exact hw.destroy "rmw_service" hlookup

section Complaints

variable {chain : List String}

theorem created_of_error {silent : Prop} {r : Heap × Except (Failure Unit) ServiceHandle}
    (hr : CreationOf silent w.heap r) {f : Failure Unit} (hf : r.2 = .error f) :
    w.created kind r = w ∧ (f.chain = [] → silent) := by
  cases hr with
  | refused f' explained =>
    cases hf
    exact ⟨rfl, explained⟩
  | granted address name => cases hf

theorem checkDestroyServiceHandle_explains (argument : String) (rmwNode : Option RmwNode)
    (handle : Option ServiceHandle) :
    Explains Fails False (checkDestroyServiceHandle argument rmwNode handle) := by
  have hhandle : ∀ argument identifier, Explains Fails False (ensureHandle argument identifier) :=
    fun argument identifier ↦ (explains_notNull _ (by decide) _).bind fun _ _ ↦
      explains_implementation _ (by decide) _
  exact (hhandle _ _).bind fun _ _ ↦ hhandle _ _

theorem destroyed_of_error {argument : String} {rmwNode : Option RmwNode} {f : Failure RmwRet}
    (hf : (destroyServiceHandle argument w.heap rmwNode handle).2 = .error f) :
    w.destroyed pointer (destroyServiceHandle argument w.heap rmwNode handle) = w ∧
      f.chain ≠ [] := by
  have hsame := destroyServiceHandle_rejected hf
  constructor
  · cases hr : destroyServiceHandle argument w.heap rmwNode handle with
    | mk heap result =>
    rw [hr] at hf hsame
    obtain rfl : result = .error f := hf
    obtain rfl : heap = w.heap := hsame
    exact destroyed_error pointer w.heap f
  · simp only [destroyServiceHandle] at hf
    split at hf
    · rename_i f' hcheck
      cases hf
      exact (checkDestroyServiceHandle_explains argument rmwNode _ _ hcheck).2
    · cases hf

/-- A call that fails changes nothing, and says why unless it was doubtful. -/
theorem exec_of_complaint {op : Op} (h : complaint w op = some chain) :
    exec w op = w ∧ (chain = [] → Doubtful op) := by
  cases op with
  | createClient env memory rmwNode typeSupport serviceName qos =>
    obtain ⟨f, hf, rfl⟩ := chainOf_eq_some.mp h
    exact created_of_error creationOf_client hf
  | createService env memory rmwNode typeSupport serviceName qos =>
    obtain ⟨f, hf, rfl⟩ := chainOf_eq_some.mp h
    exact created_of_error creationOf_service hf
  | destroyClient rmwNode client =>
    obtain ⟨handle, hlookup, hchain⟩ := Option.bind_eq_some_iff.mp h
    obtain ⟨f, hf, rfl⟩ := chainOf_eq_some.mp hchain
    simp only [exec, hlookup]
    exact (destroyed_of_error hf).imp_right fun hchain hnil ↦ absurd hnil hchain
  | destroyService rmwNode service =>
    obtain ⟨handle, hlookup, hchain⟩ := Option.bind_eq_some_iff.mp h
    obtain ⟨f, hf, rfl⟩ := chainOf_eq_some.mp hchain
    simp only [exec, hlookup]
    exact (destroyed_of_error hf).imp_right fun hchain hnil ↦ absurd hnil hchain

end Complaints

theorem owned_nothing (h : ∀ e ∈ w.handles, e = none) : w.owned = 0 := by
  rw [World.owned]
  apply List.sum_eq_zero
  intro share hshare
  obtain ⟨e, he, rfl⟩ := List.mem_map.mp hshare
  rw [h e he]
  rfl

/-- After any run of creating and destroying clients and services, each handle destroyed at most once
and by its own function, what is allocated are the blocks of the handles that live, beside what was
there before; nothing was freed twice; and with the last handle everything is given back. A call
that fails changes nothing. -/
theorem clients_and_services_accounted {heap : Heap} (hsound : heap.faults = 0) {ops : List Op}
    (hops : Admissible exec Defined ⟨heap, []⟩ ops) :
    let w := run exec ⟨heap, []⟩ ops
    (w.heap.held = w.owned + heap.held ∧ w.heap.faults = 0) ∧
      ((∀ e ∈ w.handles, e = none) → w.heap = heap) ∧
      ∀ op chain, complaint w op = some chain → exec w op = w ∧ (chain = [] → Doubtful op) := by
  intro w
  have hstart : Accounted heap.held ⟨heap, []⟩ := by
    refine ⟨fun e he ↦ absurd he List.not_mem_nil, ?_, hsound⟩
    exact (zero_add heap.held).symm
  have hw : Accounted heap.held w :=
    invariant (I := Accounted heap.held) (fun w op hw hop ↦ exec_accounted hw hop) hstart hops
  refine ⟨⟨hw.accounts.held, hw.accounts.sound⟩, fun hnone ↦ ?_, fun op chain ↦ exec_of_complaint⟩
  apply Ledger.ext
  · rw [hw.accounts.held, owned_nothing hnone, zero_add]
  · rw [hw.accounts.sound, hsound]

def helpfulEnv : EndpointAnswers := ⟨fun _ ↦ "not found", fun _ ↦ some none, true, true, true⟩

def ourNode : RmwNode := ⟨rmwGetImplementationIdentifier, none, none⟩

def knownQos : QosProfile := ⟨.keepLast, .reliable, .volatile, .automatic, false⟩

def createClientAt (handle serviceName : Option ℕ) : Op :=
  .createClient helpfulEnv ⟨handle, serviceName⟩ (some ourNode) (some ⟨true, true⟩)
    (some "/add_two_ints") (some knownQos)

def createServiceAt (handle serviceName : Option ℕ) : Op :=
  .createService helpfulEnv ⟨handle, serviceName⟩ (some ourNode) (some ⟨true, true⟩)
    (some "/add_two_ints") (some knownQos)

/-- The second client gets no memory for its name. The first is destroyed at the third attempt, with
a node and a pointer that are not null, and the service lives on. -/
def clientAndService : List Op :=
  [createClientAt (some 1) (some 2), createClientAt (some 3) none,
    createServiceAt (some 3) (some 4), .destroyClient none (some 0),
    .destroyClient (some ourNode) none, .destroyClient (some ourNode) (some 0)]

theorem clientAndService_defined : Admissible exec Defined ⟨.empty _, []⟩ clientAndService :=
  ⟨trivial, trivial, trivial, rfl, rfl, rfl, trivial⟩

theorem clients_and_services_accounted_clientAndService :
    let w := run exec ⟨.empty _, []⟩ clientAndService
    (w.heap.held = w.owned + (Ledger.empty Resource).held ∧ w.heap.faults = 0) ∧
      ((∀ e ∈ w.handles, e = none) → w.heap = .empty _) ∧
      ∀ op chain, complaint w op = some chain → exec w op = w ∧ (chain = [] → Doubtful op) :=
  clients_and_services_accounted rfl clientAndService_defined

end RmwIceoryx2.System.ServiceLedger
