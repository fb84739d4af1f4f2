import RmwIceoryx2.Common.Error
import RmwIceoryx2.Library.FirstOccurrence

namespace RmwIceoryx2.Runtime

open Common Library.FirstOccurrence

abbrev RmwIndex := ℕ

abbrev StorageIndex := ℕ

abbrev FileDescriptor := ℕ

abbrev Duration := ℕ

inductive WaitableEntity
  | subscriber | guardCondition
  deriving DecidableEq, Repr

/-- A listener of the middleware: the descriptor it is attached by, and whether it holds
events that `try_wait_all` has not yet drained. -/
structure Listener where
  fileDescriptor : FileDescriptor
  pending : Bool
  deriving DecidableEq, Repr

structure ListenerDetails where
  serviceName : String
  listener : Listener
  deriving DecidableEq, Repr

def ListenerDetails.drained (d : ListenerDetails) : ListenerDetails :=
  { d with listener := { d.listener with pending := false } }

structure RmwMapping where
  waitableType : WaitableEntity
  storageIndex : StorageIndex
  rmwIndex : RmwIndex
  deriving DecidableEq, Repr

structure TriggeredWaitable where
  waitableType : WaitableEntity
  rmwIndex : RmwIndex
  deriving DecidableEq, Repr

/-- The id under which the middleware reports an attachment: the one interval, or a
notification told apart by its descriptor. -/
inductive AttachmentId
  | interval
  | notification (fileDescriptor : FileDescriptor)
  deriving DecidableEq, Repr

structure AttachmentDetails where
  id : AttachmentId
  mapping : RmwMapping
  deriving DecidableEq, Repr

/-- The listeners of the two storages, and the mapping staged for the next wait. -/
structure WaitSet where
  guardConditionListeners : List ListenerDetails
  subscriberListeners : List ListenerDetails
  mapping : List RmwMapping
  deriving DecidableEq, Repr

def WaitSet.empty : WaitSet := ⟨[], [], []⟩

/-- The answers of iceoryx2 during one call. `waitAndProcessOnce` gives the attachment ids
handed to the callback, in order, and how the run ended. -/
structure Middleware where
  openOrCreate : WaitableEntity → String → Except String Unit
  createListener : WaitableEntity → String → Except String FileDescriptor
  attachInterval : Duration → Except String Unit
  attachNotification : FileDescriptor → Except String Unit
  waitAndProcessOnce : Option Duration → List AttachmentId × Except String Unit
  tryWaitAll : FileDescriptor → Except String Unit

/-- A middleware that has the given listeners to offer and hands over the given ids. -/
def Middleware.offering (listeners : List ((WaitableEntity × String) × FileDescriptor))
    (ids : List AttachmentId) : Middleware where
  openOrCreate _ _ := .ok ()
  createListener ty serviceName :=
    match listeners.lookup (ty, serviceName) with
    | some fd => .ok fd
    | none => .error "ExceedsMaxSupportedListeners"
  attachInterval _ := .ok ()
  attachNotification _ := .ok ()
  waitAndProcessOnce _ := (ids, .ok ())
  tryWaitAll _ := .ok ()

namespace WaitSet

def listenerStorage (ws : WaitSet) : WaitableEntity → List ListenerDetails
  | .guardCondition => ws.guardConditionListeners
  | .subscriber => ws.subscriberListeners

def setStorage (ws : WaitSet) (ty : WaitableEntity) (storage : List ListenerDetails) : WaitSet :=
  match ty with
  | .guardCondition => { ws with guardConditionListeners := storage }
  | .subscriber => { ws with subscriberListeners := storage }

@[simp] theorem listenerStorage_setStorage (ws : WaitSet) (ty : WaitableEntity)
    (storage : List ListenerDetails) : (ws.setStorage ty storage).listenerStorage ty = storage := by
  cases ty <;> rfl

theorem listenerStorage_setStorage_of_ne (ws : WaitSet) {ty ty' : WaitableEntity} (h : ty' ≠ ty)
    (storage : List ListenerDetails) :
    (ws.setStorage ty storage).listenerStorage ty' = ws.listenerStorage ty' := by
  cases ty <;> cases ty' <;> first | rfl | exact absurd rfl h

@[simp] theorem mapping_setStorage (ws : WaitSet) (ty : WaitableEntity)
    (storage : List ListenerDetails) : (ws.setStorage ty storage).mapping = ws.mapping := by
  cases ty <;> rfl

def findListener (ws : WaitSet) (ty : WaitableEntity) (serviceName : String) :
    Option StorageIndex :=
  (ws.listenerStorage ty).findIdx? (·.serviceName = serviceName)

/-- A listener for the service, created and stored on its first use. -/
def getStorageIndex (mw : Middleware) (ws : WaitSet) (ty : WaitableEntity) (serviceName : String) :
    Except (Failure WaitSetError) (WaitSet × StorageIndex) :=
  match ws.findListener ty serviceName with
  | none =>
    match mw.openOrCreate ty serviceName with
    | .error e => .error ⟨.serviceCreationFailure, [e]⟩
    | .ok () =>
      match mw.createListener ty serviceName with
      | .error e => .error ⟨.listenerCreationFailure, [e]⟩
      | .ok fd =>
        let storage := ws.listenerStorage ty ++ [⟨serviceName, ⟨fd, false⟩⟩]
        .ok (ws.setStorage ty storage, storage.length - 1)
  | some storageIndex => .ok (ws, storageIndex)

def getStoredListener (ws : WaitSet) (ty : WaitableEntity) (storageIndex : StorageIndex) :
    Option ListenerDetails := (ws.listenerStorage ty)[storageIndex]?

def mappingKey (m : RmwMapping) : WaitableEntity × StorageIndex := (m.waitableType, m.storageIndex)

def mapStoredListener (ws : WaitSet) (ty : WaitableEntity) (storageIndex : StorageIndex)
    (rmwIndex : RmwIndex) : WaitSet :=
  { ws with mapping := pushNew mappingKey ws.mapping ⟨ty, storageIndex, rmwIndex⟩ }

def map (mw : Middleware) (ws : WaitSet) (ty : WaitableEntity) (rmwIndex : RmwIndex)
    (serviceName : String) : Except (Failure WaitSetError) WaitSet :=
  match ws.getStorageIndex mw ty serviceName with
  | .error f => .error f
  | .ok (ws, storageIndex) => .ok (ws.mapStoredListener ty storageIndex rmwIndex)

def mapGuardCondition (mw : Middleware) (ws : WaitSet) (rmwIndex : RmwIndex)
    (serviceName : String) := ws.map mw .guardCondition rmwIndex serviceName

def mapSubscriber (mw : Middleware) (ws : WaitSet) (rmwIndex : RmwIndex)
    (serviceName : String) := ws.map mw .subscriber rmwIndex serviceName

def unmapAll (ws : WaitSet) : WaitSet := { ws with mapping := [] }

def zeroTimeout (timeout : Option Duration) : Bool := timeout = some 0

def noTimeout (timeout : Option Duration) : Bool := timeout.isNone

def attachTimeout (mw : Middleware) (timeout : Duration) :
    Except (Failure WaitSetError) AttachmentId :=
  match mw.attachInterval timeout with
  | .error _ => .error ⟨.attachmentFailure, []⟩
  | .ok () => .ok .interval

def attachSuppliedTimeout (mw : Middleware) :
    Option Duration → Except (Failure WaitSetError) (Option AttachmentId)
  | none => .ok none
  | some timeout => (attachTimeout mw timeout).map some

def attachMappedListener (mw : Middleware) (ws : WaitSet) (m : RmwMapping) :
    Except (Failure WaitSetError) AttachmentDetails :=
  match ws.getStoredListener m.waitableType m.storageIndex with
  | some details =>
    match mw.attachNotification details.listener.fileDescriptor with
    | .error e => .error ⟨.attachmentFailure, [e]⟩
    | .ok () => .ok ⟨.notification details.listener.fileDescriptor, m⟩
  | none => .error ⟨.invalidStorageIndex, ["mapped listener not found in listener storage"]⟩

/-- The loop over the staged mappings; the first failure ends it. -/
def attachMappedListeners (mw : Middleware) (ws : WaitSet) :
    List RmwMapping → Except (Failure WaitSetError) (List AttachmentDetails)
  | [] => .ok []
  | m :: ms =>
    match ws.attachMappedListener mw m with
    | .error f => .error (f.wrap f.error "failed to attach mapped listeners to waitset")
    | .ok attachment =>
      match attachMappedListeners mw ws ms with
      | .error f => .error f
      | .ok attachments => .ok (attachment :: attachments)

def drainListener (ws : WaitSet) (ty : WaitableEntity) (storageIndex : StorageIndex) : WaitSet :=
  ws.setStorage ty ((ws.listenerStorage ty).modify storageIndex ListenerDetails.drained)

def missingListenerMsg : WaitableEntity → String
  | .guardCondition => "unable to find guard condition listener at provided index"
  | .subscriber => "unable to find subscriber listener at provided index"

/-- Besides the wait set, the descriptor that was drained is returned. -/
def processTrigger (mw : Middleware) (ws : WaitSet) (ty : WaitableEntity)
    (storageIndex : StorageIndex) : Except (Failure WaitSetError) (WaitSet × FileDescriptor) :=
  match ws.getStoredListener ty storageIndex with
  | some details =>
    match mw.tryWaitAll details.listener.fileDescriptor with
    | .error _ => .error ⟨.listenerFailure, ["failed to retrieve events from listener"]⟩
    | .ok () => .ok (ws.drainListener ty storageIndex, details.listener.fileDescriptor)
  | none => .error ⟨.invalidStorageIndex, [missingListenerMsg ty]⟩

inductive CallbackProgression
  | stop | continue
  deriving DecidableEq, Repr

/-- The state the event callback works on: the wait set, the triggered waitables, the
descriptors drained and the messages chained so far. -/
structure Progress where
  waitSet : WaitSet
  result : List TriggeredWaitable
  drained : List FileDescriptor
  chain : List String
  deriving DecidableEq, Repr

def onEvent (mw : Middleware) (attachedTimeout : Option AttachmentId)
    (attached : List AttachmentDetails) (p : Progress) (id : AttachmentId) :
    Progress × CallbackProgression :=
  if attachedTimeout = some id then (p, .stop)
  else match attached.find? (·.id = id) with
    | some a =>
      match p.waitSet.processTrigger mw a.mapping.waitableType a.mapping.storageIndex with
      -- the failure does not end the wait, but its message stays in the error state
      | .error f => ({ p with chain := f.chain ++ p.chain }, .continue)
      | .ok (ws, fd) =>
        ({ p with
            waitSet := ws
            result := p.result ++ [⟨a.mapping.waitableType, a.mapping.rmwIndex⟩]
            drained := p.drained ++ [fd] }, .continue)
    | none => (p, .continue)

/-- The middleware calls back for one id after the other until it is told to stop. -/
def processEvents (mw : Middleware) (attachedTimeout : Option AttachmentId)
    (attached : List AttachmentDetails) : List AttachmentId → Progress → Progress
  | [], p => p
  | id :: ids, p =>
    match onEvent mw attachedTimeout attached p id with
    | (p, .stop) => p
    | (p, .continue) => processEvents mw attachedTimeout attached ids p

structure WaitReturn where
  waitSet : WaitSet
  drained : List FileDescriptor
  result : Except (Failure WaitSetError) (List TriggeredWaitable)

def wait (mw : Middleware) (ws : WaitSet) (timeout : Option Duration) : WaitReturn :=
  if ws.mapping.isEmpty && zeroTimeout timeout then ⟨ws, [], .ok []⟩
  else if ws.mapping.isEmpty && noTimeout timeout then ⟨ws, [], .error ⟨.waitFailure, []⟩⟩
  else
    match attachSuppliedTimeout mw timeout with
    | .error f => ⟨ws, [], .error f⟩
    | .ok attachedTimeout =>
      match ws.attachMappedListeners mw ws.mapping with
      | .error f => ⟨ws, [], .error f⟩
      | .ok attached =>
        let (events, ended) := mw.waitAndProcessOnce timeout
        let p := processEvents mw attachedTimeout attached events ⟨ws, [], [], []⟩
        match ended with
        | .error e => ⟨p.waitSet, p.drained, .error ⟨.waitFailure, e :: p.chain⟩⟩
        | .ok () => ⟨p.waitSet, p.drained, .ok p.result⟩

end WaitSet

end RmwIceoryx2.Runtime
