import RmwIceoryx2.Common.Names
import RmwIceoryx2.Message.TypeSupport

namespace RmwIceoryx2.Runtime

open Common RmwIceoryx2.Message

structure PublisherPort where
  loanSliceUninit : ℕ → Except String Sample
  send : Sample → Except String Unit
  sendSliceCopy : Bytes → Except String Unit
  notify : Except String Unit
  deriving Inhabited

def grantingPort : PublisherPort where
  loanSliceUninit n := .ok ⟨7, List.replicate n 0⟩
  send _ := .ok ()
  sendSliceCopy _ := .ok ()
  notify := .ok ()

/-- What a publisher asks of iceoryx2, whether it is granted or not. -/
inductive PortRequest
  | loanSliceUninit (numberOfBytes : ℕ)
  | send (payload : Bytes)
  | sendSliceCopy (payload : Bytes)
  | notify
  deriving DecidableEq, Repr

/-- The length of the slice that a request needs the publisher to provide. -/
def PortRequest.sliceLen : PortRequest → Option ℕ
  | .loanSliceUninit numberOfBytes => some numberOfBytes
  | .sendSliceCopy payload => some payload.length
  | _ => none

/-- `initialMaxSliceLen` is what the iceoryx2 publisher was built with. -/
structure Publisher (M : Type) where
  topic : String
  typesupport : TypeSupport M
  unserializedSize : ℕ
  serviceName : String
  initialMaxSliceLen : ℕ
  registry : SampleRegistry

/-- The answers of iceoryx2 while an endpoint is created. -/
structure CreationAnswers where
  serviceName : String → Except String Unit
  publishSubscribe : String → Except String Unit
  port : ℕ → Except String Unit
  event : String → Except String Unit
  notifier : Except String Unit

variable {M : Type}

namespace Publisher

/-- The source has its doubts: "All ROS2 messages have alignment 8. Maybe?" -/
def payloadAlignment : ℕ := 8

def create (mw : CreationAnswers) (topic : String) (typeSupport : TypeSupport M) :
    Except (Failure PublisherError) (Publisher M) :=
  let serviceName := Names.topic topic
  -- the size is asked for before the first step, and again for the port
  let sizeChain := messageSizeChain typeSupport
  match mw.serviceName serviceName with
  | .error e => .error ⟨.serviceNameCreationFailure, e :: sizeChain⟩
  | .ok () =>
    match mw.publishSubscribe serviceName with
    | .error e => .error ⟨.serviceCreationFailure, e :: sizeChain⟩
    | .ok () =>
      let initialMaxSliceLen := messageSize typeSupport
      let sizeChain := sizeChain ++ messageSizeChain typeSupport
      match mw.port initialMaxSliceLen with
      | .error e => .error ⟨.publisherCreationFailure, e :: sizeChain⟩
      | .ok () =>
        match mw.event serviceName with
        | .error e => .error ⟨.serviceCreationFailure, e :: sizeChain⟩
        | .ok () =>
          match mw.notifier with
          | .error e => .error ⟨.notifierCreationFailure, e :: sizeChain⟩
          | .ok () => .ok ⟨topic, typeSupport, messageSize typeSupport, serviceName,
              initialMaxSliceLen, .empty _⟩

structure Return (M α : Type) where
  publisher : Publisher M
  requests : List PortRequest
  result : Except (Failure PublisherError) α

def loan (port : PublisherPort) (p : Publisher M) (numberOfBytes : ℕ) : Return M Address :=
  match port.loanSliceUninit numberOfBytes with
  | .error _ => ⟨p, [.loanSliceUninit numberOfBytes], .error ⟨.loanFailure, []⟩⟩
  | .ok sample =>
    let (registry, ptr) := p.registry.store sample
    ⟨{ p with registry := registry }, [.loanSliceUninit numberOfBytes], .ok ptr⟩

def returnLoan (p : Publisher M) (loanedMemory : Address) : Return M Unit :=
  match p.registry.release loanedMemory with
  | .error _ => ⟨p, [], .error ⟨.invalidPayload, []⟩⟩
  | .ok (_, registry) => ⟨{ p with registry := registry }, [], .ok ()⟩

def publishLoan (port : PublisherPort) (p : Publisher M) (loanedMemory : Address) :
    Return M Unit :=
  match p.registry.release loanedMemory with
  | .error _ => ⟨p, [], .error ⟨.invalidPayload, ["invalid payload pointer"]⟩⟩
  | .ok (sample, registry) =>
    let p := { p with registry := registry }
    match port.send sample with
    | .error e => ⟨p, [.send sample.payload], .error ⟨.sendFailure, [e]⟩⟩
    | .ok () =>
      match port.notify with
      | .error e => ⟨p, [.send sample.payload, .notify], .error ⟨.notificationFailure, [e]⟩⟩
      | .ok () => ⟨p, [.send sample.payload, .notify], .ok ()⟩

/-- The first `numberOfBytes` bytes at `data` are sent. -/
def publishCopy (port : PublisherPort) (p : Publisher M) (data : Bytes) (numberOfBytes : ℕ) :
    Return M Unit :=
  let payload := data.take numberOfBytes
  match port.sendSliceCopy payload with
  | .error e => ⟨p, [.sendSliceCopy payload], .error ⟨.sendFailure, [e]⟩⟩
  | .ok () =>
    match port.notify with
    | .error e => ⟨p, [.sendSliceCopy payload, .notify], .error ⟨.notificationFailure, [e]⟩⟩
    | .ok () => ⟨p, [.sendSliceCopy payload, .notify], .ok ()⟩

def writeLoan (p : Publisher M) (loanedMemory : Address) (payload : Bytes) : Publisher M :=
  { p with registry := p.registry.write loanedMemory payload }

def holding (p : Publisher M) (sample : Sample) : Publisher M :=
  { p with registry := p.registry.put sample }

variable {port : PublisherPort} {p : Publisher M} {sample : Sample}

theorem create_ok {mw : CreationAnswers} {topic : String} {typeSupport : TypeSupport M}
    (h : create mw topic typeSupport = .ok p) : p = ⟨topic, typeSupport, messageSize typeSupport,
      Names.topic topic, messageSize typeSupport, .empty _⟩ := by
  simp only [create] at h
  repeat' split at h
  all_goals cases h
  rfl

theorem loan_granted {numberOfBytes : ℕ} (hport : port.loanSliceUninit numberOfBytes = .ok sample)
    (hunused : p.registry.Unused sample) : p.loan port numberOfBytes =
      ⟨p.holding sample, [.loanSliceUninit numberOfBytes], .ok sample.address⟩ := by
  simp only [loan, hport, hunused.store, holding]

theorem loan_refused {numberOfBytes : ℕ} {e : String}
    (hport : port.loanSliceUninit numberOfBytes = .error e) : p.loan port numberOfBytes =
      ⟨p, [.loanSliceUninit numberOfBytes], .error ⟨.loanFailure, []⟩⟩ := by
  simp only [loan, hport]

theorem writeLoan_holding (payload : Bytes) :
    (p.holding sample).writeLoan sample.address payload =
      p.holding { sample with payload := payload } := by
  simp only [writeLoan, holding, SampleRegistry.write_put]

/-- Publishing a loan takes it out of the registry, however sending and notifying end. -/
theorem publishLoan_holding (hunused : p.registry.Unused sample) (payload : Bytes) :
    ((p.holding { sample with payload := payload }).publishLoan port sample.address).publisher =
      p := by
  simp only [publishLoan, holding, SampleRegistry.release_put_write hunused]
  cases hsend : port.send { sample with payload := payload } with
  | error e => simp only
  | ok u => cases hnotify : port.notify <;> simp only

theorem publishLoan_sent (hunused : p.registry.Unused sample) {payload : Bytes}
    (hsend : port.send { sample with payload := payload } = .ok ()) (hnotify : port.notify = .ok ()) :
    (p.holding { sample with payload := payload }).publishLoan port sample.address =
      ⟨p, [.send payload, .notify], .ok ()⟩ := by
  simp only [publishLoan, holding, SampleRegistry.release_put_write hunused, hsend, hnotify]

theorem publishCopy_publisher (data : Bytes) (numberOfBytes : ℕ) :
    (p.publishCopy port data numberOfBytes).publisher = p := by
  simp only [publishCopy]
  cases hsend : port.sendSliceCopy (data.take numberOfBytes) with
  | error e => simp only
  | ok u => cases hnotify : port.notify <;> simp only

end Publisher

end RmwIceoryx2.Runtime
