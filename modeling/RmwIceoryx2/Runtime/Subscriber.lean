import RmwIceoryx2.Common.Names
import RmwIceoryx2.Message.TypeSupport

namespace RmwIceoryx2.Runtime

open Common RmwIceoryx2.Message

abbrev SubscriberPort := Except String (Option Sample)

structure Subscriber (M : Type) where
  topic : String
  typesupport : TypeSupport M
  serviceName : String
  registry : SampleRegistry

/-- A payload lent to the caller; `payload` is what lies at `bytes`. -/
structure SubscriberLoan where
  bytes : Address
  payload : Bytes
  deriving DecidableEq, Repr

def SubscriberLoan.numberOfBytes (loan : SubscriberLoan) : ℕ := loan.payload.length

structure SubscriberCreationAnswers where
  serviceName : String → Except String Unit
  publishSubscribe : String → Except String Unit
  port : Except String Unit

variable {M : Type}

namespace Subscriber

def payloadAlignment : ℕ := 8

/-- The publishers of a topic open its service with the same size. -/
def subscriberMaxBufferSize : ℕ := 10

def create (mw : SubscriberCreationAnswers) (topic : String) (typeSupport : TypeSupport M) :
    Except (Failure SubscriberError) (Subscriber M) :=
  let serviceName := Names.topic topic
  match mw.serviceName serviceName with
  | .error e => .error ⟨.serviceNameCreationFailure, [e]⟩
  | .ok () =>
    match mw.publishSubscribe serviceName with
    | .error e => .error ⟨.serviceCreationFailure, [e]⟩
    | .ok () =>
      match mw.port with
      | .error e => .error ⟨.subscriberCreationFailure, [e]⟩
      | .ok () => .ok ⟨topic, typeSupport, serviceName, .empty _⟩

/-- The bytes copied to the destination, if a sample was received. Their number is the sender's. -/
def takeCopy (port : SubscriberPort) : Except (Failure SubscriberError) (Option Bytes) :=
  match port with
  | .error e => .error ⟨.recvFailure, [e]⟩
  | .ok sample => .ok (sample.map (·.payload))

def takeLoan (port : SubscriberPort) (s : Subscriber M) :
    Subscriber M × Except (Failure SubscriberError) (Option SubscriberLoan) :=
  match port with
  | .error e => (s, .error ⟨.recvFailure, [e]⟩)
  | .ok none => (s, .ok none)
  | .ok (some sample) =>
    ({ s with registry := (s.registry.store sample).1 }, .ok (some ⟨sample.address, sample.payload⟩))

def returnLoan (s : Subscriber M) (loanedMemory : Address) :
    Subscriber M × Except (Failure SubscriberError) Unit :=
  match s.registry.release loanedMemory with
  | .error _ => (s, .error ⟨.invalidPayload, []⟩)
  | .ok (_, registry) => ({ s with registry := registry }, .ok ())

def holding (s : Subscriber M) (sample : Sample) : Subscriber M :=
  { s with registry := s.registry.put sample }

variable {port : SubscriberPort} {s : Subscriber M} {sample : Sample}

theorem create_ok {mw : SubscriberCreationAnswers} {topic : String} {typeSupport : TypeSupport M}
    (h : create mw topic typeSupport = .ok s) :
    s = ⟨topic, typeSupport, Names.topic topic, .empty _⟩ := by
  simp only [create] at h
  repeat' split at h
  all_goals cases h
  rfl

theorem takeLoan_received (hport : port = .ok (some sample)) (hunused : s.registry.Unused sample) :
    s.takeLoan port = (s.holding sample, .ok (some ⟨sample.address, sample.payload⟩)) := by
  simp only [takeLoan, hport, hunused.store, holding]

theorem returnLoan_holding (hunused : s.registry.Unused sample) :
    (s.holding sample).returnLoan sample.address = (s, .ok ()) := by
  simp only [returnLoan, holding, SampleRegistry.release_put hunused]

end Subscriber

end RmwIceoryx2.Runtime
