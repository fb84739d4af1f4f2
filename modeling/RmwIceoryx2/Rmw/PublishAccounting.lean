import RmwIceoryx2.Library.Execution
import RmwIceoryx2.Rmw.Publisher

namespace RmwIceoryx2.Rmw

open RmwIceoryx2.Common RmwIceoryx2.Runtime RmwIceoryx2.Message RmwIceoryx2.Library
open RmwIceoryx2.Library.Execution

variable {M : Type} {port : PublisherPort} {h : RmwPublisher M} {p : Publisher M}

def Serializes (typeSupport : TypeSupport M) (rosMessage : RosMessage M) (capacity : ℕ) : Prop :=
  ∃ callbacks bytes, typeSupport.fastrtpsCpp = some (some callbacks) ∧
    callbacks.cdrSerialize rosMessage.value capacity = .ok bytes

def RmwPublisher.samples (h : RmwPublisher M) : Option SampleRegistry := h.data.map (·.registry)

/-- A granted loan lies where no sample that the publisher still holds lies. -/
def GrantsUnused (h : RmwPublisher M) : PublisherOp M → Prop
  | .publish port _ => ∀ p n sample, h.data = some p → port.loanSliceUninit n = .ok sample →
      p.registry.Unused sample
  | _ => True

def PublishKeepsSamples (h : RmwPublisher M) (op : PublisherOp M) : Prop :=
  match op with
  | .publish _ _ => (publisherExec h op).samples = h.samples
  | _ => True

def LoanedMessagesSerialize (h : RmwPublisher M) : PublisherOp M → Prop
  | .publish port rosMessage => ∀ p m sample, h.data = some p → rosMessage = some m →
      h.implementationIdentifier = rmwGetImplementationIdentifier → h.canLoanMessages = false →
        port.loanSliceUninit (serializedMessageSize m p.typesupport) = .ok sample →
          Serializes p.typesupport m (serializedMessageSize m p.typesupport)
  | _ => True

/-- A granted loan stays registered if the message cannot be serialized into it. -/
theorem publishSerialized_failed {m : RosMessage M} {sample : Sample}
    (hloan : port.loanSliceUninit (serializedMessageSize m p.typesupport) = .ok sample)
    (hfree : p.registry.Unused sample)
    (hno : ¬ Serializes p.typesupport m (serializedMessageSize m p.typesupport)) :
    (publishSerialized port h p m).publisher = some { h with data := some (p.holding sample) } := by
  have hstored : (p.holding sample).registry.retrieve sample.address = some sample :=
    SampleRegistry.retrieve_put
  simp only [publishSerialized, Publisher.loan_granted hloan hfree, hstored, Option.map_some,
    Option.getD_some]
  cases hwritten : rmwSerialize (some m) (some p.typesupport) (some ⟨sample.payload,
      serializedMessageSize m p.typesupport, serializedMessageSize m p.typesupport⟩) with
  | error f => rfl
  | ok written =>
    obtain ⟨callbacks, bytes, hcpp, hbytes, -⟩ := rmwSerialize_ok.mp hwritten
    exact absurd ⟨callbacks, bytes, hcpp, hbytes⟩ hno

theorem publishSerialized_samples {m : RosMessage M} (hdata : h.data = some p)
    (hunused : ∀ n sample, port.loanSliceUninit n = .ok sample → p.registry.Unused sample) :
    ((publishSerialized port h p m).publisher.getD h).samples = h.samples ↔
      ∀ sample, port.loanSliceUninit (serializedMessageSize m p.typesupport) = .ok sample →
        Serializes p.typesupport m (serializedMessageSize m p.typesupport) := by
  have hsamples : h.samples = some p.registry := by rw [RmwPublisher.samples, hdata, Option.map_some]
  cases hloan : port.loanSliceUninit (serializedMessageSize m p.typesupport) with
  | error e =>
    simp [publishSerialized, Publisher.loan_refused hloan, RmwPublisher.samples, hdata]
  | ok sample =>
    have hfree := hunused _ _ hloan
    simp only [Except.ok.injEq, forall_eq', hsamples]
    by_cases hser : Serializes p.typesupport m (serializedMessageSize m p.typesupport)
    · obtain ⟨callbacks, bytes, hcpp, hbytes⟩ := hser
      rw [publishSerialized_granted hloan hfree hcpp hbytes]
      simpa [PublisherOutcome.finished, RmwPublisher.samples, Publisher.publishLoan_holding hfree]
        using ⟨callbacks, bytes, hcpp, hbytes⟩
    · have hleft : p.registry.put sample ≠ p.registry := KeyedMap.put_ne hfree
      rw [publishSerialized_failed hloan hfree hser]
      simpa [RmwPublisher.samples, Publisher.holding, hser] using hleft

theorem publish_samples {rosMessage : Option (RosMessage M)}
    (hunused : GrantsUnused h (.publish port rosMessage)) :
    PublishKeepsSamples h (.publish port rosMessage) ↔
      LoanedMessagesSerialize h (.publish port rosMessage) := by
  simp only [PublishKeepsSamples, publisherExec, publisherCall, rmwPublish]
  cases hcheck : checkPublisher (some h) "ros_message" rosMessage with
  | error f =>
    refine ⟨fun _ p m sample hdata hmessage hid ↦ ?_, fun _ ↦ rfl⟩
    rw [checkPublisher_eq_ok.mpr ⟨hid, p, m, hdata, hmessage, rfl⟩] at hcheck
    cases hcheck
  | ok checked =>
    obtain ⟨hid, p, m, hdata, hmessage, rfl⟩ := checkPublisher_eq_ok.mp hcheck
    by_cases hloans : h.canLoanMessages = true
    · simp [hloans, LoanedMessagesSerialize, PublisherOutcome.finished, RmwPublisher.samples,
        Publisher.publishCopy_publisher, hdata]
    · simp only [hloans, if_neg, Bool.false_eq_true, not_false_eq_true]
      rw [publishSerialized_samples hdata fun n sample ↦ hunused p n sample hdata]
      refine ⟨fun hall p' m' sample hp' hm' _ _ ↦ ?_, fun hall sample ↦ ?_⟩
      · obtain rfl : p = p' := Option.some_inj.mp (hdata.symm.trans hp')
        obtain rfl : m = m' := Option.some_inj.mp (hmessage.symm.trans hm')
        exact hall sample
      · exact hall p m sample hdata hmessage hid (Bool.eq_false_iff.mpr hloans)

/-- In a run of a publisher's calls no publishing strands a sample or takes one from the
application exactly if each message that is given a loan can be serialized into it. -/
theorem publishing_keeps_samples_iff (h : RmwPublisher M) (ops : List (PublisherOp M))
    (hunused : Admissible publisherExec GrantsUnused h ops) :
    Admissible publisherExec PublishKeepsSamples h ops ↔
      Admissible publisherExec LoanedMessagesSerialize h ops := by
  refine admissible_congr (fun h op hop ↦ ?_) hunused
  cases op with
  | publish port rosMessage => exact publish_samples hop
  | _ => exact Iff.rfl

def textPublisher (answer : Except String Bytes) : RmwPublisher Unit :=
  publisherHandle ⟨"chatter", ⟨true, none, none, none,
    some (some ⟨fun _ ↦ 0, fun _ _ ↦ answer, fun _ ↦ .ok ()⟩)⟩, 0, "ros2://topics/chatter", 0,
    .empty _⟩

def publishUnit : PublisherOp Unit := .publish grantingPort (some ⟨[], ()⟩)

theorem textPublisher_grants (answer : Except String Bytes) :
    Admissible publisherExec GrantsUnused (textPublisher answer) [publishUnit] := by
  refine ⟨fun p n sample hp _ ↦ ?_, trivial⟩
  obtain rfl := Option.some_inj.mp hp
  exact KeyedMap.find_empty _

theorem publishing_keeps_samples_iff_text :
    Admissible publisherExec PublishKeepsSamples (textPublisher (.ok [])) [publishUnit] := by
  apply (publishing_keeps_samples_iff _ _ (textPublisher_grants (.ok []))).mpr
  refine ⟨fun p m sample hp _ _ _ _ ↦ ?_, trivial⟩
  obtain rfl := Option.some_inj.mp hp
  exact ⟨_, [], rfl, rfl⟩

theorem failed_serialization_strands_sample :
    Admissible publisherExec GrantsUnused (textPublisher (.error "NotEnoughMemory")) [publishUnit] ∧
      ¬ Admissible publisherExec PublishKeepsSamples (textPublisher (.error "NotEnoughMemory"))
        [publishUnit] := by
  refine ⟨textPublisher_grants _, fun h ↦ ?_⟩
  have hfind := congrArg (·.bind (·.find 7)) h.1
  exact absurd hfind (by decide)

end RmwIceoryx2.Rmw
