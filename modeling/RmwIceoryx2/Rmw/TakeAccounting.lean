import RmwIceoryx2.Library.Execution
import RmwIceoryx2.Rmw.Subscription

namespace RmwIceoryx2.Rmw

open RmwIceoryx2.Common RmwIceoryx2.Runtime RmwIceoryx2.Message RmwIceoryx2.Library
open RmwIceoryx2.Library.Execution

variable {M : Type} {port : SubscriberPort} {h : RmwSubscription M} {s : Subscriber M}

def Deserializes (typeSupport : TypeSupport M) (payload : Bytes) : Prop :=
  ∃ callbacks value, typeSupport.fastrtpsCpp = some (some callbacks) ∧
    callbacks.cdrDeserialize payload = .ok value

def RmwSubscription.samples (h : RmwSubscription M) : Option SampleRegistry :=
  h.data.map (·.registry)

/-- What a take receives lies where no sample that the subscription still holds lies. -/
def ReceivesUnused (h : RmwSubscription M) : SubscriptionOp M → Prop
  | .take port _ _ | .takeSerialized port _ _ _ => ∀ s sample, h.data = some s →
      port = .ok (some sample) → s.registry.Unused sample
  | _ => True

def TakeKeepsSamples (h : RmwSubscription M) (op : SubscriptionOp M) : Prop :=
  match op with
  | .take _ _ _ | .takeSerialized _ _ _ _ => (subscriptionExec h op).samples = h.samples
  | _ => True

structure Receives {α : Type} (h : RmwSubscription M) (port : SubscriberPort) (value : Option α)
    (taken : Option Bool) (s : Subscriber M) (v : α) (sample : Sample) : Prop where
  implementation : h.implementationIdentifier = rmwGetImplementationIdentifier
  data : h.data = some s
  value : value = some v
  taken : taken.isSome
  received : port = .ok (some sample)

/-- What is received can be deserialized, or stored in the message of the caller. -/
def BorrowedSamplesUsable (h : RmwSubscription M) : SubscriptionOp M → Prop
  | .take port rosMessage taken => h.canLoanMessages = false → ∀ s m sample,
      Receives h port rosMessage taken s m sample → Deserializes s.typesupport sample.payload
  | .takeSerialized port resize serializedMessage taken => ∀ s m sample,
      Receives h port serializedMessage taken s m sample → (resize m sample.payload.length).isSome
  | _ => True

theorem takeDeserialized_samples {m : RosMessage M} {taken : Option Bool} (hdata : h.data = some s)
    (hunused : ∀ sample, port = .ok (some sample) → s.registry.Unused sample) :
    ((takeDeserialized port h s m taken).subscription.getD h).samples = h.samples ↔
      ∀ sample, port = .ok (some sample) → Deserializes s.typesupport sample.payload := by
  have hsamples : h.samples = some s.registry := by rw [RmwSubscription.samples, hdata, Option.map_some]
  rcases port with e | _ | sample
  · simp [takeDeserialized, Subscriber.takeLoan, SubscriptionOutcome.ended, RmwSubscription.samples,
      hdata]
  · simp [takeDeserialized, Subscriber.takeLoan, SubscriptionOutcome.ended, RmwSubscription.samples,
      hdata]
  · have hfree := hunused sample rfl
    simp only [Except.ok.injEq, Option.some.injEq, forall_eq', hsamples]
    by_cases hdes : Deserializes s.typesupport sample.payload
    · obtain ⟨callbacks, value, hcpp, hvalue⟩ := hdes
      rw [takeDeserialized_ok hfree hcpp hvalue]
      simpa [RmwSubscription.samples, SubscriptionOutcome.ended]
        using ⟨callbacks, value, hcpp, hvalue⟩
    · obtain ⟨chain, hfailed⟩ := takeDeserialized_failed (h := h) (m := m) hfree
        fun callbacks value hcpp hvalue ↦ hdes ⟨callbacks, value, hcpp, hvalue⟩
      have hleft : s.registry.put sample ≠ s.registry := KeyedMap.put_ne hfree
      rw [hfailed]
      simpa [RmwSubscription.samples, SubscriptionOutcome.ended, Subscriber.holding, hdes] using hleft

theorem take_samples {rosMessage : Option (RosMessage M)} {taken : Option Bool}
    (hunused : ReceivesUnused h (.take port rosMessage taken)) :
    TakeKeepsSamples h (.take port rosMessage taken) ↔
      BorrowedSamplesUsable h (.take port rosMessage taken) := by
  simp only [TakeKeepsSamples, subscriptionExec, subscriptionCall, rmwTake]
  cases hcheck : checkTake (some h) "ros_message" rosMessage taken with
  | error f =>
    refine ⟨fun _ _ s m sample hr ↦ ?_, fun _ ↦ rfl⟩
    rw [checkTake_eq_ok.mpr ⟨hr.implementation, hr.taken, s, m, hr.data, hr.value, rfl⟩] at hcheck
    cases hcheck
  | ok checked =>
    obtain ⟨hid, htaken, s, m, hdata, hmessage, rfl⟩ := checkTake_eq_ok.mp hcheck
    by_cases hloans : h.canLoanMessages = true
    · have hraw : (takeRaw port h taken).subscription = some h := by
        rcases port with e | _ | sample
        · rfl
        · rfl
        · rfl
      simp [hloans, BorrowedSamplesUsable, hraw]
    · simp only [hloans, if_neg, Bool.false_eq_true, not_false_eq_true]
      rw [takeDeserialized_samples hdata fun sample ↦ hunused s sample hdata]
      refine ⟨fun hall _ s' m' sample hr ↦ ?_, fun hall sample hport ↦ ?_⟩
      · obtain rfl : s = s' := Option.some_inj.mp (hdata.symm.trans hr.data)
        exact hall sample hr.received
      · exact hall (Bool.eq_false_iff.mpr hloans) s m sample ⟨hid, hdata, hmessage, htaken, hport⟩

theorem takeSerialized_samples {resize : SerializedMessage → ℕ → Option SerializedMessage}
    {serializedMessage : Option SerializedMessage} {taken : Option Bool}
    (hunused : ReceivesUnused h (.takeSerialized port resize serializedMessage taken)) :
    TakeKeepsSamples h (.takeSerialized port resize serializedMessage taken) ↔
      BorrowedSamplesUsable h (.takeSerialized port resize serializedMessage taken) := by
  simp only [TakeKeepsSamples, subscriptionExec, subscriptionCall, rmwTakeSerializedMessage]
  cases hcheck : checkTake (some h) "serialized_message" serializedMessage taken with
  | error f =>
    refine ⟨fun _ s m sample hr ↦ ?_, fun _ ↦ rfl⟩
    rw [checkTake_eq_ok.mpr ⟨hr.implementation, hr.taken, s, m, hr.data, hr.value, rfl⟩] at hcheck
    cases hcheck
  | ok checked =>
    obtain ⟨hid, htaken, s, m, hdata, hmessage, rfl⟩ := checkTake_eq_ok.mp hcheck
    have hsamples : h.samples = some s.registry := by
      rw [RmwSubscription.samples, hdata, Option.map_some]
    have hnothing : (∀ sample, port ≠ .ok (some sample)) →
        BorrowedSamplesUsable h (.takeSerialized port resize serializedMessage taken) :=
      fun hno s m sample hr ↦ absurd hr.received (hno sample)
    rcases port with e | _ | sample
    · simpa [Subscriber.takeLoan, SubscriptionOutcome.ended, RmwSubscription.samples, hdata]
        using hnothing (by simp)
    · simpa [Subscriber.takeLoan, SubscriptionOutcome.ended, RmwSubscription.samples, hdata]
        using hnothing (by simp)
    · have hfree := hunused s sample hdata rfl
      have husable : BorrowedSamplesUsable h
          (.takeSerialized (.ok (some sample)) resize serializedMessage taken) ↔
            (resize m sample.payload.length).isSome := by
        refine ⟨fun hall ↦ hall s m sample ⟨hid, hdata, hmessage, htaken, rfl⟩,
          fun hsome s' m' sample' hr ↦ ?_⟩
        obtain rfl : m = m' := Option.some_inj.mp (hmessage.symm.trans hr.value)
        obtain rfl : sample = sample' := by simpa using hr.received
        exact hsome
      rw [husable, hsamples]
      simp only [Subscriber.takeLoan_received rfl hfree, SubscriberLoan.numberOfBytes]
      cases hresize : resize m sample.payload.length with
      | none =>
        have hleft : s.registry.put sample ≠ s.registry := KeyedMap.put_ne hfree
        simpa [RmwSubscription.samples, SubscriptionOutcome.ended, Subscriber.holding] using hleft
      | some resized =>
        simp [Subscriber.returnLoan_holding hfree, RmwSubscription.samples, SubscriptionOutcome.ended]

/-- In a run of a subscription's calls no take strands a sample or gives back one of the application
exactly if everything that is received can be used. -/
theorem taking_keeps_samples_iff (h : RmwSubscription M) (ops : List (SubscriptionOp M))
    (hunused : Admissible subscriptionExec ReceivesUnused h ops) :
    Admissible subscriptionExec TakeKeepsSamples h ops ↔
      Admissible subscriptionExec BorrowedSamplesUsable h ops := by
  refine admissible_congr (fun h op hop ↦ ?_) hunused
  cases op with
  | take port rosMessage taken => exact take_samples hop
  | takeSerialized port resize serializedMessage taken => exact takeSerialized_samples hop
  | _ => exact Iff.rfl

def textSubscription (answer : Except String Unit) : RmwSubscription Unit :=
  subscriptionHandle ⟨"chatter", ⟨true, none, none, none,
    some (some ⟨fun _ ↦ 0, fun _ _ ↦ .ok [], fun _ ↦ answer⟩)⟩, "ros2://topics/chatter", .empty _⟩

def takeByte : SubscriptionOp Unit := .take (.ok (some ⟨7, [0]⟩)) (some ⟨[], ()⟩) (some false)

theorem textSubscription_receives (answer : Except String Unit) :
    Admissible subscriptionExec ReceivesUnused (textSubscription answer) [takeByte] := by
  refine ⟨fun s sample hs _ ↦ ?_, trivial⟩
  obtain rfl := Option.some_inj.mp hs
  exact KeyedMap.find_empty _

theorem taking_keeps_samples_iff_text :
    Admissible subscriptionExec TakeKeepsSamples (textSubscription (.ok ())) [takeByte] := by
  apply (taking_keeps_samples_iff _ _ (textSubscription_receives (.ok ()))).mpr
  refine ⟨fun _ s m sample hr ↦ ?_, trivial⟩
  obtain rfl := Option.some_inj.mp hr.data
  exact ⟨_, (), rfl, rfl⟩

theorem failed_deserialization_strands_sample :
    Admissible subscriptionExec ReceivesUnused (textSubscription (.error "NotEnoughMemory"))
        [takeByte] ∧
      ¬ Admissible subscriptionExec TakeKeepsSamples (textSubscription (.error "NotEnoughMemory"))
        [takeByte] := by
  refine ⟨textSubscription_receives _, fun h ↦ ?_⟩
  have hfind := congrArg (·.bind (·.find 7)) h.1
  exact absurd hfind (by decide)

end RmwIceoryx2.Rmw
