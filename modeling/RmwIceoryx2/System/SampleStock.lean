import RmwIceoryx2.Library.Stock
import RmwIceoryx2.Rmw.Explanations
import RmwIceoryx2.Runtime.LoanCustody
import RmwIceoryx2.System.EndpointPaths

namespace RmwIceoryx2.System.Exhaustion

open RmwIceoryx2.Common RmwIceoryx2.Runtime RmwIceoryx2.Message RmwIceoryx2.Rmw
open RmwIceoryx2.Library RmwIceoryx2.Library.Execution RmwIceoryx2.System.Delivery

variable {M : Type}

variable {h : RmwSubscription M} {s : Subscriber M} {op : SubscriptionOp M}

def samplesHeld (h : RmwSubscription M) : ℕ := (h.data.map (·.registry.size)).getD 0

def ArrivesUnused (h : RmwSubscription M) (op : SubscriptionOp M) : Prop :=
  ∀ s sample, h.data = some s → received h op = some sample → s.registry.Unused sample

def LendsSample (h : RmwSubscription M) : SubscriptionOp M → Prop
  | .takeLoaned port loanedMessage taken =>
    (subscriptionCall h (.takeLoaned port loanedMessage taken)).loaned.isSome
  | _ => False

def StrandsSample (h : RmwSubscription M) (op : SubscriptionOp M) : Prop :=
  (received h op).isSome ∧ (subscriptionCall h op).ret ≠ .ok

def GivesSampleBack (h : RmwSubscription M) : SubscriptionOp M → Prop
  | .returnLoaned loanedMessage => (subscriptionCall h (.returnLoaned loanedMessage)).ret = .ok
  | _ => False

def KeepsSample (h : RmwSubscription M) (op : SubscriptionOp M) : Prop :=
  LendsSample h op ∨ StrandsSample h op

def SamplesBalanced (h : RmwSubscription M) (op : SubscriptionOp M) : Prop :=
  Balanced (samplesHeld h) (samplesHeld (subscriptionExec h op)) (GivesSampleBack h op)
    (KeepsSample h op)

theorem not_keepsSample (hloaned : (subscriptionCall h op).loaned = none)
    (hstrands : ¬ StrandsSample h op) : ¬ KeepsSample h op := by
  intro hkeeps
  rcases hkeeps with hlends | hstrands'
  · cases op with
    | takeLoaned port loanedMessage taken => simp [LendsSample, hloaned] at hlends
    | _ => exact hlends
  · exact hstrands hstrands'

theorem samplesHeld_data (hdata : h.data = some s) : samplesHeld h = s.registry.size := by
  rw [samplesHeld, hdata, Option.map_some, Option.getD_some]

theorem with_data (hdata : h.data = some s) : { h with data := some s } = h := by
  rw [← hdata]

theorem SamplesBalanced.same (hback : ¬ GivesSampleBack h op)
    (hheld : samplesHeld (subscriptionExec h op) = samplesHeld h)
    (hkeeps : ¬ KeepsSample h op) : SamplesBalanced h op := by
  rw [SamplesBalanced, hheld]
  exact .same hback hkeeps

theorem SamplesBalanced.more (hback : ¬ GivesSampleBack h op)
    (hheld : samplesHeld (subscriptionExec h op) = samplesHeld h + 1)
    (hkeeps : KeepsSample h op) : SamplesBalanced h op := by
  rw [SamplesBalanced, hheld]
  exact .more hback hkeeps

theorem samplesBalanced_ended (hback : ¬ GivesSampleBack h op) (ret : RmwRet) (chain : List String)
    (taken : Option Bool) (hcall : subscriptionCall h op = .ended ret chain (some h) taken)
    (hreceived : received h op = none) : SamplesBalanced h op := by
  apply SamplesBalanced.same hback
  · rw [subscriptionExec, hcall]
    rfl
  · apply not_keepsSample
    · rw [hcall]
      rfl
    · simp [StrandsSample, hreceived]

theorem samplesHeld_holding {sample : Sample} (hdata : h.data = some s)
    (hunused : s.registry.Unused sample) :
    samplesHeld { h with data := some (s.holding sample) } = samplesHeld h + 1 := by
  rw [samplesHeld_data hdata]
  exact KeyedMap.size_put hunused

theorem samplesBalanced_take {port : SubscriberPort} {rosMessage : Option (RosMessage M)}
    {taken : Option Bool} (hunused : ArrivesUnused h (.take port rosMessage taken)) :
    SamplesBalanced h (.take port rosMessage taken) := by
  have hback : ¬ GivesSampleBack h (.take port rosMessage taken) := id
  cases hcheck : checkTake (some h) "ros_message" rosMessage taken with
  | error f =>
    apply samplesBalanced_ended hback f.error f.chain taken
    · simp only [subscriptionCall, rmwTake, hcheck]
    · simp only [received, hcheck]
  | ok checked =>
    obtain ⟨-, -, s, m, hdata, -, rfl⟩ := checkTake_eq_ok.mp hcheck
    have hreceived : ∀ answer, port = .ok answer →
        received h (.take port rosMessage taken) = answer := by
      rintro answer rfl
      simp only [received, hcheck]
    have hsame := with_data hdata
    cases hloans : h.canLoanMessages with
    | true =>
      have hcall : subscriptionCall h (.take port rosMessage taken) = takeRaw port h taken := by
        simp only [subscriptionCall, rmwTake, hcheck, hloans, ↓reduceIte]
      apply SamplesBalanced.same hback
      · rw [subscriptionExec, hcall]
        rcases port with e | _ | sample <;> rfl
      · apply not_keepsSample
        · rw [hcall]
          rcases port with e | _ | sample <;> rfl
        · rw [StrandsSample, hcall]
          rcases port with e | _ | sample
          · simp [received, hcheck]
          · simp [received, hcheck]
          · simp [takeRaw, Subscriber.takeCopy, SubscriptionOutcome.ended]
    | false =>
      have hcall : subscriptionCall h (.take port rosMessage taken) =
          takeDeserialized port h s m taken := by
        simp only [subscriptionCall, rmwTake, hcheck, hloans, Bool.false_eq_true, ↓reduceIte]
      rcases port with e | _ | sample
      · apply samplesBalanced_ended hback .error ["failed to take loan from subscriber", e] taken
        · simp only [hcall, takeDeserialized, Subscriber.takeLoan, hsame]
        · simp only [received, hcheck]
      · apply samplesBalanced_ended hback .ok [] (some false)
        · simp only [hcall, takeDeserialized, Subscriber.takeLoan, hsame]
        · exact hreceived none rfl
      · have hfree := hunused s sample hdata (hreceived _ rfl)
        by_cases hdes : Deserializes s.typesupport sample.payload
        · obtain ⟨callbacks, value, hcpp, hvalue⟩ := hdes
          rw [takeDeserialized_ok hfree hcpp hvalue, hsame] at hcall
          apply SamplesBalanced.same hback
          · rw [subscriptionExec, hcall]
            rfl
          · simp [KeepsSample, LendsSample, StrandsSample, hcall, SubscriptionOutcome.ended]
        · obtain ⟨chain, hfailed⟩ := takeDeserialized_failed (h := h) (m := m) hfree
            fun callbacks value hcpp hvalue ↦ hdes ⟨callbacks, value, hcpp, hvalue⟩
          rw [hfailed] at hcall
          apply SamplesBalanced.more hback
          · rw [subscriptionExec, hcall]
            exact samplesHeld_holding hdata hfree
          · right
            refine ⟨by rw [hreceived _ rfl]; rfl, ?_⟩
            rw [hcall]
            simp [SubscriptionOutcome.ended]

theorem samplesBalanced_takeSerialized {port : SubscriberPort}
    {resize : SerializedMessage → ℕ → Option SerializedMessage}
    {serializedMessage : Option SerializedMessage} {taken : Option Bool}
    (hunused : ArrivesUnused h (.takeSerialized port resize serializedMessage taken)) :
    SamplesBalanced h (.takeSerialized port resize serializedMessage taken) := by
  have hback : ¬ GivesSampleBack h (.takeSerialized port resize serializedMessage taken) := id
  cases hcheck : checkTake (some h) "serialized_message" serializedMessage taken with
  | error f =>
    apply samplesBalanced_ended hback f.error f.chain taken
    · simp only [subscriptionCall, rmwTakeSerializedMessage, hcheck]
    · simp only [received, hcheck]
  | ok checked =>
    obtain ⟨-, -, s, m, hdata, -, rfl⟩ := checkTake_eq_ok.mp hcheck
    have hsame := with_data hdata
    rcases port with e | _ | sample
    · apply samplesBalanced_ended hback .error ["failed to take loan from subscriber", e] taken
      · simp only [subscriptionCall, rmwTakeSerializedMessage, hcheck, Subscriber.takeLoan, hsame]
      · simp only [received, hcheck]
    · apply samplesBalanced_ended hback .ok [] (some false)
      · simp only [subscriptionCall, rmwTakeSerializedMessage, hcheck, Subscriber.takeLoan, hsame]
      · simp only [received, hcheck]
    · have hreceived : received h (.takeSerialized (.ok (some sample)) resize serializedMessage
          taken) = some sample := by simp only [received, hcheck]
      have hfree := hunused s sample hdata hreceived
      cases hresize : resize m sample.payload.length with
      | none =>
        have hcall : subscriptionCall h (.takeSerialized (.ok (some sample)) resize
            serializedMessage taken) = .ended .error
              ["failed to resize serialized message to store received payload"]
              (some { h with data := some (s.holding sample) }) (some true) := by
          simp only [subscriptionCall, rmwTakeSerializedMessage, hcheck,
            Subscriber.takeLoan_received rfl hfree, SubscriberLoan.numberOfBytes, hresize]
        apply SamplesBalanced.more hback
        · rw [subscriptionExec, hcall]
          exact samplesHeld_holding hdata hfree
        · right
          refine ⟨by rw [hreceived]; rfl, ?_⟩
          rw [hcall]
          simp [SubscriptionOutcome.ended]
      | some resized =>
        apply SamplesBalanced.same hback
        · simp only [subscriptionExec, subscriptionCall, rmwTakeSerializedMessage, hcheck,
            Subscriber.takeLoan_received rfl hfree, SubscriberLoan.numberOfBytes, hresize,
            Subscriber.returnLoan_holding hfree, hsame]
          rfl
        · simp [KeepsSample, LendsSample, StrandsSample, subscriptionCall,
            rmwTakeSerializedMessage, hcheck, Subscriber.takeLoan_received rfl hfree, SubscriberLoan.numberOfBytes, hresize,
            Subscriber.returnLoan_holding hfree, SubscriptionOutcome.ended]

theorem samplesBalanced_takeLoaned {port : SubscriberPort}
    {loanedMessage : Option (Option Address)} {taken : Option Bool}
    (hunused : ArrivesUnused h (.takeLoaned port loanedMessage taken)) :
    SamplesBalanced h (.takeLoaned port loanedMessage taken) := by
  have hback : ¬ GivesSampleBack h (.takeLoaned port loanedMessage taken) := id
  cases hcheck : checkTakeLoaned (some h) loanedMessage taken with
  | error f =>
    apply samplesBalanced_ended hback f.error f.chain taken
    · simp only [subscriptionCall, rmwTakeLoanedMessage, hcheck]
    · simp only [received, hcheck]
  | ok checked =>
    obtain ⟨h', s⟩ := checked
    obtain ⟨rfl, -⟩ := checkTakeLoaned_ok hcheck
    have hdata := checkTakeLoaned_data hcheck
    have hsame := with_data hdata
    rcases port with e | _ | sample
    · apply samplesBalanced_ended hback .error ["failed to take sample from subscriber", e] taken
      · simp only [subscriptionCall, rmwTakeLoanedMessage, hcheck, Subscriber.takeLoan, hsame]
      · simp only [received, hcheck]
    · apply samplesBalanced_ended hback .ok [] (some false)
      · simp only [subscriptionCall, rmwTakeLoanedMessage, hcheck, Subscriber.takeLoan, hsame]
      · simp only [received, hcheck]
    · have hfree := hunused s sample hdata (by simp only [received, hcheck])
      apply SamplesBalanced.more hback
      · simp only [subscriptionExec, subscriptionCall, rmwTakeLoanedMessage, hcheck,
          Subscriber.takeLoan_received rfl hfree]
        exact samplesHeld_holding hdata hfree
      · left
        simp only [LendsSample, subscriptionCall, rmwTakeLoanedMessage, hcheck,
          Subscriber.takeLoan_received rfl hfree, Option.isSome_some]

theorem samplesBalanced_returnLoaned {loanedMessage : Option Address} :
    SamplesBalanced h (.returnLoaned loanedMessage) := by
  have hnone : received h (.returnLoaned loanedMessage) = none := rfl
  cases hcheck : checkReturnLoanedMessage (some h) loanedMessage with
  | error f =>
    have hcall : subscriptionCall h (.returnLoaned loanedMessage) =
        .ended f.error f.chain (some h) none := by
      simp only [subscriptionCall, rmwReturnLoanedMessageFromSubscription, hcheck]
    apply samplesBalanced_ended ?_ f.error f.chain none hcall hnone
    rw [GivesSampleBack, hcall]
    exact (checkReturnLoanedMessage_explains h loanedMessage f hcheck).1
  | ok checked =>
    obtain ⟨h', s, ptr⟩ := checked
    obtain rfl := checkReturnLoanedMessage_ok hcheck
    have hdata := checkReturnLoanedMessage_data hcheck
    cases hfind : s.registry.find ptr with
    | none =>
      have hcall : subscriptionCall h' (.returnLoaned loanedMessage) = .ended .error
          ["failed to return loaned message to publisher"] (some h') none := by
        simp only [subscriptionCall, rmwReturnLoanedMessageFromSubscription, hcheck,
          Subscriber.returnLoan_unknown hfind, with_data hdata]
      apply samplesBalanced_ended ?_ _ _ none hcall hnone
      rw [GivesSampleBack, hcall]
      simp [SubscriptionOutcome.ended]
    | some sample =>
      have hcall : subscriptionCall h' (.returnLoaned loanedMessage) = .ended .ok []
          (some { h' with data := some { s with registry := s.registry.remove ptr } }) none := by
        simp only [subscriptionCall, rmwReturnLoanedMessageFromSubscription, hcheck,
          Subscriber.returnLoan_held hfind]
      have hback : GivesSampleBack h' (.returnLoaned loanedMessage) := by
        rw [GivesSampleBack, hcall]
        rfl
      have hkeeps : ¬ KeepsSample h' (.returnLoaned loanedMessage) := by
        simp [KeepsSample, LendsSample, StrandsSample, hcall, hnone, SubscriptionOutcome.ended]
      have hsize : samplesHeld h' = samplesHeld (subscriptionExec h' (.returnLoaned loanedMessage)) +
          1 := by
        rw [samplesHeld_data hdata, subscriptionExec, hcall]
        exact (KeyedMap.size_remove hfind).symm
      rw [SamplesBalanced, hsize]
      exact .less hback hkeeps

theorem samples_balanced (hunused : ArrivesUnused h op) : SamplesBalanced h op := by
  cases op with
  | take port rosMessage taken => exact samplesBalanced_take hunused
  | takeSerialized port resize serializedMessage taken =>
    exact samplesBalanced_takeSerialized hunused
  | takeLoaned port loanedMessage taken => exact samplesBalanced_takeLoaned hunused
  | returnLoaned loanedMessage => exact samplesBalanced_returnLoaned

def sampleStock (M : Type) : Stock (subscriptionExec (M := M)) ArrivesUnused where
  amount := samplesHeld
  adds := KeepsSample
  removes := GivesSampleBack
  amount_exec _ _ := samples_balanced

/-- iceoryx2 hands over nothing more to a subscription that holds as many samples as it may. -/
def HandsOverWithin (limit : ℕ) (h : RmwSubscription M) (op : SubscriptionOp M) : Prop :=
  (received h op).isSome → samplesHeld h < limit

/-- A call writes to a message, lends one or fills a serialized one. -/
def Delivers (h : RmwSubscription M) (op : SubscriptionOp M) : Prop :=
  (subscriptionCall h op).written.isSome ∨ (subscriptionCall h op).loaned.isSome ∨
    (subscriptionCall h op).serialized.isSome

theorem received_of_delivers (hdelivers : Delivers h op) : (received h op).isSome := by
  by_contra hno
  rw [Bool.not_eq_true, Option.isSome_eq_false_iff, Option.isNone_iff_eq_none] at hno
  refine absurd hdelivers ?_
  cases op with
  | take port rosMessage taken =>
    cases hcheck : checkTake (some h) "ros_message" rosMessage taken with
    | error f => simp [Delivers, subscriptionCall, rmwTake, hcheck, SubscriptionOutcome.ended]
    | ok checked =>
      obtain ⟨-, -, s, m, -, -, rfl⟩ := checkTake_eq_ok.mp hcheck
      rcases port with e | _ | sample
      · cases hloans : h.canLoanMessages <;>
          simp [Delivers, subscriptionCall, rmwTake, hcheck, hloans, takeRaw, takeDeserialized,
            Subscriber.takeCopy, Subscriber.takeLoan, SubscriptionOutcome.ended]
      · cases hloans : h.canLoanMessages <;>
          simp [Delivers, subscriptionCall, rmwTake, hcheck, hloans, takeRaw, takeDeserialized,
            Subscriber.takeCopy, Subscriber.takeLoan, SubscriptionOutcome.ended]
      · simp [received, hcheck] at hno
  | takeSerialized port resize serializedMessage taken =>
    cases hcheck : checkTake (some h) "serialized_message" serializedMessage taken with
    | error f =>
      simp [Delivers, subscriptionCall, rmwTakeSerializedMessage, hcheck, SubscriptionOutcome.ended]
    | ok checked =>
      rcases port with e | _ | sample
      · simp [Delivers, subscriptionCall, rmwTakeSerializedMessage, hcheck, Subscriber.takeLoan,
          SubscriptionOutcome.ended]
      · simp [Delivers, subscriptionCall, rmwTakeSerializedMessage, hcheck, Subscriber.takeLoan,
          SubscriptionOutcome.ended]
      · simp [received, hcheck] at hno
  | takeLoaned port loanedMessage taken =>
    cases hcheck : checkTakeLoaned (some h) loanedMessage taken with
    | error f =>
      simp [Delivers, subscriptionCall, rmwTakeLoanedMessage, hcheck, SubscriptionOutcome.ended]
    | ok checked =>
      rcases port with e | _ | sample
      · simp [Delivers, subscriptionCall, rmwTakeLoanedMessage, hcheck, Subscriber.takeLoan,
          SubscriptionOutcome.ended]
      · simp [Delivers, subscriptionCall, rmwTakeLoanedMessage, hcheck, Subscriber.takeLoan,
          SubscriptionOutcome.ended]
      · simp [received, hcheck] at hno
  | returnLoaned loanedMessage =>
    simp only [Delivers, subscriptionCall, rmwReturnLoanedMessageFromSubscription]
    repeat' split
    all_goals simp [SubscriptionOutcome.ended]

theorem givesBack_loans (hback : GivesSampleBack h op) : h.canLoanMessages = true := by
  cases op with
  | returnLoaned loanedMessage =>
    cases hcheck : checkReturnLoanedMessage (some h) loanedMessage with
    | error f =>
      have hfails := (checkReturnLoanedMessage_explains h loanedMessage f hcheck).1
      simp only [GivesSampleBack, subscriptionCall, rmwReturnLoanedMessageFromSubscription,
        hcheck] at hback
      exact absurd hback hfails
    | ok checked =>
      simp only [checkReturnLoanedMessage, bind_eq_ok, ensureNotNull_eq_ok, ensureCanLoan_eq_ok,
        Option.some_inj] at hcheck
      obtain ⟨_, rfl, -, -, -, hloans, -⟩ := hcheck
      exact hloans
  | _ => exact hback.elim

theorem lends_loans (hlends : LendsSample h op) : h.canLoanMessages = true := by
  cases op with
  | takeLoaned port loanedMessage taken =>
    cases hcheck : checkTakeLoaned (some h) loanedMessage taken with
    | error f =>
      simp [LendsSample, subscriptionCall, rmwTakeLoanedMessage, hcheck,
        SubscriptionOutcome.ended] at hlends
    | ok checked => exact (checkTakeLoaned_ok hcheck).2
  | _ => exact hlends.elim

theorem lends_ok (hlends : LendsSample h op) : (subscriptionCall h op).ret = .ok := by
  cases op with
  | takeLoaned port loanedMessage taken =>
    simp only [LendsSample, subscriptionCall, rmwTakeLoanedMessage] at hlends ⊢
    cases hcheck : checkTakeLoaned (some h) loanedMessage taken with
    | error f => simp [hcheck, SubscriptionOutcome.ended] at hlends
    | ok checked =>
      rcases port with e | _ | sample
      · simp [hcheck, Subscriber.takeLoan, SubscriptionOutcome.ended] at hlends
      · rfl
      · rfl
  | _ => exact hlends.elim

theorem canLoanMessages_exec (h : RmwSubscription M) (op : SubscriptionOp M) :
    (subscriptionExec h op).canLoanMessages = h.canLoanMessages := by
  obtain ⟨data, hexec⟩ := subscriptionExec_handle h op
  rw [hexec]

variable {limit : ℕ} {ops later : List (SubscriptionOp M)}

/-- Of a subscription without loans: the samples it strands are never given back, so that they are
at most as many as iceoryx2 lets it hold, and once they are that many nothing is delivered again. -/
theorem subscription_wears_out (hloans : h.canLoanMessages = false) (hlimit : samplesHeld h ≤ limit)
    (hunused : Admissible subscriptionExec ArrivesUnused h (ops ++ later))
    (hwithin : Admissible subscriptionExec (HandsOverWithin limit) h (ops ++ later)) :
    samplesHeld h + tally subscriptionExec StrandsSample h ops ≤ limit ∧
      (samplesHeld h + tally subscriptionExec StrandsSample h ops = limit →
        Admissible subscriptionExec (fun h op ↦ ¬ Delivers h op) (run subscriptionExec h ops)
          later) := by
  have hkeepsNo : ∀ (h : RmwSubscription M) op, h.canLoanMessages = false →
      ArrivesUnused h op → (subscriptionExec h op).canLoanMessages = false :=
    fun h op hno _ ↦ (canLoanMessages_exec h op).trans hno
  have hnever : Admissible subscriptionExec (fun h op ↦ ¬ GivesSampleBack h op) h (ops ++ later) := by
    refine Admissible.of_invariant hkeepsNo (fun h op hno _ hback ↦ ?_) hloans hunused
    rw [givesBack_loans hback] at hno
    cases hno
  refine (sampleStock M).exhausted hkeepsNo (fun h op hno ↦ or_iff_right fun hlends ↦ ?_)
    (fun h op hstrands ↦ hstrands.1) (fun h op _ ↦ received_of_delivers) hloans hlimit hunused
    hwithin hnever
  rw [lends_loans hlends] at hno
  cases hno

def takeInVain : SubscriptionOp Unit :=
  .take (.error "ExceedsMaxBorrows") (some ⟨[], ()⟩) (some false)

theorem subscription_wears_out_text :
    samplesHeld (textSubscription (.error "NotEnoughMemory")) + tally subscriptionExec StrandsSample
        (textSubscription (.error "NotEnoughMemory")) [takeByte] ≤ 1 ∧
      (samplesHeld (textSubscription (.error "NotEnoughMemory")) + tally subscriptionExec
        StrandsSample (textSubscription (.error "NotEnoughMemory")) [takeByte] = 1 →
        Admissible subscriptionExec (fun h op ↦ ¬ Delivers h op) (run subscriptionExec
          (textSubscription (.error "NotEnoughMemory")) [takeByte]) [takeInVain]) := by
  refine subscription_wears_out rfl (Nat.zero_le 1) ⟨fun s sample hs _ ↦ ?_, ?_, trivial⟩
    ⟨fun _ ↦ Nat.zero_lt_one, fun hreceived ↦ ?_, trivial⟩
  · obtain rfl := Option.some_inj.mp hs
    exact KeyedMap.find_empty _
  · intro s sample _ hreceived
    cases hreceived
  · cases hreceived

end RmwIceoryx2.System.Exhaustion
