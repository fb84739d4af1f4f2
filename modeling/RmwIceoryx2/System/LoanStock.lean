import RmwIceoryx2.Rmw.PublishAccounting
import RmwIceoryx2.System.SampleStock

namespace RmwIceoryx2.System.Exhaustion

open RmwIceoryx2.Common RmwIceoryx2.Runtime RmwIceoryx2.Message RmwIceoryx2.Rmw
open RmwIceoryx2.Library RmwIceoryx2.Library.Execution RmwIceoryx2.System.Delivery

variable {M : Type}

variable {h : RmwPublisher M} {p : Publisher M} {op : PublisherOp M} {port : PublisherPort}

def loansHeld (h : RmwPublisher M) : ℕ := (h.data.map (·.registry.size)).getD 0

def granted (h : RmwPublisher M) : PublisherOp M → Option Sample
  | .publish port rosMessage =>
    match checkPublisher (some h) "ros_message" rosMessage with
    | .ok (h, p, rosMessage) =>
      if h.canLoanMessages then none
      else (port.loanSliceUninit (serializedMessageSize rosMessage p.typesupport)).toOption
    | .error _ => none
  | .borrow port typeSupport rosMessage =>
    match checkBorrow (some h) typeSupport rosMessage with
    | .ok (_, p) => (port.loanSliceUninit (messageSize p.typesupport)).toOption
    | .error _ => none
  | _ => none

def GrantedUnused (h : RmwPublisher M) (op : PublisherOp M) : Prop :=
  ∀ p sample, h.data = some p → granted h op = some sample → p.registry.Unused sample

def LendsLoan (h : RmwPublisher M) : PublisherOp M → Prop
  | .borrow port typeSupport rosMessage =>
    (publisherCall h (.borrow port typeSupport rosMessage)).loaned.isSome
  | _ => False

def StrandsLoan (h : RmwPublisher M) : PublisherOp M → Prop
  | .publish port rosMessage => (granted h (.publish port rosMessage)).isSome ∧
      ∀ payload, .send payload ∉ (publisherCall h (.publish port rosMessage)).requests
  | _ => False

def KeepsLoan (h : RmwPublisher M) (op : PublisherOp M) : Prop :=
  LendsLoan h op ∨ StrandsLoan h op

def LetsLoanGo (h : RmwPublisher M) : PublisherOp M → Prop
  | .returnLoaned loanedMessage => (publisherCall h (.returnLoaned loanedMessage)).ret = .ok
  | .publishLoaned port rosMessage =>
    ∃ payload, .send payload ∈ (publisherCall h (.publishLoaned port rosMessage)).requests
  | _ => False

def LoansBalanced (h : RmwPublisher M) (op : PublisherOp M) : Prop :=
  Balanced (loansHeld h) (loansHeld (publisherExec h op)) (LetsLoanGo h op) (KeepsLoan h op)

theorem LoansBalanced.same (hgo : ¬ LetsLoanGo h op)
    (hheld : loansHeld (publisherExec h op) = loansHeld h) (hkeeps : ¬ KeepsLoan h op) :
    LoansBalanced h op := by
  rw [LoansBalanced, hheld]
  exact .same hgo hkeeps

theorem LoansBalanced.more (hgo : ¬ LetsLoanGo h op)
    (hheld : loansHeld (publisherExec h op) = loansHeld h + 1) (hkeeps : KeepsLoan h op) :
    LoansBalanced h op := by
  rw [LoansBalanced, hheld]
  exact .more hgo hkeeps

theorem loansHeld_data (hdata : h.data = some p) : loansHeld h = p.registry.size := by
  rw [loansHeld, hdata, Option.map_some, Option.getD_some]

theorem loansHeld_holding {sample : Sample} (hdata : h.data = some p)
    (hunused : p.registry.Unused sample) :
    loansHeld { h with data := some (p.holding sample) } = loansHeld h + 1 := by
  rw [loansHeld_data hdata]
  exact KeyedMap.size_put hunused

theorem loansBalanced_rejected {f : Failure RmwRet} (hgo : ¬ LetsLoanGo h op)
    (hkeeps : ¬ KeepsLoan h op) (hcall : publisherCall h op = .rejected (some h) f) :
    LoansBalanced h op := by
  refine LoansBalanced.same hgo ?_ hkeeps
  rw [publisherExec, hcall]
  rfl

theorem publishSerialized_refused {m : RosMessage M} {e : String} (hdata : h.data = some p)
    (hloan : port.loanSliceUninit (serializedMessageSize m p.typesupport) = .error e) :
    (publishSerialized port h p m).publisher = some h := by
  simp only [publishSerialized, Publisher.loan_refused hloan, ← hdata]

/-- All that is left of a message that cannot be serialized is the loan. -/
theorem publishSerialized_stranded {m : RosMessage M} {sample : Sample}
    (hloan : port.loanSliceUninit (serializedMessageSize m p.typesupport) = .ok sample)
    (hfree : p.registry.Unused sample)
    (hno : ¬ Serializes p.typesupport m (serializedMessageSize m p.typesupport)) :
    (publishSerialized port h p m).requests =
      [.loanSliceUninit (serializedMessageSize m p.typesupport)] := by
  have hstored : (p.holding sample).registry.retrieve sample.address = some sample :=
    SampleRegistry.retrieve_put
  simp only [publishSerialized, Publisher.loan_granted hloan hfree, hstored, Option.map_some,
    Option.getD_some]
  cases hwritten : rmwSerialize (some m) (some p.typesupport) (some ⟨sample.payload,
      serializedMessageSize m p.typesupport, serializedMessageSize m p.typesupport⟩) with
  | error f => rfl
  | ok written =>
    obtain ⟨callbacks, bytes, hcpp, hbytes, -⟩ := rmwSerialize_ok.mp hwritten
    exact absurd ⟨callbacks, bytes, hcpp, hbytes⟩ hno

theorem loansBalanced_publish {rosMessage : Option (RosMessage M)}
    (hunused : GrantedUnused h (.publish port rosMessage)) :
    LoansBalanced h (.publish port rosMessage) := by
  have hgo : ¬ LetsLoanGo h (.publish port rosMessage) := id
  cases hcheck : checkPublisher (some h) "ros_message" rosMessage with
  | error f =>
    refine loansBalanced_rejected (f := f) hgo ?_ ?_
    · simp [KeepsLoan, LendsLoan, StrandsLoan, granted, hcheck]
    · simp only [publisherCall, rmwPublish, hcheck]
  | ok checked =>
    obtain ⟨-, p, m, hdata, -, rfl⟩ := checkPublisher_eq_ok.mp hcheck
    cases hloans : h.canLoanMessages with
    | true =>
      apply LoansBalanced.same hgo
      · simp only [publisherExec, publisherCall, rmwPublish, hcheck, hloans, ↓reduceIte,
          PublisherOutcome.finished, Publisher.publishCopy_publisher, Option.getD_some]
        rw [loansHeld_data hdata]
        rfl
      · simp [KeepsLoan, LendsLoan, StrandsLoan, granted, hcheck, hloans]
    | false =>
      have hcall : publisherCall h (.publish port rosMessage) = publishSerialized port h p m := by
        simp only [publisherCall, rmwPublish, hcheck, hloans, Bool.false_eq_true, ↓reduceIte]
      have hgranted : granted h (.publish port rosMessage) =
          (port.loanSliceUninit (serializedMessageSize m p.typesupport)).toOption := by
        simp only [granted, hcheck, hloans, Bool.false_eq_true, ↓reduceIte]
      cases hloan : port.loanSliceUninit (serializedMessageSize m p.typesupport) with
      | error e =>
        rw [hloan] at hgranted
        apply LoansBalanced.same hgo
        · rw [publisherExec, hcall, publishSerialized_refused hdata hloan]
          rfl
        · simp [KeepsLoan, LendsLoan, StrandsLoan, hgranted, Except.toOption]
      | ok sample =>
        rw [hloan] at hgranted
        have hfree := hunused p sample hdata hgranted
        by_cases hser : Serializes p.typesupport m (serializedMessageSize m p.typesupport)
        · obtain ⟨callbacks, bytes, hcpp, hbytes⟩ := hser
          rw [publishSerialized_granted hloan hfree hcpp hbytes] at hcall
          apply LoansBalanced.same hgo
          · simp only [publisherExec, hcall, PublisherOutcome.finished,
              Publisher.publishLoan_holding hfree, Option.getD_some]
            rw [loansHeld_data hdata]
            rfl
          · intro hkeeps
            obtain hlends | ⟨-, hnot⟩ := hkeeps
            · exact hlends
            · have hstored : (p.holding { sample with
                  payload := bytes ++ sample.payload.drop bytes.length }).registry.find
                    sample.address = some { sample with
                      payload := bytes ++ sample.payload.drop bytes.length } :=
                SampleRegistry.retrieve_put
              have hsent := (Publisher.publishLoan_held port hstored).2
              rw [hcall] at hnot
              exact hnot _ (List.mem_append_right _ hsent)
        · apply LoansBalanced.more hgo
          · rw [publisherExec, hcall, publishSerialized_failed hloan hfree hser]
            exact loansHeld_holding hdata hfree
          · right
            refine ⟨by rw [hgranted]; rfl, fun payload hmem ↦ ?_⟩
            rw [hcall, publishSerialized_stranded hloan hfree hser] at hmem
            simp at hmem

theorem loansBalanced_borrow {typeSupport : Option (TypeSupport M)}
    {rosMessage : Option (Option Address)}
    (hunused : GrantedUnused h (.borrow port typeSupport rosMessage)) :
    LoansBalanced h (.borrow port typeSupport rosMessage) := by
  have hgo : ¬ LetsLoanGo h (.borrow port typeSupport rosMessage) := id
  cases hcheck : checkBorrow (some h) typeSupport rosMessage with
  | error f =>
    have hcall : publisherCall h (.borrow port typeSupport rosMessage) = .rejected (some h) f := by
      simp only [publisherCall, rmwBorrowLoanedMessage, hcheck]
    refine loansBalanced_rejected hgo ?_ hcall
    simp [KeepsLoan, LendsLoan, StrandsLoan, hcall, PublisherOutcome.rejected]
  | ok checked =>
    obtain ⟨h', p⟩ := checked
    obtain ⟨rfl, hdata⟩ := checkBorrow_ok hcheck
    have hgranted : granted h' (.borrow port typeSupport rosMessage) =
        (port.loanSliceUninit (messageSize p.typesupport)).toOption := by
      simp only [granted, hcheck]
    cases hloan : port.loanSliceUninit (messageSize p.typesupport) with
    | error e =>
      apply LoansBalanced.same hgo
      · simp only [publisherExec, publisherCall, rmwBorrowLoanedMessage, hcheck,
          Publisher.loan_refused hloan, Option.getD_some]
        rw [loansHeld_data hdata]
        rfl
      · simp [KeepsLoan, LendsLoan, StrandsLoan, publisherCall, rmwBorrowLoanedMessage, hcheck,
          Publisher.loan_refused hloan]
    | ok sample =>
      rw [hloan] at hgranted
      have hfree := hunused p sample hdata hgranted
      apply LoansBalanced.more hgo
      · simp only [publisherExec, publisherCall, rmwBorrowLoanedMessage, hcheck,
          Publisher.loan_granted hloan hfree, Option.getD_some]
        exact loansHeld_holding hdata hfree
      · left
        simp [LendsLoan, publisherCall, rmwBorrowLoanedMessage, hcheck,
          Publisher.loan_granted hloan hfree]

theorem loansBalanced_removed {sample : Sample} {ptr : Address} (hdata : h.data = some p)
    (hfind : p.registry.find ptr = some sample) (hgo : LetsLoanGo h op)
    (hkeeps : ¬ KeepsLoan h op) (hexec : publisherExec h op =
      { h with data := some { p with registry := p.registry.remove ptr } }) :
    LoansBalanced h op := by
  have hsize : loansHeld h = loansHeld (publisherExec h op) + 1 := by
    rw [loansHeld_data hdata, hexec]
    exact (KeyedMap.size_remove hfind).symm
  rw [LoansBalanced, hsize]
  exact .less hgo hkeeps

theorem loansBalanced_returnLoaned {loanedMessage : Option Address} :
    LoansBalanced h (.returnLoaned loanedMessage) := by
  have hkeeps : ¬ KeepsLoan h (.returnLoaned loanedMessage) := by
    simp [KeepsLoan, LendsLoan, StrandsLoan]
  cases hcheck : checkReturnLoan (some h) loanedMessage with
  | error f =>
    have hcall : publisherCall h (.returnLoaned loanedMessage) = .rejected (some h) f := by
      simp only [publisherCall, rmwReturnLoanedMessageFromPublisher, hcheck]
    refine loansBalanced_rejected ?_ hkeeps hcall
    rw [LetsLoanGo, hcall]
    exact (checkReturnLoan_explains _ _ f hcheck).1
  | ok checked =>
    obtain ⟨h', p, ptr⟩ := checked
    obtain ⟨rfl, hdata, -⟩ := checkReturnLoan_ok hcheck
    have hcall : publisherCall h' (.returnLoaned loanedMessage) =
        .finished h' [] "failed to return loaned message to publisher" (p.returnLoan ptr) := by
      simp only [publisherCall, rmwReturnLoanedMessageFromPublisher, hcheck]
    cases hfind : p.registry.find ptr with
    | none =>
      rw [Publisher.returnLoan_unknown hfind] at hcall
      refine LoansBalanced.same ?_ ?_ hkeeps
      · simp [LetsLoanGo, hcall, PublisherOutcome.finished]
      · rw [publisherExec, hcall, loansHeld_data hdata]
        rfl
    | some sample =>
      rw [Publisher.returnLoan_held hfind] at hcall
      refine loansBalanced_removed hdata hfind ?_ hkeeps ?_
      · rw [LetsLoanGo, hcall]
        rfl
      · rw [publisherExec, hcall]
        rfl

theorem loansBalanced_publishLoaned {rosMessage : Option Address} :
    LoansBalanced h (.publishLoaned port rosMessage) := by
  have hkeeps : ¬ KeepsLoan h (.publishLoaned port rosMessage) := by
    simp [KeepsLoan, LendsLoan, StrandsLoan]
  cases hcheck : checkPublisher (some h) "ros_message" rosMessage with
  | error f =>
    have hcall : publisherCall h (.publishLoaned port rosMessage) = .rejected (some h) f := by
      simp only [publisherCall, rmwPublishLoanedMessage, hcheck]
    refine loansBalanced_rejected ?_ hkeeps hcall
    simp [LetsLoanGo, hcall, PublisherOutcome.rejected]
  | ok checked =>
    obtain ⟨-, p, ptr, hdata, -, rfl⟩ := checkPublisher_eq_ok.mp hcheck
    have hcall : publisherCall h (.publishLoaned port rosMessage) =
        .finished h [] "failed to publish loaned message" (p.publishLoan port ptr) := by
      simp only [publisherCall, rmwPublishLoanedMessage, hcheck]
    cases hfind : p.registry.find ptr with
    | none =>
      rw [Publisher.publishLoan_unknown port hfind] at hcall
      refine LoansBalanced.same ?_ ?_ hkeeps
      · simp [LetsLoanGo, hcall, PublisherOutcome.finished]
      · rw [publisherExec, hcall, loansHeld_data hdata]
        rfl
    | some sample =>
      obtain ⟨hpublisher, hsent⟩ := Publisher.publishLoan_held port hfind
      refine loansBalanced_removed hdata hfind ?_ hkeeps ?_
      · rw [LetsLoanGo, hcall]
        exact ⟨sample.payload, hsent⟩
      · rw [publisherExec, hcall, PublisherOutcome.finished, hpublisher]
        rfl

theorem loansBalanced_publishSerialized {serializedMessage : Option SerializedMessage} :
    LoansBalanced h (.publishSerialized port serializedMessage) := by
  have hgo : ¬ LetsLoanGo h (.publishSerialized port serializedMessage) := id
  have hkeeps : ¬ KeepsLoan h (.publishSerialized port serializedMessage) := by
    simp [KeepsLoan, LendsLoan, StrandsLoan]
  cases hcheck : checkPublisher (some h) "serialized_message" serializedMessage with
  | error f =>
    refine loansBalanced_rejected (f := f) hgo hkeeps ?_
    simp only [publisherCall, rmwPublishSerializedMessage, hcheck]
  | ok checked =>
    obtain ⟨-, p, m, hdata, -, rfl⟩ := checkPublisher_eq_ok.mp hcheck
    refine LoansBalanced.same hgo ?_ hkeeps
    simp only [publisherExec, publisherCall, rmwPublishSerializedMessage, hcheck,
      PublisherOutcome.finished, Publisher.publishCopy_publisher, Option.getD_some]
    rw [loansHeld_data hdata]
    rfl

theorem loans_balanced (hunused : GrantedUnused h op) : LoansBalanced h op := by
  cases op with
  | publish port rosMessage => exact loansBalanced_publish hunused
  | borrow port typeSupport rosMessage => exact loansBalanced_borrow hunused
  | returnLoaned loanedMessage => exact loansBalanced_returnLoaned
  | publishLoaned port rosMessage => exact loansBalanced_publishLoaned
  | publishSerialized port serializedMessage => exact loansBalanced_publishSerialized

def loanStock (M : Type) : Stock (publisherExec (M := M)) GrantedUnused where
  amount := loansHeld
  adds := KeepsLoan
  removes := LetsLoanGo
  amount_exec _ _ := loans_balanced

theorem lendsLoan_loans (hlends : LendsLoan h op) : h.canLoanMessages = true := by
  cases op with
  | borrow port typeSupport rosMessage =>
    cases hcheck : checkBorrow (some h) typeSupport rosMessage with
    | error f =>
      simp [LendsLoan, publisherCall, rmwBorrowLoanedMessage, hcheck,
        PublisherOutcome.rejected] at hlends
    | ok checked => exact checkBorrow_loans hcheck
  | _ => exact hlends.elim

theorem publisher_canLoanMessages_exec (h : RmwPublisher M) (op : PublisherOp M) :
    (publisherExec h op).canLoanMessages = h.canLoanMessages := by
  cases op with
  | publish port rosMessage =>
    simp only [publisherExec, publisherCall, rmwPublish]
    cases hcheck : checkPublisher (some h) "ros_message" rosMessage with
    | error f => rfl
    | ok checked =>
      obtain ⟨-, p, m, -, -, rfl⟩ := checkPublisher_eq_ok.mp hcheck
      simp only [publishSerialized]
      repeat' split
      all_goals rfl
  | borrow port typeSupport rosMessage =>
    simp only [publisherExec, publisherCall, rmwBorrowLoanedMessage]
    cases hcheck : checkBorrow (some h) typeSupport rosMessage with
    | error f => rfl
    | ok checked =>
      obtain ⟨h', p⟩ := checked
      obtain ⟨rfl, -⟩ := checkBorrow_ok hcheck
      simp only
      split <;> rfl
  | returnLoaned loanedMessage =>
    simp only [publisherExec, publisherCall, rmwReturnLoanedMessageFromPublisher]
    cases hcheck : checkReturnLoan (some h) loanedMessage with
    | error f => rfl
    | ok checked =>
      obtain ⟨h', p, ptr⟩ := checked
      obtain ⟨rfl, -, -⟩ := checkReturnLoan_ok hcheck
      rfl
  | publishLoaned port rosMessage =>
    simp only [publisherExec, publisherCall, rmwPublishLoanedMessage]
    cases hcheck : checkPublisher (some h) "ros_message" rosMessage with
    | error f => rfl
    | ok checked =>
      obtain ⟨-, p, ptr, -, -, rfl⟩ := checkPublisher_eq_ok.mp hcheck
      rfl
  | publishSerialized port serializedMessage =>
    simp only [publisherExec, publisherCall, rmwPublishSerializedMessage]
    cases hcheck : checkPublisher (some h) "serialized_message" serializedMessage with
    | error f => rfl
    | ok checked =>
      obtain ⟨-, p, m, -, -, rfl⟩ := checkPublisher_eq_ok.mp hcheck
      rfl

theorem granted_of_strands (hstrands : StrandsLoan h op) : (granted h op).isSome := by
  cases op with
  | publish port rosMessage => exact hstrands.1
  | _ => exact hstrands.elim

/-- iceoryx2 lends nothing more to a publisher that holds as many loans as it may. -/
def GrantsWithin (limit : ℕ) (h : RmwPublisher M) (op : PublisherOp M) : Prop :=
  (granted h op).isSome → loansHeld h < limit

def Publishes (h : RmwPublisher M) : PublisherOp M → Prop
  | .publish port rosMessage => (publisherCall h (.publish port rosMessage)).ret = .ok
  | _ => False

theorem granted_of_publishes (hloans : h.canLoanMessages = false) (hok : Publishes h op) :
    (granted h op).isSome := by
  cases op with
  | publish port rosMessage =>
    simp only [Publishes, publisherCall, rmwPublish] at hok
    cases hcheck : checkPublisher (some h) "ros_message" rosMessage with
    | error f =>
      simp only [hcheck, PublisherOutcome.rejected] at hok
      exact absurd hok (checkPublisher_explains _ _ _ f hcheck).1
    | ok checked =>
      obtain ⟨-, p, m, -, -, rfl⟩ := checkPublisher_eq_ok.mp hcheck
      simp only [hcheck, hloans, Bool.false_eq_true, ↓reduceIte, publishSerialized] at hok
      simp only [granted, hcheck, hloans, Bool.false_eq_true, ↓reduceIte]
      cases hloan : port.loanSliceUninit (serializedMessageSize m p.typesupport) with
      | error e => simp [Publisher.loan_refused hloan] at hok
      | ok sample => rfl
  | _ => exact hok.elim

variable {limit : ℕ} {ops later : List (PublisherOp M)}

/-- Of a publisher without loans: the loans it strands while it serializes are lost to it unless the
caller guesses where they lie, so that they are at most as many as iceoryx2 lets it hold, and once
they are that many no message is published again. -/
theorem publisher_wears_out (hloans : h.canLoanMessages = false) (hlimit : loansHeld h ≤ limit)
    (hunused : Admissible publisherExec GrantedUnused h (ops ++ later))
    (hwithin : Admissible publisherExec (GrantsWithin limit) h (ops ++ later))
    (hkept : Admissible publisherExec (fun h op ↦ ¬ LetsLoanGo h op) h (ops ++ later)) :
    loansHeld h + tally publisherExec StrandsLoan h ops ≤ limit ∧
      (loansHeld h + tally publisherExec StrandsLoan h ops = limit →
        Admissible publisherExec (fun h op ↦ ¬ Publishes h op) (run publisherExec h ops)
          later) := by
  refine (loanStock M).exhausted
    (fun h op hno _ ↦ (publisher_canLoanMessages_exec h op).trans hno)
    (fun h op hno ↦ or_iff_right fun hlends ↦ ?_) (fun h op ↦ granted_of_strands)
    (fun h op ↦ granted_of_publishes) hloans hlimit hunused hwithin hkept
  rw [lendsLoan_loans hlends] at hno
  cases hno

def publishInVain : PublisherOp Unit :=
  .publish ⟨fun _ ↦ .error "ExceedsMaxLoans", fun _ ↦ .ok (), fun _ ↦ .ok (), .ok ()⟩
    (some ⟨[], ()⟩)

theorem publisher_wears_out_text :
    loansHeld (textPublisher (.error "NotEnoughMemory")) + tally publisherExec StrandsLoan
        (textPublisher (.error "NotEnoughMemory")) [publishUnit] ≤ 1 ∧
      (loansHeld (textPublisher (.error "NotEnoughMemory")) + tally publisherExec StrandsLoan
        (textPublisher (.error "NotEnoughMemory")) [publishUnit] = 1 →
        Admissible publisherExec (fun h op ↦ ¬ Publishes h op) (run publisherExec
          (textPublisher (.error "NotEnoughMemory")) [publishUnit]) [publishInVain]) := by
  refine publisher_wears_out rfl (Nat.zero_le 1) ⟨fun p sample hp _ ↦ ?_, ?_, trivial⟩
    ⟨fun _ ↦ Nat.zero_lt_one, fun hgranted ↦ ?_, trivial⟩ ⟨id, id, trivial⟩
  · obtain rfl := Option.some_inj.mp hp
    exact KeyedMap.find_empty _
  · intro p sample _ hgranted
    cases hgranted
  · cases hgranted

/-- Whatever an endpoint holds was lent to the application, which has not let go of it, or was
stranded by a call that failed. -/
theorem holdings_accounted :
    (∀ (h : RmwSubscription M) (ops : List (SubscriptionOp M)),
      Admissible subscriptionExec ArrivesUnused h ops →
        samplesHeld (run subscriptionExec h ops) + tally subscriptionExec GivesSampleBack h ops =
          samplesHeld h + (tally subscriptionExec LendsSample h ops +
            tally subscriptionExec StrandsSample h ops)) ∧
    ∀ (h : RmwPublisher M) (ops : List (PublisherOp M)),
      Admissible publisherExec GrantedUnused h ops →
        loansHeld (run publisherExec h ops) + tally publisherExec LetsLoanGo h ops =
          loansHeld h + (tally publisherExec LendsLoan h ops +
            tally publisherExec StrandsLoan h ops) := by
  constructor
  · intro h ops hunused
    have hexclusive : ∀ (h : RmwSubscription M) op, ¬ (LendsSample h op ∧ StrandsSample h op) :=
      fun h op hboth ↦ hboth.2.2 (lends_ok hboth.1)
    exact (sampleStock M).balance_or (fun _ _ ↦ Iff.rfl) hexclusive hunused
  · intro h ops hunused
    have hexclusive : ∀ (h : RmwPublisher M) op, ¬ (LendsLoan h op ∧ StrandsLoan h op) := by
      intro h op hboth
      cases op with
      | publish port rosMessage => exact hboth.1
      | _ => exact hboth.2
    exact (loanStock M).balance_or (fun _ _ ↦ Iff.rfl) hexclusive hunused

def flagSubscription : RmwSubscription Bool :=
  subscriptionHandle ⟨"/flag", flagType.typeSupport .cpp, Names.topic "/flag", .empty _⟩

def flagPublisher : RmwPublisher Bool :=
  publisherHandle ⟨"/flag", flagType.typeSupport .cpp, 1, Names.topic "/flag", 1, .empty _⟩

/-- One sample is lent and given back, one is stranded as no memory is left for its copy, and one is
lent and kept. -/
def lendAndStrand : List (SubscriptionOp Bool) :=
  [.takeLoaned (.ok (some ⟨9, [1]⟩)) (some none) (some false), .returnLoaned (some 9),
    .takeSerialized (.ok (some ⟨11, [0]⟩)) (fun _ _ ↦ none) (some ⟨[], 0, 0⟩) (some false),
    .takeLoaned (.ok (some ⟨13, [1]⟩)) (some none) (some false)]

def borrowTwice : List (PublisherOp Bool) :=
  [.borrow grantingPort (some (flagType.typeSupport .cpp)) (some none),
    .publishLoaned grantingPort (some 7),
    .borrow grantingPort (some (flagType.typeSupport .cpp)) (some none), .returnLoaned (some 7)]

theorem lendAndStrand_unused : Admissible subscriptionExec ArrivesUnused flagSubscription
    lendAndStrand := by
  refine ⟨fun s sample hs _ ↦ ?_, fun s sample _ hnone ↦ ?_, fun s sample hs _ ↦ ?_,
    fun s sample hs hreceived ↦ ?_, trivial⟩
  · obtain rfl := Option.some_inj.mp hs
    exact KeyedMap.find_empty _
  · cases hnone
  · obtain rfl := Option.some_inj.mp hs
    rfl
  · obtain rfl := Option.some_inj.mp hs
    obtain rfl := Option.some_inj.mp hreceived
    rfl

theorem borrowTwice_unused : Admissible publisherExec GrantedUnused flagPublisher borrowTwice := by
  refine ⟨fun p sample hp _ ↦ ?_, fun p sample _ hnone ↦ ?_, fun p sample hp _ ↦ ?_,
    fun p sample _ hnone ↦ ?_, trivial⟩
  · obtain rfl := Option.some_inj.mp hp
    exact KeyedMap.find_empty _
  · cases hnone
  · obtain rfl := Option.some_inj.mp hp
    rfl
  · cases hnone

theorem holdings_accounted_flag :
    (samplesHeld (run subscriptionExec flagSubscription lendAndStrand) +
        tally subscriptionExec GivesSampleBack flagSubscription lendAndStrand =
      samplesHeld flagSubscription +
        (tally subscriptionExec LendsSample flagSubscription lendAndStrand +
          tally subscriptionExec StrandsSample flagSubscription lendAndStrand)) ∧
    (loansHeld (run publisherExec flagPublisher borrowTwice) +
        tally publisherExec LetsLoanGo flagPublisher borrowTwice =
      loansHeld flagPublisher + (tally publisherExec LendsLoan flagPublisher borrowTwice +
        tally publisherExec StrandsLoan flagPublisher borrowTwice)) ∧
    loansHeld (run publisherExec (textPublisher (.error "NotEnoughMemory")) [publishUnit]) +
        tally publisherExec LetsLoanGo (textPublisher (.error "NotEnoughMemory")) [publishUnit] =
      loansHeld (textPublisher (.error "NotEnoughMemory")) +
        (tally publisherExec LendsLoan (textPublisher (.error "NotEnoughMemory")) [publishUnit] +
        tally publisherExec StrandsLoan (textPublisher (.error "NotEnoughMemory"))
          [publishUnit]) := by
  refine ⟨holdings_accounted.1 _ _ lendAndStrand_unused, holdings_accounted.2 _ _ borrowTwice_unused,
    holdings_accounted.2 _ _ ⟨fun p sample hp _ ↦ ?_, trivial⟩⟩
  obtain rfl := Option.some_inj.mp hp
  exact KeyedMap.find_empty _

end RmwIceoryx2.System.Exhaustion
