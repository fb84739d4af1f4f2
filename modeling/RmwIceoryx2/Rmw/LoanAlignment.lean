import RmwIceoryx2.Message.Alignment
import RmwIceoryx2.Rmw.Publisher
import RmwIceoryx2.Rmw.Subscription

namespace RmwIceoryx2.Rmw

open RmwIceoryx2.Common RmwIceoryx2.Runtime RmwIceoryx2.Message

variable {M : Type}

def AlignsLoans (port : PublisherPort) : Prop :=
  ∀ numberOfBytes sample, port.loanSliceUninit numberOfBytes = .ok sample →
    Publisher.payloadAlignment ∣ sample.address

def AlignsReceived (port : SubscriberPort) : Prop :=
  ∀ sample, port = .ok (some sample) → Subscriber.payloadAlignment ∣ sample.address

/-- The requested alignment is enough for structs of this alignment, so that one may lie wherever a
pointer that is handed out points to. -/
structure LoansHold (typeSupport : TypeSupport M) (alignment : ℕ) : Prop where
  publisher : alignment ∣ Publisher.payloadAlignment
  subscriber : alignment ∣ Subscriber.payloadAlignment
  borrowed : ∀ (p : Publisher M) port typeSupport' rosMessage ptr, p.typesupport = typeSupport →
    AlignsLoans port → (rmwBorrowLoanedMessage port (some (publisherHandle p)) typeSupport'
      rosMessage).loaned = some ptr → alignment ∣ ptr
  taken : ∀ (s : Subscriber M) port loanedMessage taken loan, s.typesupport = typeSupport →
    AlignsReceived port → (rmwTakeLoanedMessage port (some (subscriptionHandle s)) loanedMessage
      taken).loaned = some loan → alignment ∣ loan.bytes

theorem borrowed_address {port : PublisherPort} {h : RmwPublisher M}
    {typeSupport : Option (TypeSupport M)} {rosMessage : Option (Option Address)} {ptr : Address}
    (hloan : (rmwBorrowLoanedMessage port (some h) typeSupport rosMessage).loaned = some ptr) :
    ∃ numberOfBytes sample, port.loanSliceUninit numberOfBytes = .ok sample ∧
      sample.address = ptr := by
  simp only [rmwBorrowLoanedMessage] at hloan
  split at hloan
  · cases hloan
  rename_i h' p _
  cases hport : port.loanSliceUninit (messageSize p.typesupport) with
  | error e =>
    simp only [Publisher.loan_refused hport] at hloan
    cases hloan
  | ok sample =>
    simp only [Publisher.loan, hport, SampleRegistry.store, Option.some_inj] at hloan
    exact ⟨_, sample, hport, hloan⟩

theorem taken_address {port : SubscriberPort} {h : RmwSubscription M}
    {loanedMessage : Option (Option Address)} {taken : Option Bool} {loan : SubscriberLoan}
    (hloan : (rmwTakeLoanedMessage port (some h) loanedMessage taken).loaned = some loan) :
    ∃ sample, port = .ok (some sample) ∧ sample.address = loan.bytes := by
  simp only [rmwTakeLoanedMessage] at hloan
  split at hloan
  · cases hloan
  unfold Subscriber.takeLoan at hloan
  rcases port with e | _ | sample
  · cases hloan
  · cases hloan
  · simp only [Option.some_inj] at hloan
    exact ⟨sample, rfl, by rw [← hloan]⟩

theorem loansHold_iff (typeSupport : TypeSupport M) (alignment : ℕ) :
    LoansHold typeSupport alignment ↔ alignment ∣ 8 := by
  constructor
  · intro h
    exact h.publisher
  · intro h
    refine ⟨h, h, fun p port _ _ ptr _ haligns hloan ↦ ?_, fun s port _ _ loan _ haligns hloan ↦ ?_⟩
    · obtain ⟨numberOfBytes, sample, hsample, rfl⟩ := borrowed_address hloan
      exact Nat.dvd_trans h (haligns numberOfBytes sample hsample)
    · obtain ⟨sample, hsample, hbytes⟩ := taken_address hloan
      rw [← hbytes]
      exact Nat.dvd_trans h (haligns sample hsample)

theorem borrowed_anywhere {p : Publisher M} (hpod : isPod p.typesupport = true)
    (typeSupport : TypeSupport M) {address : Address}
    (haddress : Publisher.payloadAlignment ∣ address) :
    ∃ port, AlignsLoans port ∧ (rmwBorrowLoanedMessage port (some (publisherHandle p))
      (some typeSupport) (some none)).loaned = some address := by
  refine ⟨{ grantingPort with loanSliceUninit := fun n ↦ .ok ⟨address, List.replicate n 0⟩ },
    fun n sample hsample ↦ ?_, ?_⟩
  · cases hsample
    exact haddress
  · have hcheck : checkBorrow (some (publisherHandle p)) (some typeSupport) (some none) =
        .ok (publisherHandle p, p) := by
      simp [checkBorrow, publisherHandle, hpod, ensureNotNull, ensureImplementation, bind,
        Except.bind, pure, Except.pure]
    simp only [rmwBorrowLoanedMessage, hcheck]
    rfl

theorem taken_anywhere {s : Subscriber M} (hpod : isPod s.typesupport = true)
    {address : Address} (haddress : Subscriber.payloadAlignment ∣ address) :
    ∃ port loan, AlignsReceived port ∧ (rmwTakeLoanedMessage port (some (subscriptionHandle s))
      (some none) (some false)).loaned = some loan ∧ loan.bytes = address := by
  refine ⟨.ok (some ⟨address, []⟩), ⟨address, []⟩, fun sample hsample ↦ ?_, ?_, rfl⟩
  · cases hsample
    exact haddress
  · have hcheck : checkTakeLoaned (some (subscriptionHandle s)) (some none) (some false) =
        .ok (subscriptionHandle s, s) := by
      simp [checkTakeLoaned, subscriptionHandle, hpod, ensureNotNull, ensureImplementation,
        ensureCanLoan, uncheckedCast, bind, Except.bind, pure, Except.pure]
    simp only [rmwTakeLoanedMessage, hcheck]
    rfl

/-- Where the requested alignment is not enough, loans at places that do not fit are handed out by both calls. -/
theorem misplaced_loans {p : Publisher M} {s : Subscriber M} {a : Library.ByteAlignment}
    (hp : isPod p.typesupport = true) (hs : isPod s.typesupport = true) (ha : ¬ a.val ∣ 8) :
    (∃ port ptr, AlignsLoans port ∧ (rmwBorrowLoanedMessage port (some (publisherHandle p))
      (some p.typesupport) (some none)).loaned = some ptr ∧ ¬ a.val ∣ ptr) ∧
    ∃ port loan, AlignsReceived port ∧ (rmwTakeLoanedMessage port (some (subscriptionHandle s))
      (some none) (some false)).loaned = some loan ∧ ¬ a.val ∣ loan.bytes := by
  have hmisplaced := mt Library.ByteAlignment.forall_aligned_iff.mp ha
  push Not at hmisplaced
  obtain ⟨address, haddress, hno⟩ := hmisplaced
  constructor
  · obtain ⟨port, haligns, hloan⟩ := borrowed_anywhere hp p.typesupport haddress
    exact ⟨port, address, haligns, hloan, hno⟩
  · obtain ⟨port, loan, haligns, hloan, rfl⟩ := taken_anywhere hs haddress
    exact ⟨port, loan, haligns, hloan, hno⟩

/-- Which messages the requested alignment is enough for, of those that may be loaned. -/
theorem payload_alignment_suffices_iff (typeSupport : TypeSupport M) (d : MessageMembers .cpp)
    (hd : typeSupport.introspectionCpp = some d) :
    (isPod typeSupport = true → LoansHold typeSupport d.alignment.val) ↔
      (isPod typeSupport = true → ∀ m, Reaches d m → m.typeId ≠ .longDouble) := by
  refine forall_congr' fun hpod ↦ ?_
  have hmembers : isPodMembers d = true := by
    rw [isPod, hd] at hpod
    exact hpod
  rw [loansHold_iff]
  exact alignment_dvd_eight_iff hmembers

def typeSupportOf (d : MessageMembers .cpp) : TypeSupport Unit :=
  ⟨true, none, some d, none, none⟩

def pose : MessageMembers .cpp :=
  ⟨24, [⟨.message, true, 3, false, some (some ⟨8, [⟨.double, false, 0, false, none⟩]⟩)⟩]⟩

theorem payload_alignment_suffices_iff_pose :
    (isPod (typeSupportOf pose) = true → LoansHold (typeSupportOf pose) pose.alignment.val) ↔
      (isPod (typeSupportOf pose) = true → ∀ m, Reaches pose m → m.typeId ≠ .longDouble) :=
  payload_alignment_suffices_iff (typeSupportOf pose) pose rfl

def extended : MessageMembers .cpp := ⟨16, [⟨.longDouble, false, 0, false, none⟩]⟩

theorem extended_not_held :
    isPod (typeSupportOf extended) = true ∧ extended.alignment.val = 16 ∧
      ¬ LoansHold (typeSupportOf extended) extended.alignment.val := by
  refine ⟨by decide, by decide, fun h ↦ ?_⟩
  exact absurd ((loansHold_iff _ _).mp h) (by decide)

end RmwIceoryx2.Rmw
