import RmwIceoryx2.Library.Custody
import RmwIceoryx2.Runtime.Publisher
import RmwIceoryx2.Runtime.Subscriber

namespace RmwIceoryx2.Runtime

open RmwIceoryx2.Common RmwIceoryx2.Message RmwIceoryx2.Library RmwIceoryx2.Library.Execution

variable {M : Type}

namespace SampleRegistry

variable {r r' : SampleRegistry} {ptr : Address} {sample : Sample}

theorem find_store (h : r.Unused sample) (ptr : Address) (stored : Sample) :
    (r.store sample).1.find ptr = some stored ↔
      (stored.address = ptr ∧ sample = stored) ∨ r.find ptr = some stored := by
  rw [h.store, KeyedMap.find_put]
  split
  · rename_i hptr
    rw [hptr, Option.some_inj]
    have hfree : r.find sample.address = none := h
    simp only [hfree, reduceCtorEq, or_false]
    exact ⟨fun he ↦ ⟨he ▸ rfl, he⟩, And.right⟩
  · rename_i hptr
    exact ⟨Or.inr, fun hor ↦ hor.resolve_left fun he ↦ hptr (he.1 ▸ he.2 ▸ rfl)⟩

theorem find_remove_iff {ptr' : Address} :
    KeyedMap.find (r.remove ptr) ptr' = some sample ↔ r.find ptr' = some sample ∧ ptr' ≠ ptr := by
  rw [KeyedMap.find_remove]
  split <;> simp_all

end SampleRegistry

namespace Publisher

/-- The calls on a publisher that concern its loans, with the answers of the middleware and any
pointers. -/
inductive LoanCall
  | loan (port : PublisherPort) (numberOfBytes : ℕ)
  | returnLoan (loanedMemory : Address)
  | publishLoan (port : PublisherPort) (loanedMemory : Address)

def loanExec (p : Publisher M) : LoanCall → Publisher M
  | .loan port numberOfBytes => (p.loan port numberOfBytes).publisher
  | .returnLoan loanedMemory => (p.returnLoan loanedMemory).publisher
  | .publishLoan port loanedMemory => (p.publishLoan port loanedMemory).publisher

def Rejected {α : Type} (r : Return M α) : Prop :=
  r.requests = [] ∧ ∃ chain, r.result = .error ⟨.invalidPayload, chain⟩

/-- A publisher as the custodian of the samples it lends out. -/
def custodian (M : Type) : Custodian (Publisher M) LoanCall Sample.address where
  exec := loanExec
  held p := p.registry
  named
    | .loan _ _ => none
    | .returnLoan loanedMemory | .publishLoan _ loanedMemory => some loanedMemory
  handsOut
    | p, .loan port numberOfBytes, sample => port.loanSliceUninit numberOfBytes = .ok sample ∧
        (p.loan port numberOfBytes).result = .ok sample.address
    | _, _, _ => False
  passesOn
    | p, .publishLoan port loanedMemory, sample => p.registry.retrieve loanedMemory = some sample ∧
        .send sample.payload ∈ (p.publishLoan port loanedMemory).requests
    | _, _, _ => False
  takesBack
    | p, .returnLoan loanedMemory, ptr =>
      loanedMemory = ptr ∧ (p.returnLoan loanedMemory).result = .ok ()
    | _, _, _ => False
  rejects
    | _, .loan _ _ => False
    | p, .returnLoan loanedMemory => Rejected (p.returnLoan loanedMemory)
    | p, .publishLoan port loanedMemory => Rejected (p.publishLoan port loanedMemory)

/-- The middleware grants no loan where a sample lies that is still held. -/
def GrantsFree (p : Publisher M) : LoanCall → Prop
  | .loan port numberOfBytes => ∀ sample, port.loanSliceUninit numberOfBytes = .ok sample →
      p.registry.Unused sample
  | _ => True

variable {p : Publisher M} {ptr : Address} {sample : Sample}

theorem returnLoan_unknown (h : p.registry.find ptr = none) :
    p.returnLoan ptr = ⟨p, [], .error ⟨.invalidPayload, []⟩⟩ := by
  simp only [returnLoan, SampleRegistry.release, SampleRegistry.retrieve, h]

theorem returnLoan_held (h : p.registry.find ptr = some sample) :
    p.returnLoan ptr = ⟨{ p with registry := p.registry.remove ptr }, [], .ok ()⟩ := by
  simp only [returnLoan, SampleRegistry.release, SampleRegistry.retrieve, h]

theorem publishLoan_unknown (port : PublisherPort) (h : p.registry.find ptr = none) :
    p.publishLoan port ptr = ⟨p, [], .error ⟨.invalidPayload, ["invalid payload pointer"]⟩⟩ := by
  simp only [publishLoan, SampleRegistry.release, SampleRegistry.retrieve, h]

theorem publishLoan_held (port : PublisherPort) (h : p.registry.find ptr = some sample) :
    (p.publishLoan port ptr).publisher = { p with registry := p.registry.remove ptr } ∧
      .send sample.payload ∈ (p.publishLoan port ptr).requests := by
  simp only [publishLoan, SampleRegistry.release, SampleRegistry.retrieve, h]
  cases hsend : port.send sample with
  | error e => simp
  | ok u => cases hnotify : port.notify <;> simp

theorem loan_held {port : PublisherPort} {n : ℕ} (hfree : GrantsFree p (.loan port n)) :
    (p.loan port n).publisher.registry.find ptr = some sample ↔
      (sample.address = ptr ∧ (custodian M).handsOut p (.loan port n) sample) ∨
        p.registry.find ptr = some sample := by
  cases hloan : port.loanSliceUninit n with
  | error e => simp [loan, hloan, custodian]
  | ok granted =>
    have hstore := SampleRegistry.find_store (hfree granted hloan) ptr sample
    have hresult : (p.loan port n).result = .ok granted.address := by simp only [loan, hloan]; rfl
    have hpub : (p.loan port n).publisher.registry = (p.registry.store granted).1 := by
      simp only [loan, hloan]
    rw [hpub, hstore]
    simp only [custodian, hloan, Except.ok.injEq, hresult]
    refine or_congr_left (and_congr_right fun _ ↦ ⟨fun he ↦ ⟨he, he ▸ rfl⟩, And.left⟩)

theorem custodian_lawful : (custodian M).Lawful GrantsFree where
  held_exec p call hok ptr sample := by
    cases call with
    | loan port n =>
      refine (loan_held hok).trans (or_congr_right ?_)
      simp [Custodian.Closes, custodian]
    | returnLoan loanedMemory =>
      cases hfind : p.registry.find loanedMemory with
      | none =>
        simp [custodian, loanExec, Custodian.Closes, returnLoan_unknown hfind]
      | some held =>
        simp only [custodian, loanExec, Custodian.Closes, returnLoan_held hfind,
          SampleRegistry.find_remove_iff]
        simp [eq_comm]
    | publishLoan port loanedMemory =>
      cases hfind : p.registry.find loanedMemory with
      | none =>
        simp [custodian, loanExec, Custodian.Closes, publishLoan_unknown port hfind]
      | some held =>
        obtain ⟨hpub, hsend⟩ := publishLoan_held port hfind
        have haddr : held.address = loanedMemory := p.registry.keyed _ _ hfind
        simp only [custodian, loanExec, Custodian.Closes, hpub, SampleRegistry.find_remove_iff,
          SampleRegistry.retrieve, hfind, Option.some_inj, and_false, false_or, or_false]
        refine and_congr_right fun _ ↦ not_congr ⟨fun he ↦ ?_, fun he ↦ ?_⟩
        · exact ⟨held, haddr.trans he.symm, rfl, hsend⟩
        · obtain ⟨v, rfl, rfl, -⟩ := he
          exact haddr
  handsOut_unnamed p call sample h := by
    cases call with
    | loan port n => rfl
    | returnLoan loanedMemory => exact h.elim
    | publishLoan port loanedMemory => exact h.elim
  passesOn_held p call sample h := by
    cases call with
    | loan port n => exact h.elim
    | returnLoan loanedMemory => exact h.elim
    | publishLoan port loanedMemory =>
      have haddr : sample.address = loanedMemory := p.registry.keyed _ _ h.1
      exact ⟨by rw [haddr]; rfl, by rw [haddr]; exact h.1⟩
  takesBack_held p call ptr h := by
    cases call with
    | loan port n => exact h.elim
    | publishLoan port loanedMemory => exact h.elim
    | returnLoan loanedMemory =>
      obtain ⟨rfl, hok⟩ := h
      cases hfind : p.registry.find loanedMemory with
      | none =>
        rw [returnLoan_unknown hfind] at hok
        cases hok
      | some sample => exact ⟨rfl, sample, hfind⟩
  rejects_unknown p call ptr hnamed hnone := by
    cases call with
    | loan port n => cases hnamed
    | returnLoan loanedMemory =>
      obtain rfl := Option.some_inj.mp hnamed
      have hreturn := returnLoan_unknown hnone
      refine ⟨?_, congrArg Return.publisher hreturn⟩
      show Rejected (p.returnLoan loanedMemory)
      rw [hreturn]
      exact ⟨rfl, [], rfl⟩
    | publishLoan port loanedMemory =>
      obtain rfl := Option.some_inj.mp hnamed
      have hpublish := publishLoan_unknown port hnone
      refine ⟨?_, congrArg Return.publisher hpublish⟩
      show Rejected (p.publishLoan port loanedMemory)
      rw [hpublish]
      exact ⟨rfl, _, rfl⟩

end Publisher

namespace Subscriber

/-- The calls on a subscriber that concern its samples, with what the middleware receives and any
pointers. -/
inductive TakeCall
  | takeCopy (port : SubscriberPort)
  | takeLoan (port : SubscriberPort)
  | returnLoan (loanedMemory : Address)

def takeExec (s : Subscriber M) : TakeCall → Subscriber M
  | .takeCopy _ => s
  | .takeLoan port => (s.takeLoan port).1
  | .returnLoan loanedMemory => (s.returnLoan loanedMemory).1

/-- A subscriber as the custodian of the samples it lends out. -/
def custodian (M : Type) : Custodian (Subscriber M) TakeCall Sample.address where
  exec := takeExec
  held s := s.registry
  named
    | .takeCopy _ | .takeLoan _ => none
    | .returnLoan loanedMemory => some loanedMemory
  handsOut
    | s, .takeLoan port, sample => port = .ok (some sample) ∧
        (s.takeLoan port).2 = .ok (some ⟨sample.address, sample.payload⟩)
    | _, _, _ => False
  passesOn _ _ _ := False
  takesBack
    | s, .returnLoan loanedMemory, ptr =>
      loanedMemory = ptr ∧ (s.returnLoan loanedMemory).2 = .ok ()
    | _, _, _ => False
  rejects
    | s, .returnLoan loanedMemory =>
      ∃ chain, (s.returnLoan loanedMemory).2 = .error ⟨.invalidPayload, chain⟩
    | _, _ => False

/-- The middleware receives no sample where one lies that is still held. -/
def ReceivesFree (s : Subscriber M) : TakeCall → Prop
  | .takeLoan port => ∀ sample, port = .ok (some sample) → s.registry.Unused sample
  | _ => True

variable {s : Subscriber M} {ptr : Address} {sample : Sample}

theorem returnLoan_unknown (h : s.registry.find ptr = none) :
    s.returnLoan ptr = (s, .error ⟨.invalidPayload, []⟩) := by
  simp only [returnLoan, SampleRegistry.release, SampleRegistry.retrieve, h]

theorem returnLoan_held (h : s.registry.find ptr = some sample) :
    s.returnLoan ptr = ({ s with registry := s.registry.remove ptr }, .ok ()) := by
  simp only [returnLoan, SampleRegistry.release, SampleRegistry.retrieve, h]

theorem takeLoan_held {port : SubscriberPort} (hfree : ReceivesFree s (.takeLoan port)) :
    (s.takeLoan port).1.registry.find ptr = some sample ↔
      (sample.address = ptr ∧ (custodian M).handsOut s (.takeLoan port) sample) ∨
        s.registry.find ptr = some sample := by
  cases port with
  | error e => simp [takeLoan, custodian]
  | ok received =>
    cases received with
    | none => simp [takeLoan, custodian]
    | some received =>
      have hstore := SampleRegistry.find_store (hfree received rfl) ptr sample
      simp only [takeLoan, custodian, Except.ok.injEq, Option.some_inj]
      rw [hstore]
      refine or_congr_left (and_congr_right fun _ ↦ ⟨fun he ↦ ⟨he, he ▸ rfl⟩, And.left⟩)

theorem custodian_lawful : (custodian M).Lawful ReceivesFree where
  held_exec s call hok ptr sample := by
    cases call with
    | takeCopy port => simp [custodian, takeExec, Custodian.Closes]
    | takeLoan port =>
      refine (takeLoan_held hok).trans (or_congr_right ?_)
      simp [Custodian.Closes, custodian]
    | returnLoan loanedMemory =>
      cases hfind : s.registry.find loanedMemory with
      | none => simp [custodian, takeExec, Custodian.Closes, returnLoan_unknown hfind]
      | some held =>
        simp only [custodian, takeExec, Custodian.Closes, returnLoan_held hfind,
          SampleRegistry.find_remove_iff]
        simp [eq_comm]
  handsOut_unnamed s call sample h := by
    cases call with
    | takeCopy port => rfl
    | takeLoan port => rfl
    | returnLoan loanedMemory => exact h.elim
  passesOn_held s call sample h := h.elim
  takesBack_held s call ptr h := by
    cases call with
    | takeCopy port => exact h.elim
    | takeLoan port => exact h.elim
    | returnLoan loanedMemory =>
      obtain ⟨rfl, hok⟩ := h
      cases hfind : s.registry.find loanedMemory with
      | none =>
        rw [returnLoan_unknown hfind] at hok
        cases hok
      | some sample => exact ⟨rfl, sample, hfind⟩
  rejects_unknown s call ptr hnamed hnone := by
    cases call with
    | takeCopy port => cases hnamed
    | takeLoan port => cases hnamed
    | returnLoan loanedMemory =>
      obtain rfl := Option.some_inj.mp hnamed
      have hreturn := returnLoan_unknown hnone
      exact ⟨⟨[], congrArg Prod.snd hreturn⟩, congrArg Prod.fst hreturn⟩

end Subscriber

/-- The registries of publishers and of subscribers account for the samples lent out. -/
theorem loans_accounted (topic : String) (typeSupport : TypeSupport M) :
    (∀ mw p ops, Publisher.create mw topic typeSupport = .ok p →
      Admissible Publisher.loanExec Publisher.GrantsFree p ops →
        (Publisher.custodian M).Accounted p ops) ∧
    (∀ mw s ops, Subscriber.create mw topic typeSupport = .ok s →
      Admissible Subscriber.takeExec Subscriber.ReceivesFree s ops →
        (Subscriber.custodian M).Accounted s ops) := by
  refine ⟨fun mw p ops hcreate hok ↦ ?_, fun mw s ops hcreate hok ↦ ?_⟩
  · refine Publisher.custodian_lawful.accounted ?_ hok
    rw [Publisher.create_ok hcreate]
    rfl
  · refine Subscriber.custodian_lawful.accounted ?_ hok
    rw [Subscriber.create_ok hcreate]
    rfl

/-- An address is used again once what lay there has been sent or given back. -/
theorem loans_accounted_reused :
    (Publisher.custodian Text).Accounted
      ⟨"chatter", textTypeSupport, 32, Names.topic "chatter", 32, .empty _⟩
      [.loan grantingPort 1, .publishLoan grantingPort 7, .returnLoan 7, .loan grantingPort 2,
        .returnLoan 7] ∧
    (Subscriber.custodian Text).Accounted ⟨"chatter", textTypeSupport, Names.topic "chatter", .empty _⟩
      [.takeLoan (.ok (some ⟨5, [1]⟩)), .returnLoan 5, .returnLoan 6,
        .takeLoan (.ok (some ⟨5, [2]⟩))] := by
  obtain ⟨hpublisher, hsubscriber⟩ := loans_accounted "chatter" textTypeSupport
  refine ⟨hpublisher ⟨fun _ ↦ .ok (), fun _ ↦ .ok (), fun _ ↦ .ok (), fun _ ↦ .ok (), .ok ()⟩
    _ _ rfl ?_, hsubscriber ⟨fun _ ↦ .ok (), fun _ ↦ .ok (), .ok ()⟩ _ _ rfl ?_⟩
  · refine ⟨?_, trivial, trivial, ?_, trivial, trivial⟩ <;> rintro sample ⟨⟩ <;> rfl
  · refine ⟨?_, trivial, trivial, ?_, trivial⟩ <;> rintro sample ⟨⟩ <;> rfl

end RmwIceoryx2.Runtime
