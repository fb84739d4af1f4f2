import RmwIceoryx2.Library.SharedResources
import RmwIceoryx2.Runtime.Publisher
import RmwIceoryx2.Runtime.Subscriber

namespace RmwIceoryx2.Runtime

open Common RmwIceoryx2.Message RmwIceoryx2.Library

structure PublishSubscribeSettings where
  maxPublishers : ℕ
  maxSubscribers : ℕ
  historySize : ℕ
  subscriberMaxBufferSize : ℕ
  payloadAlignment : ℕ
  deriving DecidableEq, Repr

/-- What the builder of a publish-subscribe service was given. -/
structure PublishSubscribeBuilder where
  maxPublishers : Option ℕ
  maxSubscribers : Option ℕ
  historySize : Option ℕ
  subscriberMaxBufferSize : Option ℕ
  payloadAlignment : Option ℕ
  deriving DecidableEq, Repr

namespace PublishSubscribeBuilder

def unset : PublishSubscribeBuilder := ⟨none, none, none, none, none⟩

def settings (defaults : PublishSubscribeSettings) (b : PublishSubscribeBuilder) :
    PublishSubscribeSettings where
  maxPublishers := b.maxPublishers.getD defaults.maxPublishers
  maxSubscribers := b.maxSubscribers.getD defaults.maxSubscribers
  historySize := b.historySize.getD defaults.historySize
  subscriberMaxBufferSize := b.subscriberMaxBufferSize.getD defaults.subscriberMaxBufferSize
  payloadAlignment := b.payloadAlignment.getD defaults.payloadAlignment

end PublishSubscribeBuilder

def Publisher.serviceBuilder : PublishSubscribeBuilder where
  maxPublishers := some 64
  maxSubscribers := some 64
  historySize := some 10
  subscriberMaxBufferSize := some 10
  payloadAlignment := some Publisher.payloadAlignment

def Subscriber.serviceBuilder : PublishSubscribeBuilder where
  maxPublishers := some 64
  maxSubscribers := some 64
  historySize := some 10
  subscriberMaxBufferSize := some Subscriber.subscriberMaxBufferSize
  payloadAlignment := some Subscriber.payloadAlignment

theorem Subscriber.serviceBuilder_eq :
    Subscriber.serviceBuilder = Publisher.serviceBuilder := rfl

section Create

variable {M : Type} {topic : String} {typeSupport : TypeSupport M}
  {answers : String → Except String Unit}

theorem Publisher.create_congr {mw : CreationAnswers}
    (h : mw.serviceName (Names.topic topic) = .ok () →
      answers (Names.topic topic) = mw.publishSubscribe (Names.topic topic)) :
    Publisher.create { mw with publishSubscribe := answers } topic typeSupport =
      Publisher.create mw topic typeSupport := by
  simp only [Publisher.create]
  cases hname : mw.serviceName (Names.topic topic) with
  | error e => rfl
  | ok u => rw [h hname]

theorem Publisher.create_granted {mw : CreationAnswers} {p : Publisher M}
    (h : Publisher.create mw topic typeSupport = .ok p) :
    mw.serviceName (Names.topic topic) = .ok () ∧
      mw.publishSubscribe (Names.topic topic) = .ok () := by
  simp only [Publisher.create] at h
  split at h
  · cases h
  · rename_i hname
    split at h
    · cases h
    · rename_i hopen
      exact ⟨hname, hopen⟩

theorem Subscriber.create_congr {mw : SubscriberCreationAnswers}
    (h : mw.serviceName (Names.topic topic) = .ok () →
      answers (Names.topic topic) = mw.publishSubscribe (Names.topic topic)) :
    Subscriber.create { mw with publishSubscribe := answers } topic typeSupport =
      Subscriber.create mw topic typeSupport := by
  simp only [Subscriber.create]
  cases hname : mw.serviceName (Names.topic topic) with
  | error e => rfl
  | ok u => rw [h hname]

theorem Subscriber.create_granted {mw : SubscriberCreationAnswers} {s : Subscriber M}
    (h : Subscriber.create mw topic typeSupport = .ok s) :
    mw.serviceName (Names.topic topic) = .ok () ∧
      mw.publishSubscribe (Names.topic topic) = .ok () := by
  simp only [Subscriber.create] at h
  split at h
  · cases h
  · rename_i hname
    split at h
    · cases h
    · rename_i hopen
      exact ⟨hname, hopen⟩

end Create

/-- A query holds a service until it returns, and an endpoint from its construction on, until it is
destroyed or its construction fails. -/
inductive ServiceHolder
  | query (call : ℕ)
  | endpoint (call : ℕ)
  deriving DecidableEq, Repr

def ServiceHolder.isEndpoint : ServiceHolder → Bool
  | .query _ => false
  | .endpoint _ => true

abbrev Services := Resources ServiceHolder String PublishSubscribeSettings

/-- What iceoryx2 takes for settings that were not set, whether a service satisfies the settings
that were, and the text of the error if it does not. -/
structure ServiceRules where
  defaults : PublishSubscribeSettings
  satisfies : PublishSubscribeSettings → PublishSubscribeBuilder → Bool
  incompatible : String

namespace ServiceRules

def terms (rules : ServiceRules) : Terms PublishSubscribeBuilder PublishSubscribeSettings :=
  ⟨PublishSubscribeBuilder.settings rules.defaults, rules.satisfies⟩

/-- A service satisfies the settings it was created with. -/
def Documented (rules : ServiceRules) : Prop := rules.terms.Fair

/-- `open_or_create`, which may also be refused for reasons of its own. -/
def openOrCreate (rules : ServiceRules) (refusal : String → Except String Unit)
    (services : Services) (holder : ServiceHolder) (name : String)
    (builder : PublishSubscribeBuilder) : Except String Services :=
  match refusal name with
  | .error e => .error e
  | .ok () =>
    match services.openOrCreate rules.terms holder name builder with
    | none => .error rules.incompatible
    | some services => .ok services

variable {rules : ServiceRules} {refusal : String → Except String Unit} {services : Services}
  {holder : ServiceHolder} {name : String} {builder : PublishSubscribeBuilder}

theorem openOrCreate_eq_ok {services' : Services} :
    rules.openOrCreate refusal services holder name builder = .ok services' ↔
      refusal name = .ok () ∧
        services.openOrCreate rules.terms holder name builder = some services' := by
  simp only [openOrCreate]
  cases refusal name with
  | error e => simp
  | ok u => cases services.openOrCreate rules.terms holder name builder <;> simp

theorem exists_of_openOrCreate {services' : Services} {n : String}
    (h : rules.openOrCreate refusal services holder name builder = .ok services') :
    services'.Exists n ↔ n = name ∨ services.Exists n := by
  obtain ⟨s, hs, -, rfl⟩ := Resources.openOrCreate_eq_some.mp (openOrCreate_eq_ok.mp h).2
  exact Resources.exists_acquire

end ServiceRules

/-- What iceoryx2 answers where it depends on the services whether one can be opened. -/
def servicesAnswer (rules : ServiceRules) (refusal : String → Except String Unit)
    (services : Services) (holder : ServiceHolder) (builder : PublishSubscribeBuilder)
    (serviceName : String) : Except String Unit :=
  (rules.openOrCreate refusal services holder serviceName builder).map fun _ ↦ ()

def CreationAnswers.on (mw : CreationAnswers) (rules : ServiceRules) (services : Services)
    (holder : ServiceHolder) : CreationAnswers :=
  { mw with
    publishSubscribe :=
      servicesAnswer rules mw.publishSubscribe services holder Publisher.serviceBuilder }

def SubscriberCreationAnswers.on (mw : SubscriberCreationAnswers) (rules : ServiceRules)
    (services : Services) (holder : ServiceHolder) : SubscriberCreationAnswers :=
  { mw with
    publishSubscribe :=
      servicesAnswer rules mw.publishSubscribe services holder Subscriber.serviceBuilder }

section Answers

variable {rules : ServiceRules} {refusal : String → Except String Unit} {services : Services}
  {holder : ServiceHolder} {name : String} {builder : PublishSubscribeBuilder}

theorem servicesAnswer_eq
    (h : (services.openOrCreate rules.terms holder name builder).isSome) :
    servicesAnswer rules refusal services holder builder name = refusal name := by
  obtain ⟨services', hopen⟩ := Option.isSome_iff_exists.mp h
  simp only [servicesAnswer, ServiceRules.openOrCreate, hopen]
  cases refusal name <;> rfl

theorem servicesAnswer_eq_ok :
    servicesAnswer rules refusal services holder builder name = .ok () ↔ refusal name = .ok () ∧
      (services.openOrCreate rules.terms holder name builder).isSome := by
  simp only [servicesAnswer, ServiceRules.openOrCreate]
  cases refusal name with
  | error e => simp [Except.map]
  | ok u => cases services.openOrCreate rules.terms holder name builder <;> simp [Except.map]

end Answers

/-- Rules as those of an iceoryx2 that compares each number that was set. -/
def hostServiceRules : ServiceRules where
  defaults := ⟨2, 8, 0, 2, 1⟩
  satisfies s b := b.maxPublishers.all (· ≤ s.maxPublishers) &&
    b.maxSubscribers.all (· ≤ s.maxSubscribers) && b.historySize.all (· ≤ s.historySize) &&
      b.subscriberMaxBufferSize.all (· ≤ s.subscriberMaxBufferSize) &&
        b.payloadAlignment.all (· ≤ s.payloadAlignment)
  incompatible := "OpenDoesNotSupportRequestedAmountOfPublishers"

theorem all_le_getD (given : Option ℕ) (default : ℕ) :
    given.all (· ≤ given.getD default) = true := by
  cases given <;> simp

theorem hostServiceRules_documented : hostServiceRules.Documented := by
  intro b
  simp only [hostServiceRules, ServiceRules.terms, PublishSubscribeBuilder.settings, all_le_getD,
    Bool.and_self]

end RmwIceoryx2.Runtime
