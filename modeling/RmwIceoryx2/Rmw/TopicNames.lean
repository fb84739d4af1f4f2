import RmwIceoryx2.Rmw.Endpoint
import RmwIceoryx2.Rmw.Graph
import RmwIceoryx2.Rmw.StringArray

namespace RmwIceoryx2.Rmw

open RmwIceoryx2.Common RmwIceoryx2.Library

inductive Crash
  | fatal (f : Fatal)
  | memory (f : MemoryFault)
  deriving DecidableEq, Repr

structure TopicNamesOutcome where
  ret : RmwRet
  chain : List String
  topicNamesAndTypes : Option NamesAndTypes
  deriving DecidableEq, Repr

variable {rc : Rcutils}

def ensureValidAllocator (rc : Rcutils) (allocator : Option Allocator) :
    Except (Failure RmwRet) Allocator :=
  match allocator with
  | none => .error ⟨.invalidArgument, []⟩
  | some allocator =>
    if rc.allocatorIsValid allocator then .ok allocator else .error ⟨.invalidArgument, []⟩

def verifyZeroInitialized (rc : Rcutils) (arr : Option StringArray) (msg : String) :
    Except (Failure RmwRet) Unit :=
  let (ret, comparisonResult) := rc.stringArrayCmp arr (some zeroStringArray)
  if ret ≠ .ok ∨ comparisonResult ≠ 0 then .error ⟨.invalidArgument, [msg]⟩ else .ok ()

def checkTopicNames (rc : Rcutils) (rmwNode : Option RmwNode) (allocator : Option Allocator)
    (topicNamesAndTypes : Option NamesAndTypes) :
    Except (Failure RmwRet) (Allocator × NamesAndTypes) := do
  let node ← ensureNotNull "rmw_node" .invalidArgument rmwNode
  let given ← ensureNotNull "topic_names_and_types" .invalidArgument topicNamesAndTypes
  ensureImplementation "rmw_node->implementation_identifier" .incorrectRmwImplementation
    node.implementationIdentifier
  let allocator ← ensureValidAllocator rc allocator
  verifyZeroInitialized rc (some given.names) "failed to verify topic names is zero initialized"
  return (allocator, given)

/-- What `types` points to, when it is read: a null pointer, or the first of the arrays. -/
def firstTypes (types : Option (List StringArray)) : Except MemoryFault (Option StringArray) :=
  match types with
  | none => .ok none
  | some [] => .error .outOfBounds
  | some (first :: _) => .ok (some first)

/-- The last part of `rmw_get_topic_names_and_types`, with the topics that were collected. -/
def listTopics (rc : Rcutils) (topics : List TopicDetails) (allocator : Allocator)
    (given : NamesAndTypes) : Except MemoryFault TopicNamesOutcome :=
  match rc.namesAndTypesInit given topics.length allocator with
  | (.ok, out) =>
    match out.types with
    -- a null pointer is refused when the array behind it is initialised
    | none => .ok ⟨.badAlloc, ["failed to allocate memory for topic types"], some out⟩
    | some [] => .error .outOfBounds
    | some (first :: rest) =>
      match rc.stringArrayInit 0 first topics.length allocator with
      | (.ok, first) =>
        match fillPair rc TopicDetails.topic (fun _ ↦ "UNKNOWN")
            "failed to allocate memory for topic name" "failed to allocate memory for type type"
            (2 ^ 64 - 1) 0 topics out.names first with
        | .error fault => .error fault
        | .ok filled => .ok ⟨filled.ret, filled.chain,
            some ⟨filled.first, some (filled.second :: rest)⟩⟩
      | (_, first) => .ok ⟨.badAlloc, ["failed to allocate memory for topic types"],
          some { out with types := some (first :: rest) }⟩
  | (ret, out) => .ok ⟨ret, [], some out⟩

def rmwGetTopicNamesAndTypes (rc : Rcutils) (listing : ServiceListing) (rmwNode : Option RmwNode)
    (allocator : Option Allocator) (topicNamesAndTypes : Option NamesAndTypes) :
    Except Crash TopicNamesOutcome :=
  match checkTopicNames rc rmwNode allocator topicNamesAndTypes with
  | .error f => .ok ⟨f.error, f.chain, topicNamesAndTypes⟩
  | .ok (allocator, given) =>
    match firstTypes given.types with
    | .error fault => .error (.memory fault)
    | .ok first =>
      match verifyZeroInitialized rc first "failed to verify topic types is zero initialized" with
      | .error f => .ok ⟨f.error, f.chain, topicNamesAndTypes⟩
      | .ok () =>
        match collectTopicNamesAndTypes listing (.empty _) isPublishSubscribe with
        | .error fatal => .error (.fatal fatal)
        | .ok (.ok, topics) => (listTopics rc topics.toList allocator given).mapError .memory
        | .ok (ret, _) => .ok ⟨ret, [], topicNamesAndTypes⟩

/-- An array that holds a type name at each of its places, and at least one. -/
def HoldsTypes (arr : StringArray) : Prop :=
  1 ≤ arr.size ∧ arr.entries.length = arr.size ∧ ∀ e ∈ arr.entries, e.isSome

def WellShaped (topics : List String) (out : NamesAndTypes) : Prop :=
  (out.names.size = topics.length ∧ out.names.entries = topics.map some) ∧
    ∃ types, out.types = some types ∧ types.length = topics.length ∧ ∀ arr ∈ types, HoldsTypes arr

def ListsTopics (rc : Rcutils) (listing : ServiceListing) (rmwNode : Option RmwNode)
    (allocator : Option Allocator) (topics : List String) (given : NamesAndTypes) : Prop :=
  ∃ r out, rmwGetTopicNamesAndTypes rc listing rmwNode allocator (some given) = .ok r ∧
    r.ret = .ok ∧ r.topicNamesAndTypes = some out ∧ WellShaped topics out

/-- The loop fills the first of the arrays for types with an entry for each topic, and leaves the
others as they were allocated. -/
theorem listTopics_ok (hrc : rc.Documented) {topics : List TopicDetails} {allocator : Allocator}
    {given : NamesAndTypes} {r : TopicNamesOutcome} (hret : r.ret = .ok)
    (h : listTopics rc topics allocator given = .ok r) :
    ∃ names first rest, r.topicNamesAndTypes = some ⟨names, some (first :: rest)⟩ ∧
      rest.length + 1 = topics.length ∧ (∀ arr ∈ rest, arr = zeroStringArray) ∧
      (names.size = topics.length ∧ names.entries = topics.map fun d ↦ some d.topic) ∧
        first.size = topics.length ∧ first.entries = topics.map fun _ ↦ some "UNKNOWN" := by
  have hnames := hrc.namesAndTypesInit given topics.length allocator
  simp only [listTopics] at h
  split at h
  · rename_i out hinit
    rw [hinit] at hnames
    obtain ⟨hsize, hentries, htypes⟩ := hnames rfl
    split at h
    · obtain rfl := Except.ok.inj h
      cases hret
    · cases h
    · rename_i first rest hout
      have hrest : first :: rest = List.replicate topics.length zeroStringArray :=
        Option.some_inj.mp (hout.symm.trans htypes)
      have hcount : rest.length + 1 = topics.length := by
        rw [← List.length_cons (a := first), hrest, List.length_replicate]
      have hfirst := hrc.stringArrayInit 0 first topics.length allocator
      split at h
      · rename_i array hinit'
        rw [hinit'] at hfirst
        obtain ⟨hsize', hentries'⟩ := hfirst rfl
        split at h
        · cases h
        · rename_i filled hfill
          obtain rfl := Except.ok.inj h
          obtain ⟨⟨hkept, hfilled⟩, hkept', hfilled'⟩ := fillPair_all hrc hret
            (by rw [hentries, List.length_replicate]) (by rw [hentries', List.length_replicate])
            hfill
          refine ⟨_, _, _, rfl, hcount, fun arr harr ↦ ?_, ⟨hkept.trans hsize, hfilled⟩,
            hkept'.trans hsize', hfilled'⟩
          refine List.eq_of_mem_replicate (n := topics.length) ?_
          rw [← hrest]
          exact List.mem_cons_of_mem first harr
      · obtain rfl := Except.ok.inj h
        cases hret
  · rename_i ret _ hne _
    obtain rfl := Except.ok.inj h
    exact absurd hret hne

/-- Past the checks a list is well shaped exactly if there is one topic. -/
theorem listTopics_wellShaped_iff (hrc : rc.Documented) {topics : List TopicDetails}
    {allocator : Allocator} {given : NamesAndTypes} {r : TopicNamesOutcome} (hret : r.ret = .ok)
    (h : listTopics rc topics allocator given = .ok r) :
    ∃ out, r.topicNamesAndTypes = some out ∧
      (WellShaped (topics.map (·.topic)) out ↔ topics.length = 1) := by
  obtain ⟨names, first, rest, hout, hcount, hzero, ⟨hsize, hentries⟩, hsize', hentries'⟩ :=
    listTopics_ok hrc hret h
  refine ⟨_, hout, fun hshaped ↦ ?_, fun hone ↦ ?_⟩
  · obtain ⟨-, types, htypes, -, hholds⟩ := hshaped
    obtain rfl := Option.some_inj.mp htypes
    cases rest with
    | nil => exact hcount.symm
    | cons second rest =>
      have hheld : HoldsTypes second := hholds second (by simp)
      rw [hzero second (by simp)] at hheld
      exact absurd hheld.1 (by decide)
  · obtain rfl : rest = [] := List.eq_nil_of_length_eq_zero (by omega)
    refine ⟨⟨by rw [hsize, List.length_map], ?_⟩, [first], rfl, ?_, fun arr harr ↦ ?_⟩
    · rw [hentries, List.map_map]
      rfl
    · rw [List.length_map, hone, List.length_singleton]
    · obtain rfl := List.mem_singleton.mp harr
      refine ⟨by omega, by rw [hentries', hsize', List.length_map], fun e he ↦ ?_⟩
      rw [hentries'] at he
      obtain ⟨d, -, rfl⟩ := List.mem_map.mp he
      rfl

theorem listTopics_empty (hrc : rc.Documented) {allocator : Allocator} {given : NamesAndTypes}
    (hinit : (rc.namesAndTypesInit given 0 allocator).1 = .ok) :
    listTopics rc [] allocator given = .error .outOfBounds := by
  obtain ⟨-, -, htypes⟩ := hrc.namesAndTypesInit given 0 allocator hinit
  have hout : rc.namesAndTypesInit given 0 allocator =
      (.ok, (rc.namesAndTypesInit given 0 allocator).2) := Prod.ext hinit rfl
  rw [listTopics, List.length_nil, hout]
  simp only [htypes, List.replicate_zero]

theorem verifyZeroInitialized_null {msg : String}
    (hcmp : ∀ rhs, (rc.stringArrayCmp none rhs).1 ≠ .ok) :
    verifyZeroInitialized rc none msg = .error ⟨.invalidArgument, [msg]⟩ :=
  if_pos (Or.inl (hcmp _))

theorem checkTopicNames_ok {rmwNode : Option RmwNode} {allocator : Option Allocator}
    {given : NamesAndTypes} {checked : Allocator × NamesAndTypes}
    (h : checkTopicNames rc rmwNode allocator (some given) = .ok checked) : checked.2 = given := by
  simp only [checkTopicNames, bind_eq_ok, ensureNotNull_eq_ok, Option.some_inj, pure, Except.pure,
    Except.ok.injEq] at h
  obtain ⟨_, -, _, rfl, _, -, _, -, _, -, rfl⟩ := h
  rfl

theorem verifyZeroInitialized_rejects {arr : Option StringArray} {msg : String}
    {f : Failure RmwRet} (h : verifyZeroInitialized rc arr msg = .error f) : f.error ≠ .ok := by
  simp only [verifyZeroInitialized] at h
  split at h
  · obtain rfl := Except.error.inj h
    simp
  · cases h

theorem checkTopicNames_rejects {rmwNode : Option RmwNode} {allocator : Option Allocator}
    {given : Option NamesAndTypes} {f : Failure RmwRet}
    (h : checkTopicNames rc rmwNode allocator given = .error f) : f.error ≠ .ok := by
  simp only [checkTopicNames, bind_eq_error, ensureNotNull_eq_error, ensureImplementation_eq_error,
    pure, Except.pure, reduceCtorEq, and_false, exists_false, or_false] at h
  obtain ⟨-, rfl⟩ | ⟨_, -, ⟨-, rfl⟩ | ⟨_, -, ⟨-, rfl⟩ | ⟨_, -, hallocator | ⟨_, -, hnames⟩⟩⟩⟩ := h
  · simp
  · simp
  · simp
  · simp only [ensureValidAllocator] at hallocator
    split at hallocator
    · obtain rfl := Except.error.inj hallocator
      simp
    · split at hallocator
      · cases hallocator
      · obtain rfl := Except.error.inj hallocator
        simp
  · exact verifyZeroInitialized_rejects hnames

theorem rmwGetTopicNamesAndTypes_ok (hrc : rc.Documented) {listing : ServiceListing}
    {rmwNode : Option RmwNode} {allocator : Option Allocator} {given : Option NamesAndTypes}
    {r : TopicNamesOutcome}
    (h : rmwGetTopicNamesAndTypes rc listing rmwNode allocator given = .ok r) (hret : r.ret = .ok) :
    ∃ out topics, r.topicNamesAndTypes = some out ∧
      collectTopicNamesAndTypes listing (.empty _) isPublishSubscribe = .ok (.ok, topics) ∧
        out.names.size = (topicNames topics).length ∧
          out.names.entries = (topicNames topics).map some := by
  simp only [rmwGetTopicNamesAndTypes] at h
  split at h
  · rename_i f hcheck
    obtain rfl := Except.ok.inj h
    exact absurd hret (checkTopicNames_rejects hcheck)
  split at h
  · cases h
  split at h
  · rename_i f hverify
    obtain rfl := Except.ok.inj h
    exact absurd hret (verifyZeroInitialized_rejects hverify)
  split at h
  · cases h
  · rename_i topics hcollect
    cases hlist : listTopics rc topics.toList _ _ with
    | error fault =>
      rw [hlist] at h
      cases h
    | ok r' =>
      rw [hlist] at h
      obtain rfl := Except.ok.inj h
      obtain ⟨names, first, rest, hnames, -, -, ⟨hsize, hentries⟩, -⟩ :=
        listTopics_ok hrc hret hlist
      refine ⟨_, topics, hnames, hcollect, ?_, ?_⟩
      · rw [hsize, topicNames, List.length_map]
      · rw [hentries, topicNames, List.map_map]
        rfl
  · rename_i ret _ hne _
    obtain rfl := Except.ok.inj h
    exact absurd hret hne

/-- The check for a zero-initialised list refuses the null pointer that such a list holds. -/
theorem zero_initialized_refused (hcmp : ∀ rhs, (rc.stringArrayCmp none rhs).1 ≠ .ok)
    (listing : ServiceListing) (rmwNode : Option RmwNode) (allocator : Option Allocator) :
    ∃ r, rmwGetTopicNamesAndTypes rc listing rmwNode allocator (some zeroNamesAndTypes) = .ok r ∧
      r.ret ≠ .ok ∧ r.topicNamesAndTypes = some zeroNamesAndTypes := by
  cases hcheck : checkTopicNames rc rmwNode allocator (some zeroNamesAndTypes) with
  | error f =>
    refine ⟨⟨f.error, f.chain, some zeroNamesAndTypes⟩, ?_, checkTopicNames_rejects hcheck, rfl⟩
    rw [rmwGetTopicNamesAndTypes, hcheck]
  | ok checked =>
    obtain ⟨allocator', given⟩ := checked
    obtain rfl : given = zeroNamesAndTypes := checkTopicNames_ok hcheck
    refine ⟨⟨.invalidArgument, ["failed to verify topic types is zero initialized"],
      some zeroNamesAndTypes⟩, ?_, by simp, rfl⟩
    simp only [rmwGetTopicNamesAndTypes, hcheck]
    have hfirst : firstTypes zeroNamesAndTypes.types = .ok none := rfl
    rw [hfirst]
    simp only [verifyZeroInitialized_null hcmp]

/-- No graph is ever listed into a zero-initialised list. -/
theorem topics_never_listed (hcmp : ∀ rhs, (rc.stringArrayCmp none rhs).1 ≠ .ok)
    (listing : ServiceListing) (rmwNode : Option RmwNode) (allocator : Option Allocator)
    (topics : List String) :
    ¬ ListsTopics rc listing rmwNode allocator topics zeroNamesAndTypes := by
  intro h
  obtain ⟨r, out, hcall, hret, -, -⟩ := h
  obtain ⟨r', hcall', hret', -⟩ := zero_initialized_refused hcmp listing rmwNode allocator
  obtain rfl : r = r' := Except.ok.inj (hcall.symm.trans hcall')
  exact hret' hret

def chatterListing : ServiceListing := ⟨[⟨Names.topic "/chatter", .publishSubscribe⟩], .ok ()⟩

def listingNode : RmwNode := ⟨rmwGetImplementationIdentifier, some (some ()), some ()⟩

theorem topics_never_listed_chatter : ¬ ListsTopics hostRcutils chatterListing (some listingNode)
    (some hostAllocator) ["/chatter"] zeroNamesAndTypes :=
  topics_never_listed hostRcutils_documented.stringArrayCmp _ _ _ _

/-- One topic, and the list that the caller has just zero-initialised is not found to be so. -/
theorem chatter_not_listed :
    rmwGetTopicNamesAndTypes hostRcutils chatterListing (some listingNode) (some hostAllocator)
      (some zeroNamesAndTypes) = .ok ⟨.invalidArgument,
        ["failed to verify topic types is zero initialized"], some zeroNamesAndTypes⟩ ∧
    ¬ ListsTopics hostRcutils chatterListing (some listingNode) (some hostAllocator) ["/chatter"]
      zeroNamesAndTypes := by
  have hcall : rmwGetTopicNamesAndTypes hostRcutils chatterListing (some listingNode)
      (some hostAllocator) (some zeroNamesAndTypes) = .ok ⟨.invalidArgument,
        ["failed to verify topic types is zero initialized"], some zeroNamesAndTypes⟩ := rfl
  refine ⟨hcall, fun h ↦ ?_⟩
  obtain ⟨r, out, hr, hret, -, -⟩ := h
  obtain rfl := Except.ok.inj (hcall.symm.trans hr)
  cases hret

end RmwIceoryx2.Rmw
