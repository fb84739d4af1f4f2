import RmwIceoryx2.Runtime.Delivery
import RmwIceoryx2.Rmw.WaitSet

namespace RmwIceoryx2.Rmw

open RmwIceoryx2.Common RmwIceoryx2.Runtime RmwIceoryx2.Runtime.WaitSet
open RmwIceoryx2.Library.FirstOccurrence

variable {S G : Type} {mw : Middleware} {ws : WaitSet} {timeout : Option Duration}

def handle (ws : WaitSet) : RmwWaitSet := ⟨rmwGetImplementationIdentifier, some ws⟩

theorem mapEntries_error {E : Type} [HasServiceName E]
    {map : WaitSet → RmwIndex → String → Except (Failure WaitSetError) WaitSet}
    {castMsg mapMsg : String} {start : RmwIndex} {es : List (Option E)} {f : Failure RmwRet}
    (h : (mapEntries map castMsg mapMsg start es ws).2 = .error f) : f.error = .error := by
  induction es generalizing start ws with
  | nil => cases h
  | cons o es ih =>
    unfold mapEntries at h
    cases o with
    | none =>
      cases h
      rfl
    | some e =>
      simp only [uncheckedCast] at h
      split at h
      · cases h
        rfl
      · exact ih h

variable [HasServiceName S] [HasServiceName G] {a : WaitArrays S G}

theorem mapArrays_error {f : Failure RmwRet} (h : (mapArrays mw a ws).2 = .error f) :
    f.error = .error := by
  unfold mapArrays at h
  split at h
  · rename_i hg
    cases h
    exact mapEntries_error (by rw [hg])
  · exact mapEntries_error h

theorem rmwWait_cases (mw : Middleware) (ws : WaitSet) (a : WaitArrays S G)
    (waitTimeout : Option RmwTime) :
    (¬ a.Valid ∧ ∃ chain, rmwWait mw (some (handle ws)) a waitTimeout =
      ⟨.invalidArgument, chain, some (handle ws), a, []⟩) ∨
    (a.Valid ∧ (mapAll mw ws a.entries).2 ≠ none ∧ ∃ chain,
      rmwWait mw (some (handle ws)) a waitTimeout =
        ⟨.error, chain, some (handle (mapAll mw ws a.entries).1), a, []⟩) ∨
    (a.Valid ∧ (mapAll mw ws a.entries).2 = none ∧
      rmwWait mw (some (handle ws)) a waitTimeout =
        waitArrays mw (handle ws) a (mapAll mw ws a.entries).1 (timeoutOf waitTimeout)) := by
  by_cases ha : a.Valid
  · have hcheck : checkWaitArguments (some (handle ws)) a = .ok (handle ws) :=
      checkWaitArguments_ok.mpr ⟨rfl, rfl, ha⟩
    obtain ⟨hws, hok⟩ := mapArrays_eq mw ha ws
    right
    unfold rmwWait
    rw [hcheck]
    cases hmap : mapArrays mw a ws with
    | mk ws' r =>
      rw [hmap] at hws hok
      simp only [handle, uncheckedCast, hmap]
      cases r with
      | error f =>
        have hf : f.error = .error := mapArrays_error (by rw [hmap])
        have hne : (mapAll mw ws a.entries).2 ≠ none := fun hn ↦ by simpa using hok.mpr hn
        refine Or.inl ⟨ha, hne, f.chain, ?_⟩
        rw [← hws, ← hf]
      | ok u => exact Or.inr ⟨ha, hok.mp rfl, by rw [← hws]⟩
  · left
    refine ⟨ha, ?_⟩
    have hnull : checkWaitArguments (some (handle ws)) a =
        .error ⟨.invalidArgument, ["waitset input guard condition contains nullptr"]⟩ ∨
      checkWaitArguments (some (handle ws)) a =
        .error ⟨.invalidArgument, ["waitset input subscriber contains nullptr"]⟩ := by
      simp only [WaitArrays.Valid, not_and, Bool.not_eq_false] at ha
      cases hg : containsNull a.guardConditions with
      | true => simp [checkWaitArguments, ensureNotNull, ensureImplementation, handle, hg]
      | false => simp [checkWaitArguments, ensureNotNull, ensureImplementation, handle, hg, ha hg]
    unfold rmwWait
    rcases hnull with hc | hc <;> rw [hc] <;> exact ⟨_, rfl⟩

theorem entries_inj {e e' : Entry} (he : e ∈ a.entries) (he' : e' ∈ a.entries)
    (hty : e.waitableType = e'.waitableType) (hi : e.rmwIndex = e'.rmwIndex) : e = e' := by
  have hone : ∀ {E : Type} [HasServiceName E] {ty : WaitableEntity} {es : List (Option E)},
      e ∈ arrayEntries ty 0 es → e' ∈ arrayEntries ty 0 es → e = e' := by
    intro E _ ty es hm hm'
    obtain ⟨-, i, x, hx, hxi, hxn⟩ := mem_arrayEntries.mp hm
    obtain ⟨-, i', x', hx', hxi', hxn'⟩ := mem_arrayEntries.mp hm'
    have hsame : i = i' := by
      rw [hxi, hxi', Nat.zero_add, Nat.zero_add] at hi
      exact hi
    subst hsame
    rw [hx, Option.some_inj, Option.some_inj] at hx'
    cases e
    cases e'
    simp_all
  unfold WaitArrays.entries at he he'
  rcases List.mem_append.mp he with hg | hs <;> rcases List.mem_append.mp he' with hg' | hs'
  · exact hone hg hg'
  · rw [(mem_arrayEntries.mp hg).1, (mem_arrayEntries.mp hs').1] at hty
    cases hty
  · rw [(mem_arrayEntries.mp hs).1, (mem_arrayEntries.mp hg').1] at hty
    cases hty
  · exact hone hs hs'

omit [HasServiceName S] [HasServiceName G] in
theorem arrayEntries_sorted {E : Type} [HasServiceName E] (ty : WaitableEntity) (start : RmwIndex)
    (es : List (Option E)) :
    (arrayEntries ty start es).Pairwise (·.rmwIndex < ·.rmwIndex) := by
  induction es generalizing start with
  | nil => exact List.Pairwise.nil
  | cons o es ih =>
    cases o with
    | none => exact ih (start + 1)
    | some x =>
      refine List.Pairwise.cons (fun e he ↦ ?_) (ih (start + 1))
      obtain ⟨-, i, -, -, hi, -⟩ := mem_arrayEntries.mp he
      exact hi ▸ Nat.lt_of_lt_of_le (Nat.lt_succ_self start) (Nat.le_add_right _ i)

omit [HasServiceName S] [HasServiceName G] in
/-- An array is split at an element that no earlier one shares its service with. -/
theorem arrayEntries_split {E : Type} [HasServiceName E] (ty : WaitableEntity)
    {es : List (Option E)} {i : RmwIndex} {x : E} (hi : es[i]? = some (some x))
    (hfirst : ∀ j < i, ∀ x', es[j]? = some (some x') → serviceName x' ≠ serviceName x) :
    ∃ l₁ l₂, arrayEntries ty 0 es = l₁ ++ ⟨ty, i, serviceName x⟩ :: l₂ ∧
      ∀ b ∈ l₁, b.key ≠ (ty, serviceName x) := by
  have he : (⟨ty, i, serviceName x⟩ : Entry) ∈ arrayEntries ty 0 es :=
    mem_arrayEntries.mpr ⟨rfl, i, x, hi, (Nat.zero_add i).symm, rfl⟩
  obtain ⟨l₁, l₂, hl⟩ := List.append_of_mem he
  refine ⟨l₁, l₂, hl, fun b hb hkey ↦ ?_⟩
  rw [Entry.key, Prod.mk.injEq] at hkey
  have hlt : b.rmwIndex < i := by
    have hsorted := arrayEntries_sorted ty 0 es
    rw [hl, List.pairwise_append] at hsorted
    exact hsorted.2.2 b hb _ List.mem_cons_self
  have hb' : b ∈ arrayEntries ty 0 es := by
    rw [hl]
    exact List.mem_append_left _ hb
  obtain ⟨-, j, x', hj, hbj, hname⟩ := mem_arrayEntries.mp hb'
  rw [Nat.zero_add] at hbj
  exact hfirst j (hbj ▸ hlt) x' hj (hname.symm.trans hkey.2)

theorem subscription_mem_firsts {i : RmwIndex} {s : S}
    (hi : (a.subscriptions.getD [])[i]? = some (some s))
    (hfirst : ∀ j < i, ∀ s', (a.subscriptions.getD [])[j]? = some (some s') →
      serviceName s' ≠ serviceName s) :
    ⟨.subscriber, i, serviceName s⟩ ∈ firsts Entry.key a.entries := by
  obtain ⟨l₁, l₂, hl, hkeys⟩ := arrayEntries_split .subscriber hi hfirst
  refine mem_firsts_iff.mpr ⟨arrayEntries .guardCondition 0 (a.guardConditions.getD []) ++ l₁, l₂,
    by rw [WaitArrays.entries, hl, List.append_assoc], fun b hb hkey ↦ ?_⟩
  rcases List.mem_append.mp hb with hb | hb
  · rw [Entry.key, Entry.key, Prod.mk.injEq, (mem_arrayEntries.mp hb).1] at hkey
    cases hkey.1
  · exact hkeys b hb hkey

theorem guardCondition_mem_firsts {i : RmwIndex} {g : G}
    (hi : (a.guardConditions.getD [])[i]? = some (some g))
    (hfirst : ∀ j < i, ∀ g', (a.guardConditions.getD [])[j]? = some (some g') →
      serviceName g' ≠ serviceName g) :
    ⟨.guardCondition, i, serviceName g⟩ ∈ firsts Entry.key a.entries := by
  obtain ⟨l₁, l₂, hl, hkeys⟩ := arrayEntries_split .guardCondition hi hfirst
  exact mem_firsts_iff.mpr ⟨l₁, l₂ ++ arrayEntries .subscriber 0 (a.subscriptions.getD []),
    by rw [WaitArrays.entries, hl, List.append_assoc, List.cons_append], hkeys⟩

omit [HasServiceName S] [HasServiceName G] in
theorem mem_triggeredIndices {triggers : List TriggeredWaitable} {ty : WaitableEntity}
    {i : RmwIndex} : i ∈ triggeredIndices ty triggers ↔ ⟨ty, i⟩ ∈ triggers := by
  simp only [triggeredIndices, List.mem_map, List.mem_filter, decide_eq_true_eq]
  constructor
  · intro h
    obtain ⟨t, ⟨ht, rfl⟩, rfl⟩ := h
    exact ht
  · intro h
    exact ⟨_, ⟨h, rfl⟩, rfl⟩

omit [HasServiceName S] [HasServiceName G] in
theorem getElem?_reset {E : Type} {triggered : List RmwIndex} {es : Option (List (Option E))}
    {i : ℕ} {x : E} : ((es.map (resetUntriggered triggered)).getD [])[i]? = some (some x) ↔
      (es.getD [])[i]? = some (some x) ∧ i ∈ triggered := by
  cases es with
  | none => simp
  | some l =>
    simp only [Option.map_some, Option.getD_some, resetUntriggered, List.getElem?_mapIdx]
    cases l[i]? with
    | none => simp
    | some o => by_cases hi : i ∈ triggered <;> simp [hi]

omit [HasServiceName S] [HasServiceName G] in
theorem mem_arrayEntries_reset {E : Type} [HasServiceName E] {ty : WaitableEntity}
    {triggered : List RmwIndex} {es : Option (List (Option E))} {e : Entry} :
    e ∈ arrayEntries ty 0 ((es.map (resetUntriggered triggered)).getD []) ↔
      e ∈ arrayEntries ty 0 (es.getD []) ∧ e.rmwIndex ∈ triggered := by
  simp only [mem_arrayEntries, getElem?_reset, Nat.zero_add]
  constructor
  · intro h
    obtain ⟨hty, i, x, ⟨hx, hi⟩, rfl, hn⟩ := h
    exact ⟨⟨hty, _, x, hx, rfl, hn⟩, hi⟩
  · intro h
    obtain ⟨⟨hty, i, x, hx, rfl, hn⟩, hi⟩ := h
    exact ⟨hty, _, x, ⟨hx, hi⟩, rfl, hn⟩

theorem mem_entries_resetArrays {triggers : List TriggeredWaitable} (hne : triggers ≠ [])
    {e : Entry} : e ∈ (resetArrays triggers a).entries ↔
      e ∈ a.entries ∧ ⟨e.waitableType, e.rmwIndex⟩ ∈ triggers := by
  have hemp : triggers.isEmpty = false := by simpa using hne
  unfold WaitArrays.entries resetArrays
  simp only [hemp, Bool.false_eq_true, ↓reduceIte, List.mem_append, mem_arrayEntries_reset,
    mem_triggeredIndices, or_and_right]
  refine or_congr ?_ ?_ <;> refine and_congr_right (fun he ↦ ?_) <;>
    rw [(mem_arrayEntries.mp he).1]

omit [HasServiceName S] [HasServiceName G] in
/-- What the second part of a staged call does when its wait succeeds: `r` lists the triggers
with the descriptors they were drained from. -/
theorem waitArrays_spec (h : RmwWaitSet) (a : WaitArrays S G) {es : List Entry} (hs : Staged ws es)
    (hd : DistinctDescriptors ws) {triggers : List TriggeredWaitable}
    (hres : (ws.wait mw timeout).result = .ok triggers) :
    ∃ r : List (TriggeredWaitable × FileDescriptor),
      (∀ t fd, (t, fd) ∈ r ↔ ∃ e ∈ firsts Entry.key es, t = ⟨e.waitableType, e.rmwIndex⟩ ∧
        descriptorOf mw ws e.waitableType e.serviceName = some fd ∧ Consumed mw ws timeout e) ∧
      waitArrays mw h a ws timeout =
        ⟨if (r.map Prod.fst).isEmpty then .timeout else .ok, [],
          some { h with data := some (ws.drainAll (r.map Prod.snd)).unmapAll },
          resetArrays (r.map Prod.fst) a, r.map Prod.snd⟩ := by
  obtain ⟨attached, hmap, hatt, r, hr, rfl, hdrain, hws⟩ := wait_ok hd hres
  refine ⟨r, fun t fd ↦ hr ▸ hs.mem_reported hd hmap hatt, ?_⟩
  simp only [waitArrays, hres, hdrain, hws]

omit [HasServiceName S] [HasServiceName G] in
theorem waitArrays_returns {h : RmwWaitSet} :
    ((waitArrays mw h a ws timeout).ret = .ok ∨ (waitArrays mw h a ws timeout).ret = .timeout) ↔
      ∃ triggers, (ws.wait mw timeout).result = .ok triggers := by
  cases hres : (ws.wait mw timeout).result with
  | error f => simp [waitArrays, hres]
  | ok triggers => cases hnone : triggers.isEmpty <;> simp [waitArrays, hres, hnone]

/-- The wait of a staged call leaves an entry in place exactly when it is the first of its
service and the service's events are consumed. -/
theorem mem_entries_waitArrays {h : RmwWaitSet} (hs : Staged ws a.entries)
    (hd : DistinctDescriptors ws) (hret : (waitArrays mw h a ws timeout).ret = .ok) {e : Entry} :
    e ∈ (waitArrays mw h a ws timeout).arrays.entries ↔
      e ∈ firsts Entry.key a.entries ∧ Consumed mw ws timeout e := by
  obtain ⟨triggers, hres⟩ := waitArrays_returns.mp (Or.inl hret)
  obtain ⟨r, hr, hout⟩ := waitArrays_spec h a hs hd hres
  have hne : r.map Prod.fst ≠ [] := by
    intro hnil
    rw [hout, hnil] at hret
    cases hret
  rw [hout, mem_entries_resetArrays hne]
  constructor
  · intro hmem
    obtain ⟨he, ht⟩ := hmem
    obtain ⟨⟨t, fd⟩, htfd, rfl⟩ := List.mem_map.mp ht
    obtain ⟨e', he', ht', -, hc⟩ := (hr _ _).mp htfd
    cases entries_inj he (firsts_subset _ he') (congrArg (·.waitableType) ht')
      (congrArg (·.rmwIndex) ht')
    exact ⟨he', hc⟩
  · intro hmem
    obtain ⟨he, hc⟩ := hmem
    obtain ⟨fd, hdesc, -⟩ := id hc
    exact ⟨firsts_subset _ he, List.mem_map.mpr ⟨(_, fd), (hr _ _).mpr ⟨e, he, rfl, hdesc, hc⟩,
      rfl⟩⟩

omit [HasServiceName S] [HasServiceName G] in
def ListenerDrained (out : WaitOutcome S G) (e : Entry) : Prop :=
  ∃ h ws d, out.waitSet = some h ∧ h.data = some ws ∧ d ∈ ws.listenerStorage e.waitableType ∧
    d.serviceName = e.serviceName ∧ d.listener.fileDescriptor ∈ out.drained

omit [HasServiceName S] [HasServiceName G] in
theorem listenerDrained_iff {h : RmwWaitSet} {es : List Entry} (hs : Staged ws es)
    (hd : DistinctDescriptors ws) (hret : (waitArrays mw h a ws timeout).ret = .ok) {e : Entry}
    (he : e ∈ es) :
    ListenerDrained (waitArrays mw h a ws timeout) e ↔ Consumed mw ws timeout e := by
  obtain ⟨triggers, hres⟩ := waitArrays_returns.mp (Or.inl hret)
  obtain ⟨r, hr, hout⟩ := waitArrays_spec h a hs hd hres
  have hstored : ∀ d, d ∈ (ws.drainAll (r.map Prod.snd)).unmapAll.listenerStorage e.waitableType ↔
      ∃ k d', ws.getStoredListener e.waitableType k = some d' ∧
        drainedBy (r.map Prod.snd) d' = d := by
    intro d
    have hstorage : (ws.drainAll (r.map Prod.snd)).unmapAll.listenerStorage e.waitableType =
        (ws.listenerStorage e.waitableType).map (drainedBy (r.map Prod.snd)) := by
      cases e.waitableType <;> rfl
    rw [hstorage, List.mem_map]
    constructor
    · intro hm
      obtain ⟨d', hd', rfl⟩ := hm
      obtain ⟨k, hk⟩ := List.mem_iff_getElem?.mp hd'
      exact ⟨k, d', hk, rfl⟩
    · intro hm
      obtain ⟨k, d', hk, rfl⟩ := hm
      exact ⟨d', mem_of_getStoredListener hk, rfl⟩
  rw [hout]
  constructor
  · intro hdr
    obtain ⟨h', ws', d, hh, hws', hmem, hname, hfd⟩ := hdr
    cases hh
    cases hws'
    obtain ⟨k, d', hk, rfl⟩ := (hstored d).mp hmem
    rw [drainedBy_serviceName] at hname
    rw [drainedBy_fileDescriptor] at hfd
    obtain ⟨⟨t, fd⟩, htfd, hfd'⟩ := List.mem_map.mp hfd
    obtain ⟨e', he', -, hdesc, hc⟩ := (hr _ _).mp htfd
    obtain ⟨d'', hd'', hname'', hdesc''⟩ := getStoredListener_resolve mw
      (hs.found e' (firsts_subset _ he'))
    rw [hdesc, Option.some_inj] at hdesc''
    -- the drained descriptor belongs to one stored listener only
    obtain ⟨hty, hidx⟩ := hd hk hd'' (hfd'.symm.trans hdesc'')
    have hkey : e.key = e'.key := by
      rw [hty, hidx, hd'', Option.some_inj] at hk
      exact Prod.ext hty (by rw [Entry.key, Entry.key, ← hname, ← hname'', hk])
    exact (consumed_congr hkey).mpr hc
  · intro hc
    obtain ⟨e', he', hkey⟩ := exists_firsts Entry.key he
    obtain ⟨d, hd', hname, hdesc⟩ := getStoredListener_resolve mw (hs.found e he)
    have hin : d.listener.fileDescriptor ∈ r.map Prod.snd := by
      refine List.mem_map.mpr ⟨(_, d.listener.fileDescriptor), (hr _ _).mpr ⟨e', he', rfl, ?_,
        (consumed_congr hkey).mpr hc⟩, rfl⟩
      rw [Entry.key, Entry.key, Prod.mk.injEq] at hkey
      rw [hkey.1, hkey.2]
      exact hdesc
    exact ⟨_, _, _, rfl, rfl, (hstored _).mpr ⟨_, d, hd', rfl⟩,
      by rw [drainedBy_serviceName, hname], by rw [drainedBy_fileDescriptor]; exact hin⟩

/-- After a successful call every entry whose listener was drained is still in its array exactly
when no two entries share a service whose events the call consumes. -/
theorem drained_entries_left_iff (hws : ws.mapping = []) (hd : DistinctDescriptors ws)
    (hf : Fresh mw ws) {waitTimeout : Option RmwTime}
    (hret : (rmwWait mw (some (handle ws)) a waitTimeout).ret = .ok) :
    (∀ e ∈ a.entries, ListenerDrained (rmwWait mw (some (handle ws)) a waitTimeout) e →
        e ∈ (rmwWait mw (some (handle ws)) a waitTimeout).arrays.entries) ↔
      ∀ e ∈ a.entries, ∀ e' ∈ a.entries, e.key = e'.key → e ≠ e' →
        ¬ Consumed mw ws (timeoutOf waitTimeout) e := by
  rcases rmwWait_cases mw ws a waitTimeout with ⟨-, chain, hout⟩ | ⟨-, -, chain, hout⟩ |
    ⟨hvalid, hmap, hout⟩
  · rw [hout] at hret
    cases hret
  · rw [hout] at hret
    cases hret
  · rw [hout] at hret ⊢
    have hs : Staged (mapAll mw ws a.entries).1 a.entries := mapAll_stages hws (Prod.ext rfl hmap)
    have hd' := (mapAll_distinct a.entries hd hf).1
    have hleft : ∀ e ∈ a.entries,
        (ListenerDrained (waitArrays mw (handle ws) a (mapAll mw ws a.entries).1
            (timeoutOf waitTimeout)) e →
          e ∈ (waitArrays mw (handle ws) a (mapAll mw ws a.entries).1
            (timeoutOf waitTimeout)).arrays.entries) ↔
        (Consumed mw ws (timeoutOf waitTimeout) e → e ∈ firsts Entry.key a.entries) := by
      intro e he
      rw [listenerDrained_iff hs hd' hret he, mem_entries_waitArrays hs hd' hret, consumed_mapAll]
      exact ⟨fun h hc ↦ (h hc).1, fun h hc ↦ ⟨h hc, hc⟩⟩
    constructor
    · intro h e he e' he' hkey hne hc
      have hfirst := (hleft e he).mp (h e he) hc
      have hfirst' := (hleft e' he').mp (h e' he') ((consumed_congr hkey).mp hc)
      exact hne (List.inj_on_of_nodup_map (firsts_keys_nodup _) hfirst hfirst' hkey)
    · intro h e he
      refine (hleft e he).mpr (fun hc ↦ ?_)
      obtain ⟨e', he', hkey⟩ := exists_firsts Entry.key he
      by_cases hsame : e' = e
      · exact hsame ▸ he'
      · exact absurd hc (h e he e' (firsts_subset _ he') hkey.symm (Ne.symm hsame))

def twoOnOneTopic : WaitArrays String String where
  subscriptions := some [some "ros2://topics/chatter", some "ros2://topics/chatter"]
  guardConditions := none
  services := none
  clients := none
  events := none

def chatterReady : Middleware :=
  .offering [((.subscriber, "ros2://topics/chatter"), 7)] [.notification 7]

theorem second_on_topic_lost :
    (rmwWait chatterReady (some (handle .empty)) twoOnOneTopic none).ret = .ok ∧
    ∃ e ∈ twoOnOneTopic.entries,
      ListenerDrained (rmwWait chatterReady (some (handle .empty)) twoOnOneTopic none) e ∧
      e ∉ (rmwWait chatterReady (some (handle .empty)) twoOnOneTopic none).arrays.entries := by
  refine ⟨by decide, ⟨.subscriber, 1, "ros2://topics/chatter"⟩, by decide, ?_, by decide⟩
  exact ⟨_, _, ⟨"ros2://topics/chatter", ⟨7, false⟩⟩, rfl, rfl, by decide, rfl, by decide⟩

theorem drained_entries_left_iff_two :
    (∀ e ∈ twoOnOneTopic.entries,
      ListenerDrained (rmwWait chatterReady (some (handle .empty)) twoOnOneTopic none) e →
        e ∈ (rmwWait chatterReady (some (handle .empty)) twoOnOneTopic none).arrays.entries) ↔
    ∀ e ∈ twoOnOneTopic.entries, ∀ e' ∈ twoOnOneTopic.entries, e.key = e'.key → e ≠ e' →
      ¬ Consumed chatterReady .empty (timeoutOf none) e :=
  drained_entries_left_iff rfl distinctDescriptors_empty (fresh_offering_one _ _ _) (by decide)

end RmwIceoryx2.Rmw
