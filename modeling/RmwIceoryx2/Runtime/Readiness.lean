import RmwIceoryx2.Runtime.Delivery

namespace RmwIceoryx2.Runtime.WaitSet

open Common Library.FirstOccurrence

variable {mw : Middleware} {ws ws' : WaitSet} {ty ty' : WaitableEntity} {name name' : String}
  {timeout : Option Duration}

def notifiedOn (ty : WaitableEntity) (name : String) (ty' : WaitableEntity)
    (d : ListenerDetails) : ListenerDetails :=
  if ty' = ty ∧ d.serviceName = name then { d with listener := { d.listener with pending := true } }
  else d

/-- A notification on a service reaches the listeners that exist at that moment. -/
def notify (ws : WaitSet) (ty : WaitableEntity) (name : String) : WaitSet :=
  ws.mapListeners (notifiedOn ty name)

/-- The listener of a service holds events that were not drained yet. -/
def Ready (ws : WaitSet) (ty : WaitableEntity) (name : String) : Prop :=
  ∃ k d, ws.findListener ty name = some k ∧ ws.getStoredListener ty k = some d ∧
    d.listener.pending = true

theorem keepsIdentity_notifiedOn : KeepsIdentity (notifiedOn ty name) := by
  constructor <;> intro ty' d <;> unfold notifiedOn <;> split <;> rfl

theorem ready_notify : (ws.notify ty name).Ready ty' name' ↔
    (ty' = ty ∧ name' = name ∧ (ws.findListener ty' name').isSome) ∨ ws.Ready ty' name' := by
  unfold notify Ready
  simp only [keepsIdentity_notifiedOn.findListener, getStoredListener_mapListeners,
    Option.map_eq_some_iff]
  constructor
  · intro h
    obtain ⟨k, _, hk, ⟨d, hd, rfl⟩, hp⟩ := h
    obtain ⟨d', hd', hname⟩ := findListener_some hk
    obtain rfl : d' = d := Option.some_inj.mp (hd'.symm.trans hd)
    by_cases hsame : ty' = ty ∧ d'.serviceName = name
    · exact Or.inl ⟨hsame.1, hname.symm.trans hsame.2, by simp [hk]⟩
    · rw [notifiedOn, if_neg hsame] at hp
      exact Or.inr ⟨k, d', hk, hd, hp⟩
  · intro h
    rcases h with ⟨rfl, rfl, hsome⟩ | ⟨k, d, hk, hd, hp⟩
    · obtain ⟨k, hk⟩ := Option.isSome_iff_exists.mp hsome
      obtain ⟨d, hd, hname⟩ := findListener_some hk
      exact ⟨k, _, hk, ⟨d, hd, rfl⟩, by simp [notifiedOn, hname]⟩
    · refine ⟨k, _, hk, ⟨d, hd, rfl⟩, ?_⟩
      unfold notifiedOn
      split
      · rfl
      · exact hp

theorem ready_mapStoredListener {k : StorageIndex} {i : RmwIndex} :
    (ws.mapStoredListener ty k i).Ready ty' name' ↔ ws.Ready ty' name' := by
  simp only [Ready, WaitSet.findListener, getStoredListener, listenerStorage_mapStoredListener]

theorem ready_getStorageIndex {k : StorageIndex}
    (h : ws.getStorageIndex mw ty name = .ok (ws', k)) :
    ws'.Ready ty' name' ↔ ws.Ready ty' name' := by
  have hgrow := getStorageIndex_grows h
  constructor
  · intro hr
    obtain ⟨k', d, hk', hd, hp⟩ := hr
    rcases getStorageIndex_cases h with ⟨-, rfl⟩ | ⟨-, -, fd, -, rfl, -⟩
    · exact ⟨k', d, hk', hd, hp⟩
    · rcases getStoredListener_append hd with hold | ⟨-, -, rfl⟩
      · obtain ⟨d', hd', hname⟩ := findListener_some hk'
        obtain rfl : d' = d := Option.some_inj.mp (hd'.symm.trans hd)
        have hsome : (ws.findListener ty' name') ≠ none := by
          intro hnone
          exact findListener_none.mp hnone d' (mem_of_getStoredListener hold) hname
        obtain ⟨k'', hk''⟩ := Option.ne_none_iff_exists'.mp hsome
        have hsame := hgrow.findListener hk''
        rw [hk', Option.some_inj] at hsame
        exact ⟨k', d', hsame ▸ hk'', hold, hp⟩
      · cases hp
  · intro hr
    obtain ⟨k', d, hk', hd, hp⟩ := hr
    exact ⟨k', d, hgrow.findListener hk', hgrow.getStoredListener hd, hp⟩

theorem ready_mapAll {es : List Entry} :
    (mapAll mw ws es).1.Ready ty name ↔ ws.Ready ty name := by
  induction es generalizing ws with
  | nil => rfl
  | cons e es ih =>
    unfold mapAll
    split
    · rfl
    · rename_i ws₁ hmap
      obtain ⟨ws₂, k, hget, rfl⟩ := map_cases hmap
      rw [ih, ready_mapStoredListener, ready_getStorageIndex hget]

theorem Staged.mapListeners {f : WaitableEntity → ListenerDetails → ListenerDetails}
    (hf : KeepsIdentity f) {es : List Entry} (hs : Staged ws es) :
    Staged (ws.mapListeners f) es := by
  have hresolve : ∀ e, resolve (ws.mapListeners f) e = resolve ws e := by
    intro e
    simp only [resolve, hf.findListener]
  refine ⟨?_, fun e he ↦ ?_⟩
  · rw [mapping_mapListeners, hs.mapping]
    exact List.map_congr_left (fun e _ ↦ (hresolve e).symm)
  · rw [hf.findListener]
    exact hs.found e he

/-- The ids handed over before the timeout are those of the staged listeners that hold events. -/
def HandsOverReady (mw : Middleware) (ws : WaitSet) (timeout : Option Duration) : Prop :=
  ∀ m ∈ ws.mapping, ∀ d, ws.getStoredListener m.waitableType m.storageIndex = some d →
    (d.listener.pending = true ↔ .notification d.listener.fileDescriptor ∈ handed mw timeout)

/-- A wait that hands over what is ready consumes the events of exactly the ready entries. -/
theorem Staged.consumed_iff_ready {es : List Entry} (hs : Staged ws es)
    (hdrain : ∀ fd, mw.tryWaitAll fd = .ok ()) (hready : HandsOverReady mw ws timeout) {e : Entry}
    (he : e ∈ es) : Consumed mw ws timeout e ↔ ws.Ready e.waitableType e.serviceName := by
  obtain ⟨e', he', hkey⟩ := exists_firsts Entry.key he
  rw [consumed_congr hkey.symm]
  rw [Entry.key, Entry.key, Prod.mk.injEq] at hkey
  rw [← hkey.1, ← hkey.2]
  have hm : resolve ws e' ∈ ws.mapping := hs.mapping ▸ List.mem_map_of_mem he'
  have hsome := hs.found e' (firsts_subset _ he')
  obtain ⟨d, hd, -, hdesc⟩ := getStoredListener_resolve mw hsome
  obtain ⟨k, hk⟩ := Option.isSome_iff_exists.mp hsome
  have hstored : ws.getStoredListener e'.waitableType k = some d := by
    simpa only [resolve, hk, Option.getD_some] using hd
  constructor
  · intro hc
    obtain ⟨fd, hfd, hin, -⟩ := hc
    rw [hdesc, Option.some_inj] at hfd
    exact ⟨k, d, hk, hstored, (hready _ hm d hd).mpr (hfd ▸ hin)⟩
  · intro hr
    obtain ⟨k', d', hk', hd', hp⟩ := hr
    rw [hk, Option.some_inj] at hk'
    rw [← hk', hstored, Option.some_inj] at hd'
    exact ⟨_, hdesc, (hready _ hm d hd).mp (hd' ▸ hp), hdrain _⟩

theorem Staged.ready_drainAll {es : List Entry} (hs : Staged ws es) (hd : DistinctDescriptors ws)
    (hdrain : ∀ fd, mw.tryWaitAll fd = .ok ()) (hready : HandsOverReady mw ws timeout)
    {fds : List FileDescriptor}
    (hfds : ∀ fd, fd ∈ fds ↔ ∃ e ∈ firsts Entry.key es,
      descriptorOf mw ws e.waitableType e.serviceName = some fd ∧ Consumed mw ws timeout e) :
    (ws.drainAll fds).Ready ty name ↔
      ws.Ready ty name ∧ ¬ ∃ e ∈ es, e.key = (ty, name) := by
  have hlookup : (ws.drainAll fds).Ready ty name ↔ ∃ k d, ws.findListener ty name = some k ∧
      ws.getStoredListener ty k = some d ∧ d.listener.pending = true ∧
        d.listener.fileDescriptor ∉ fds := by
    unfold WaitSet.drainAll Ready
    simp only [(keepsIdentity_drainedBy fds).findListener, getStoredListener_mapListeners,
      Option.map_eq_some_iff]
    constructor
    · intro h
      obtain ⟨k, _, hk, ⟨d, hd, rfl⟩, hp⟩ := h
      exact ⟨k, d, hk, hd, (drainedBy_pending fds d).mp hp⟩
    · intro h
      obtain ⟨k, d, hk, hd, hp⟩ := h
      exact ⟨k, _, hk, ⟨d, hd, rfl⟩, (drainedBy_pending fds d).mpr hp⟩
  have hone : ∀ k d, ws.findListener ty name = some k → ws.getStoredListener ty k = some d →
      d.listener.pending = true →
        (d.listener.fileDescriptor ∈ fds ↔ ∃ e ∈ es, e.key = (ty, name)) := by
    intro k d hk hstored hp
    obtain ⟨d₀, hd₀, hname⟩ := findListener_some hk
    obtain rfl : d₀ = d := Option.some_inj.mp (hd₀.symm.trans hstored)
    rw [hfds]
    constructor
    · intro h
      obtain ⟨e, he, hdesc, -⟩ := h
      obtain ⟨d', hd', hname', hdesc'⟩ :=
        getStoredListener_resolve mw (hs.found e (firsts_subset _ he))
      rw [hdesc, Option.some_inj] at hdesc'
      obtain ⟨hty, hidx⟩ := hd hstored hd' hdesc'
      rw [hty, hidx, hd', Option.some_inj] at hstored
      exact ⟨e, firsts_subset _ he, Prod.ext hty.symm (by rw [Entry.key, ← hname', hstored, hname])⟩
    · intro h
      obtain ⟨e, he, hkey⟩ := h
      obtain ⟨e', he', hkey'⟩ := exists_firsts Entry.key he
      have hsame := hkey'.trans hkey
      rw [Entry.key, Prod.mk.injEq] at hsame
      refine ⟨e', he', by simp only [descriptorOf, hsame, hk, hstored, Option.map_some], ?_⟩
      rw [hs.consumed_iff_ready hdrain hready (firsts_subset _ he'), hsame.1, hsame.2]
      exact ⟨k, d₀, hk, hstored, hp⟩
  rw [hlookup]
  constructor
  · intro h
    obtain ⟨k, d, hk, hstored, hp, hnot⟩ := h
    exact ⟨⟨k, d, hk, hstored, hp⟩, fun hl ↦ hnot ((hone k d hk hstored hp).mpr hl)⟩
  · intro h
    obtain ⟨⟨k, d, hk, hstored, hp⟩, hnot⟩ := h
    exact ⟨k, d, hk, hstored, hp, fun hin ↦ hnot ((hone k d hk hstored hp).mp hin)⟩

end RmwIceoryx2.Runtime.WaitSet
