import RmwIceoryx2.Runtime.Waiting

namespace RmwIceoryx2.Runtime.WaitSet

open Common Library.FirstOccurrence

variable {mw : Middleware} {ws ws' : WaitSet} {ty ty' : WaitableEntity} {name name' : String}
  {timeout : Option Duration}

/-- The descriptor a service is waited on by: that of its listener, or of the listener the
middleware would create for it. -/
def descriptorOf (mw : Middleware) (ws : WaitSet) (ty : WaitableEntity) (name : String) :
    Option FileDescriptor :=
  match ws.findListener ty name with
  | some k => (ws.getStoredListener ty k).map (·.listener.fileDescriptor)
  | none => (mw.createListener ty name).toOption

/-- The events of a service are consumed by a wait: its descriptor is handed over before the
timeout and its listener drains. -/
def Consumed (mw : Middleware) (ws : WaitSet) (timeout : Option Duration) (e : Entry) : Prop :=
  ∃ fd, descriptorOf mw ws e.waitableType e.serviceName = some fd ∧
    .notification fd ∈ handed mw timeout ∧ mw.tryWaitAll fd = .ok ()

theorem descriptorOf_mapStoredListener (k : StorageIndex) (i : RmwIndex) :
    descriptorOf mw (ws.mapStoredListener ty k i) ty' name' = descriptorOf mw ws ty' name' := by
  simp only [descriptorOf, WaitSet.findListener, getStoredListener,
    listenerStorage_mapStoredListener]

theorem descriptorOf_getStorageIndex {k : StorageIndex}
    (h : ws.getStorageIndex mw ty name = .ok (ws', k)) :
    descriptorOf mw ws' ty' name' = descriptorOf mw ws ty' name' := by
  have hgrow := getStorageIndex_grows h
  have hfound := getStorageIndex_found h
  rcases getStorageIndex_cases h with ⟨-, rfl⟩ | ⟨hnone, -, fd, hfd, rfl, rfl⟩
  · rfl
  · cases hold : ws.findListener ty' name' with
    | some k' =>
      obtain ⟨d, hd, -⟩ := findListener_some hold
      simp only [descriptorOf, hold, hgrow.findListener hold, hd, hgrow.getStoredListener hd]
    | none =>
      by_cases hsame : ty' = ty ∧ name' = name
      · obtain ⟨rfl, rfl⟩ := hsame
        simp only [descriptorOf, hfound, hnone, hfd, getStoredListener,
          listenerStorage_setStorage, List.getElem?_concat_length]
        rfl
      · have hstill : (ws.setStorage ty (ws.listenerStorage ty ++
            [⟨name, ⟨fd, false⟩⟩])).findListener ty' name' = none := by
          rw [findListener_none] at hold ⊢
          intro d hd
          obtain ⟨k, hk⟩ := List.mem_iff_getElem?.mp hd
          rcases getStoredListener_append hk with hd' | ⟨rfl, -, rfl⟩
          · exact hold d (mem_of_getStoredListener hd')
          · exact fun he ↦ hsame ⟨rfl, he.symm⟩
        simp only [descriptorOf, hold, hstill]

theorem descriptorOf_mapAll {es : List Entry} :
    descriptorOf mw (mapAll mw ws es).1 ty name = descriptorOf mw ws ty name := by
  induction es generalizing ws with
  | nil => rfl
  | cons e es ih =>
    unfold mapAll
    split
    · rfl
    · rename_i ws₁ hmap
      obtain ⟨ws₂, k, hget, rfl⟩ := map_cases hmap
      rw [ih, descriptorOf_mapStoredListener, descriptorOf_getStorageIndex hget]

variable (mw) in
theorem getStoredListener_resolve {e : Entry}
    (he : (ws.findListener e.waitableType e.serviceName).isSome) :
    ∃ d, ws.getStoredListener (resolve ws e).waitableType (resolve ws e).storageIndex = some d ∧
      d.serviceName = e.serviceName ∧
      descriptorOf mw ws e.waitableType e.serviceName = some d.listener.fileDescriptor := by
  obtain ⟨k, hk⟩ := Option.isSome_iff_exists.mp he
  obtain ⟨d, hd, hname⟩ := findListener_some hk
  refine ⟨d, by simpa only [resolve, hk, Option.getD_some] using hd, hname, ?_⟩
  simp only [descriptorOf, hk, hd, Option.map_some]

/-- The wait set is ready to wait on the first entry of each service. -/
structure Staged (ws : WaitSet) (es : List Entry) : Prop where
  mapping : ws.mapping = (firsts Entry.key es).map (resolve ws)
  found : ∀ e ∈ es, (ws.findListener e.waitableType e.serviceName).isSome

theorem mapAll_stages {es : List Entry} (hws : ws.mapping = [])
    (h : mapAll mw ws es = (ws', none)) : Staged ws' es :=
  ⟨mapAll_mapping hws h, (mapAll_staged h).2.1⟩

theorem Staged.append {es es' : List Entry} (hs : Staged ws es)
    (h : mapAll mw ws es' = (ws', none)) : Staged ws' (es ++ es') := by
  obtain ⟨hgrow, hall, hstaged⟩ := mapAll_staged h
  have hfound : ∀ e ∈ es ++ es', (ws'.findListener e.waitableType e.serviceName).isSome := by
    intro e he
    rcases List.mem_append.mp he with he | he
    · obtain ⟨k, hk⟩ := Option.isSome_iff_exists.mp (hs.found e he)
      rw [hgrow.findListener hk]
      rfl
    · exact hall e he
  have hfirsts : ∀ l, l ⊆ es ++ es' →
      (firsts Entry.key l).map (resolve ws') = firsts mappingKey (l.map (resolve ws')) :=
    fun l hl ↦ firsts_map (resolve ws') l
      (fun e he e' he' ↦ resolve_key_iff (hfound e (hl he)) (hfound e' (hl he')))
  refine ⟨?_, hfound⟩
  have hold : ws.mapping = (firsts Entry.key es).map (resolve ws') := by
    rw [hs.mapping]
    exact List.map_congr_left fun e he ↦
      (hgrow.resolve_eq (hs.found e (firsts_subset _ he))).symm
  rw [hstaged, hold, hfirsts es (List.subset_append_left _ _), ← firsts_append, ← List.map_append,
    hfirsts _ (List.Subset.refl _)]

theorem mapAll_prefix (mw : Middleware) (ws : WaitSet) (es : List Entry) :
    ∃ pre, pre <+: es ∧ mapAll mw ws pre = ((mapAll mw ws es).1, none) := by
  induction es generalizing ws with
  | nil => exact ⟨[], List.prefix_rfl, rfl⟩
  | cons e es ih =>
    cases hmap : ws.map mw e.waitableType e.rmwIndex e.serviceName with
    | error f => exact ⟨[], List.nil_prefix, by simp only [mapAll, hmap]⟩
    | ok ws₁ =>
      obtain ⟨pre, hpre, hall⟩ := ih ws₁
      refine ⟨e :: pre, List.cons_prefix_cons.mpr ⟨rfl, hpre⟩, ?_⟩
      simp only [mapAll, hmap]
      exact hall

theorem Staged.keys_nodup {es : List Entry} (hs : Staged ws es) :
    (ws.mapping.map mappingKey).Nodup := by
  have hstaged : (firsts Entry.key es).map (resolve ws) = firsts mappingKey (es.map (resolve ws)) :=
    firsts_map (resolve ws) es
      (fun e he e' he' ↦ resolve_key_iff (hs.found e he) (hs.found e' he'))
  rw [hs.mapping, hstaged]
  exact firsts_keys_nodup _

theorem find?_attached (hd : DistinctDescriptors ws) (hn : (ws.mapping.map mappingKey).Nodup)
    {attached : List AttachmentDetails} (hmap : attached.map (·.mapping) = ws.mapping)
    (hatt : AttachedTo ws attached) {a : AttachmentDetails} (ha : a ∈ attached) :
    attached.find? (·.id = a.id) = some a := by
  obtain ⟨b, hb⟩ := Option.isSome_iff_exists.mp
    (List.find?_isSome (p := fun b ↦ decide (b.id = a.id)) |>.mpr ⟨a, ha, by simp⟩)
  have hbmem : b ∈ attached := List.mem_of_find?_eq_some hb
  have hid : b.id = a.id := by simpa using List.find?_some hb
  obtain ⟨d, hdb, hidb⟩ := hatt b hbmem
  obtain ⟨d', hda, hida⟩ := hatt a ha
  rw [hidb, hida, AttachmentId.notification.injEq] at hid
  have hkey : mappingKey b.mapping = mappingKey a.mapping := Prod.ext_iff.mpr (hd hdb hda hid)
  have hmapping : b.mapping = a.mapping := by
    refine List.inj_on_of_nodup_map hn ?_ ?_ hkey
    · exact hmap ▸ List.mem_map_of_mem hbmem
    · exact hmap ▸ List.mem_map_of_mem ha
  rw [hb]
  congr 1
  cases a
  cases b
  simp_all

theorem consumed_congr {e e' : Entry} (h : e.key = e'.key) :
    Consumed mw ws timeout e ↔ Consumed mw ws timeout e' := by
  rw [Entry.key, Entry.key, Prod.mk.injEq] at h
  unfold Consumed
  rw [h.1, h.2]

theorem consumed_mapAll {es : List Entry} {e : Entry} :
    Consumed mw (mapAll mw ws es).1 timeout e ↔ Consumed mw ws timeout e := by
  simp only [Consumed, descriptorOf_mapAll]

/-- A staged wait set reports and drains exactly the first entries whose events are consumed. -/
theorem Staged.mem_reported {es : List Entry} (hs : Staged ws es) (hd : DistinctDescriptors ws)
    {attached : List AttachmentDetails} (hmap : attached.map (·.mapping) = ws.mapping)
    (hatt : AttachedTo ws attached) {t : TriggeredWaitable} {fd : FileDescriptor} :
    (t, fd) ∈ (handed mw timeout).filterMap (reported mw attached) ↔
      ∃ e ∈ firsts Entry.key es, t = ⟨e.waitableType, e.rmwIndex⟩ ∧
        descriptorOf mw ws e.waitableType e.serviceName = some fd ∧ Consumed mw ws timeout e := by
  rw [List.mem_filterMap]
  constructor
  · intro h
    obtain ⟨id, hid, hrep⟩ := h
    unfold reported at hrep
    split at hrep
    · rename_i a fd' hfind
      split at hrep
      · rename_i htry
        cases hrep
        have ha : a ∈ attached := List.mem_of_find?_eq_some hfind
        have haid : a.id = .notification fd := by simpa using List.find?_some hfind
        have hm : a.mapping ∈ ws.mapping := hmap ▸ List.mem_map_of_mem ha
        rw [hs.mapping] at hm
        obtain ⟨e, he, hre⟩ := List.mem_map.mp hm
        obtain ⟨d, hda, hida⟩ := hatt a ha
        obtain ⟨d', hde, -, hdesc⟩ := getStoredListener_resolve mw
          (hs.found e (firsts_subset _ he))
        rw [hre, hda, Option.some_inj] at hde
        rw [haid, AttachmentId.notification.injEq] at hida
        rw [← hde, ← hida] at hdesc
        exact ⟨e, he, by rw [← hre]; rfl, hdesc, fd, hdesc, hid, htry⟩
      · cases hrep
    · cases hrep
  · intro h
    obtain ⟨e, he, rfl, hdesc, fd', hfd', hid, htry⟩ := h
    obtain rfl : fd' = fd := Option.some_inj.mp (hfd'.symm.trans hdesc)
    refine ⟨_, hid, ?_⟩
    have hm : resolve ws e ∈ attached.map (·.mapping) := by
      rw [hmap, hs.mapping]
      exact List.mem_map_of_mem he
    obtain ⟨a, ha, hre⟩ := List.mem_map.mp hm
    obtain ⟨d, hda, hida⟩ := hatt a ha
    obtain ⟨d', hde, -, hdesc'⟩ := getStoredListener_resolve mw
      (hs.found e (firsts_subset _ he))
    rw [← hre, hda, Option.some_inj] at hde
    rw [hdesc, Option.some_inj] at hdesc'
    rw [hde, ← hdesc'] at hida
    have hfind := find?_attached hd hs.keys_nodup hmap hatt ha
    rw [hida] at hfind
    simp only [reported, hfind, htry, hre]
    rfl

theorem Staged.attach_iff {es : List Entry} (hs : Staged ws es) :
    (∀ m ∈ ws.mapping, ∃ d, ws.getStoredListener m.waitableType m.storageIndex = some d ∧
        mw.attachNotification d.listener.fileDescriptor = .ok ()) ↔
      ∀ e ∈ es, ∃ fd, descriptorOf mw ws e.waitableType e.serviceName = some fd ∧
        mw.attachNotification fd = .ok () := by
  rw [hs.mapping, List.forall_mem_map]
  constructor
  · intro h e he
    obtain ⟨e', he', hkey⟩ := exists_firsts Entry.key he
    obtain ⟨d, hd, hatt⟩ := h e' he'
    obtain ⟨d', hd', -, hdesc⟩ := getStoredListener_resolve mw (hs.found e' (firsts_subset _ he'))
    rw [hd, Option.some_inj] at hd'
    rw [Entry.key, Entry.key, Prod.mk.injEq] at hkey
    exact ⟨_, by rw [← hkey.1, ← hkey.2]; exact hdesc, hd' ▸ hatt⟩
  · intro h e he
    obtain ⟨fd, hfd, hatt⟩ := h e (firsts_subset _ he)
    obtain ⟨d, hd, -, hdesc⟩ := getStoredListener_resolve mw (hs.found e (firsts_subset _ he))
    rw [hfd, Option.some_inj] at hdesc
    exact ⟨d, hd, hdesc ▸ hatt⟩

theorem Staged.mapping_eq_nil {es : List Entry} (hs : Staged ws es) :
    ws.mapping = [] ↔ es = [] := by
  rw [hs.mapping, List.map_eq_nil_iff]
  constructor
  · intro h
    refine List.eq_nil_iff_forall_not_mem.mpr (fun e he ↦ ?_)
    obtain ⟨e', he', -⟩ := exists_firsts Entry.key he
    rw [h] at he'
    cases he'
  · intro h
    rw [h]
    rfl

/-- The entries that are staged: a service each, with the index its triggers are reported at. -/
def stagedEntries (ws : WaitSet) : List Entry :=
  ws.mapping.filterMap fun m ↦ (ws.getStoredListener m.waitableType m.storageIndex).map
    fun d ↦ ⟨m.waitableType, m.rmwIndex, d.serviceName⟩

theorem Staged.stagedEntries_eq {es : List Entry} (hs : Staged ws es) :
    stagedEntries ws = firsts Entry.key es := by
  have hall : ∀ l : List Entry, l ⊆ es → (l.map (resolve ws)).filterMap (fun m ↦
      (ws.getStoredListener m.waitableType m.storageIndex).map
        fun d ↦ (⟨m.waitableType, m.rmwIndex, d.serviceName⟩ : Entry)) = l := by
    intro l hl
    induction l with
    | nil => rfl
    | cons e l ih =>
      obtain ⟨d, hd, hname, -⟩ :=
        getStoredListener_resolve (.offering [] []) (hs.found e (hl (by simp)))
      rw [List.map_cons, List.filterMap_cons, hd, Option.map_some, hname,
        ih (List.subset_of_cons_subset hl)]
      rfl
  rw [stagedEntries, hs.mapping]
  exact hall _ (firsts_subset _)

theorem Staged.self {es : List Entry} (hs : Staged ws es) : Staged ws (stagedEntries ws) := by
  rw [hs.stagedEntries_eq]
  refine ⟨?_, fun e he ↦ hs.found e (firsts_subset _ he)⟩
  rw [firsts_of_nodup (firsts_keys_nodup es)]
  exact hs.mapping

end RmwIceoryx2.Runtime.WaitSet
