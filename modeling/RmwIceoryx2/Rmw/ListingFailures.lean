import RmwIceoryx2.Rmw.NodeNames

namespace RmwIceoryx2.Rmw

open RmwIceoryx2.Common RmwIceoryx2.Library

def grantedCopies (rc : Rcutils) : ℕ → List String → ℕ
  | _, [] => 0
  | call, s :: texts =>
    if (rc.strdup call s).isSome then grantedCopies rc (call + 1) texts + 1 else 0

/-- The texts in the order in which `fillPair` copies them. -/
def sideBySide {α : Type} (first second : α → String) (es : List α) : List String :=
  es.flatMap fun e ↦ [first e, second e]

def filledTo (k : ℕ) (texts : List String) : List (Option String) :=
  (texts.take k).map some ++ List.replicate (texts.length - k) none

/-- What filling two arrays for `n` entries returns, with its message, if `k` copies are granted. -/
def fillVerdict (firstMsg secondMsg : String) (k n : ℕ) : RmwRet × List String :=
  if k = 2 * n then (.ok, [])
  else if k % 2 = 0 then (.badAlloc, [firstMsg]) else (.badAlloc, [secondMsg])

theorem filledTo_zero (texts : List String) :
    filledTo 0 texts = List.replicate texts.length none := by
  rw [filledTo, List.take_zero, List.map_nil, List.nil_append, Nat.sub_zero]

theorem filledTo_succ (k : ℕ) (s : String) (texts : List String) :
    filledTo (k + 1) (s :: texts) = some s :: filledTo k texts := by
  rw [filledTo, filledTo, List.take_succ_cons, List.map_cons, List.cons_append, List.length_cons,
    Nat.add_sub_add_right]

theorem fillVerdict_add (firstMsg secondMsg : String) (k n : ℕ) :
    fillVerdict firstMsg secondMsg (k + 2) (n + 1) = fillVerdict firstMsg secondMsg k n := by
  have hall : k + 2 = 2 * (n + 1) ↔ k = 2 * n := by omega
  simp only [fillVerdict, hall, Nat.add_mod_right]

theorem StringArray.write_behind {arr : StringArray} {written rest : List (Option String)}
    {old : Option String} (h : arr.entries = written ++ old :: rest) (s : Option String) :
    arr.write written.length s =
      .ok { arr with data := some (written ++ s :: rest) } := by
  apply StringArray.write_eq_ok.mpr
  have hset : arr.entries.set written.length s = written ++ s :: rest := by
    rw [h, List.set_append_right _ _ (Nat.le_refl _), Nat.sub_self, List.set_cons_zero]
  refine ⟨?_, by rw [hset]⟩
  rw [h, List.length_append, List.length_cons]
  omega

section Loop

variable {α : Type} {rc : Rcutils}

structure FilledArray (arr : StringArray) (written : List (Option String)) (k : ℕ)
    (texts : List String) (arr' : StringArray) : Prop where
  size : arr'.size = arr.size
  allocator : arr'.allocator = arr.allocator
  entries : arr'.entries = written ++ filledTo k texts

/-- Wherever an allocation fails, the loop stays within the arrays and leaves in them the copies
that it was granted, in front of null pointers. -/
theorem fillPair_partial (first second : α → String) (firstMsg secondMsg : String) (indexMax : ℕ)
    (hrc : rc.Documented) {es : List α} {index : ℕ} {a b : StringArray}
    {written written' : List (Option String)}
    (ha : a.entries = written ++ List.replicate es.length none) (hindex : written.length = index)
    (hb : b.entries = written' ++ List.replicate es.length none)
    (hindex' : written'.length = index) (hmax : index + es.length ≤ indexMax) :
    let k := grantedCopies rc (2 * index) (sideBySide first second es)
    ∃ r, fillPair rc first second firstMsg secondMsg indexMax index es a b = .ok r ∧
      (r.ret, r.chain) = fillVerdict firstMsg secondMsg k es.length ∧
        FilledArray a written ((k + 1) / 2) (es.map first) r.first ∧
          FilledArray b written' (k / 2) (es.map second) r.second := by
  induction es generalizing index a b written written' with
  | nil =>
    refine ⟨_, rfl, rfl, ⟨rfl, rfl, ?_⟩, ⟨rfl, rfl, ?_⟩⟩
    · simpa [filledTo] using ha
    · simpa [filledTo] using hb
  | cons e es ih =>
    rw [List.length_cons, List.replicate_succ] at ha hb
    have hwrite : ∀ s, a.write index s = _ := hindex ▸ StringArray.write_behind ha
    have hwrite' : ∀ s, b.write index s = _ := hindex' ▸ StringArray.write_behind hb
    have htexts : sideBySide first second (e :: es) =
      first e :: second e :: sideBySide first second es := rfl
    intro k
    simp only [fillPair, hwrite, bind, Except.bind]
    cases hcopy : rc.strdup (2 * index) (first e) with
    | none =>
      have hk : k = 0 := by
        simp only [k, htexts, grantedCopies, hcopy, Option.isSome_none, Bool.false_eq_true,
          if_false]
      rw [hk]
      refine ⟨_, rfl, rfl, ⟨rfl, rfl, ?_⟩, ⟨rfl, rfl, ?_⟩⟩
      · rw [filledTo_zero, List.length_map, List.length_cons, List.replicate_succ]
        rfl
      · rw [filledTo_zero, List.length_map, List.length_cons, List.replicate_succ]
        exact hb
    | some t =>
      obtain rfl := hrc.copies _ _ _ hcopy
      simp only [hwrite', Option.isNone_some, Bool.false_eq_true, if_false]
      cases hcopy' : rc.strdup (2 * index + 1) (second e) with
      | none =>
        have hk : k = 1 := by
          simp only [k, htexts, grantedCopies, hcopy, hcopy', Option.isSome_some,
            Option.isSome_none, Bool.false_eq_true, if_true, if_false]
        rw [hk]
        refine ⟨_, rfl, ?_, ⟨rfl, rfl, ?_⟩, ⟨rfl, rfl, ?_⟩⟩
        · have hsome : 1 ≠ 2 * (es.length + 1) := by omega
          simp only [fillVerdict, List.length_cons, hsome, if_false]
          rfl
        · rw [List.map_cons, filledTo_succ, filledTo_zero, List.length_map]
          rfl
        · rw [filledTo_zero, List.length_map, List.length_cons, List.replicate_succ]
          rfl
      | some t =>
        obtain rfl := hrc.copies _ _ _ hcopy'
        have hk : k = grantedCopies rc (2 * (index + 1)) (sideBySide first second es) + 2 := by
          simp only [k, htexts, grantedCopies, hcopy, hcopy', Option.isSome_some, if_true]
          rfl
        have hless : index ≠ indexMax := by
          rw [List.length_cons] at hmax
          omega
        simp only [Option.isNone_some, Bool.false_eq_true, if_false, hless]
        obtain ⟨r, hr, hverdict, hfirst, hsecond⟩ := @ih (index + 1)
          { a with data := some (written ++ some (first e) :: List.replicate es.length none) }
          { b with data := some (written' ++ some (second e) :: List.replicate es.length none) }
          (written ++ [some (first e)]) (written' ++ [some (second e)])
          (by rw [List.append_assoc]; rfl) (by rw [List.length_append, hindex]; rfl)
          (by rw [List.append_assoc]; rfl) (by rw [List.length_append, hindex']; rfl)
          (by rw [List.length_cons] at hmax; omega)
        refine ⟨r, hr, ?_, ⟨hfirst.size, hfirst.allocator, ?_⟩,
          ⟨hsecond.size, hsecond.allocator, ?_⟩⟩
        · rw [hverdict, hk, List.length_cons, fillVerdict_add]
        · have hhalf : (k + 1) / 2 =
              (grantedCopies rc (2 * (index + 1)) (sideBySide first second es) + 1) / 2 + 1 := by
            omega
          rw [hfirst.entries, hhalf, List.map_cons, filledTo_succ, List.append_assoc]
          rfl
        · have hhalf : k / 2 =
              grantedCopies rc (2 * (index + 1)) (sideBySide first second es) / 2 + 1 := by omega
          rw [hsecond.entries, hhalf, List.map_cons, filledTo_succ, List.append_assoc]
          rfl

end Loop

section Listing

variable {rc : Rcutils} {listing : NodeListing} {rmwNode : Option RmwNode}
  {nodeNames nodeNamespaces : Option StringArray}

def foundNames (listing : NodeListing) : List NodeName :=
  (listing.nodes.foldl collectNode (.empty _)).toList

def copiesGranted (rc : Rcutils) (listing : NodeListing) : ℕ :=
  grantedCopies rc 0 (sideBySide NodeName.name NodeName.ns (foundNames listing))

def nodeNamesVerdict (rc : Rcutils) (listing : NodeListing) : RmwRet × List String :=
  fillVerdict "failed to populate node name array" "failed to populate node namespace array"
    (copiesGranted rc listing) (foundNames listing).length

/-- The call gets to copying: its arguments are checked, the nodes found and both arrays there. -/
structure Copies (rc : Rcutils) (listing : NodeListing) (rmwNode : Option RmwNode)
    (nodeNames nodeNamespaces : Option StringArray) : Prop where
  checked : ∃ names namespaces,
    checkNodeNames rmwNode nodeNames nodeNamespaces = .ok (names, namespaces) ∧
      (rc.stringArrayInit 0 names (foundNames listing).length rc.getDefaultAllocator).1 = .ok ∧
        (rc.stringArrayInit 1 namespaces (foundNames listing).length
          rc.getDefaultAllocator).1 = .ok
  listed : listing.result = .ok ()

def Holds (arr : StringArray) (k : ℕ) (texts : List String) : Prop :=
  arr.size = texts.length ∧ arr.entries = filledTo k texts

theorem fillVerdict_ok_iff {firstMsg secondMsg : String} {k n : ℕ} :
    (fillVerdict firstMsg secondMsg k n).1 = .ok ↔ k = 2 * n := by
  rw [fillVerdict]
  split
  · rename_i h
    exact iff_of_true rfl h
  · rename_i h
    split <;> exact iff_of_false (fun hok ↦ by cases hok) h

theorem listNodeNames_copies (hrc : rc.Documented) {names : List NodeName}
    (hmany : names.length < 2 ^ 31) {a b : StringArray}
    (ha : (rc.stringArrayInit 0 a names.length rc.getDefaultAllocator).1 = .ok)
    (hb : (rc.stringArrayInit 1 b names.length rc.getDefaultAllocator).1 = .ok) :
    let k := grantedCopies rc 0 (sideBySide NodeName.name NodeName.ns names)
    ∃ r first second, listNodeNames rc names a b = .ok r ∧
      (r.ret, r.chain) = fillVerdict "failed to populate node name array"
        "failed to populate node namespace array" k names.length ∧
      r.nodeNames = some first ∧ Holds first ((k + 1) / 2) (names.map NodeName.name) ∧
        r.nodeNamespaces = some second ∧ Holds second (k / 2) (names.map NodeName.ns) := by
  intro k
  have hfirst := hrc.stringArrayInit 0 a names.length rc.getDefaultAllocator ha
  have hsecond := hrc.stringArrayInit 1 b names.length rc.getDefaultAllocator hb
  cases hinit : rc.stringArrayInit 0 a names.length rc.getDefaultAllocator with
  | mk ret first =>
  cases hinit' : rc.stringArrayInit 1 b names.length rc.getDefaultAllocator with
  | mk ret' second =>
  rw [hinit] at ha hfirst
  rw [hinit'] at hb hsecond
  obtain rfl : ret = .ok := ha
  obtain rfl : ret' = .ok := hb
  have hempty : first.entries = [] ++ List.replicate names.length none := hfirst.2
  have hempty' : second.entries = [] ++ List.replicate names.length none := hsecond.2
  have hroom : 0 + names.length ≤ 2 ^ 31 - 1 := by omega
  obtain ⟨r, hr, hverdict, hheld, hheld'⟩ :=
    fillPair_partial NodeName.name NodeName.ns "failed to populate node name array"
      "failed to populate node namespace array" (2 ^ 31 - 1) hrc hempty List.length_nil hempty'
      List.length_nil hroom
  simp only [listNodeNames, hinit, hinit', hr]
  refine ⟨_, _, _, rfl, hverdict, rfl, ⟨?_, ?_⟩, rfl, ⟨?_, ?_⟩⟩
  · rw [hheld.size, hfirst.1, List.length_map]
  · exact hheld.entries
  · rw [hheld'.size, hsecond.1, List.length_map]
  · exact hheld'.entries

theorem listNodeNames_refused (hrc : rc.Documented) {names : List NodeName} {a b : StringArray}
    (h : ¬ ((rc.stringArrayInit 0 a names.length rc.getDefaultAllocator).1 = .ok ∧
      (rc.stringArrayInit 1 b names.length rc.getDefaultAllocator).1 = .ok)) :
    ∃ r, listNodeNames rc names a b = .ok r ∧ r.ret ≠ .ok := by
  simp only [listNodeNames]
  split
  · rename_i hinit
    split
    · rename_i hinit'
      exact absurd ⟨congrArg Prod.fst hinit, congrArg Prod.fst hinit'⟩ h
    · rename_i ret _ hne _
      exact ⟨_, rfl, fun hok ↦ hne (hrc.convertRet ret hok)⟩
  · rename_i ret _ hne _
    exact ⟨_, rfl, fun hok ↦ hne (hrc.convertRet ret hok)⟩

theorem checkNodeNames_ok {names namespaces : StringArray}
    (h : checkNodeNames rmwNode nodeNames nodeNamespaces = .ok (names, namespaces)) :
    ∃ node, rmwNode = some node ∧
      node.implementationIdentifier = rmwGetImplementationIdentifier := by
  simp only [checkNodeNames, bind_eq_ok, ensureNotNull_eq_ok, ensureImplementation_eq_ok] at h
  obtain ⟨node, hnode, _, himpl, -⟩ := h
  exact ⟨node, hnode, himpl⟩

theorem rmwGetNodeNames_used {node : RmwNode}
    (himpl : node.implementationIdentifier = rmwGetImplementationIdentifier) {arr : StringArray}
    (hsize : arr.size ≠ 0) (rc : Rcutils) (listing : NodeListing) (other : Option StringArray) :
    rmwGetNodeNames rc listing (some node) (some arr) other =
      .ok ⟨.invalidArgument, [], some arr, other⟩ := by
  have hcheck : checkNodeNames (some node) (some arr) other = .error ⟨.invalidArgument, []⟩ := by
    simp [checkNodeNames, ensureNotNull, ensureImplementation, himpl, ensureZeroStringArray, hsize,
      bind, Except.bind]
  simp only [rmwGetNodeNames, hcheck]

/-- Whatever fails while the nodes are listed, the call ends without touching memory that it does
not own, and succeeds exactly if nothing failed. Where only copies fail, the arrays hold those made
before, the names being at most one ahead of the namespaces, and cannot be passed again. -/
theorem node_names_partial (hrc : rc.Documented) (hmany : (foundNames listing).length < 2 ^ 31) :
    ∃ r, rmwGetNodeNames rc listing rmwNode nodeNames nodeNamespaces = .ok r ∧
      (r.ret = .ok ↔ Copies rc listing rmwNode nodeNames nodeNamespaces ∧
        copiesGranted rc listing = 2 * (foundNames listing).length) ∧
      (Copies rc listing rmwNode nodeNames nodeNamespaces → ∃ first second,
        (r.ret, r.chain) = nodeNamesVerdict rc listing ∧
        (r.nodeNames = some first ∧
          Holds first ((copiesGranted rc listing + 1) / 2)
            ((foundNames listing).map NodeName.name)) ∧
        (r.nodeNamespaces = some second ∧
          Holds second (copiesGranted rc listing / 2) ((foundNames listing).map NodeName.ns)) ∧
        (foundNames listing ≠ [] → ∀ rc' listing' other,
          rmwGetNodeNames rc' listing' rmwNode (some first) other =
            .ok ⟨.invalidArgument, [], some first, other⟩)) := by
  cases hcheck : checkNodeNames rmwNode nodeNames nodeNamespaces with
  | error f =>
    have hnot : ¬ Copies rc listing rmwNode nodeNames nodeNamespaces := by
      intro h
      obtain ⟨_, _, hchecked, -⟩ := h.checked
      rw [hcheck] at hchecked
      cases hchecked
    simp only [rmwGetNodeNames, hcheck]
    refine ⟨_, rfl, ?_, fun h ↦ absurd h hnot⟩
    exact iff_of_false (checkNodeNames_rejects hcheck) fun h ↦ hnot h.1
  | ok checked =>
    obtain ⟨names, namespaces⟩ := checked
    cases hlisting : listing.result with
    | error e =>
      have hnot : ¬ Copies rc listing rmwNode nodeNames nodeNamespaces := by
        intro h
        have hlisted := h.listed
        rw [hlisting] at hlisted
        cases hlisted
      simp only [rmwGetNodeNames, hcheck, collectNodeNames, hlisting]
      refine ⟨_, rfl, ?_, fun h ↦ absurd h hnot⟩
      exact iff_of_false (fun hok ↦ by cases hok) fun h ↦ hnot h.1
    | ok u =>
      have hcall : rmwGetNodeNames rc listing rmwNode nodeNames nodeNamespaces =
          listNodeNames rc (foundNames listing) names namespaces := by
        simp only [rmwGetNodeNames, hcheck, collectNodeNames, hlisting]
        rfl
      rw [hcall]
      by_cases hinit : (rc.stringArrayInit 0 names (foundNames listing).length
          rc.getDefaultAllocator).1 = .ok ∧
        (rc.stringArrayInit 1 namespaces (foundNames listing).length
          rc.getDefaultAllocator).1 = .ok
      · have hcopies : Copies rc listing rmwNode nodeNames nodeNamespaces :=
          ⟨⟨names, namespaces, hcheck, hinit⟩, hlisting⟩
        obtain ⟨r, first, second, hr, hverdict, hfirst, hheld, hsecond, hheld'⟩ :=
          listNodeNames_copies hrc hmany hinit.1 hinit.2
        refine ⟨r, hr, ?_, fun _ ↦ ⟨first, second, hverdict, ⟨hfirst, hheld⟩, ⟨hsecond, hheld'⟩,
          fun hsome rc' listing' other ↦ ?_⟩⟩
        · have hret : r.ret = (fillVerdict _ _ _ _).1 := congrArg Prod.fst hverdict
          rw [hret, fillVerdict_ok_iff]
          exact (and_iff_right hcopies).symm
        · obtain ⟨node, rfl, himpl⟩ := checkNodeNames_ok hcheck
          have hsize : first.size ≠ 0 := by
            rw [hheld.1, List.length_map]
            exact fun hzero ↦ hsome (List.eq_nil_of_length_eq_zero hzero)
          exact rmwGetNodeNames_used himpl hsize rc' listing' other
      · have hnot : ¬ Copies rc listing rmwNode nodeNames nodeNamespaces := by
          intro h
          obtain ⟨_, _, hchecked, hinits⟩ := h.checked
          rw [hcheck] at hchecked
          cases hchecked
          exact hinit hinits
        obtain ⟨r, hr, hret⟩ := listNodeNames_refused hrc hinit
        exact ⟨r, hr, iff_of_false hret fun h ↦ hnot h.1, fun h ↦ absurd h hnot⟩

end Listing

def tightRcutils (copies : ℕ) : Rcutils :=
  { hostRcutils with strdup := fun call s ↦ if call < copies then some s else none }

theorem tightRcutils_documented (copies : ℕ) : (tightRcutils copies).Documented where
  copies call s t h := by
    simp only [tightRcutils, Option.ite_none_right_eq_some, Option.some_inj] at h
    exact h.2.symm
  stringArrayInit := hostRcutils_documented.stringArrayInit
  stringArrayCmp := hostRcutils_documented.stringArrayCmp
  namesAndTypesInit := hostRcutils_documented.namesAndTypesInit
  convertRet := hostRcutils_documented.convertRet

example : rmwGetNodeNames (tightRcutils 3) crowdedListing
    (some ⟨rmwGetImplementationIdentifier, some (some ()), some ()⟩) (some zeroStringArray)
      (some zeroStringArray) = .ok ⟨.badAlloc, ["failed to populate node namespace array"],
        some ⟨2, some [some "talker", some "talker"], hostAllocator⟩,
        some ⟨2, some [some "/", none], hostAllocator⟩⟩ := by decide

theorem node_names_partial_crowded :
    let node : RmwNode := ⟨rmwGetImplementationIdentifier, some (some ()), some ()⟩
    ∃ r, rmwGetNodeNames (tightRcutils 3) crowdedListing (some node) (some zeroStringArray)
        (some zeroStringArray) = .ok r ∧
      (r.ret = .ok ↔ Copies (tightRcutils 3) crowdedListing (some node) (some zeroStringArray)
          (some zeroStringArray) ∧
        copiesGranted (tightRcutils 3) crowdedListing = 2 * (foundNames crowdedListing).length) ∧
      (Copies (tightRcutils 3) crowdedListing (some node) (some zeroStringArray)
          (some zeroStringArray) → ∃ first second,
        (r.ret, r.chain) = nodeNamesVerdict (tightRcutils 3) crowdedListing ∧
        (r.nodeNames = some first ∧
          Holds first ((copiesGranted (tightRcutils 3) crowdedListing + 1) / 2)
            ((foundNames crowdedListing).map NodeName.name)) ∧
        (r.nodeNamespaces = some second ∧
          Holds second (copiesGranted (tightRcutils 3) crowdedListing / 2)
            ((foundNames crowdedListing).map NodeName.ns)) ∧
        (foundNames crowdedListing ≠ [] → ∀ rc' listing' other,
          rmwGetNodeNames rc' listing' (some node) (some first) other =
            .ok ⟨.invalidArgument, [], some first, other⟩)) :=
  node_names_partial (tightRcutils_documented 3) (by decide)

end RmwIceoryx2.Rmw
