import RmwIceoryx2.Library.PrefixReader
import RmwIceoryx2.System.PublishPaths

namespace RmwIceoryx2.System.Serialization

open RmwIceoryx2.Common RmwIceoryx2.Runtime RmwIceoryx2.Message RmwIceoryx2.Rmw
open RmwIceoryx2.Library.PrefixReader

variable {M H : Type} {typeSupport : TypeSupport M}

/-- Serializing ends with an exception where the buffer is too small. -/
def ThrowsWhenFull (callbacks : Callbacks M) : Prop :=
  ∀ value capacity, capacity < callbacks.getSerializedSize value →
    ∃ e, callbacks.cdrSerialize value capacity = .error e

/-- `rmw_serialize` into `destination`, then `rmw_deserialize` of that into `fresh`. -/
def serializeDeserialize (typeSupport : TypeSupport M) (rosMessage fresh : RosMessage M)
    (destination : SerializedMessage) : Except (Failure RmwRet) M :=
  match rmwSerialize (some rosMessage) (some typeSupport) (some destination) with
  | .error f => .error f
  | .ok serialized => rmwDeserialize (some serialized) (some typeSupport) (some fresh)

/-- A message comes back exactly when the destination has room for it from the start. -/
theorem serializeDeserialize_iff (t : MessageType M H)
    (hcpp : typeSupport.fastrtpsCpp = some (some (t.callbacks .cpp)))
    (hwrites : WritesSerializedSize (t.callbacks .cpp))
    (hthrows : ThrowsWhenFull (t.callbacks .cpp)) (m fresh : RosMessage M)
    (destination : SerializedMessage) :
    serializeDeserialize typeSupport m fresh destination = .ok m.value ↔
      (t.callbacks .cpp).getSerializedSize m.value ≤ destination.bufferCapacity := by
  constructor
  · intro h
    by_contra hsmall
    obtain ⟨e, he⟩ := hthrows m.value destination.bufferCapacity (Nat.lt_of_not_le hsmall)
    simp [serializeDeserialize, rmwSerialize, ensureNotNull, fastrtpsCallbacks, hcpp, he] at h
  · intro hroom
    obtain ⟨bytes, hbytes, hlen⟩ := hwrites m.value destination.bufferCapacity hroom
    obtain ⟨bytes', hbytes', hdecode⟩ := t.roundTrip m.value destination.bufferCapacity hroom
    obtain rfl : bytes = bytes' := Except.ok.inj (hbytes.symm.trans hbytes')
    have hserialized := rmwSerialize_ok.mpr ⟨_, bytes, hcpp, hbytes, rfl⟩
    have hwindow : (bytes ++ destination.buffer.drop bytes.length).take destination.bufferCapacity =
        bytes ++ (destination.buffer.drop bytes.length).take
          (destination.bufferCapacity - bytes.length) := by
      rw [List.take_append, List.take_of_length_le (by omega)]
    simp only [serializeDeserialize, hserialized, rmwDeserialize, ensureNotNull, fastrtpsCallbacks,
      hcpp, hwindow, hdecode]

theorem textCallbacks_throw : ThrowsWhenFull textCallbacks := by
  intro text capacity hsmall
  rw [← cdrText_length] at hsmall
  exact ⟨"NotEnoughMemory", if_neg (Nat.not_le.mpr hsmall)⟩

theorem empty_destination_refused : WritesSerializedSize (textType.callbacks .cpp) ∧
    ThrowsWhenFull (textType.callbacks .cpp) ∧
    serializeDeserialize (textType.typeSupport .cpp) greeting greeting ⟨[], 0, 0⟩ =
      .error ⟨.error, ["failed to serialize"]⟩ :=
  ⟨textCallbacks_write, textCallbacks_throw, rfl⟩

theorem serializeDeserialize_iff_greeting :
    serializeDeserialize (textType.typeSupport .cpp) greeting greeting blankMessage =
        .ok greeting.value ↔
      (textType.callbacks .cpp).getSerializedSize greeting.value ≤ blankMessage.bufferCapacity :=
  serializeDeserialize_iff textType rfl textCallbacks_write textCallbacks_throw greeting greeting
    blankMessage

def decodeWindow (typeSupport : TypeSupport M) (window : Bytes) : Option M :=
  match fastrtpsCallbacks typeSupport with
  | .error _ => none
  | .ok callbacks => (callbacks.cdrDeserialize window).toOption

/-- An initialised serialized message with the given declared content. -/
structure Declares (s : SerializedMessage) (content : Bytes) : Prop where
  buffer : s.buffer.length = s.bufferCapacity
  length : s.bufferLength = content.length
  content : s.buffer.take s.bufferLength = content

theorem declares_iff {s : SerializedMessage} {content : Bytes} : Declares s content ↔
    ∃ rest, s = ⟨content ++ rest, content.length, (content ++ rest).length⟩ := by
  constructor
  · intro h
    refine ⟨s.buffer.drop s.bufferLength, ?_⟩
    have hbuffer := List.take_append_drop s.bufferLength s.buffer
    rw [h.content] at hbuffer
    rw [hbuffer, h.buffer, ← h.length]
  · intro h
    obtain ⟨rest, rfl⟩ := h
    exact ⟨rfl, rfl, List.take_left⟩

theorem rmwDeserialize_eq (typeSupport : TypeSupport M) (m : RosMessage M) :
    ∃ f, ∀ window length, rmwDeserialize (some ⟨window, length, window.length⟩) (some typeSupport)
      (some m) = match decodeWindow typeSupport window with
        | some value => .ok value
        | none => .error f := by
  unfold decodeWindow
  cases hcallbacks : fastrtpsCallbacks typeSupport with
  | error f =>
    refine ⟨f, fun window length ↦ ?_⟩
    simp only [rmwDeserialize, ensureNotNull, hcallbacks]
  | ok callbacks =>
    refine ⟨⟨.error, ["failed to deserialize"]⟩, fun window length ↦ ?_⟩
    simp only [rmwDeserialize, ensureNotNull, hcallbacks, List.take_length]
    cases callbacks.cdrDeserialize window <;> rfl

/-- What is deserialized depends on the declared content alone exactly when that is not a
truncated message. -/
theorem deserialize_content_iff (hreads : ReadsPrefix (decodeWindow typeSupport))
    (m : RosMessage M) (content : Bytes) :
    (∀ s s', Declares s content → Declares s' content →
      rmwDeserialize (some s) (some typeSupport) (some m) =
        rmwDeserialize (some s') (some typeSupport) (some m)) ↔
      ¬ Truncated (decodeWindow typeSupport) content := by
  obtain ⟨f, hresult⟩ := rmwDeserialize_eq typeSupport m
  rw [← hreads.agree_iff]
  constructor
  · intro h rest rest'
    have hsame := h _ _ (declares_iff.mpr ⟨rest, rfl⟩) (declares_iff.mpr ⟨rest', rfl⟩)
    rw [hresult, hresult] at hsame
    cases hw : decodeWindow typeSupport (content ++ rest) <;>
      cases hw' : decodeWindow typeSupport (content ++ rest') <;> simp_all
  · intro h s s' hs hs'
    obtain ⟨rest, rfl⟩ := declares_iff.mp hs
    obtain ⟨rest', rfl⟩ := declares_iff.mp hs'
    rw [hresult, hresult, h rest rest']

theorem cdrTextOf_append {bytes : Bytes} {text : Text} (h : cdrTextOf bytes = .ok text)
    (rest : Bytes) : cdrTextOf (bytes ++ rest) = .ok text := by
  match bytes with
  | a :: b :: c :: d :: payload =>
    simp only [cdrTextOf, List.cons_append] at h ⊢
    split at h
    · rename_i hlen
      have htake : (payload ++ rest).take
          (a.toNat + 256 * b.toNat + 65536 * c.toNat + 16777216 * d.toNat - 1) =
          payload.take (a.toNat + 256 * b.toNat + 65536 * c.toNat + 16777216 * d.toNat - 1) :=
        List.take_append_of_le_length (by omega)
      rw [if_pos (by rw [List.length_append]; omega)]
      simp only [htake]
      exact h
    · cases h
  | [] | [_] | [_, _] | [_, _, _] => cases h

theorem decodeWindow_text_reads : ReadsPrefix (decodeWindow (textType.typeSupport .cpp)) := by
  intro window text rest h
  have hcdr : cdrTextOf window = .ok text := by
    cases hw : cdrTextOf window with
    | error e =>
      change (cdrTextOf window).toOption = _ at h
      rw [hw] at h
      cases h
    | ok text' =>
      change (cdrTextOf window).toOption = _ at h
      rw [hw] at h
      exact congrArg Except.ok (Option.some_inj.mp h)
  change (cdrTextOf (window ++ rest)).toOption = _
  rw [cdrTextOf_append hcdr]
  rfl

def cutOff : Bytes := [3, 0, 0, 0, 104, 105]

theorem stale_byte_completes : ReadsPrefix (decodeWindow (textType.typeSupport .cpp)) ∧
    Declares ⟨cutOff, 6, 6⟩ cutOff ∧ Declares ⟨cutOff ++ [0], 6, 7⟩ cutOff ∧
    rmwDeserialize (some ⟨cutOff, 6, 6⟩) (some (textType.typeSupport .cpp)) (some greeting) ≠
      rmwDeserialize (some ⟨cutOff ++ [0], 6, 7⟩) (some (textType.typeSupport .cpp))
        (some greeting) := by
  refine ⟨decodeWindow_text_reads, ⟨rfl, rfl, rfl⟩, ⟨rfl, rfl, rfl⟩, fun h ↦ ?_⟩
  have hok := congrArg Except.isOk h
  exact absurd hok (by decide)

theorem deserialize_content_iff_cutOff :
    (∀ s s', Declares s cutOff → Declares s' cutOff →
      rmwDeserialize (some s) (some (textType.typeSupport .cpp)) (some greeting) =
        rmwDeserialize (some s') (some (textType.typeSupport .cpp)) (some greeting)) ↔
      ¬ Truncated (decodeWindow (textType.typeSupport .cpp)) cutOff :=
  deserialize_content_iff decodeWindow_text_reads greeting cutOff

end RmwIceoryx2.System.Serialization
