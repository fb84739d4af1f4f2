import RmwIceoryx2.Common.Error
import RmwIceoryx2.Library.KeyedMap

namespace RmwIceoryx2.Runtime

open Common Library

abbrev Bytes := List UInt8

abbrev Address := ℕ

/-- A sample of the middleware: where its payload lies, and the bytes there. -/
structure Sample where
  address : Address
  payload : Bytes
  deriving DecidableEq, Repr

/-- Samples held until they are sent or given back, organized by the address of their payloads. -/
abbrev SampleRegistry := KeyedMap Sample.address

namespace SampleRegistry

def store (r : SampleRegistry) (sample : Sample) : SampleRegistry × Address :=
  (r.emplace sample, sample.address)

def retrieve (r : SampleRegistry) (loanedMemory : Address) : Option Sample := r.find loanedMemory

def release (r : SampleRegistry) (loanedMemory : Address) :
    Except (Failure SampleRegistryError) (Sample × SampleRegistry) :=
  match r.retrieve loanedMemory with
  | none => .error ⟨.invalidPayload, []⟩
  | some sample => .ok (sample, r.remove loanedMemory)

def write (r : SampleRegistry) (loanedMemory : Address) (payload : Bytes) : SampleRegistry :=
  r.modify loanedMemory fun sample ↦ { sample with payload := payload }

variable {r : SampleRegistry} {sample : Sample}

/-- The payload lies where no stored sample has its own. -/
def Unused (r : SampleRegistry) (sample : Sample) : Prop := r.find sample.address = none

theorem Unused.store (h : r.Unused sample) : r.store sample = (r.put sample, sample.address) := by
  rw [SampleRegistry.store, KeyedMap.emplace_of_new h]

theorem retrieve_put : retrieve (r.put sample) sample.address = some sample := by
  rw [retrieve, KeyedMap.find_put, if_pos rfl]

theorem release_put (h : r.Unused sample) :
    release (r.put sample) sample.address = .ok (sample, r) := by
  rw [release, retrieve_put]
  simp only [KeyedMap.remove_put h]

theorem release_put_write (h : r.Unused sample) (payload : Bytes) :
    release (r.put { sample with payload := payload }) sample.address =
      .ok ({ sample with payload := payload }, r) :=
  release_put h

theorem write_put (payload : Bytes) :
    write (r.put sample) sample.address payload = r.put { sample with payload := payload } :=
  KeyedMap.modify_put rfl

end SampleRegistry

end RmwIceoryx2.Runtime
