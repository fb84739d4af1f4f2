import RmwIceoryx2.Rmw.Memory
import RmwIceoryx2.Rmw.StringArray

namespace RmwIceoryx2.Rmw

open RmwIceoryx2.Common RmwIceoryx2.Runtime

/-- `rmw_init_options_t` with its allocator. -/
structure InitOptions where
  options : RmwInitOptions
  allocator : Allocator
  deriving DecidableEq, Repr

def zeroInitOptions : InitOptions := ⟨⟨0, none, none, none⟩, zeroAllocator⟩

def ensureAllocator (valid : Allocator → Bool) (allocator : Allocator) :
    Except (Failure RmwRet) Unit :=
  if valid allocator then .ok () else .error ⟨.invalidArgument, []⟩

def checkInitOptionsInit (valid : Allocator → Bool) (initOptions : Option InitOptions)
    (allocator : Allocator) : Except (Failure RmwRet) Unit := do
  let o ← ensureNotNull "init_options" .invalidArgument initOptions
  ensureAllocator valid allocator
  ensureNotInitialized "init_options" .invalidArgument o.options.impl
  ensureZeroInitialized "init_options" .invalidArgument o.options.implementationIdentifier
    o.options.impl

/-- `enclave` is what `rcutils_strdup` returns; that it may fail is not looked at. -/
def rmwInitOptionsInit (valid : Allocator → Bool) (enclave : Option ℕ) (heap : Heap)
    (initOptions : Option InitOptions) (allocator : Allocator) :
    Heap × Except (Failure RmwRet) InitOptions :=
  match checkInitOptionsInit valid initOptions allocator with
  | .error f => (heap, .error f)
  | .ok () => (heap.strdup enclave, .ok ⟨⟨0, some rmwGetImplementationIdentifier,
      enclave.map fun _ ↦ "", some ()⟩, allocator⟩)

def rmwInitOptionsCopy (src dst : Option InitOptions) : Except (Failure RmwRet) InitOptions := do
  let src ← ensureNotNull "src" .invalidArgument src
  let dst ← ensureNotNull "dst" .invalidArgument dst
  let _ ← ensureInitialized "src" .invalidArgument src.options.impl
  ensureZeroInitialized "dst" .invalidArgument dst.options.implementationIdentifier
    dst.options.impl
  ensureImplementation "src->implementation_identifier" .incorrectRmwImplementation
    (src.options.implementationIdentifier.getD "")
  return src

def rmwInitOptionsFini (valid : Allocator → Bool) (rmwInitOptions : Option InitOptions) :
    Except (Failure RmwRet) InitOptions := do
  let o ← ensureNotNull "rmw_init_options" .invalidArgument rmwInitOptions
  ensureAllocator valid o.allocator
  ensureNotZeroInitialized "rmw_init_options" .invalidArgument o.options.implementationIdentifier
    o.options.impl
  ensureImplementation "rmw_init_options->implementation_identifier" .incorrectRmwImplementation
    (o.options.implementationIdentifier.getD "")
  return zeroInitOptions

/-- What `rmw_init` does with the memory; `enclave` is what `rcutils_strdup` returns. -/
def rmwInitMemory (env : InitAnswers) (enclave : Option ℕ) (heap : Heap) (impls : Impls)
    (rmwInitOptions : Option RmwInitOptions) (context : Option RmwContext) : Heap :=
  match checkInit rmwInitOptions context with
  | .error _ => heap
  | .ok (options, _) =>
    let heap := heap.strdup enclave
    if !env.allocateImpl then heap
    else
      let ptr := impls.length
      let heap := (heap.allocate ptr).construct ptr
      match Context.create env.handle options.instanceId with
      | .error _ => (heap.destruct (some ptr)).deallocate (some ptr)
      | .ok _ => heap

def rmwShutdownMemory (heap : Heap) (rmwContext : Option RmwContext) : Heap :=
  match checkInitialised rmwContext with
  | .error _ => heap
  | .ok context => (heap.destruct context.impl).deallocate context.impl

end RmwIceoryx2.Rmw
