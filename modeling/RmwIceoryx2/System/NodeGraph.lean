import RmwIceoryx2.Library.Execution
import RmwIceoryx2.Rmw.Context
import RmwIceoryx2.Rmw.NodeNames

namespace RmwIceoryx2.System.NodeGraph

open RmwIceoryx2.Common RmwIceoryx2.Runtime RmwIceoryx2.Rmw RmwIceoryx2.Library
open RmwIceoryx2.Library.Execution

/-- The contexts of a process by their addresses, and the nodes that it has created and not
destroyed, each with the address of its handle. -/
structure Process where
  contexts : ℕ → RmwContext
  impls : Impls
  nodes : List (ℕ × LiveNode)

def Process.initial : Process := ⟨fun _ ↦ zeroContext, [], []⟩

inductive Call
  | init (env : InitAnswers) (options : Option RmwInitOptions) (context : ℕ)
  | shutdown (context : ℕ)
  | fini (context : ℕ)
  | createGuardCondition (env : GuardConditionEnv) (context : ℕ)
  | createNode (env : NodeEnv) (context : ℕ) (name ns : Option String)
  | destroyNode (address : ℕ)

namespace Process

def withContext (p : Process) (context : ℕ) (out : ContextOutcome) : Process :=
  { p with
    contexts := Function.update p.contexts context (out.context.getD (p.contexts context))
    impls := out.impls }

def node (p : Process) (address : ℕ) : Option RmwNode :=
  (p.nodes.lookup address).map fun _ ↦ ⟨rmwGetImplementationIdentifier, some (some ()), some ()⟩

def created (p : Process) : Call → Option (ℕ × LiveNode)
  | .createNode env c name ns =>
    match rmwCreateNode env p.impls (some (p.contexts c)) name ns with
    | .ok (_, .ok (address, _)) => (implOf p.impls (p.contexts c)).map fun context ↦
        (address, ⟨context.id, ns.getD "", name.getD ""⟩)
    | _ => none
  | _ => none

def exec (p : Process) : Call → Process
  | .init env options c =>
    p.withContext c (rmwInit env p.impls options (some (p.contexts c)))
  | .shutdown c => p.withContext c (rmwShutdown p.impls (some (p.contexts c)))
  | .fini c => p.withContext c (rmwContextFini p.impls (some (p.contexts c)))
  | .createGuardCondition env c =>
    match rmwCreateGuardCondition env p.impls (some (p.contexts c)) with
    | .error _ => p
    | .ok (impls, _) => { p with impls := impls }
  | .createNode env c name ns =>
    match rmwCreateNode env p.impls (some (p.contexts c)) name ns with
    | .error _ => p
    | .ok (impls, _) =>
      { p with
        impls := impls
        nodes := p.nodes ++ (p.created (.createNode env c name ns)).toList }
  | .destroyNode address =>
    match rmwDestroyNode (p.node address) with
    | .error _ => p
    | .ok () => { p with nodes := p.nodes.filter (·.1 ≠ address) }

/-- The contexts whose implementations live, and with them their instances of iceoryx2. -/
def contextIds (p : Process) : List ℕ := p.impls.filterMap (·.map Context.id)

end Process

/-- The processes that share one iceoryx2. -/
abbrev World := List Process

def exec (w : World) (op : ℕ × Call) : World := w.modify op.1 fun p ↦ p.exec op.2

def contexts (w : World) : List ℕ := w.flatMap Process.contextIds

def nodes (w : World) : List LiveNode := w.flatMap fun p ↦ p.nodes.map Prod.snd

section Creation

variable {env : NodeEnv} {impls impls' : Impls} {context : RmwContext} {name ns : Option String}

end Creation

namespace Process

variable {p : Process} {call : Call} {address : ℕ} {n : LiveNode}

end Process

section Runs

variable {w : World} {op : ℕ × Call} {i address : ℕ} {n : LiveNode}

variable {k : ℕ} {ops : List (ℕ × Call)}

end Runs

end RmwIceoryx2.System.NodeGraph
