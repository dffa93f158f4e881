import Astraea.Memory.GuestAddress

/-!
# High-level emulation: calls and their bindings

A guest calls a host function by jumping to a gate. The gate's slot is bound to a function
id, and the registry knows the functions by their ids. A call carries the six register
arguments of the guest.
-/

namespace Astraea.Execution

open Astraea.Memory

/-- The identifier of an emulated function. -/
structure HleFunctionId where
  value : UInt32
  deriving DecidableEq

/-- A call of an emulated function. -/
structure HleCall where
  functionId : HleFunctionId
  gateSlot : UInt32
  guestRip : UInt64
  guestRsp : UInt64
  arguments : Vector UInt64 6
  deriving DecidableEq

/-- An argument of a call, of the six there are. -/
def HleCall.argument (call : HleCall) (index : ℕ) : UInt64 := call.arguments.toArray.getD index 0

/-- An emulated function: its identifier and its name. -/
structure HleFunctionDescriptor where
  id : HleFunctionId
  canonicalName : List UInt8
  argumentCount : UInt8
  deriving DecidableEq

/-- The emulated functions that are known. -/
structure HleRegistry where
  descriptors : List HleFunctionDescriptor
  deriving DecidableEq

/-- `HleRegistry::find`. -/
def HleRegistry.find (registry : HleRegistry) (id : HleFunctionId) : Option HleFunctionDescriptor :=
  registry.descriptors.find? fun descriptor => descriptor.id == id

/-- A slot of the gate region, and the function behind it. -/
structure GateBinding where
  slot : UInt32
  functionId : HleFunctionId
  deriving DecidableEq

/-- The region of the gates, and what is behind each slot. -/
structure SyntheticGateRegion where
  range : GuestRange
  slotCount : UInt32
  bindings : List GateBinding
  deriving DecidableEq

/-- `SyntheticGateRegion::binding_for_slot`. -/
def SyntheticGateRegion.bindingForSlot (region : SyntheticGateRegion) (slot : UInt32) :
    Option GateBinding :=
  region.bindings.find? fun binding => binding.slot == slot

/-- The registers of the guest. -/
structure GuestCpuContext where
  rax : UInt64 := 0
  rbx : UInt64 := 0
  rcx : UInt64 := 0
  rdx : UInt64 := 0
  rsi : UInt64 := 0
  rdi : UInt64 := 0
  rbp : UInt64 := 0
  rsp : UInt64 := 0
  r8 : UInt64 := 0
  r9 : UInt64 := 0
  r10 : UInt64 := 0
  r11 : UInt64 := 0
  r12 : UInt64 := 0
  r13 : UInt64 := 0
  r14 : UInt64 := 0
  r15 : UInt64 := 0
  rip : UInt64 := 0
  rflags : UInt64 := 0
  fsBase : UInt64 := 0
  gsBase : UInt64 := 0
  deriving DecidableEq

/-- Why the guest stopped. -/
inductive ExecutionStopReason where
  | hostGate
  | registeredSyscallTrap
  | guestFault
  | backendError
  deriving DecidableEq

/-- A stop of the guest, with its registers. -/
structure ExecutionStop where
  reason : ExecutionStopReason
  context : GuestCpuContext
  hasGateSlot : Bool
  gateSlot : UInt32
  deriving DecidableEq

/-- `make_call`: the arguments in the order of the calling convention. -/
def makeCall (functionId : HleFunctionId) (gateSlot : UInt32) (context : GuestCpuContext) :
    HleCall where
  functionId := functionId
  gateSlot := gateSlot
  guestRip := context.rip
  guestRsp := context.rsp
  arguments := #v[context.rdi, context.rsi, context.rdx, context.rcx, context.r8, context.r9]

end Astraea.Execution
