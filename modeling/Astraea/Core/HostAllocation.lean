import Astraea.Base.Check

/-!
# Host allocation

The emulator catches the two ways a host allocation can fail, `std::bad_alloc` and
`std::length_error`, where it builds a vector. A `Host` says for each of these places
whether the allocation there fails, so that a result about every host is a result about
every pattern of failures.
-/

namespace Astraea.Core

open Astraea.Base

/-- What a failed allocation throws. -/
inductive AllocationFailure where
  | badAlloc
  | lengthError
  deriving DecidableEq

/-- The places where a vector is built. -/
inductive AllocationSite where
  /-- The register list of the context, in `parse_register_list`. -/
  | contextRegisterList
  /-- The register list of the shader, in `parse_register_list`. -/
  | shaderRegisterList
  /-- The program words and the copies of header and text, in `parse_agc_shader_binary`. -/
  | shaderBinary
  /-- The copy of the file, in `parse_agc_shader_container`. -/
  | shaderContainer
  /-- The emissions, in `lower_rdna2_stream_to_shader_ir`. -/
  | shaderIrStream
  /-- The buffers for header and text, in `plan_sce_agc_create_shader`. -/
  | createShaderBuffers
  /-- The patches, in `plan_sce_agc_shader_preparation`. -/
  | shaderPatches
  /-- The copy of the shader, in `materialize_created_agc_shader`. -/
  | createdShader
  /-- The new entry, in `CreatedAgcShaderRegistry::register_shader`. -/
  | shaderRegistration
  /-- The output, in `dispatch_hle`. -/
  | output
  /-- The leaders and the branch targets, in `build_shader_control_flow_graph`. -/
  | cfgLeaders
  /-- The blocks, in `build_shader_control_flow_graph`. -/
  | cfgBlocks
  /-- The effects of a block, in `execute_shader_wave_block`. -/
  | waveBlockEffects
  /-- The executed blocks, in `execute_shader_wave_program`: room for as many as the budget has. -/
  | waveBlockExecutions (maxBlockExecutions : ℕ)
  /-- The effects of a block, in `execute_shader_scalar_block`. -/
  | scalarBlockEffects
  /-- The executed blocks, in `execute_shader_scalar_program`: room for as many as the budget has.
  -/
  | scalarBlockExecutions (maxBlockExecutions : ℕ)
  /-- The words, in `lower_shader_ir_to_spirv_vector_probe`. -/
  | spirvVectorProbe
  /-- The words of the packet at a word offset, in `parse_raw_packet`. -/
  | pm4RawPacket (wordOffset : ℕ)
  /-- The frame at a word offset, in `frame_pm4_type3_stream`. -/
  | pm4Frame (wordOffset : ℕ)
  /-- The values of the packet at a word offset, in the lowerings of register packets. -/
  | pm4RegisterValues (wordOffset : ℕ)
  /-- The emission for the packet at a word offset, in `lower_pm4_write_data_frame_to_graphics_ir`.
  -/
  | pm4WriteData (wordOffset : ℕ)
  /-- The command bytes, in `plan_sce_agc_driver_submit_dcb`. -/
  | submitDcbBytes
  /-- The new entry, in `register_allocation` and `register_buffer`. -/
  | gpuAddressSpaceEntry
  /-- The new view, in `GuestGpuImageRegistry::register_view`. -/
  | gpuImageView
  /-- The copy of the key and the new entry, in `OwnedProviderRegistry::register_provider`. -/
  | providerEntry
  /-- The results, in `apply_owned_module_import_batch`. -/
  | importBatch
  /-- The targets and the results, in `apply_owned_relative_batch`. -/
  | relativeBatch
  /-- The string, in `resolve_dynamic_string`. -/
  | dynamicString
  /-- The name and its parts, in `parse_sce_dynamic_symbol_name`. -/
  | symbolName
  /-- The copy of the bindings, in `SceImportBindingRegistry::create`. -/
  | importBindings
  /-- The copies of the name and the identity, in `plan_sce_import_resolution`. -/
  | importPlan
  /-- The new plan of the relocation at an index, in `plan_sce_imports`. -/
  | importPlans (index : UInt64)
  /-- The bytes of the gates, in `build_synthetic_gate_region`. -/
  | gateRegion
  /-- The patches, in the builders of batches of gate patches. -/
  | gatePatches
  /-- The results, in the functions that apply a batch of gate patches. -/
  | gateApplies
  /-- The copy of the declarations, in `ModuleGraph::create`. -/
  | moduleGraph
  /-- The copies of the key and the identity, in `plan_module_graph_import`. -/
  | moduleGraphImport
  /-- The records, in `build_sce_dynamic_metadata`. -/
  | sceDynamicMetadata
  /-- The path, the identities and the values of a divergence, in `diff_trace_v0`. -/
  | traceDivergence
  /-- The fields of the event with an id, in the functions of `graphics_v0.cpp`. -/
  | graphicsTraceEvent (eventId : UInt64)
  /-- The output, in `serialize_trace_v0`. -/
  | traceSerialization
  deriving DecidableEq

/-- A host, by the allocations that fail on it. -/
structure Host where
  allocation : AllocationSite → Option AllocationFailure
  /-- `max_size()` of the vector of created shaders, which depends on the size of its elements. -/
  createdShadersMaxSize : ℕ

/-- A host on which nothing fails. -/
def Host.plentiful : Host := ⟨fun _ => none, 2 ^ 48⟩

section Allocate

variable {ε : Type} (host : Host) (site : AllocationSite)

/-- An allocation, with the error each of its failures becomes. -/
def allocate (badAlloc lengthError : ε) : Except ε Unit :=
  match host.allocation site with
  | none => .ok ()
  | some .badAlloc => .error badAlloc
  | some .lengthError => .error lengthError

variable {host : Host} {site : AllocationSite}

@[simp] theorem allocate_eq_ok {badAlloc lengthError : ε} {u : Unit} :
    allocate host site badAlloc lengthError = .ok u ↔ host.allocation site = none := by
  unfold allocate
  split <;> simp [*]

theorem mapError_allocate {ε' : Type} (badAlloc lengthError : ε) (g : ε → ε') :
    (allocate host site badAlloc lengthError).mapError g =
      allocate host site (g badAlloc) (g lengthError) := by
  unfold allocate
  split <;> rfl

/-- Where both failures become the same error, only whether there is one matters. -/
theorem allocate_congr {site' : AllocationSite}
    (h : (host.allocation site).isSome = (host.allocation site').isSome) (e : ε) :
    allocate host site e e = allocate host site' e e := by
  unfold allocate
  rcases hsite : host.allocation site with _ | _ | _ <;> rcases hsite' :
    host.allocation site' with _ | _ | _ <;>
    first | rfl | (rw [hsite, hsite'] at h; cases h)

end Allocate

end Astraea.Core
