import Astraea.Core.HostAllocation
import Astraea.Loader.TagSlots

/-!
# What else a dynamic table says

`build_sce_dynamic_metadata` sorts the entries of a dynamic table by the kind of their tag and
keeps all of them. Five kinds may be said once, or more than once alike: with enough memory that
is the only thing a table is refused for.
-/

namespace Astraea.Loader

open Astraea.Base Astraea.Core

/-- The tags of the namespace that are known. -/
inductive SceDynamicTagKind where
  | moduleAttributes
  | exportLibraryAttributes
  | importLibraryAttributes
  | hashTableSize
  | symbolTableSize
  | originalFilename
  | moduleInformation
  | neededModule
  | exportLibrary
  | importLibrary
  | unknown
  deriving DecidableEq

/-- A tag of the namespace with its value. -/
structure SceDynamicRecord where
  kind : SceDynamicTagKind
  rawTag : Int64
  rawValue : UInt64
  sourceEntryIndex : ℕ
  deriving DecidableEq

/-- The records of the namespace, in order. -/
structure SceDynamicMetadata where
  records : List SceDynamicRecord
  deriving DecidableEq

/-- Why a tag of the namespace is refused. -/
inductive SceDynamicMetadataErrorCode where
  | conflictingSingletonTag
  | hostAllocationFailure
  deriving DecidableEq

/-- A tag of the namespace that is refused. -/
structure SceDynamicMetadataError where
  code : SceDynamicMetadataErrorCode
  tag : Int64 := 0
  sourceEntryIndex : Option ℕ := none
  conflictingEntryIndex : Option ℕ := none
  deriving DecidableEq

/-- `DT_SCE_MODULE_ATTR`. -/
def kDtSceModuleAttributes : Int64 := 0x61000011

/-- `DT_SCE_EXPORT_LIB_ATTR`. -/
def kDtSceExportLibraryAttributes : Int64 := 0x61000017

/-- `DT_SCE_IMPORT_LIB_ATTR`. -/
def kDtSceImportLibraryAttributes : Int64 := 0x61000019

/-- `DT_SCE_HASHSZ`. -/
def kDtSceHashTableSize : Int64 := 0x6100003d

/-- `DT_SCE_SYMTABSZ`. -/
def kDtSceSymbolTableSize : Int64 := 0x6100003f

/-- `DT_SCE_ORIGINAL_FILENAME`. -/
def kDtSceOriginalFilename : Int64 := 0x61000041

/-- `DT_SCE_MODULE_INFO`. -/
def kDtSceModuleInformation : Int64 := 0x61000043

/-- `DT_SCE_NEEDED_MODULE`. -/
def kDtSceNeededModule : Int64 := 0x61000045

/-- `DT_SCE_EXPORT_LIB`. -/
def kDtSceExportLibrary : Int64 := 0x61000047

/-- `DT_SCE_IMPORT_LIB`. -/
def kDtSceImportLibrary : Int64 := 0x61000049

/-- `classify_sce_dynamic_tag`. -/
def classifySceDynamicTag (tag : Int64) : SceDynamicTagKind :=
  if tag = kDtSceModuleAttributes then .moduleAttributes
  else if tag = kDtSceExportLibraryAttributes then .exportLibraryAttributes
  else if tag = kDtSceImportLibraryAttributes then .importLibraryAttributes
  else if tag = kDtSceHashTableSize then .hashTableSize
  else if tag = kDtSceSymbolTableSize then .symbolTableSize
  else if tag = kDtSceOriginalFilename then .originalFilename
  else if tag = kDtSceModuleInformation then .moduleInformation
  else if tag = kDtSceNeededModule then .neededModule
  else if tag = kDtSceExportLibrary then .exportLibrary
  else if tag = kDtSceImportLibrary then .importLibrary
  else .unknown

/-- `sce_singleton_slot`. -/
def sceSingletonSlot : SceDynamicTagKind → Option (Fin 5)
  | .moduleAttributes => some 0
  | .hashTableSize => some 1
  | .symbolTableSize => some 2
  | .originalFilename => some 3
  | .moduleInformation => some 4
  | .exportLibraryAttributes => none
  | .importLibraryAttributes => none
  | .neededModule => none
  | .exportLibrary => none
  | .importLibrary => none
  | .unknown => none

/-- The tag was there before, with another value. -/
def sceConflict (entry : DynamicEntry) (found : SingletonValue) : SceDynamicMetadataError :=
  { code := .conflictingSingletonTag, tag := entry.tag, sourceEntryIndex := entry.index,
    conflictingEntryIndex := found.sourceEntryIndex }

/-- One turn of the loop, for `singleton_values`. -/
def mergeSceSingleton (singletonValues : Fin 5 → Option SingletonValue) (entry : DynamicEntry) :
    Except SceDynamicMetadataError (Fin 5 → Option SingletonValue) :=
  match sceSingletonSlot (classifySceDynamicTag entry.tag) with
  | none => .ok singletonValues
  | some slot => do
    let existing ← mergeSingleton sceConflict (singletonValues slot) entry
    return Function.update singletonValues slot existing

/-- The record of an entry. -/
def sceRecord (entry : DynamicEntry) : SceDynamicRecord :=
  ⟨classifySceDynamicTag entry.tag, entry.tag, entry.value, entry.index⟩

/-- `build_sce_dynamic_metadata`. The records are collected in the loop that merges the values, one
for each entry. -/
def buildSceDynamicMetadata (host : Host) (table : DynamicTable) :
    Except SceDynamicMetadataError SceDynamicMetadata := do
  allocate host .sceDynamicMetadata { code := .hostAllocationFailure }
    { code := .hostAllocationFailure }
  let _ ← table.entries.foldlM mergeSceSingleton fun _ => none
  return ⟨table.entries.map sceRecord⟩

/-! ### Tables that are refused -/

/-- The tags that may be said once. -/
def sceSingletonTags : List Int64 :=
  [kDtSceModuleAttributes, kDtSceHashTableSize, kDtSceSymbolTableSize, kDtSceOriginalFilename,
    kDtSceModuleInformation]

/-- The slots by their tags. -/
def sceSlots (singletonValues : Fin 5 → Option SingletonValue) (tag : Int64) :
    Option SingletonValue :=
  (sceSingletonSlot (classifySceDynamicTag tag)).bind singletonValues

section Refused

variable {host : Host} {table : DynamicTable} {tag : Int64} {slot : Fin 5}

theorem mem_sceSingletonTags_of_slot
    (h : sceSingletonSlot (classifySceDynamicTag tag) = some slot) :
    tag = sceSingletonTags.get slot := by
  rw [classifySceDynamicTag] at h
  split_ifs at h with h1 h2 h3 h4 h5 h6 h7 h8 h9 h10 <;> cases h <;> assumption

theorem slot_of_mem_sceSingletonTags (h : tag ∈ sceSingletonTags) :
    ∃ slot, sceSingletonSlot (classifySceDynamicTag tag) = some slot := by
  simp only [sceSingletonTags, List.mem_cons, List.not_mem_nil, or_false] at h
  rcases h with rfl | rfl | rfl | rfl | rfl
  · exact ⟨0, rfl⟩
  · exact ⟨1, rfl⟩
  · exact ⟨2, rfl⟩
  · exact ⟨3, rfl⟩
  · exact ⟨4, rfl⟩

theorem sceSlots_update {values : Fin 5 → Option SingletonValue} {merged : Option SingletonValue}
    (h : sceSingletonSlot (classifySceDynamicTag tag) = some slot) :
    sceSlots (Function.update values slot merged) =
      Function.update (sceSlots values) tag merged := by
  funext other
  rw [sceSlots, Function.update_apply]
  by_cases hother : other = tag
  · rw [if_pos hother, hother, h, Option.bind_some, Function.update_self]
  · rw [if_neg hother, sceSlots]
    cases hslot : sceSingletonSlot (classifySceDynamicTag other) with
    | none => rfl
    | some place =>
      have hne : place ≠ slot := by
        rintro rfl
        exact hother ((mem_sceSingletonTags_of_slot hslot).trans
          (mem_sceSingletonTags_of_slot h).symm)
      rw [Option.bind_some, Option.bind_some, Function.update_of_ne hne]

theorem fillSlot_sceSlots (values : Fin 5 → Option SingletonValue) (entry : DynamicEntry) :
    fillSlot sceConflict sceSingletonTags (sceSlots values) entry =
      (mergeSceSingleton values entry).map sceSlots := by
  rw [mergeSceSingleton]
  cases hslot : sceSingletonSlot (classifySceDynamicTag entry.tag) with
  | none =>
    refine fillSlot_of_not_mem fun hmem => ?_
    obtain ⟨slot, hsome⟩ := slot_of_mem_sceSingletonTags hmem
    rw [hslot] at hsome
    cases hsome
  | some slot =>
    have hknown : entry.tag ∈ sceSingletonTags := by
      rw [mem_sceSingletonTags_of_slot hslot]
      exact List.get_mem _ _
    have hget : sceSlots values entry.tag = values slot := by
      rw [sceSlots, hslot]
      rfl
    exact fillSlot_of_merge rfl hknown hget fun merged => sceSlots_update hslot

/-- Some tag that may be said once has two values. -/
def SceConflict (table : DynamicTable) : Prop :=
  ∃ tag ∈ sceSingletonTags, ¬ OneValue table.entries tag

/-- **A table is refused for two values of one tag**, if there is memory. -/
theorem exists_buildSceDynamicMetadata (hhost : host.allocation .sceDynamicMetadata = none) :
    (∃ metadata, buildSceDynamicMetadata host table = .ok metadata) ↔ ¬ SceConflict table := by
  have hrun := @foldlM_fillSlot SceDynamicMetadataError sceConflict sceSingletonTags table.entries
    (Fin 5 → Option SingletonValue) sceSlots mergeSceSingleton fillSlot_sceSlots fun _ => none
  have hstart : sceSlots (fun _ => none) = fun _ => none := by
    funext tag
    exact Option.bind_fun_none _
  rw [hstart] at hrun
  have hfill :=
    @exists_foldlM_fillSlot SceDynamicMetadataError sceConflict sceSingletonTags table.entries
  simp only [hrun, map_eq_ok] at hfill
  have hconflict : ¬ SceConflict table ↔ ∀ tag ∈ sceSingletonTags, OneValue table.entries tag := by
    simp only [SceConflict, not_exists, not_and, not_not]
  rw [hconflict, ← hfill]
  constructor
  · rintro ⟨metadata, h⟩
    simp only [buildSceDynamicMetadata, bind_eq_ok, pure_eq_ok] at h
    obtain ⟨-, -, values, hvalues, -⟩ := h
    exact ⟨_, values, hvalues, rfl⟩
  · rintro ⟨_, values, hvalues, -⟩
    refine ⟨⟨table.entries.map sceRecord⟩, ?_⟩
    simp only [buildSceDynamicMetadata, bind_eq_ok, pure_eq_ok]
    exact ⟨(), allocate_eq_ok.mpr hhost, values, hvalues, trivial⟩

end Refused

end Astraea.Loader
