import Astraea.Base.Numeral
import Mathlib.Data.Finmap

/-!
# Local ids of public SCE linkers

The records of an image that was linked by a public toolchain name modules and libraries by local
ids. A ledger keeps what was recorded for an id, and the first record of an id is the one that it
keeps. A symbol names its library and its module by numerals, whose ids have to be in the two
ledgers.

`decodePublicSceSymbolLocalId_eq_some` says which texts are numerals: the canonical ones, so that no
two texts have one id. `PublicSceLedgers.find_run` says what a ledger has after any calls.
-/

namespace Astraea.Loader

open Astraea.Base

/-! ### The records -/

/-- The identifier and the name that a value packs. -/
structure PublicScePackedFields where
  nameOffset : UInt32 := 0
  version : UInt16 := 0
  localId : UInt16 := 0
  deriving DecidableEq

/-- What recording an identifier comes to. -/
inductive PublicSceLocalIdRecordResult where
  | inserted
  | equivalentDuplicate
  | conflictingReuse
  deriving DecidableEq

/-- The version and the name that are kept for an id. -/
abbrev PublicSceLocalIdRecord := UInt16 × List UInt8

/-- The names that were recorded, each for an identifier. -/
structure PublicSceLocalIdLedger where
  records : Finmap fun _ : UInt16 => PublicSceLocalIdRecord

namespace PublicSceLocalIdLedger

/-- Nothing is recorded. -/
def empty : PublicSceLocalIdLedger := ⟨∅⟩

/-- `record`. -/
def record (ledger : PublicSceLocalIdLedger) (fields : PublicScePackedFields)
    (publishedName : List UInt8) :
    PublicSceLocalIdRecordResult × PublicSceLocalIdLedger :=
  match ledger.records.lookup fields.localId with
  | some stored =>
    if stored.1 ≠ fields.version ∨ stored.2 ≠ publishedName then (.conflictingReuse, ledger)
    else (.equivalentDuplicate, ledger)
  | none => (.inserted, ⟨ledger.records.insert fields.localId (fields.version, publishedName)⟩)

/-- `find`. -/
def find (ledger : PublicSceLocalIdLedger) (localId : UInt16) : Option PublicSceLocalIdRecord :=
  ledger.records.lookup localId

theorem ext_find {ledger ledger' : PublicSceLocalIdLedger}
    (h : ∀ localId, ledger.find localId = ledger'.find localId) :
    ledger = ledger' := by
  cases ledger
  cases ledger'
  exact congrArg _ (Finmap.ext_lookup h)

end PublicSceLocalIdLedger

/-! ### The numerals of ids -/

/-- The digits of a numeral, in order. -/
def localIdAlphabet : List UInt8 :=
  "ABCDEFGHIJKLMNOPQRSTUVWXYZabcdefghijklmnopqrstuvwxyz0123456789+-".toList.map fun c =>
    UInt8.ofNat c.toNat

/-- The loop of `decode_public_sce_symbol_local_id`. -/
def decodeLocalIdDigits : UInt32 → List UInt8 → Option UInt32
  | value, [] => some value
  | value, letter :: letters =>
    match localIdAlphabet.idxOf? letter with
    | none => none
    | some digit =>
      let value := value * 64 + UInt32.ofNat digit
      if value > 0xffff then none else decodeLocalIdDigits value letters

/-- `decode_public_sce_symbol_local_id`. -/
def decodePublicSceSymbolLocalId (encoded : List UInt8) : Option UInt16 :=
  if encoded = [] ∨ encoded.length > 3 ∨ encoded.length > 1 ∧ encoded.head? = some 65 then none
  else (decodeLocalIdDigits 0 encoded).map UInt32.toUInt16

theorem nodup_localIdAlphabet : localIdAlphabet.Nodup := by decide +kernel

theorem length_localIdAlphabet : localIdAlphabet.length = 64 := by decide +kernel

theorem localIdAlphabet_zero : localIdAlphabet[0]? = some 65 := by decide +kernel

/-- A digit goes behind those in front of it, and the product does not wrap. -/
theorem toNat_nextDigit {value : UInt32} {digit : ℕ} (hvalue : value.toNat ≤ 0xffff)
    (hdigit : digit < 64) :
    (value * 64 + UInt32.ofNat digit).toNat = value.toNat * 64 + digit := by
  rw [UInt32.toNat_add, UInt32.toNat_mul, UInt32.toNat_ofNat',
    show (64 : UInt32).toNat = 64 from rfl]
  omega

/-- The first digits count for more by one digit behind them. -/
theorem value_cons (value digit : ℕ) (rest : List ℕ) :
    value * 64 ^ (digit :: rest).length + Nat.ofDigits 64 (digit :: rest).reverse =
      (value * 64 + digit) * 64 ^ rest.length + Nat.ofDigits 64 rest.reverse := by
  rw [Nat.ofDigits_reverse_cons, List.length_cons, Nat.pow_succ]
  ring

/-- **What the loop finds out**: the number the letters write behind the digits so far, where that
has 16 bits. -/
theorem decodeLocalIdDigits_eq_some {value result : UInt32} {letters : List UInt8}
    (hvalue : value.toNat ≤ 0xffff) :
    decodeLocalIdDigits value letters = some result ↔
      ∃ digits, IsLetters localIdAlphabet digits letters ∧
        result.toNat = value.toNat * 64 ^ digits.length + Nat.ofDigits 64 digits.reverse ∧
        result.toNat ≤ 0xffff := by
  induction letters generalizing value with
  | nil =>
    rw [decodeLocalIdDigits, Option.some.injEq]
    constructor
    · rintro rfl
      exact ⟨[], isLetters_nil_iff.mpr rfl, by simp, hvalue⟩
    · rintro ⟨digits, hletters, hresult, -⟩
      rw [isLetters_nil_iff] at hletters
      subst hletters
      exact UInt32.toNat_inj.mp (by simpa using hresult.symm)
  | cons letter letters ih =>
    rw [decodeLocalIdDigits]
    cases hfirst : localIdAlphabet.idxOf? letter with
    | none =>
      constructor
      · intro h
        cases h
      · rintro ⟨digits, hletters, -⟩
        obtain ⟨digit, rest, -, hdigit, -⟩ := isLetters_cons_iff.mp hletters
        rw [(idxOf?_eq_some_iff_getElem? nodup_localIdAlphabet).mpr hdigit] at hfirst
        cases hfirst
    | some first =>
      have hletter := (idxOf?_eq_some_iff_getElem? nodup_localIdAlphabet).mp hfirst
      have hlt : first < 64 := length_localIdAlphabet ▸ (List.getElem?_eq_some_iff.mp hletter).1
      have hnext := toNat_nextDigit hvalue hlt
      have hcons : (∃ digits, IsLetters localIdAlphabet digits (letter :: letters) ∧
          result.toNat = value.toNat * 64 ^ digits.length + Nat.ofDigits 64 digits.reverse ∧
            result.toNat ≤ 0xffff) ↔
          ∃ rest, IsLetters localIdAlphabet rest letters ∧
            result.toNat = (value.toNat * 64 + first) * 64 ^ rest.length +
              Nat.ofDigits 64 rest.reverse ∧
            result.toNat ≤ 0xffff := by
        constructor
        · rintro ⟨digits, hletters, hresult, hle⟩
          obtain ⟨digit, rest, rfl, hdigit, hrest⟩ := isLetters_cons_iff.mp hletters
          have hsame := (idxOf?_eq_some_iff_getElem? nodup_localIdAlphabet).mpr hdigit
          rw [hfirst, Option.some.injEq] at hsame
          subst hsame
          exact ⟨rest, hrest, hresult.trans (value_cons _ _ _), hle⟩
        · rintro ⟨rest, hrest, hresult, hle⟩
          exact ⟨first :: rest, isLetters_cons_iff.mpr ⟨first, rest, rfl, hletter, hrest⟩,
            hresult.trans (value_cons _ _ _).symm, hle⟩
      rw [hcons, ← hnext]
      dsimp only
      split_ifs with hgreater
      · rw [gt_iff_lt, UInt32.lt_iff_toNat_lt] at hgreater
        constructor
        · intro h
          cases h
        · rintro ⟨rest, -, hresult, hle⟩
          have hgrows := Nat.le_mul_of_pos_right (value * 64 + UInt32.ofNat first).toNat
            (Nat.pow_pos (n := rest.length) (show 0 < 64 by decide))
          have hlimit : (0xffff : UInt32).toNat = 65535 := rfl
          omega
      · exact ih (not_lt.mp (fun hlt => hgreater (UInt32.lt_iff_toNat_lt.mpr hlt)))

/-- **The texts of ids are the canonical numerals.** -/
theorem decodePublicSceSymbolLocalId_eq_some {encoded : List UInt8} {localId : UInt16} :
    decodePublicSceSymbolLocalId encoded = some localId ↔
    CanonicalNumeral localIdAlphabet encoded localId.toNat := by
  have hbase : 1 < localIdAlphabet.length := by rw [length_localIdAlphabet]; decide
  have hword : ∀ value : UInt32, value.toNat ≤ 0xffff → value.toUInt16.toNat = value.toNat := by
    intro value hvalue
    rw [UInt32.toNat_toUInt16]
    omega
  rw [decodePublicSceSymbolLocalId]
  constructor
  · intro h
    split_ifs at h with hrefused
    rw [not_or, not_or, not_and] at hrefused
    obtain ⟨hne, -, hlead⟩ := hrefused
    obtain ⟨value, hvalue, rfl⟩ := Option.map_eq_some_iff.mp h
    obtain ⟨digits, hletters, hsum, hle⟩ := (decodeLocalIdDigits_eq_some (by decide)).mp hvalue
    refine ⟨digits, ?_, hletters, ?_, ?_⟩
    · rintro rfl
      exact hne (List.map_eq_nil_iff.mp (Eq.symm hletters))
    · intro hlength hhead
      obtain ⟨rest, rfl⟩ := List.head?_eq_some_iff.mp hhead
      cases encoded with
      | nil => exact hne rfl
      | cons letter letters =>
        obtain ⟨digit, rest', hcons, hdigit, -⟩ := isLetters_cons_iff.mp hletters
        rw [← (List.cons.inj hcons).1, localIdAlphabet_zero, Option.some.injEq] at hdigit
        exact hlead (hletters.length_eq ▸ hlength) (by rw [List.head?_cons, hdigit])
    · rw [hword value hle, hsum, length_localIdAlphabet]
      simp
  · intro h
    have hsmall : localId.toNat < localIdAlphabet.length ^ 3 :=
      lt_of_lt_of_le localId.toNat_lt (by rw [length_localIdAlphabet]; decide)
    have hlength := h.length_le hbase (by decide) hsmall
    obtain ⟨digits, hne, hletters, hlead, hvalue⟩ := h
    rw [length_localIdAlphabet] at hvalue
    have hle : localId.toUInt32.toNat ≤ 0xffff := by
      rw [UInt16.toNat_toUInt32]
      exact Nat.le_of_lt_succ localId.toNat_lt
    have hdecoded : decodeLocalIdDigits 0 encoded = some localId.toUInt32 := by
      refine (decodeLocalIdDigits_eq_some (by decide)).mpr ⟨digits, hletters, ?_, hle⟩
      rw [UInt16.toNat_toUInt32, hvalue]
      simp
    rw [if_neg, hdecoded, Option.map_some]
    · rw [UInt16.toUInt16_toUInt32]
    · rintro (hnil | hlong | ⟨hlong, hhead⟩)
      · rw [hnil, isLetters_nil_iff] at hletters
        exact hne hletters
      · omega
      · obtain ⟨letters, rfl⟩ := List.head?_eq_some_iff.mp hhead
        obtain ⟨digit, rest, rfl, hdigit, -⟩ := isLetters_cons_iff.mp hletters
        have hzero := (idxOf?_eq_some_iff_getElem? nodup_localIdAlphabet).mpr hdigit
        rw [(idxOf?_eq_some_iff_getElem? nodup_localIdAlphabet).mpr localIdAlphabet_zero] at hzero
        exact hlead (by rw [hletters.length_eq]; exact hlong) hzero.symm

/-! ### The link of a symbol -/

/-- What linking a symbol comes to. -/
inductive PublicSceSymbolLinkCode where
  | matched
  | malformedId
  | moduleUnregistered
  | libraryUnregistered
  deriving DecidableEq

/-- A symbol with the names of its library and its module. -/
structure PublicSceSymbolLink where
  code : PublicSceSymbolLinkCode := .malformedId
  moduleLocalId : Option UInt16 := none
  libraryLocalId : Option UInt16 := none
  deriving DecidableEq

/-- `check_public_sce_symbol_link`. -/
def checkPublicSceSymbolLink (encodedLibraryId encodedModuleId : List UInt8)
    (libraries modules : PublicSceLocalIdLedger) :
    PublicSceSymbolLink :=
  match decodePublicSceSymbolLocalId encodedLibraryId,
    decodePublicSceSymbolLocalId encodedModuleId with
  | some libraryId, some moduleId =>
    if modules.find moduleId = none then ⟨.moduleUnregistered, some moduleId, some libraryId⟩
    else if libraries.find libraryId = none then
      ⟨.libraryUnregistered, some moduleId, some libraryId⟩
    else ⟨.matched, some moduleId, some libraryId⟩
  | _, _ => ⟨.malformedId, none, none⟩

/-! ### Calls -/

/-- One of the two ledgers. -/
inductive PublicSceLedgerKind where
  | modules
  | libraries
  deriving DecidableEq

/-- A call of `record` on one of the ledgers. -/
structure PublicSceRecordCall where
  kind : PublicSceLedgerKind
  fields : PublicScePackedFields
  publishedName : List UInt8
  deriving DecidableEq

/-- What a ledger keeps of a call. -/
def PublicSceRecordCall.kept (call : PublicSceRecordCall) : PublicSceLocalIdRecord :=
  (call.fields.version, call.publishedName)

/-- The ledgers of an image. -/
structure PublicSceLedgers where
  modules : PublicSceLocalIdLedger
  libraries : PublicSceLocalIdLedger

namespace PublicSceLedgers

/-- Nothing is recorded. -/
def empty : PublicSceLedgers := ⟨.empty, .empty⟩

/-- The ledger of a kind. -/
def ledger (ledgers : PublicSceLedgers) : PublicSceLedgerKind → PublicSceLocalIdLedger
  | .modules => ledgers.modules
  | .libraries => ledgers.libraries

/-- A call, with what it returns. -/
def record (ledgers : PublicSceLedgers) (call : PublicSceRecordCall) :
    PublicSceLocalIdRecordResult × PublicSceLedgers :=
  match call.kind with
  | .modules =>
    let (result, modules) := ledgers.modules.record call.fields call.publishedName
    (result, { ledgers with modules := modules })
  | .libraries =>
    let (result, libraries) := ledgers.libraries.record call.fields call.publishedName
    (result, { ledgers with libraries := libraries })

/-- Calls one after the other. -/
def run (ledgers : PublicSceLedgers) :
    List PublicSceRecordCall → List PublicSceLocalIdRecordResult × PublicSceLedgers
  | [] => ([], ledgers)
  | call :: calls =>
    let (result, after) := ledgers.record call
    let (results, last) := run after calls
    (result :: results, last)

/-- `check_public_sce_symbol_link` against the ledgers. -/
def link (ledgers : PublicSceLedgers) (encodedLibraryId encodedModuleId : List UInt8) :
    PublicSceSymbolLink :=
  checkPublicSceSymbolLink encodedLibraryId encodedModuleId ledgers.libraries ledgers.modules

end PublicSceLedgers

/-- The call is one for an id, on a ledger. -/
def PublicSceRecordCall.isFor (kind : PublicSceLedgerKind) (localId : UInt16)
    (call : PublicSceRecordCall) : Bool :=
  decide (call.kind = kind ∧ call.fields.localId = localId)

/-- The version and the name of the first of the calls for an id. -/
def firstRecord (kind : PublicSceLedgerKind) (localId : UInt16) (calls : List PublicSceRecordCall) :
    Option PublicSceLocalIdRecord :=
  (calls.find? (PublicSceRecordCall.isFor kind localId)).map PublicSceRecordCall.kept

/-! ### One call -/

namespace PublicSceLocalIdLedger

section Record

variable {ledger : PublicSceLocalIdLedger} {fields : PublicScePackedFields}
  {publishedName : List UInt8}

theorem record_cases (ledger : PublicSceLocalIdLedger) (fields : PublicScePackedFields)
    (publishedName : List UInt8) :
    (ledger.find fields.localId = none ∧ ledger.record fields publishedName =
      (.inserted, ⟨ledger.records.insert fields.localId (fields.version, publishedName)⟩)) ∨
    (ledger.find fields.localId = some (fields.version, publishedName) ∧
      ledger.record fields publishedName = (.equivalentDuplicate, ledger)) ∨
    (∃ stored, ledger.find fields.localId = some stored ∧ stored ≠ (fields.version, publishedName) ∧
      ledger.record fields publishedName = (.conflictingReuse, ledger)) := by
  unfold record find
  cases hfound : ledger.records.lookup fields.localId with
  | none => exact .inl ⟨rfl, rfl⟩
  | some stored =>
    right
    by_cases hsame : stored = (fields.version, publishedName)
    · subst hsame
      exact .inl ⟨rfl, if_neg (by simp)⟩
    · refine .inr ⟨stored, rfl, hsame, if_pos ?_⟩
      by_contra hequal
      rw [not_or, not_not, not_not] at hequal
      exact hsame (Prod.ext hequal.1 hequal.2)

/-- **A call adds its record where there was none**, and changes nothing else. -/
theorem find_record (localId : UInt16) :
    (ledger.record fields publishedName).2.find localId =
      (ledger.find localId).or (if fields.localId = localId then
        some (fields.version, publishedName) else none) := by
  rcases record_cases ledger fields publishedName
    with ⟨hnone, hrecord⟩ | ⟨hsome, hrecord⟩ | ⟨stored, hsome, -, hrecord⟩
  · rw [hrecord]
    by_cases hid : fields.localId = localId
    · subst hid
      rw [hnone, if_pos rfl, Option.none_or]
      exact Finmap.lookup_insert _
    · rw [if_neg hid, Option.or_none]
      exact Finmap.lookup_insert_of_ne _ (Ne.symm hid)
  · rw [hrecord]
    by_cases hid : fields.localId = localId
    · rw [← hid, hsome, Option.some_or]
    · rw [if_neg hid, Option.or_none]
  · rw [hrecord]
    by_cases hid : fields.localId = localId
    · rw [← hid, hsome, Option.some_or]
    · rw [if_neg hid, Option.or_none]

theorem record_inserted_iff :
    (ledger.record fields publishedName).1 = .inserted ↔ ledger.find fields.localId = none := by
  rcases record_cases ledger fields publishedName
    with ⟨hfind, hrecord⟩ | ⟨hfind, hrecord⟩ | ⟨stored, hfind, -, hrecord⟩ <;>
    simp [hrecord, hfind]

theorem record_equivalentDuplicate_iff :
    (ledger.record fields publishedName).1 = .equivalentDuplicate ↔
    ledger.find fields.localId = some (fields.version, publishedName) := by
  rcases record_cases ledger fields publishedName
    with ⟨hfind, hrecord⟩ | ⟨hfind, hrecord⟩ | ⟨stored, hfind, hne, hrecord⟩
  · simp [hrecord, hfind]
  · simp [hrecord, hfind]
  · simp only [hrecord, hfind, Option.some.injEq, hne]
    exact iff_of_false PublicSceLocalIdRecordResult.noConfusion id

theorem record_conflictingReuse_iff : (ledger.record fields publishedName).1 = .conflictingReuse ↔
    ∃ stored, ledger.find fields.localId = some stored ∧
      stored ≠ (fields.version, publishedName) := by
  rcases record_cases ledger fields publishedName
    with ⟨hfind, hrecord⟩ | ⟨hfind, hrecord⟩ | ⟨stored, hfind, hne, hrecord⟩
  · simp [hrecord, hfind]
  · simp [hrecord, hfind]
  · rw [hrecord]
    exact iff_of_true rfl ⟨stored, hfind, hne⟩

theorem record_of_conflictingReuse
    (h : (ledger.record fields publishedName).1 = .conflictingReuse) :
    (ledger.record fields publishedName).2 = ledger := by
  rcases record_cases ledger fields publishedName
    with ⟨-, hrecord⟩ | ⟨-, hrecord⟩ | ⟨-, -, -, hrecord⟩
  · rw [hrecord] at h
    cases h
  · rw [hrecord]
  · rw [hrecord]

end Record

end PublicSceLocalIdLedger

/-! ### Any calls -/

namespace PublicSceLedgers

section Run

variable {ledgers : PublicSceLedgers} {call : PublicSceRecordCall}
  {calls calls' : List PublicSceRecordCall}

theorem record_fst :
    (ledgers.record call).1 =
      ((ledgers.ledger call.kind).record call.fields call.publishedName).1 := by
  unfold record
  cases call.kind <;> rfl

theorem ledger_record (kind : PublicSceLedgerKind) : (ledgers.record call).2.ledger kind =
    if call.kind = kind then ((ledgers.ledger kind).record call.fields call.publishedName).2
      else ledgers.ledger kind := by
  unfold record
  cases hcall : call.kind <;> cases kind <;> rfl

theorem ext_ledger {ledgers ledgers' : PublicSceLedgers}
    (h : ∀ kind, ledgers.ledger kind = ledgers'.ledger kind) :
    ledgers = ledgers' := by
  cases ledgers
  cases ledgers'
  exact PublicSceLedgers.mk.injEq .. ▸ ⟨h .modules, h .libraries⟩

section

variable (kind : PublicSceLedgerKind) (localId : UInt16)

theorem firstRecord_cons :
    firstRecord kind localId (call :: calls) =
      (if call.kind = kind ∧ call.fields.localId = localId then some call.kept else none).or
        (firstRecord kind localId calls) := by
  rw [firstRecord, List.find?_cons]
  by_cases hfor : call.kind = kind ∧ call.fields.localId = localId
  · rw [if_pos hfor, show call.isFor kind localId = true from decide_eq_true hfor, Option.some_or]
    rfl
  · rw [if_neg hfor, show call.isFor kind localId = false from decide_eq_false hfor, Option.none_or]
    rfl

theorem find_record :
    ((ledgers.record call).2.ledger kind).find localId =
      ((ledgers.ledger kind).find localId).or
        (if call.kind = kind ∧ call.fields.localId = localId then some call.kept else none) := by
  rw [ledger_record]
  by_cases hkind : call.kind = kind
  · rw [if_pos hkind, PublicSceLocalIdLedger.find_record]
    by_cases hid : call.fields.localId = localId
    · rw [if_pos hid, if_pos ⟨hkind, hid⟩]
      rfl
    · rw [if_neg hid, if_neg fun hfor => hid hfor.2]
  · rw [if_neg hkind, if_neg fun hfor => hkind hfor.1, Option.or_none]

/-- **What a ledger has after any calls**: what it had, and otherwise the first record that was made
for the id. -/
theorem find_run :
    ((ledgers.run calls).2.ledger kind).find localId =
      ((ledgers.ledger kind).find localId).or (firstRecord kind localId calls) := by
  induction calls generalizing ledgers with
  | nil => exact (Option.or_none).symm
  | cons call calls ih =>
    rw [run]
    dsimp only
    rw [ih, find_record, firstRecord_cons, Option.or_assoc]

theorem find_run_empty :
    ((empty.run calls).2.ledger kind).find localId = firstRecord kind localId calls := by
  have hempty : (empty.ledger kind).find localId = none := by
    cases kind <;> exact Finmap.lookup_empty localId
  rw [find_run, hempty, Option.none_or]

end

/-- No call of a run conflicts. -/
def NoConflict (ledgers : PublicSceLedgers) (calls : List PublicSceRecordCall) : Prop :=
  ∀ result ∈ (ledgers.run calls).1, result ≠ .conflictingReuse

/-- After a call that does not conflict, the ledger has its record. -/
theorem record_ne_conflictingReuse_iff : (ledgers.record call).1 ≠ .conflictingReuse ↔
    ((ledgers.record call).2.ledger call.kind).find call.fields.localId = some call.kept := by
  rw [record_fst, Ne, PublicSceLocalIdLedger.record_conflictingReuse_iff, find_record,
    if_pos ⟨rfl, rfl⟩]
  cases (ledgers.ledger call.kind).find call.fields.localId with
  | none => simp
  | some stored => simp [PublicSceRecordCall.kept]

/-- **No call conflicts where in the end the ledgers have the record of every call.** -/
theorem noConflict_iff : NoConflict ledgers calls ↔
    ∀ call ∈ calls, ((ledgers.run calls).2.ledger call.kind).find call.fields.localId =
      some call.kept := by
  induction calls generalizing ledgers with
  | nil => simp [NoConflict, run]
  | cons call calls ih =>
    have hrest : NoConflict ledgers (call :: calls) ↔
        (ledgers.record call).1 ≠ .conflictingReuse ∧ NoConflict (ledgers.record call).2 calls :=
          List.forall_mem_cons
    rw [hrest, ih, List.forall_mem_cons, record_ne_conflictingReuse_iff]
    refine and_congr_left fun _ => ?_
    rw [run]
    dsimp only
    rw [find_run]
    have hrecorded : (((ledgers.record call).2.ledger call.kind).find call.fields.localId).isSome =
        true := by
      rw [find_record, if_pos ⟨rfl, rfl⟩, Option.isSome_or, Option.isSome_some, Bool.or_true]
    obtain ⟨stored, hstored⟩ := Option.isSome_iff_exists.mp hrecorded
    rw [hstored, Option.some_or]

/-! ### The order of the calls -/

/-- Where all elements that are looked for have one image, their order does not matter. -/
theorem map_find?_eq_of_perm {α β : Type} {p : α → Bool} {f : α → β} {xs ys : List α}
    (hperm : xs.Perm ys) (hone : ∀ x ∈ xs, ∀ y ∈ xs, p x = true → p y = true → f x = f y) :
    (xs.find? p).map f = (ys.find? p).map f := by
  cases hx : xs.find? p with
  | none =>
    have hy : ys.find? p = none := by
      rw [List.find?_eq_none] at hx ⊢
      exact fun y hy => hx y (hperm.mem_iff.mpr hy)
    rw [hy]
  | some x =>
    cases hy : ys.find? p with
    | none =>
      exact absurd (List.find?_some hx)
        (List.find?_eq_none.mp hy x (hperm.mem_iff.mp (List.mem_of_find?_eq_some hx)))
    | some y =>
      have hsame :=
        hone x (List.mem_of_find?_eq_some hx) y (hperm.mem_iff.mpr (List.mem_of_find?_eq_some hy))
        (List.find?_some hx) (List.find?_some hy)
      rw [Option.map_some, Option.map_some, hsame]

/-- **Without conflicts the order of the calls does not matter**: it leads to the same ledgers. -/
theorem run_of_perm (hperm : calls.Perm calls') (hcalls : NoConflict empty calls) :
    (empty.run calls').2 = (empty.run calls).2 ∧ NoConflict empty calls' := by
  have hkept := noConflict_iff.mp hcalls
  have hfirst : ∀ kind localId, firstRecord kind localId calls =
      firstRecord kind localId calls' := by
    intro kind localId
    refine map_find?_eq_of_perm hperm fun x hx y hy hxfor hyfor => ?_
    obtain ⟨hxkind, hxid⟩ := of_decide_eq_true hxfor
    obtain ⟨hykind, hyid⟩ := of_decide_eq_true hyfor
    have hxkept := hkept x hx
    have hykept := hkept y hy
    rw [hxkind, hxid] at hxkept
    rw [hykind, hyid, hxkept] at hykept
    exact Option.some.inj hykept
  have hsame : (empty.run calls').2 = (empty.run calls).2 := by
    refine ext_ledger fun kind => PublicSceLocalIdLedger.ext_find fun localId => ?_
    rw [find_run_empty, find_run_empty, hfirst]
  refine ⟨hsame, noConflict_iff.mpr fun call hcall => ?_⟩
  rw [hsame]
  exact hkept call (hperm.mem_iff.mpr hcall)

theorem firstRecord_eq_none_iff {kind : PublicSceLedgerKind} {localId : UInt16} :
    firstRecord kind localId calls = none ↔ ¬ ∃ call ∈ calls, call.kind = kind ∧
    call.fields.localId = localId := by
  rw [firstRecord, Option.map_eq_none_iff, List.find?_eq_none, not_exists]
  refine forall_congr' fun call => ?_
  rw [not_and]
  exact imp_congr_right fun _ => not_congr decide_eq_true_iff

/-- What a link comes to, given whether the ids are registered. -/
theorem link_congr {ledgers' : PublicSceLedgers}
    (h : ∀ kind localId, (ledgers.ledger kind).find localId = none ↔
      (ledgers'.ledger kind).find localId = none) (encodedLibraryId encodedModuleId : List UInt8) :
    ledgers.link encodedLibraryId encodedModuleId =
      ledgers'.link encodedLibraryId encodedModuleId := by
  unfold link checkPublicSceSymbolLink
  cases decodePublicSceSymbolLocalId encodedLibraryId with
  | none => rfl
  | some libraryId =>
    cases decodePublicSceSymbolLocalId encodedModuleId with
    | none => rfl
    | some moduleId =>
      have hmodule : ledgers.modules.find moduleId = none ↔ ledgers'.modules.find moduleId = none :=
        h .modules moduleId
      have hlibrary : ledgers.libraries.find libraryId = none ↔
          ledgers'.libraries.find libraryId = none :=
        h .libraries libraryId
      simp only [hmodule, hlibrary]

theorem link_matched_iff {encodedLibraryId encodedModuleId : List UInt8} :
    (ledgers.link encodedLibraryId encodedModuleId).code = .matched ↔
      ∃ libraryId moduleId, decodePublicSceSymbolLocalId encodedLibraryId = some libraryId ∧
        decodePublicSceSymbolLocalId encodedModuleId = some moduleId ∧
        (ledgers.ledger .libraries).find libraryId ≠ none ∧
        (ledgers.ledger .modules).find moduleId ≠ none := by
  unfold link checkPublicSceSymbolLink
  cases decodePublicSceSymbolLocalId encodedLibraryId with
  | none =>
    refine iff_of_false PublicSceSymbolLinkCode.noConfusion ?_
    rintro ⟨_, _, hdecoded, -⟩
    cases hdecoded
  | some libraryId =>
    cases decodePublicSceSymbolLocalId encodedModuleId with
    | none =>
      refine iff_of_false PublicSceSymbolLinkCode.noConfusion ?_
      rintro ⟨_, _, -, hdecoded, -⟩
      cases hdecoded
    | some moduleId =>
      dsimp only
      split_ifs with hmodule hlibrary
      · refine iff_of_false not_false ?_
        rintro ⟨_, _, -, hdecoded, -, hfound⟩
        cases hdecoded
        exact hfound hmodule
      · refine iff_of_false not_false ?_
        rintro ⟨_, _, hdecoded, -, hfound, -⟩
        cases hdecoded
        exact hfound hlibrary
      · exact iff_of_true rfl ⟨libraryId, moduleId, rfl, rfl, hlibrary, hmodule⟩

end Run

end PublicSceLedgers

/-! ### Every history -/

/-- **Local ids are canonical, and the first record of an id is the one that counts.** After any
calls on the two ledgers: each has, for an id, the first record that was made for it; the next call
returns by that record, and changes nothing where it conflicts; a link is a match where both texts
are canonical numerals of recorded ids. No two texts have one id, the order of the calls does not
matter to a link, and without conflicts not to the ledgers either. -/
theorem publicSceLocalIds_firstRecord (calls : List PublicSceRecordCall) :
    (∀ kind localId, ((PublicSceLedgers.empty.run calls).2.ledger kind).find localId =
      firstRecord kind localId calls) ∧
    (∀ call : PublicSceRecordCall,
      let after := (PublicSceLedgers.empty.run calls).2
      let first := firstRecord call.kind call.fields.localId calls
      ((after.record call).1 = .inserted ↔ first = none) ∧
      ((after.record call).1 = .equivalentDuplicate ↔ first = some call.kept) ∧
      ((after.record call).1 = .conflictingReuse ↔
        ∃ stored, first = some stored ∧ stored ≠ call.kept) ∧
      ((after.record call).1 = .conflictingReuse → (after.record call).2 = after)) ∧
    (∀ encodedLibraryId encodedModuleId,
      ((PublicSceLedgers.empty.run calls).2.link encodedLibraryId encodedModuleId).code = .matched ↔
        ∃ libraryId moduleId : UInt16,
          CanonicalNumeral localIdAlphabet encodedLibraryId libraryId.toNat ∧
          CanonicalNumeral localIdAlphabet encodedModuleId moduleId.toNat ∧
          (∃ call ∈ calls, call.kind = .libraries ∧ call.fields.localId = libraryId) ∧
          ∃ call ∈ calls, call.kind = .modules ∧ call.fields.localId = moduleId) ∧
    (∀ encoded encoded' localId, decodePublicSceSymbolLocalId encoded = some localId →
      decodePublicSceSymbolLocalId encoded' = some localId → encoded = encoded') ∧
    (∀ calls' : List PublicSceRecordCall, calls.Perm calls' →
      (∀ encodedLibraryId encodedModuleId,
        (PublicSceLedgers.empty.run calls').2.link encodedLibraryId encodedModuleId =
          (PublicSceLedgers.empty.run calls).2.link encodedLibraryId encodedModuleId) ∧
      (PublicSceLedgers.NoConflict .empty calls →
        (PublicSceLedgers.empty.run calls').2 = (PublicSceLedgers.empty.run calls).2 ∧
          PublicSceLedgers.NoConflict .empty calls')) := by
  refine ⟨fun kind localId => PublicSceLedgers.find_run_empty kind localId, fun call => ?_, ?_, ?_,
    ?_⟩
  · dsimp only
    rw [← PublicSceLedgers.find_run_empty, PublicSceLedgers.record_fst]
    refine ⟨PublicSceLocalIdLedger.record_inserted_iff,
      PublicSceLocalIdLedger.record_equivalentDuplicate_iff,
      PublicSceLocalIdLedger.record_conflictingReuse_iff, fun hconflict => ?_⟩
    refine PublicSceLedgers.ext_ledger fun kind => ?_
    rw [PublicSceLedgers.ledger_record]
    split_ifs with hkind
    · subst hkind
      exact PublicSceLocalIdLedger.record_of_conflictingReuse hconflict
    · rfl
  · intro encodedLibraryId encodedModuleId
    rw [PublicSceLedgers.link_matched_iff]
    refine exists_congr fun libraryId => exists_congr fun moduleId => ?_
    rw [decodePublicSceSymbolLocalId_eq_some, decodePublicSceSymbolLocalId_eq_some,
      PublicSceLedgers.find_run_empty, PublicSceLedgers.find_run_empty, Ne,
      PublicSceLedgers.firstRecord_eq_none_iff, not_not, Ne,
      PublicSceLedgers.firstRecord_eq_none_iff, not_not]
  · intro encoded encoded' localId h h'
    rw [decodePublicSceSymbolLocalId_eq_some] at h h'
    exact h.text_unique (by rw [length_localIdAlphabet]; decide) h'
  · intro calls' hperm
    refine ⟨PublicSceLedgers.link_congr fun kind localId => ?_, PublicSceLedgers.run_of_perm hperm⟩
    rw [PublicSceLedgers.find_run_empty, PublicSceLedgers.find_run_empty,
      PublicSceLedgers.firstRecord_eq_none_iff, PublicSceLedgers.firstRecord_eq_none_iff]
    simp only [hperm.mem_iff]

end Astraea.Loader
