import TypeAtlas.Descriptor.Outline
import TypeAtlas.Proofs.Contract

/-!
Erased descriptors are faithful. A copy counts the members that it holds and takes its kind from its sort,
so nothing but the contract makes it answer as the original does. Two descriptors that answer alike are
validated alike and outlined alike, whatever the destination refuses, and the copies of a descriptor that
keeps the contract answer like it.
-/

namespace TypeAtlas

/-! ### Discriminants aside -/

/-- A variant as the general interface of variants shows it: who does not know the type of the
enumeration cannot ask for a discriminant. -/
def VariantInfo.untyped (v : VariantInfo) : VariantInfo :=
  { v with discriminant := none }

def EnumInfo.untyped (e : EnumInfo) : EnumInfo :=
  { e with variants := e.variants.map VariantInfo.untyped }

namespace Contract

theorem checkValue_untyped (path : List Text) (integer : Bool) (earlier : List VariantInfo)
    (v : VariantInfo) :
    checkValue path integer (earlier.map VariantInfo.untyped) v.untyped =
      checkValue path integer earlier v := by
  have found (raw : UInt64) :
      (earlier.map VariantInfo.untyped).find? (·.raw == some raw) =
        (earlier.find? (·.raw == some raw)).map VariantInfo.untyped :=
    List.find?_map
  unfold checkValue
  rw [show v.untyped.raw = v.raw from rfl]
  cases integer with
  | false => cases v.raw <;> rfl
  | true =>
    cases v.raw with
    | none => rfl
    | some raw =>
      simp only [found]
      cases earlier.find? (·.raw == some raw) <;> rfl

theorem checkVariant_untyped (e : EnumInfo) (earlier : List VariantInfo) (position : Nat)
    (v : VariantInfo) :
    checkVariant e.untyped (earlier.map VariantInfo.untyped) position v.untyped =
      checkVariant e earlier position v := by
  have named : (earlier.map VariantInfo.untyped).any (·.name == v.untyped.name) =
      earlier.any (·.name == v.name) :=
    List.any_map
  simp only [checkVariant, checkValue_untyped, named]
  rfl

theorem checkVariantsFrom_untyped (e : EnumInfo) (earlier : List VariantInfo) (position : Nat)
    (variants : List VariantInfo) :
    checkVariantsFrom e.untyped (earlier.map VariantInfo.untyped) position
        (variants.map VariantInfo.untyped) =
      checkVariantsFrom e earlier position variants := by
  induction variants generalizing earlier position with
  | nil => rfl
  | cons v rest ih =>
    rw [List.map_cons, checkVariantsFrom, checkVariantsFrom, checkVariant_untyped,
      ← List.map_cons, ih]

end Contract

theorem EnumInfo.validate_untyped (e : EnumInfo) : e.untyped.validate = e.validate := by
  have variants := Contract.checkVariantsFrom_untyped e [] 0 e.variants
  have same : Contract.checkEnum e.untyped = Contract.checkEnum e := by
    unfold Contract.checkEnum
    rw [← variants, show e.untyped.variants.length = e.variants.length from List.length_map _]
    rfl
  rw [validate, validate, same]
  rfl

theorem Outline.writeEnum_untyped (e : EnumInfo) : writeEnum e.untyped = writeEnum e := by
  have each (variants : List VariantInfo) :
      (variants.map VariantInfo.untyped).forM writeVariant = variants.forM writeVariant := by
    induction variants with
    | nil => rfl
    | cons v rest ih =>
      rw [List.map_cons, List.forM, List.forM, ih]
      rfl
  rw [writeEnum, writeEnum, ← each e.variants]
  rfl

/-! ### Answering alike -/

namespace Descriptor

/-- Two descriptors whose answers are the same, members and the members of variants included. -/
structure Alike (m d : Descriptor) : Prop where
  kind : m.kind = d.kind
  name : m.name = d.name
  attrs : m.attrs = d.attrs
  type : m.type = d.type
  struct : m.struct? = d.struct?
  enum : m.enum?.map EnumInfo.untyped = d.enum?.map EnumInfo.untyped
  function : m.function? = d.function?

theorem Alike.refl (d : Descriptor) : Alike d d := by
  constructor <;> rfl

theorem validate?_eq (d : Descriptor) :
    d.validate? = (d.struct?.map StructInfo.validate <|>
      (d.enum?.map EnumInfo.untyped).map EnumInfo.validate <|>
      d.function?.map FunctionInfo.validate) := by
  cases d with
  | enum e => exact congrArg some e.validate_untyped.symm
  | erasedEnum m => exact congrArg some m.info.validate_untyped.symm
  | _ => rfl

theorem Alike.validate? {m d : Descriptor} (alike : Alike m d) : m.validate? = d.validate? := by
  rw [validate?_eq, validate?_eq, alike.struct, alike.enum, alike.function]

theorem Alike.write? {m d : Descriptor} (alike : Alike m d) :
    Outline.write? m = Outline.write? d := by
  have enums (d : Descriptor) :
      d.enum?.map Outline.writeEnum = (d.enum?.map EnumInfo.untyped).map Outline.writeEnum := by
    cases d.enum? with
    | none => rfl
    | some e => exact congrArg some (Outline.writeEnum_untyped e).symm
  unfold Outline.write?
  rw [alike.kind, alike.struct, enums m, alike.enum, ← enums d, alike.function]

/-- A descriptor that keeps the contract can be outlined. -/
theorem exists_write? {d : Descriptor} (kept : d.validate? = some (.ok ())) :
    ∃ w, Outline.write? d = some w := by
  have structs {d : Descriptor} {s : StructInfo} (kind : d.kind = s.kind) (found : d.struct? = some s)
      (valid : s.validate = .ok ()) : ∃ w, Outline.write? d = some w := by
    have fields := StructInfo.hasFields_of_validate valid
    unfold Outline.write?
    rw [kind, found]
    cases same : s.kind <;> simp [same, Kind.hasFields] at fields ⊢
  cases d with
  | struct s => exact structs rfl rfl (Option.some.inj kept)
  | erasedStruct m => exact structs rfl rfl (Option.some.inj kept)
  | enum e =>
    have kind : e.kind = .enum := EnumInfo.kind_of_validate (Option.some.inj kept)
    exact ⟨_, by simp only [Outline.write?, Descriptor.kind, kind]; rfl⟩
  | erasedEnum m => exact ⟨_, rfl⟩
  | function f =>
    have kind : f.kind = .function := FunctionInfo.kind_of_validate (Option.some.inj kept)
    exact ⟨_, by simp only [Outline.write?, Descriptor.kind, kind]; rfl⟩
  | erasedFunction m => exact ⟨_, rfl⟩
  | bare kind name attrs => cases kept

end Descriptor

/-! ### Copies -/

theorem StructInfo.info_erase {s : StructInfo} (kept : s.validate = .ok ()) : s.erase.info = s := by
  obtain ⟨_, _, _, fields⟩ := validate_iff.mp kept
  have count := fields.counted
  cases s
  simp only [ErasedStruct.info, erase, mk.injEq, true_and, and_true]
  exact count.symm

theorem VariantInfo.info_erase {v : VariantInfo} (keep : Bool) (counted : v.count = v.fields.length) :
    (v.erase keep).info = if keep then v else v.untyped := by
  cases v
  cases keep <;> simp_all [ErasedVariant.info, erase, untyped]

namespace EnumInfo

theorem info_eraseKeeping {e : EnumInfo} (keep : Bool) (kept : e.validate = .ok ()) :
    (e.eraseKeeping keep).info = if keep then e else e.untyped := by
  have kind := kind_of_validate kept
  have count := count_of_validate kept
  have variants : (e.variants.map (VariantInfo.erase keep)).map ErasedVariant.info =
      e.variants.map fun v => if keep then v else v.untyped := by
    rw [List.map_map]
    apply List.map_congr_left
    intro v member
    exact VariantInfo.info_erase keep (fieldsKept_of_validate kept v member).counted
  cases e
  cases keep <;> simp_all [ErasedEnum.info, eraseKeeping, untyped]

theorem untyped_untyped (e : EnumInfo) : e.untyped.untyped = e.untyped := by
  simp [untyped, VariantInfo.untyped]

theorem untyped_info_eraseKeeping {e : EnumInfo} (keep : Bool) (kept : e.validate = .ok ()) :
    (e.eraseKeeping keep).info.untyped = e.untyped := by
  rw [info_eraseKeeping keep kept]
  cases keep with
  | false => exact e.untyped_untyped
  | true => rfl

end EnumInfo

theorem FunctionInfo.info_erase {f : FunctionInfo} (kept : f.validate = .ok ()) : f.erase.info = f := by
  have kind := kind_of_validate kept
  have count := count_of_validate kept
  cases f
  simp_all [ErasedFunction.info, erase]

namespace Descriptor

/-- The copies of a descriptor: the erased one and, for an enumeration whose type is known, the one that
keeps the discriminants. -/
inductive IsCopy : Descriptor → Descriptor → Prop
  | erased {m d : Descriptor} : d.erase? = some m → IsCopy m d
  | typed (e : EnumInfo) : IsCopy (.erasedEnum e.eraseTyped) (.enum e)

theorem IsCopy.alike {m d : Descriptor} (copy : IsCopy m d) (kept : d.validate? = some (.ok ())) :
    Alike m d := by
  -- A copy recomputes kinds and counts; only the contract makes them those of the original.
  have enums (e : EnumInfo) (keep : Bool) (valid : e.validate = .ok ()) :
      Alike (.erasedEnum (e.eraseKeeping keep)) (.enum e) := by
    have kind : e.kind = .enum := EnumInfo.kind_of_validate valid
    exact ⟨kind.symm, rfl, rfl, rfl, rfl,
      congrArg some (EnumInfo.untyped_info_eraseKeeping keep valid), rfl⟩
  cases copy with
  | typed e => exact enums e true (Option.some.inj kept)
  | erased copied =>
    cases d with
    | struct s =>
      cases copied
      exact ⟨rfl, rfl, rfl, rfl,
        congrArg some (StructInfo.info_erase (Option.some.inj kept)), rfl, rfl⟩
    | enum e =>
      cases copied
      exact enums e false (Option.some.inj kept)
    | function f =>
      cases copied
      have valid : f.validate = .ok () := Option.some.inj kept
      have kind : f.kind = .function := FunctionInfo.kind_of_validate valid
      exact ⟨kind.symm, rfl, rfl, rfl, rfl, rfl, congrArg some (FunctionInfo.info_erase valid)⟩
    | bare kind name attrs => cases kept
    | _ =>
      cases copied
      exact Alike.refl _

theorem IsCopy.erase? {m d : Descriptor} (copy : IsCopy m d) : m.erase? = some m := by
  cases copy with
  | typed e => rfl
  | erased copied =>
    cases d <;> cases copied <;> rfl

/-- The copies of a descriptor that keeps the contract keep it too, answer every question alike, are
outlined alike on every destination, and are not copied again. Only a copy made with the type of the
enumeration also answers for the discriminants. -/
theorem copy_is_faithful {d : Descriptor} (kept : d.validate? = some (.ok ())) :
    (∃ m, d.erase? = some m) ∧
      (∀ e, d = .enum e → e.eraseTyped.info = e) ∧
      ∀ m, IsCopy m d →
        m.validate? = some (.ok ()) ∧ Alike m d ∧ m.erase? = some m ∧
          ∃ w w', Outline.write? d = some w ∧ Outline.write? m = some w' ∧
            ∀ sink : Sink, w'.run.run sink = w.run.run sink := by
  refine ⟨?_, ?_, ?_⟩
  · cases d with
    | bare kind name attrs => cases kept
    | _ => exact ⟨_, rfl⟩
  · rintro e rfl
    exact EnumInfo.info_eraseKeeping true (Option.some.inj kept)
  · intro m copy
    have alike := copy.alike kept
    obtain ⟨w, outlined⟩ := exists_write? kept
    refine ⟨alike.validate?.trans kept, alike, copy.erase?, w, w, outlined, ?_, fun sink => rfl⟩
    rw [alike.write?, outlined]

def beaconType : TypeRep :=
  .named ⟨"example.com/atlas", "atlas", "Beacon"⟩ (.primitive .emptyInterface)

def flashType : TypeRep :=
  .named ⟨"example.com/atlas", "atlas", "Flash"⟩
    (.struct [⟨"Count", .primitive .int32, []⟩, ⟨"Period", .primitive .int64, []⟩])

def darkType : TypeRep :=
  .named ⟨"example.com/atlas", "atlas", "Dark"⟩ (.struct [])

/-- A sum type with a variant that has fields, one that has none, and discriminants for both. -/
def beaconInfo : EnumInfo where
  kind := .enum
  name := "example.com/atlas.Beacon"
  attrs := [.flag "sum"]
  type := some beaconType
  integer := some TypeRep.noType
  count := 2
  variants := [
    { index := 0
      name := "Flash"
      attrs := []
      owner := some beaconType
      type := some flashType
      count := 2
      fields := [
        ⟨0, "Count", 0, [], some flashType, some (.primitive .int32)⟩,
        ⟨1, "Period", 8, [], some flashType, some (.primitive .int64)⟩]
      listType := some (.struct [⟨"F0", .primitive .int32, []⟩, ⟨"F1", .primitive .int64, []⟩])
      raw := none
      discriminant := some ⟨7⟩ },
    { index := 1
      name := "Dark"
      attrs := []
      owner := some beaconType
      type := some darkType
      count := 0
      fields := []
      listType := some TypeRep.noType
      raw := none
      discriminant := some ⟨9⟩ }]
  listType := some (.struct [⟨"V0", flashType, []⟩, ⟨"V1", darkType, []⟩])

theorem beacon_copied :
    (Descriptor.enum beaconInfo).validate? = some (.ok ()) ∧ beaconInfo.eraseTyped.info = beaconInfo ∧
      (Descriptor.erasedEnum beaconInfo.erase).validate? = some (.ok ()) ∧
      beaconInfo.erase.info ≠ beaconInfo := by
  have kept : (Descriptor.enum beaconInfo).validate? = some (.ok ()) := rfl
  obtain ⟨_, typed, copies⟩ := copy_is_faithful kept
  exact ⟨kept, typed beaconInfo rfl, (copies _ (.erased rfl)).1, by decide⟩

end Descriptor

end TypeAtlas
