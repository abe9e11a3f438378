import TypeAtlas.Proofs.Erasure

/-!
Look-ups by name and by value. A look-up answers with the first member that fits, so what it is worth
depends on the contract: no two variants share a name or a value, and no two fields share a name unless they
have none. In the copies of a descriptor that keeps the contract, every member is found, by what it is
called and by nothing else.
-/

namespace TypeAtlas

/-! ### Members with keys of their own -/

section Keys

variable {α κ : Type} {key : α → κ} {blank k : κ} {members : List α}

/-- Where no two members share a key, a member is found by the key that it has. -/
theorem find?_of_distinct (distinct : members.Pairwise fun x y => key y = blank ∨ key y ≠ key x) {x : α}
    (member : x ∈ members) (keyed : key x ≠ blank) {test : α → Bool}
    (tests : ∀ y, test y = true ↔ key y = key x) : members.find? test = some x := by
  induction members with
  | nil => cases member
  | cons first rest ih =>
    obtain ⟨others, later⟩ := List.pairwise_cons.mp distinct
    cases member with
    | head => exact List.find?_cons_of_pos ((tests x).mpr rfl)
    | tail _ further =>
      have different : key x ≠ key first := (others x further).resolve_left keyed
      rw [List.find?_cons_of_neg fun passes => different ((tests first).mp passes).symm]
      exact ih later further

variable [BEq κ] [LawfulBEq κ]

theorem find?_eq_some_iff_of_distinct
    (distinct : members.Pairwise fun x y => key y = blank ∨ key y ≠ key x) {x : α} (member : x ∈ members)
    (keyed : key x = k → k ≠ blank) : members.find? (key · == k) = some x ↔ key x = k := by
  constructor
  · intro found
    have passes := List.find?_some found
    exact beq_iff_eq.mp passes
  · rintro rfl
    exact find?_of_distinct distinct member (keyed rfl) fun _ => beq_iff_eq

theorem find?_eq_none_iff_of_key : members.find? (key · == k) = none ↔ k ∉ members.map key := by
  simp only [List.find?_eq_none, beq_iff_eq, List.mem_map, not_exists, not_and]

end Keys

/-! ### Fields -/

/-- The copy has the fields of the struct, and a name leads to the field that it is the name of. -/
structure ErasedStruct.LooksUp (m : ErasedStruct) (s : StructInfo) : Prop where
  fields : m.fields = s.fields
  found : ∀ (i : Nat) f, s.fields[i]? = some f → f.index = i ∧
    ∀ name, name ≠ [] → (m.field? name = some f ↔ f.name = name)
  missed : ∀ name, m.field? name = none ↔ ∀ f ∈ s.fields, f.name ≠ name

theorem ErasedStruct.looksUp_info {m : ErasedStruct} (valid : m.info.validate = .ok ()) :
    m.LooksUp m.info := by
  obtain ⟨_, _, _, kept⟩ := StructInfo.validate_iff.mp valid
  constructor
  case fields => rfl
  case found =>
    intro i f place
    refine ⟨(kept.kept i f place).index, fun name named => ?_⟩
    exact find?_eq_some_iff_of_distinct kept.distinct (List.mem_of_getElem? place) fun _ => named
  case missed =>
    intro name
    rw [field?, find?_eq_none_iff_of_key]
    simp only [info, List.mem_map, not_exists, not_and, ne_eq]

/-! ### Variants -/

/-- The copy has a counterpart of every variant at the place of the variant. The name of the variant leads to
it, and so does its value if it has one, as in an enumeration over integers all variants do. -/
structure ErasedEnum.LooksUp (m : ErasedEnum) (e : EnumInfo) : Prop where
  length : m.variants.length = e.variants.length
  found : ∀ (i : Nat) v w, e.variants[i]? = some v → m.variants[i]? = some w →
    w.index = i ∧ w.info.untyped = v.untyped ∧ (∀ name, m.variant? name = some w ↔ v.name = name) ∧
      ∀ raw, m.variantByValue? raw = some w ↔ v.raw = some raw
  missedName : ∀ name, m.variant? name = none ↔ ∀ v ∈ e.variants, v.name ≠ name
  missedValue : ∀ raw, m.variantByValue? raw = none ↔ ∀ v ∈ e.variants, v.raw ≠ some raw
  valued : e.integer ≠ some TypeRep.noType → ∀ v ∈ e.variants, ∃ raw, v.raw = some raw

/-- What is found in a copy is found for all descriptors that answer like it, discriminants aside. -/
theorem ErasedEnum.looksUp_of_alike {m : ErasedEnum} {e : EnumInfo} (valid : m.info.validate = .ok ())
    (alike : m.info.untyped = e.untyped) : m.LooksUp e := by
  have kept := EnumInfo.validate_iff.mp valid
  have distinctNames : m.variants.Pairwise fun u v => v.name = [] ∨ v.name ≠ u.name :=
    (List.pairwise_map.mp kept.names).imp .inr
  have distinctValues : m.variants.Pairwise fun u v => v.raw = none ∨ v.raw ≠ u.raw :=
    List.pairwise_map.mp kept.values
  have counterparts : (m.variants.map ErasedVariant.info).map VariantInfo.untyped =
      e.variants.map VariantInfo.untyped :=
    congrArg EnumInfo.variants alike
  have names : m.variants.map ErasedVariant.name = e.variants.map VariantInfo.name := by
    have named := congrArg (List.map VariantInfo.name) counterparts
    rwa [List.map_map, List.map_map, List.map_map] at named
  have values : m.variants.map ErasedVariant.raw = e.variants.map VariantInfo.raw := by
    have valued := congrArg (List.map VariantInfo.raw) counterparts
    rwa [List.map_map, List.map_map, List.map_map] at valued
  constructor
  case length => simpa using congrArg List.length counterparts
  case found =>
    intro i v w place place'
    have member := List.mem_of_getElem? place'
    have untyped : w.info.untyped = v.untyped := by
      have counterpart := congrArg (·[i]?) counterparts
      simpa [place, place'] using counterpart
    have name : w.name = v.name := congrArg VariantInfo.name untyped
    have raw : w.raw = v.raw := congrArg VariantInfo.raw untyped
    have keeps := kept.kept i w.info (by simp only [info, List.getElem?_map, place', Option.map_some])
    refine ⟨keeps.index, untyped, fun n => ?_, fun n => ?_⟩
    · rw [← name]
      exact find?_eq_some_iff_of_distinct distinctNames member fun same => same ▸ keeps.named
    · rw [← raw]
      exact find?_eq_some_iff_of_distinct distinctValues member fun _ => Option.some_ne_none n
  case missedName =>
    intro name
    rw [variant?, find?_eq_none_iff_of_key, names]
    simp only [List.mem_map, not_exists, not_and, ne_eq]
  case missedValue =>
    intro raw
    rw [variantByValue?, find?_eq_none_iff_of_key, values]
    simp only [List.mem_map, not_exists, not_and, ne_eq]
  case valued =>
    intro integer v member
    have copied : v.raw ∈ m.variants.map ErasedVariant.raw := by
      rw [values]
      exact List.mem_map_of_mem member
    obtain ⟨w, member', raw⟩ := List.mem_map.mp copied
    obtain ⟨i, place⟩ := List.getElem?_of_mem member'
    have keeps := kept.kept i w.info (by simp only [info, List.getElem?_map, place, Option.map_some])
    have same : e.integer = m.integer := (congrArg EnumInfo.integer alike).symm
    rw [same] at integer
    rw [← raw]
    exact Option.ne_none_iff_exists'.mp (keeps.valued.mpr integer)

/-! ### Copies -/

namespace Descriptor

/-- Look-ups in the copies of descriptors that keep the contract are exact. -/
theorem lookups_exact {d : Descriptor} (kept : d.validate? = some (.ok ())) :
    (∀ m s, IsCopy (.erasedStruct m) d → d.struct? = some s → m.LooksUp s) ∧
      ∀ m e, IsCopy (.erasedEnum m) d → d.enum? = some e → m.LooksUp e := by
  constructor
  · intro m s copy described
    have alike := copy.alike kept
    obtain rfl : m.info = s := Option.some.inj (alike.struct.trans described)
    exact ErasedStruct.looksUp_info (Option.some.inj (alike.validate?.trans kept))
  · intro m e copy described
    have alike := copy.alike kept
    have untyped := alike.enum
    rw [described] at untyped
    exact ErasedEnum.looksUp_of_alike (Option.some.inj (alike.validate?.trans kept))
      (Option.some.inj untyped)

def tideType : TypeRep :=
  .named ⟨"example.com/atlas", "atlas", "Tide"⟩ (.primitive .int8)

/-- The variant of the tide at a place, with a value that is a word. -/
def tideVariant (index : Int) (name : Text) (raw : UInt64) : VariantInfo where
  index := index
  name := name
  attrs := []
  owner := some tideType
  type := some TypeRep.noType
  count := 0
  fields := []
  listType := some TypeRep.noType
  raw := some raw
  discriminant := some ⟨raw⟩

/-- Integers with a sign; what is below zero is a large word. -/
def tide : EnumInfo where
  kind := .enum
  name := "example.com/atlas.Tide"
  attrs := []
  type := some tideType
  integer := some (.primitive .int8)
  count := 2
  variants := [tideVariant 0 "Flood" 1, tideVariant 1 "Ebb" 0xFFFFFFFFFFFFFFFF]
  listType := some (.struct [⟨"V0", .struct [], []⟩, ⟨"V1", .struct [], []⟩])

def buoyType : TypeRep :=
  .struct [⟨"_", .primitive .uint16, []⟩, ⟨"Depth", .primitive .uint16, []⟩, ⟨"_", .primitive .uint32, []⟩]

/-- A struct with a named field between two without names. -/
def buoy : StructInfo where
  kind := .struct
  name := "example.com/atlas.Buoy"
  attrs := []
  type := some buoyType
  count := 3
  fields := [
    ⟨0, [], 0, [], some buoyType, some (.primitive .uint16)⟩,
    ⟨1, "Depth", 2, [], some buoyType, some (.primitive .uint16)⟩,
    ⟨2, [], 4, [], some buoyType, some (.primitive .uint32)⟩]
  listType := some (.struct [⟨"F0", .struct [], []⟩, ⟨"F1", .struct [], []⟩, ⟨"F2", .struct [], []⟩])

theorem tide_and_buoy_found :
    (Descriptor.enum tide).validate? = some (.ok ()) ∧
      (Descriptor.struct buoy).validate? = some (.ok ()) ∧
      (∃ w, w.index = 1 ∧ tide.eraseTyped.variant? "Ebb" = some w ∧
        tide.eraseTyped.variantByValue? 0xFFFFFFFFFFFFFFFF = some w) ∧
      tide.erase.variant? "ebb" = none ∧ tide.erase.variantByValue? 0 = none ∧
      (∃ f, f.index = 1 ∧ buoy.erase.field? "Depth" = some f) ∧ buoy.erase.field? "Width" = none := by
  have valid : (Descriptor.enum tide).validate? = some (.ok ()) := rfl
  have valid' : (Descriptor.struct buoy).validate? = some (.ok ()) := rfl
  obtain ⟨_, enums⟩ := lookups_exact valid
  obtain ⟨structs, _⟩ := lookups_exact valid'
  have typed := enums _ _ (.typed tide) rfl
  have untyped := enums _ _ (.erased rfl) rfl
  have fields := structs _ _ (.erased rfl) rfl
  obtain ⟨index, _, name, value⟩ := typed.found 1 _ _ rfl rfl
  obtain ⟨index', found⟩ := fields.found 1 _ rfl
  exact ⟨valid, valid', ⟨_, index, (name _).mpr rfl, (value _).mpr rfl⟩,
    (untyped.missedName _).mpr (by decide), (untyped.missedValue _).mpr (by decide),
    ⟨_, index', (found _ (by decide)).mpr rfl⟩, (fields.missed _).mpr (by decide)⟩

end Descriptor

end TypeAtlas
