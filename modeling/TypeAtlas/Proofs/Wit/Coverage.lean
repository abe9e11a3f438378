import TypeAtlas.Descriptor.Contract
import TypeAtlas.Proofs.Wit.Completeness

/-!
Whether the size of an accepted layout covers its fields. The check compares every field with the type's
own, in 64 bits, but nobody compares the size of the record. A row of exact members is laid out modulo
2 ^ 32, so the fields lie inside the size exactly if the exact size is a number of 32 bits.
-/

namespace TypeAtlas

/-! ### Rounding past the last address -/

/-- Rounding a number of 32 bits up is rounding up modulo 2 ^ 32. -/
theorem alignTo_mod {align offset : UInt32} (alignment : IsAlignment align) {n : Nat}
    (same : offset.toNat = n % 2 ^ 32) :
    (alignTo offset align).toNat = roundUp n align.toNat % 2 ^ 32 := by
  rw [alignTo_toNat alignment, same]
  unfold roundUp
  rcases alignment with rfl | rfl | rfl | rfl <;> simp only [UInt32.reduceToNat] <;> split <;> omega

namespace Row

theorem placed_mod {members : List Placement} (alignments : ∀ p ∈ members, IsAlignment p.align)
    {stop : UInt32} {n : Nat} (same : stop.toNat = n % 2 ^ 32) :
    (stopAfter stop members).toNat = Extent.endFrom n (members.map Placement.extent) % 2 ^ 32 ∧
      (offsetsAfter stop members).map UInt32.toNat =
        (Extent.offsetsFrom n (members.map Placement.extent)).map (· % 2 ^ 32) := by
  induction members generalizing stop n with
  | nil => exact ⟨same, rfl⟩
  | cons p rest ih =>
    obtain ⟨alignment, others⟩ := List.forall_mem_cons.mp alignments
    have offset := alignTo_mod alignment same
    have sum : (alignTo stop p.align + p.size).toNat =
        (roundUp n p.align.toNat + p.size.toNat) % 2 ^ 32 := by
      rw [UInt32.toNat_add, offset, Nat.mod_add_mod]
    obtain ⟨stopped, offsets⟩ := ih others sum
    refine ⟨stopped, ?_⟩
    simp only [offsetsAfter, List.map_cons, Extent.offsetsFrom, Placement.extent_align,
      Placement.extent_size, offset, offsets]

end Row

namespace Placement

/-- A row is laid out modulo 2 ^ 32. -/
theorem row_mod {members : List Placement} (alignments : ∀ p ∈ members, IsAlignment p.align) :
    (row members).size.toNat = (Extent.packed (members.map extent)).size % 2 ^ 32 ∧
      (row members).offsets.map UInt32.toNat =
        (Extent.offsetsFrom 0 (members.map extent)).map (· % 2 ^ 32) := by
  have start : (0 : UInt32).toNat = 0 % 2 ^ 32 := rfl
  obtain ⟨stop, offsets⟩ := Row.placed_mod alignments start
  have alignment : IsAlignment (Row.alignAfter 1 members) :=
    Row.alignAfter_isAlignment (.inl rfl) alignments
  have align : (Row.alignAfter 1 members).toNat = Extent.maxAlign (members.map extent) := by
    rw [Row.alignAfter_toNat 1 members (by decide)]
    exact Nat.max_eq_right (Extent.maxAlign_pos _)
  have size := alignTo_mod alignment stop
  rw [align] at size
  exact ⟨size, offsets⟩

/-- The members of a row end inside its size exactly if its exact size is a number of 32 bits. -/
theorem row_covers_iff {members : List Placement} (alignments : ∀ p ∈ members, IsAlignment p.align) :
    (∀ offset size, (offset, size) ∈ Row.piecesAfter 0 members →
        offset + size ≤ (row members).size.toNat) ↔
      (Extent.packed (members.map extent)).size < 2 ^ 32 := by
  constructor
  · intro bounded
    have ordered := row_inOrder alignments fun offset size member _ => bounded offset size member
    have extents := (row_exact alignments ordered).2
    rw [← extents]
    exact (row members).size.toNat_lt
  · intro fits offset size member
    have last : Extent.endFrom 0 (members.map extent) < 2 ^ 32 :=
      Nat.lt_of_le_of_lt (Extent.endFrom_le_packed _) fits
    have ordered := Row.inOrder_of_exact 0 alignments last
    have whole := (row_mod alignments).1
    rw [Nat.mod_eq_of_lt fits] at whole
    rw [whole]
    exact Nat.le_trans (ordered.bounds member).2 (Extent.endFrom_le_packed _)

end Placement

/-! ### Accepted layouts -/

namespace Layout

/-- Every field lies inside the size of the layout. -/
def Covers (l : Layout) (fields : List FieldInfo) : Prop :=
  ∀ (i : Nat) f t place, fields[i]? = some f → f.type = some t → l.offsets[i]? = some place →
    place.toNat + t.size ≤ l.size.toNat

/-- Fields inside the size of their record lie inside every stretch that has room for the record. -/
theorem Covers.inside {l : Layout} {fields : List FieldInfo} (covers : l.Covers fields) {addr limit : Nat}
    (room : addr + l.size.toNat ≤ limit) {i : Nat} {f : FieldInfo} {t : TypeRep} {place : UInt32}
    (field : fields[i]? = some f) (type : f.type = some t) (placed : l.offsets[i]? = some place) :
    addr + place.toNat + t.size ≤ limit := by
  have inside := covers i f t place field type placed
  omega

/-- A struct that passes the check has as many offsets as visible fields, and its layout is the exact one
of its record modulo 2 ^ 32. So the fields lie inside the size of the layout, and wherever there is room
for that, exactly if the exact size is a number of 32 bits. -/
theorem covers_iff_fits {s : ErasedStruct} (accepted : (check (some s)).2 = .ok ()) :
    ∃ w, WitType.record? (some s) = .ok w ∧
      (check (some s)).1.offsets.length = s.fields.length ∧
      (check (some s)).1.size.toNat = w.extent.size % 2 ^ 32 ∧
      (check (some s)).1.offsets.map UInt32.toNat = w.exactOffsets.map (· % 2 ^ 32) ∧
      ((check (some s)).1.Covers s.fields ↔ w.extent.size < 2 ^ 32) ∧
      (w.extent.size < 2 ^ 32 → ∀ addr limit, addr + (check (some s)).1.size.toNat ≤ limit →
        ∀ (i : Nat) f t place, s.fields[i]? = some f → f.type = some t →
          (check (some s)).1.offsets[i]? = some place → addr + place.toNat + t.size ≤ limit) := by
  obtain ⟨fields, made, layout, nothing⟩ := check_eq_ok accepted
  have row : (WitType.record [] fields).IsRow := .inl ⟨_, _, rfl⟩
  have alignments := (WitType.record [] fields).parts_isAlignment
  have extents := accepted_extents made nothing
  obtain ⟨size, offsets⟩ := Placement.row_mod alignments
  have whole := congrArg Extent.size row.layout.2
  rw [extents, ← row.extent, ← Placement.extent_size, ← whole] at size
  rw [extents, ← row.layout.1] at offsets
  have covers : (ofPlacement (WitType.record [] fields).layout).Covers s.fields ↔
      (WitType.record [] fields).extent.size < 2 ^ 32 := by
    rw [row.extent, ← extents, ← Placement.row_covers_iff alignments, ← Placement.extent_size, ← whole]
    constructor
    · intro covers offset size member
      obtain ⟨i, found⟩ := List.getElem?_of_mem member
      have position := (List.getElem?_eq_some_iff.mp found).1
      have field := List.getElem?_eq_getElem (l := s.fields) (i := i)
        (by simpa [Row.piecesAfter, WitType.parts, (WitType.recordFields_members made).1] using position)
      obtain ⟨t, place, type, placed, _, piece⟩ := accepted_piece made nothing field
      cases found.symm.trans piece
      exact covers i _ t place field type placed
    · intro bounded i f t place field type placed
      obtain ⟨t', place', type', placed', _, piece⟩ := accepted_piece made nothing field
      obtain rfl : t = t' := Option.some.inj (type.symm.trans type')
      obtain rfl : place = place' := Option.some.inj (placed.symm.trans placed')
      exact bounded _ _ (List.mem_of_getElem? piece)
  rw [layout]
  refine ⟨.record [] fields, by simp [WitType.record?, made, Except.map], ?_, size, offsets, covers, ?_⟩
  · have length := congrArg List.length row.layout.1
    simpa [ofPlacement, Placement.row, WitType.parts, (WitType.recordFields_members made).1] using length
  · intro fits addr limit room i f t place field type placed
    exact (covers.mpr fits).inside room field type placed

/-! ### A struct of four gibibytes -/

/-- Pairs of words, sixteen bytes short of four gibibytes. -/
def pagesType : TypeRep :=
  .array 16383 (.array 16385 (.array 2 (.primitive .uint64)))

def archiveType : TypeRep :=
  .struct [⟨"Pages", pagesType, []⟩, ⟨"Total", .primitive .uint64, []⟩, ⟨"Open", .primitive .bool, []⟩]

def archive : ErasedStruct :=
  let field (index : Int) (name : Text) (offset : UInt64) (type : TypeRep) : FieldInfo :=
    { index, name, offset, attrs := [], owner := some archiveType, type := some type }
  .ofFields (some archiveType) .struct "Archive" []
    [field 0 "Pages" 0 pagesType, field 1 "Total" 4294967280 (.primitive .uint64),
      field 2 "Open" 4294967288 (.primitive .bool)]

theorem pagesType_flat : pagesType.Flat :=
  .array (by decide) (.array (by decide) (.array (by decide) (.primitive rfl)))

/-- The pages become a field of the record without anything going over them. -/
theorem archive_pages : ∃ pages, WitType.IsCounterpart pagesType pages ∧
    WitType.ofField archive.name 0 archive.fields[0] = .ok ⟨"pages", pages⟩ := by
  obtain ⟨pages, made⟩ := pagesType_flat.counterpart ["Archive", "Pages"] [0] pagesType
  refine ⟨pages, ⟨_, _, _, made⟩, ?_⟩
  show (Abort.ofFault (WitType.counterpart ["Archive", "Pages"] [0] pagesType pagesType)).map _ = _
  rw [made]
  rfl

theorem archive_record : ∃ pages, WitType.IsCounterpart pagesType pages ∧
    WitType.recordFields archive =
      .ok [⟨"pages", pages⟩, ⟨"total", .primitive .u64⟩, ⟨"open", .primitive .bool⟩] := by
  obtain ⟨pages, counterpart, first⟩ := archive_pages
  refine ⟨pages, counterpart, ?_⟩
  have fields : archive.fields.zipIdx =
      [(archive.fields[0], 0), (archive.fields[1], 1), (archive.fields[2], 2)] := rfl
  rw [WitType.recordFields, fields, List.mapM_cons]
  simp only [first]
  rfl

/-- The pages have their size and alignment in the record, too. -/
theorem pages_layout {pages : WitType} (made : WitType.IsCounterpart pagesType pages) :
    pages.layout.size = 4294967280 ∧ pages.layout.align = 8 := by
  have extent := (pagesType_flat.layout made (by decide)).1
  have size := congrArg Extent.size extent
  have align := congrArg Extent.align extent
  exact ⟨UInt32.toNat_inj.mp size, UInt32.toNat_inj.mp align⟩

theorem archive_accepted : (check (some archive)).2 = .ok () ∧ (check (some archive)).1.size = 0 ∧
    (check (some archive)).1.offsets = [0, 4294967280, 4294967288] := by
  obtain ⟨pages, counterpart, made⟩ := archive_record
  obtain ⟨size, align⟩ := pages_layout counterpart
  have layout : ofPlacement (WitType.record []
      [⟨"pages", pages⟩, ⟨"total", .primitive .u64⟩, ⟨"open", .primitive .bool⟩]).layout =
        ⟨[0, 4294967280, 4294967288], 0, 8⟩ := by
    rw [WitType.layout_record]
    simp only [ofPlacement, Placement.withNames, Placement.row, List.map_cons, List.map_nil,
      Row.offsetsAfter, Row.stopAfter, Row.alignAfter, size, align]
    rfl
  have nothing : structMismatches archive.name archive.fields [0, 4294967280, 4294967288]
      [⟨"pages", pages⟩, ⟨"total", .primitive .u64⟩, ⟨"open", .primitive .bool⟩] = [] := by
    show mismatches ["Archive", "Pages"] pagesType 0 0 pages ++ _ = []
    rw [mismatches_of_flat pagesType_flat counterpart rfl (by decide)]
    rfl
  have offsets := congrArg Layout.offsets layout
  simp only [ofPlacement] at offsets
  simp only [check, made, layout, offsets, nothing, and_true]
  rfl

/-- The record of an archive takes 2 ^ 32 bytes, which are counted as none; that of a panel holds its
fields. -/
theorem archive_not_covered :
    (check (some archive)).2 = .ok () ∧ archive.info.validate = .ok () ∧
      (check (some archive)).1.size = 0 ∧ ¬ (check (some archive)).1.Covers archive.fields ∧
      (∃ w, WitType.record? (some archive) = .ok w ∧ 2 ^ 32 ≤ w.extent.size) ∧
      (check (some panel)).1.Covers panel.fields := by
  obtain ⟨accepted, size, offsets⟩ := archive_accepted
  obtain ⟨w, made, _, _, _, covers, _⟩ := covers_iff_fits accepted
  obtain ⟨w', made', _, _, _, covers', _⟩ := covers_iff_fits (s := panel) rfl
  have outside : ¬ (check (some archive)).1.Covers archive.fields := by
    intro covers
    have first := covers 0 _ pagesType 0 rfl rfl (by rw [offsets]; rfl)
    rw [size] at first
    exact absurd first (by decide)
  refine ⟨accepted, rfl, size, outside, ⟨w, made, ?_⟩, ?_⟩
  · rw [covers] at outside
    exact Nat.not_lt.mp outside
  · rw [covers']
    cases made'
    decide

end Layout

end TypeAtlas
