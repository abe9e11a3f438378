import TypeAtlas.Proofs.Lookup
import TypeAtlas.Proofs.View.Batch
import TypeAtlas.Proofs.View.Loading

/-!
The readers of a view beside one another. A record can be loaded alone or among others, and one of its
fields can be read without the rest, by its name or by its name and place. Each reader checks the bounds
and finds the bytes on its own way. They answer in the same cases, and what they answer are parts of one
value.
-/

namespace TypeAtlas

namespace View

/-! ### Fields by their names -/

/-- The reader answers with its part of the value where the whole record can be loaded, and with an error
where it cannot. -/
structure AnswersAlike {α ε : Type} (v : View) (m : LinearMemory) (addr : UInt32)
    (part : List UInt8 → α) (answer : Except ε α) : Prop where
  given : ∀ value, v.load m addr = .ok value → answer = .ok (part value)
  refused : ∀ a, v.load m addr = .error a → ∃ e, answer = .error e

theorem AnswersAlike.tagged {v : View} {m : LinearMemory} {addr : UInt32} {part : List UInt8 → List UInt8}
    {answer : Except Fault (List UInt8)} (alike : v.AnswersAlike m addr part answer) (t : TypeRep) :
    v.AnswersAlike m addr (fun value => (t, part value))
      ((Abort.ofFault answer).map fun b => (t, b)) where
  given value loaded := by
    rw [alike.given value loaded]
    rfl
  refused a failed := by
    obtain ⟨f, refused⟩ := alike.refused a failed
    exact ⟨.fault f, by rw [refused]; rfl⟩

section Parts

variable {v : View} {m : LinearMemory} {addr place : UInt32} {name : Text} {t : TypeRep}

theorem readPart_inside (readable : m.readable = true)
    (room : addr.toNat + v.layout.size.toNat ≤ m.size.toNat) (inside : place.toNat + t.size ≤ m.size.toNat) :
    v.readPart m name addr place t = .ok (Bytes.settleBools t 0 (m.bytes place t.size)) := by
  have addresses := m.size.toNat_lt
  have size : (UInt32.ofNat t.size).toNat = t.size :=
    UInt32.toNat_ofNat_of_lt' (show t.size < 2 ^ 32 by omega)
  rw [readPart, bounds_eq_ok_iff.mpr room, LinearMemory.read_inside readable (by omega), size]
  show Except.ok (Bytes.settleBools t 0 (Bytes.padTo t.size (m.bytes place t.size))) = _
  rw [Bytes.padTo, Bytes.put_whole (by rw [LinearMemory.length_bytes, List.length_replicate])]

theorem readPart_refused
    (refused : ¬ (m.readable = true ∧ addr.toNat + v.layout.size.toNat ≤ m.size.toNat)) :
    ∃ f, v.readPart m name addr place t = .error f := by
  cases bounded : m.bounds [v.name, name] addr v.layout.size with
  | error f => exact ⟨f, by rw [readPart, bounded]; rfl⟩
  | ok _ =>
    have closed : ¬ m.readable = true := fun readable => refused ⟨readable, bounds_eq_ok_iff.mp bounded⟩
    refine ⟨m.outside [v.name, name] place (UInt32.ofNat t.size), ?_⟩
    rw [readPart, bounded, LinearMemory.read, Bool.eq_false_iff.mpr closed, Bool.and_false]
    rfl

end Parts

/-- What a field alone reads is what the record has at its place. -/
theorem Fills.readPart {v : View} {m : LinearMemory} {addr : UInt32} {value : List UInt8}
    (filled : v.Fills m addr value) {f : FieldInfo} {place : UInt32} (placed : (f, place) ∈ v.placedFields)
    {t : TypeRep} (type : f.type = some t) (inside : f.offset.toNat + t.size ≤ value.length) :
    Bytes.settleBools t 0 (m.bytes (addr + place) t.size) = f.bytesIn t.size value := by
  apply List.ext_getElem?
  intro i
  rw [FieldInfo.bytesIn]
  by_cases position : i < t.size
  · rw [Bytes.getElem?_settleBools, LinearMemory.getElem?_bytes position, Bytes.getElem?_sub position,
      filled _ placed t type i position]
    simp
  · rw [List.getElem?_eq_none (by simpa [LinearMemory.length_bytes] using position),
      List.getElem?_eq_none (by rw [Bytes.length_sub inside]; omega)]

theorem distinct_of_valid {v : View} (valid : v.info.info.validate = .ok ()) :
    v.info.fields.Pairwise fun f g => g.name = [] ∨ g.name ≠ f.name :=
  (StructInfo.validate_iff.mp valid).2.2.2.distinct

theorem IsChecked.map_placedFields {v : View} (checked : v.IsChecked) :
    v.placedFields.map Prod.fst = v.info.fields := by
  obtain ⟨_, _, _, _, located⟩ := checked.row
  apply List.map_fst_zip
  apply Nat.le_of_not_lt
  intro short
  obtain ⟨_, _, _, laid, _⟩ := located _ _ (List.getElem?_eq_getElem short)
  rw [List.getElem?_eq_none (Nat.le_refl _)] at laid
  cases laid

theorem IsChecked.field_eq {v : View} (checked : v.IsChecked) (valid : v.info.info.validate = .ok ())
    {f : FieldInfo} {place : UInt32} (placed : (f, place) ∈ v.placedFields) (named : f.name ≠ [])
    {t : TypeRep} (type : f.type = some t) (m : LinearMemory) (addr : UInt32) :
    v.field m addr f.name =
      (Abort.ofFault (v.readPart m f.name addr (addr + place) t)).map fun b => (t, b) := by
  have distinct := distinct_of_valid valid
  rw [← checked.map_placedFields, List.pairwise_map] at distinct
  rw [field, find?_of_distinct distinct placed named]
  · simp only [type]
  · exact fun _ => decide_eq_true_iff

theorem IsChecked.loadField_eq {v : View} (checked : v.IsChecked) (valid : v.info.info.validate = .ok ())
    {f : FieldInfo} {place : UInt32} (placed : (f, place) ∈ v.placedFields) (named : f.name ≠ [])
    (t : TypeRep) (m : LinearMemory) (addr : UInt32) :
    v.loadField m addr f.name f.offset t = v.readPart m f.name addr (addr + place) t := by
  have found : v.info.field? f.name = some f :=
    find?_of_distinct (distinct_of_valid valid) (mem_of_placedFields placed) named fun _ => beq_iff_eq
  have same : f.offset.toNat = place.toNat := (checked.placed _ placed).2
  have word : f.offset.toUInt32 = place := by
    apply UInt32.toNat_inj.mp
    rw [UInt64.toNat_toUInt32, same, Nat.mod_eq_of_lt place.toNat_lt]
  rw [loadField, found]
  simp only [ne_eq, not_true_eq_false, if_false, word]

/-- The part of the record that a field takes is read where the record is loaded, and is what the value
has for the field. -/
theorem IsChecked.readPart_alike {v : View} (checked : v.IsChecked) (valid : v.info.info.validate = .ok ())
    (small : v.type.size ≤ 2 ^ 31) {f : FieldInfo} {place : UInt32} (placed : (f, place) ∈ v.placedFields)
    {t : TypeRep} (type : f.type = some t) (m : LinearMemory) (addr : UInt32) (name : Text) :
    v.AnswersAlike m addr (f.bytesIn t.size) (v.readPart m name addr (addr + place) t) := by
  have exactly := checked.exists_load_iff valid small m addr
  constructor
  · intro value loaded
    obtain ⟨readable, room⟩ := exactly.mp ⟨value, loaded⟩
    obtain ⟨t', type', inRecord, inValue⟩ : HasRoom v.layout.size.toNat v.type.size f place :=
      checked.hasRoom valid small _ placed
    obtain rfl : t = t' := Option.some.inj (type.symm.trans type')
    obtain ⟨fitsValue, fitsRecord⟩ := checked.fits_of_valid valid small
    obtain ⟨value', loaded', filled⟩ := checked.fillsAlways fitsValue fitsRecord m addr readable room
    obtain rfl : value = value' := Except.ok.inj (loaded.symm.trans loaded')
    have length := checked.length_of_load loaded
    have addresses := m.size.toNat_lt
    have start : (addr + place).toNat = addr.toNat + place.toNat :=
      LinearMemory.toNat_add_place (by omega)
    rw [readPart_inside readable room (by omega), filled.readPart placed type (by omega)]
  · intro a failed
    apply readPart_refused
    intro inside
    obtain ⟨value, loaded⟩ := exactly.mpr inside
    rw [failed] at loaded
    cases loaded

/-! ### Records among others -/

theorem loadAll_of_negative (v : View) (m : LinearMemory) (addr : UInt32) {n : Int64} (negative : n < 0) :
    v.loadAll m addr n = .error (.fault (Fault.invalidInput .memory "negative record count")) := by
  simp only [loadAll, negative, if_true]
  rfl

theorem IsRefusal.ne_ok {α : Type} {v : View} {m : LinearMemory} {addr : UInt32} {answer : Except Abort α}
    (refusal : v.IsRefusal m addr answer) (x : α) : answer ≠ .ok x := by
  obtain ⟨size, rfl⟩ := refusal
  nofun

/-- A request that is answered asks for records inside memory and for values that there is room for. -/
theorem IsChecked.records_of_loadAll {v : View} (checked : v.IsChecked)
    (valid : v.info.info.validate = .ok ()) (small : v.type.size ≤ 2 ^ 31) {m : LinearMemory}
    {addr : UInt32} {n : Int64} {values : List (List UInt8)} (loaded : v.loadAll m addr n = .ok values) :
    (values.length : Int) = n.toInt ∧
      ∀ (i : Nat) value, values[i]? = some value → ∃ a : UInt32,
        a.toNat = addr.toNat + i * v.layout.size.toNat ∧ v.load m a = .ok value := by
  obtain ⟨fitsValue, fitsRecord⟩ := checked.fits_of_valid valid small
  have nonnegative : 0 ≤ n := by
    apply Int64.not_lt.mp
    intro negative
    rw [loadAll_of_negative v m addr negative] at loaded
    cases loaded
  have readable : m.readable = true := by
    apply Decidable.byContradiction
    intro closed
    exact (loadAll_of_unreadable nonnegative (Bool.eq_false_iff.mpr closed)).ne_ok values loaded
  have within : ¬ v.Overreaches m addr n := by
    rintro ⟨counted, beyond⟩
    rw [loadAll_of_inside nonnegative readable counted, if_pos beyond] at loaded
    cases loaded
  have exactly := checked.readsExactly fitsValue nonnegative readable within
  have inside : addr.toNat + n.toNatClampNeg * v.layout.size.toNat ≤ m.size.toNat := by
    apply Nat.le_of_not_lt
    intro outside
    exact (exactly.outside outside).ne_ok values loaded
  obtain ⟨values', loaded', length, each⟩ := exactly.inside inside
  obtain rfl : values = values' := Except.ok.inj (loaded.symm.trans loaded')
  constructor
  · rw [length]
    exact Int.toNat_of_nonneg (Int64.le_iff_toInt_le.mp nonnegative)
  · intro i value found
    have position : i < n.toNatClampNeg := by
      rw [← length]
      exact (List.getElem?_eq_some_iff.mp found).1
    obtain ⟨value', found', alone⟩ := each fitsRecord i position
    obtain rfl : value = value' := Option.some.inj (found.symm.trans found')
    have addresses := m.size.toNat_lt
    have before : i * v.layout.size.toNat ≤ n.toNatClampNeg * v.layout.size.toNat :=
      Nat.mul_le_mul_right _ (Nat.le_of_lt position)
    exact ⟨_, LinearMemory.toNat_add_address (by omega), alone⟩

/-! ### All readers -/

/-- All readers of a view agree. A visible field with a name is read, by its name or by its name and
offset, exactly if its record is loaded, and is then the part of the value at its offset. Of several
records that are read together there are as many as were asked for, and each of them is what loading the
record at its own address gives. -/
theorem readers_agree {v : View} {memory : Option LinearMemory} {given : Option ErasedStruct}
    {t : TypeRep} {r : Registry} (made : (resolve memory given t r).2 = .ok v)
    (valid : v.info.info.validate = .ok ()) (small : t.size ≤ 2 ^ 31) (m : LinearMemory) (addr : UInt32) :
    (∀ f ∈ v.info.fields, f.name ≠ [] → ∃ u, f.type = some u ∧
        v.AnswersAlike m addr (fun value => (u, f.bytesIn u.size value)) (v.field m addr f.name) ∧
        v.AnswersAlike m addr (f.bytesIn u.size) (v.loadField m addr f.name f.offset u)) ∧
      ∀ n values, v.loadAll m addr n = .ok values →
        (values.length : Int) = n.toInt ∧
          ∀ (i : Nat) value, values[i]? = some value → ∃ a : UInt32,
            a.toNat = addr.toNat + i * v.layout.size.toNat ∧ v.load m a = .ok value := by
  obtain ⟨rfl, checked⟩ := isChecked_of_resolve made
  refine ⟨?_, fun n values loaded => checked.records_of_loadAll valid small loaded⟩
  intro f member named
  obtain ⟨place, placed⟩ := checked.exists_place member
  obtain ⟨u, type⟩ := (checked.placed _ placed).1
  have part := checked.readPart_alike valid small placed type m addr f.name
  refine ⟨u, type, ?_, ?_⟩
  · rw [checked.field_eq valid placed named type]
    exact part.tagged u
  · rw [checked.loadField_eq valid placed named]
    exact part

/-- Two panels at the end of a page: the rows of the last one, its inner switch, and the panel as the second
of the two. -/
theorem panel_readers_agree :
    (resolve (some threes) (some Layout.panel) Layout.panelType {}).2 = .ok panelView ∧
      panelView.load threes 65520 = .ok threesPanel ∧
      panelView.field threes 65520 "Rows" = .ok (.array 2 (.primitive .bool), [1, 1]) ∧
      panelView.loadField threes 65520 "Main" 8 Layout.switchType = .ok [1, 3, 3, 3, 3, 3, 3, 3] ∧
      panelView.loadAll threes 65504 2 = .ok [threesPanel, threesPanel] ∧
      ∃ a : UInt32, a.toNat = 65520 ∧ panelView.load threes a = .ok threesPanel := by
  have made : (resolve (some threes) (some Layout.panel) Layout.panelType {}).2 = .ok panelView := rfl
  have loaded : panelView.load threes 65520 = .ok threesPanel := rfl
  have both : panelView.loadAll threes 65504 2 = .ok [threesPanel, threesPanel] := rfl
  obtain ⟨alone, _⟩ := readers_agree made rfl (by decide) threes 65520
  obtain ⟨_, together⟩ := readers_agree made rfl (by decide) threes 65504
  obtain ⟨_, rowsType, rows, _⟩ := alone _ (List.mem_of_getElem? (i := 2) rfl) (by decide)
  obtain ⟨_, mainType, _, main⟩ := alone _ (List.mem_of_getElem? (i := 3) rfl) (by decide)
  cases rowsType
  cases mainType
  obtain ⟨_, second⟩ := together 2 _ both
  exact ⟨made, loaded, rows.given _ loaded, main.given _ loaded, both, second 1 _ rfl⟩

end View

end TypeAtlas
