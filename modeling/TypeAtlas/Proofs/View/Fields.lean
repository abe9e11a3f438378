import TypeAtlas.Proofs.Bytes
import TypeAtlas.Proofs.Outcome
import TypeAtlas.View

/-!
Copying the fields of a record one by one. When the fields follow one another and lie at the same places
in the value and in the record, storing puts the covered bytes of the value into memory and loading takes
them back, with truth values settled; bytes that no field covers are left as they were.
-/

namespace TypeAtlas

namespace FieldInfo

/-- Byte `i` belongs to the field if it begins at `start`. -/
def covers (f : FieldInfo) (start i : Nat) : Bool :=
  match f.type with
  | some t => start ≤ i && i < start + t.size
  | none => false

/-- Byte `i` is a truth value of the field if it begins at `start`. -/
def boolAt (f : FieldInfo) (start i : Nat) : Bool :=
  match f.type with
  | some t => start ≤ i && t.isBoolAt (i - start)
  | none => false

theorem covers_iff {f : FieldInfo} {t : TypeRep} (type : f.type = some t) (start i : Nat) :
    f.covers start i = true ↔ start ≤ i ∧ i < start + t.size := by
  simp only [covers, type, Bool.and_eq_true, decide_eq_true_eq]

theorem covers_of_boolAt {f : FieldInfo} {start i : Nat} (isBool : f.boolAt start i = true) :
    f.covers start i = true := by
  unfold boolAt at isBool
  split at isBool
  · rename_i t type
    simp only [Bool.and_eq_true, decide_eq_true_eq] at isBool
    have inner := t.lt_size_of_isBoolAt _ isBool.2
    exact (covers_iff type start i).mpr ⟨isBool.1, by omega⟩
  · cases isBool

theorem boolAt_of_not_covers {f : FieldInfo} {start i : Nat} (outside : f.covers start i = false) :
    f.boolAt start i = false :=
  Bool.eq_false_iff.mpr fun isBool => by simp [covers_of_boolAt isBool] at outside

def HasBytes (f : FieldInfo) : Prop :=
  ∃ t, f.type = some t ∧ 0 < t.size

/-- The field ends at `limit` at the latest, if it has bytes at all. -/
def EndsBy (f : FieldInfo) (limit : Nat) : Prop :=
  ∀ t, f.type = some t → 0 < t.size → f.offset.toNat + t.size ≤ limit

theorem HasBytes.not_endsBy_zero {f : FieldInfo} (bytes : f.HasBytes) : ¬ f.EndsBy 0 := by
  obtain ⟨t, type, positive⟩ := bytes
  intro ends
  have := ends t type positive
  omega

theorem endsBy_iff {f : FieldInfo} {t : TypeRep} (type : f.type = some t) (limit : Nat) :
    f.EndsBy limit ↔ (t.size ≠ 0 && limit < f.offset.toNat + t.size) = false := by
  rw [Bool.and_eq_false_iff, decide_eq_false_iff_not, decide_eq_false_iff_not, Nat.not_lt]
  constructor
  · intro ends
    exact (Nat.eq_zero_or_pos t.size).imp (fun empty => absurd empty) (ends t type)
  · rintro either t' type' positive
    obtain rfl : t = t' := Option.some.inj (type.symm.trans type')
    exact either.resolve_left fun empty => empty (Nat.ne_of_gt positive)

instance (f : FieldInfo) (limit : Nat) : Decidable (f.EndsBy limit) :=
  match type : f.type with
  | none => .isTrue fun t found => by simp [type] at found
  | some _ => decidable_of_iff _ (endsBy_iff type limit).symm

/-- The field has truth values and begins where a value of so many bytes has ended. -/
def TruthPast (f : FieldInfo) (limit : Nat) : Prop :=
  ∃ t, f.type = some t ∧ t.hasBool = true ∧ limit ≤ f.offset.toNat

theorem EndsBy.not_truthPast {f : FieldInfo} {limit : Nat} (ends : f.EndsBy limit) :
    ¬ f.TruthPast limit := by
  rintro ⟨t, type, has, past⟩
  have positive := t.size_pos_of_hasBool has
  have := ends t type positive
  omega

theorem covers_of_empty {f : FieldInfo} {t : TypeRep} (type : f.type = some t) (empty : t.size = 0)
    (start i : Nat) : f.covers start i = false := by
  apply Bool.eq_false_iff.mpr
  intro here
  have range := (covers_iff type start i).mp here
  omega

end FieldInfo

namespace View

/-- Byte `i` of a record belongs to one of the fields. -/
def covered (fields : List (FieldInfo × UInt32)) (i : Nat) : Bool :=
  fields.any fun x => x.1.covers x.2.toNat i

/-- Byte `i` of a record is a truth value of one of the fields. -/
def boolIn (fields : List (FieldInfo × UInt32)) (i : Nat) : Bool :=
  fields.any fun x => x.1.boolAt x.2.toNat i

theorem covered_cons (f : FieldInfo) (place : UInt32) (rest : List (FieldInfo × UInt32)) (i : Nat) :
    covered ((f, place) :: rest) i = (f.covers place.toNat i || covered rest i) :=
  rfl

theorem boolIn_cons (f : FieldInfo) (place : UInt32) (rest : List (FieldInfo × UInt32)) (i : Nat) :
    boolIn ((f, place) :: rest) i = (f.boolAt place.toNat i || boolIn rest i) :=
  rfl

theorem covered_of_boolIn {fields : List (FieldInfo × UInt32)} {i : Nat}
    (isBool : boolIn fields i = true) : covered fields i = true := by
  obtain ⟨x, member, here⟩ := List.any_eq_true.mp isBool
  exact List.any_eq_true.mpr ⟨x, member, FieldInfo.covers_of_boolAt here⟩

theorem covered_of_mem {fields : List (FieldInfo × UInt32)} {x : FieldInfo × UInt32}
    (member : x ∈ fields) (bytes : x.1.HasBytes) :
    covered fields x.2.toNat = true := by
  obtain ⟨t, type, positive⟩ := bytes
  exact List.any_eq_true.mpr ⟨x, member, (FieldInfo.covers_iff type _ _).mpr (by omega)⟩

/-- The fields have types, lie at the same offset in the value as in the record, and follow one another
without overlap from `start` to `limit`. -/
def FieldsInOrder (start limit : Nat) : List (FieldInfo × UInt32) → Prop
  | [] => start ≤ limit
  | (f, place) :: rest =>
    ∃ t, f.type = some t ∧ f.offset.toNat = place.toNat ∧ start ≤ place.toNat ∧
      FieldsInOrder (place.toNat + t.size) limit rest

namespace FieldsInOrder

variable {start limit : Nat} {fields : List (FieldInfo × UInt32)}

theorem start_le (ordered : FieldsInOrder start limit fields) : start ≤ limit := by
  induction fields generalizing start with
  | nil => exact ordered
  | cons x rest ih =>
    obtain ⟨t, _, _, first, later⟩ := ordered
    have := ih later
    omega

theorem end_le (ordered : FieldsInOrder start limit fields) {x : FieldInfo × UInt32} (member : x ∈ fields)
    {t : TypeRep} (type : x.1.type = some t) : x.2.toNat + t.size ≤ limit := by
  induction fields generalizing start with
  | nil => cases member
  | cons y rest ih =>
    obtain ⟨t', type', _, _, later⟩ := ordered
    cases member with
    | head =>
      obtain rfl : t = t' := Option.some.inj (type.symm.trans type')
      exact later.start_le
    | tail _ further => exact ih later further

theorem offset_eq (ordered : FieldsInOrder start limit fields) {x : FieldInfo × UInt32}
    (member : x ∈ fields) : x.1.offset.toNat = x.2.toNat := by
  induction fields generalizing start with
  | nil => cases member
  | cons y rest ih =>
    obtain ⟨_, _, same, _, later⟩ := ordered
    cases member with
    | head => exact same
    | tail _ further => exact ih later further

/-- A field that has bytes ends inside the limit. -/
theorem endsBy (ordered : FieldsInOrder start limit fields) : ∀ x ∈ fields, x.1.EndsBy limit := by
  intro x member t type _
  rw [ordered.offset_eq member]
  exact ordered.end_le member type

theorem covered_between (ordered : FieldsInOrder start limit fields) {i : Nat}
    (inside : covered fields i = true) : start ≤ i ∧ i < limit := by
  induction fields generalizing start with
  | nil => cases inside
  | cons x rest ih =>
    obtain ⟨t, type, _, first, later⟩ := ordered
    rw [covered_cons, Bool.or_eq_true] at inside
    rcases inside with here | further
    · have range := (FieldInfo.covers_iff type _ i).mp here
      have := later.start_le
      omega
    · have := ih later further
      omega

/-- Where a row of fields is cut, the first part ends by the limit and the second part comes after it. -/
theorem append {done rest : List (FieldInfo × UInt32)}
    (ordered : FieldsInOrder start limit (done ++ rest)) :
    FieldsInOrder start limit done ∧ ∃ middle, FieldsInOrder middle limit rest := by
  induction done generalizing start with
  | nil => exact ⟨ordered.start_le, start, ordered⟩
  | cons x done ih =>
    obtain ⟨t, type, same, first, later⟩ := ordered
    obtain ⟨before, after⟩ := ih later
    exact ⟨⟨t, type, same, first, before⟩, after⟩

/-- Fields that end by some bound come before one that does not. -/
theorem mem_of_endsBy {done rest : List (FieldInfo × UInt32)} {x y : FieldInfo × UInt32} {bound : Nat}
    (ordered : FieldsInOrder start limit (done ++ x :: rest)) (stray : ¬ x.1.EndsBy bound)
    (member : y ∈ done ++ x :: rest) (bytes : y.1.HasBytes) (ends : y.1.EndsBy bound) : y ∈ done := by
  rcases List.mem_append.mp member with earlier | later
  · exact earlier
  exfalso
  obtain ⟨f, place⟩ := x
  obtain ⟨_, t, type, same, _, after⟩ := ordered.append.2
  cases later with
  | head => exact stray ends
  | tail _ further =>
    apply stray
    intro t' type' _
    obtain rfl : t = t' := Option.some.inj (type.symm.trans type')
    have beyond := (after.covered_between (covered_of_mem further bytes)).1
    obtain ⟨u, typed, positive⟩ := bytes
    have inside := ends u typed positive
    rw [ordered.offset_eq member] at inside
    show f.offset.toNat + t.size ≤ bound
    omega

/-- A byte of a field belongs to no other, so that it is a truth value of the record exactly if it is one
of the field. -/
theorem boolIn_of_covers (ordered : FieldsInOrder start limit fields) {x : FieldInfo × UInt32}
    (member : x ∈ fields) {i : Nat} (here : x.1.covers x.2.toNat i = true) :
    boolIn fields i = x.1.boolAt x.2.toNat i := by
  induction fields generalizing start with
  | nil => cases member
  | cons y rest ih =>
    obtain ⟨f, place⟩ := y
    obtain ⟨t, type, _, _, later⟩ := ordered
    have own := FieldInfo.covers_iff type place.toNat i
    rw [boolIn_cons]
    cases member with
    | head =>
      have plain : boolIn rest i = false := by
        apply Bool.eq_false_iff.mpr
        intro further
        have := own.mp here
        have := later.covered_between (covered_of_boolIn further)
        omega
      rw [plain, Bool.or_false]
    | tail _ later' =>
      have outside : f.covers place.toNat i = false := by
        apply Bool.eq_false_iff.mpr
        intro first
        have := own.mp first
        have := later.covered_between (List.any_eq_true.mpr ⟨x, later', here⟩)
        omega
      rw [FieldInfo.boolAt_of_not_covers outside, Bool.false_or]
      exact ih later later'

end FieldsInOrder

/-! ### Loading -/

/-- A field without bytes leaves the value as it is, wherever it is said to lie. -/
theorem decodeField_of_empty {f : FieldInfo} {t : TypeRep} (type : f.type = some t) (empty : t.size = 0)
    (record value : List UInt8) (place : UInt32) : decodeField record value f place = .ok value := by
  have copied : copyField record value t f.offset place = value := by
    unfold copyField
    split
    · rw [empty, Bytes.sub, List.take_zero, Bytes.put_nil]
    · rfl
  have settled : Bytes.settleBools t f.offset.toNat value = value := by
    apply List.ext_getElem?
    intro i
    rw [Bytes.getElem?_settleBools, TypeRep.isBoolAt_of_empty empty, Bool.and_false]
    cases value[i]? <;> rfl
  simp only [decodeField, type, TypeRep.hasBool_of_empty empty, Bool.and_false, Bool.false_eq_true,
    if_false, copied, settled]

/-- A field is taken unless it has truth values past the end of the value. -/
theorem decodeField_cases {f : FieldInfo} {t : TypeRep} (type : f.type = some t)
    (record value : List UInt8) (place : UInt32) :
    decodeField record value f place = .error .absent ∧ f.TruthPast value.length ∨
      ∃ out, decodeField record value f place = .ok out ∧ out.length = value.length ∧
        ¬ f.TruthPast value.length := by
  by_cases past : (value.length ≤ f.offset.toNat && t.hasBool) = true
  · have both := Bool.and_eq_true_iff.mp past
    refine .inl ⟨?_, t, type, both.2, of_decide_eq_true both.1⟩
    simp only [decodeField, type, past, if_true]
  · right
    refine ⟨Bytes.settleBools t f.offset.toNat (copyField record value t f.offset place), ?_, ?_, ?_⟩
    · simp only [decodeField, type, past, Bool.false_eq_true, if_false]
    · rw [Bytes.length_settleBools]
      unfold copyField
      split
      · exact Bytes.length_put
      · rfl
    · rintro ⟨t', type', has, late⟩
      obtain rfl : t = t' := Option.some.inj (type.symm.trans type')
      exact past (Bool.and_eq_true_iff.mpr ⟨decide_eq_true late, has⟩)

/-- Decoding is stopped exactly by a field that has truth values past the end of the value. -/
theorem decodeFields_cases {fields : List (FieldInfo × UInt32)}
    (typed : ∀ x ∈ fields, ∃ t, x.1.type = some t) (record value : List UInt8) :
    decodeFields record value fields = .error .absent ∧ (∃ x ∈ fields, x.1.TruthPast value.length) ∨
      ∃ out, decodeFields record value fields = .ok out ∧ out.length = value.length ∧
        ∀ x ∈ fields, ¬ x.1.TruthPast value.length := by
  induction fields generalizing value with
  | nil => exact .inr ⟨value, rfl, rfl, by simp⟩
  | cons x rest ih =>
    obtain ⟨f, place⟩ := x
    obtain ⟨⟨t, type⟩, others⟩ := List.forall_mem_cons.mp typed
    simp only [decodeFields]
    rcases decodeField_cases type record value place with ⟨stopped, late⟩ | ⟨next, taken, length, settled⟩
    · exact .inl ⟨by rw [stopped]; rfl, (f, place), List.mem_cons_self, late⟩
    · rw [taken, ← length]
      rw [← length] at settled
      rcases ih others next with ⟨stopped, x, member, late⟩ | ⟨out, done, same, clear⟩
      · exact .inl ⟨stopped, x, List.mem_cons_of_mem _ member, late⟩
      · exact .inr ⟨out, done, same, List.forall_mem_cons.mpr ⟨settled, clear⟩⟩

/-- Fields inside a record are taken from it, whatever follows. -/
theorem decodeFields_append {start limit : Nat} {fields : List (FieldInfo × UInt32)}
    (ordered : FieldsInOrder start limit fields) {record : List UInt8} (inRecord : limit ≤ record.length)
    (rest value : List UInt8) :
    decodeFields (record ++ rest) value fields = decodeFields record value fields := by
  induction fields generalizing start value with
  | nil => rfl
  | cons x others ih =>
    obtain ⟨f, place⟩ := x
    obtain ⟨t, type, _, _, later⟩ := ordered
    have inside : place.toNat + t.size ≤ record.length := Nat.le_trans later.start_le inRecord
    have longer : place.toNat + t.size ≤ (record ++ rest).length := by
      rw [List.length_append]
      omega
    have copied : copyField (record ++ rest) value t f.offset place =
        copyField record value t f.offset place := by
      simp only [copyField, inside, longer, Bytes.sub_append inside]
    simp only [decodeFields, decodeField, type, copied, ih later]

/-- No byte from `limit` on is other than zero. -/
def BlankFrom (limit : Nat) (value : List UInt8) : Prop :=
  ∀ i b, limit ≤ i → value[i]? = some b → b = 0

/-- What the record has no bytes for stays blank. -/
theorem BlankFrom.decodeField {record value out : List UInt8} {f : FieldInfo} {place : UInt32}
    (same : f.offset.toNat = place.toNat) (blank : BlankFrom record.length value)
    (taken : decodeField record value f place = .ok out) : BlankFrom record.length out := by
  cases type : f.type with
  | none =>
    rw [View.decodeField, type] at taken
    cases taken
  | some t =>
    have copied : BlankFrom record.length (copyField record value t f.offset place) := by
      unfold copyField
      split
      · rename_i both
        simp only [Bool.and_eq_true, decide_eq_true_eq] at both
        have length := Bytes.length_sub both.2
        intro i b past found
        rw [Bytes.getElem?_put (by omega), if_neg (by omega)] at found
        exact blank i b past found
      · exact blank
    simp only [View.decodeField, type] at taken
    split at taken
    · cases taken
    · cases taken
      intro i b past found
      rw [Bytes.getElem?_settleBools] at found
      obtain ⟨b', before, rfl⟩ := Option.map_eq_some_iff.mp found
      rw [copied i b' past before]
      exact Bytes.settle_of_le _ (by decide)

theorem BlankFrom.decodeFields {record value out : List UInt8} {fields : List (FieldInfo × UInt32)}
    (same : ∀ x ∈ fields, x.1.offset.toNat = x.2.toNat) (blank : BlankFrom record.length value)
    (taken : decodeFields record value fields = .ok out) : BlankFrom record.length out := by
  induction fields generalizing value with
  | nil =>
    cases taken
    exact blank
  | cons x rest ih =>
    rw [List.forall_mem_cons] at same
    obtain ⟨next, first, others⟩ := bind_eq_ok taken
    exact ih same.2 (blank.decodeField same.1 first) others

theorem decodeField_eq {record value : List UInt8} {f : FieldInfo} {place : UInt32} {t : TypeRep}
    (type : f.type = some t) (same : f.offset.toNat = place.toNat)
    (inValue : place.toNat + t.size ≤ value.length) (inRecord : place.toNat + t.size ≤ record.length) :
    decodeField record value f place =
      .ok (Bytes.settleBools t place.toNat
        (Bytes.put place.toNat (Bytes.sub place.toNat t.size record) value)) := by
  have settled : (value.length ≤ place.toNat && t.hasBool) = false := by
    rw [Bool.and_eq_false_iff]
    by_cases past : value.length ≤ place.toNat
    · refine .inr (Bool.eq_false_iff.mpr fun has => ?_)
      have := t.size_pos_of_hasBool has
      omega
    · exact .inl (decide_eq_false past)
  simp only [decodeField, type, copyField, same, settled, inValue, inRecord, decide_true, Bool.and_true,
    if_true]
  rfl

theorem getElem?_decoded {record value : List UInt8} {f : FieldInfo} {place : Nat} {t : TypeRep}
    (type : f.type = some t) (inValue : place + t.size ≤ value.length)
    (inRecord : place + t.size ≤ record.length) (i : Nat) :
    (Bytes.settleBools t place (Bytes.put place (Bytes.sub place t.size record) value))[i]? =
      if f.covers place i then record[i]?.map (Bytes.settle (f.boolAt place i)) else value[i]? := by
  have length := Bytes.length_sub inRecord
  rw [Bytes.getElem?_settleBools, Bytes.getElem?_put (by omega), length]
  have flag : f.boolAt place i = (decide (place ≤ i) && t.isBoolAt (i - place)) := by
    simp only [FieldInfo.boolAt, type]
  rw [← flag]
  by_cases inside : f.covers place i = true
  · have range := (FieldInfo.covers_iff type place i).mp inside
    rw [if_pos inside, if_pos range, Bytes.getElem?_sub (by omega)]
    congr 2
    omega
  · have range := fun h => inside ((FieldInfo.covers_iff type place i).mpr h)
    rw [if_neg inside, if_neg range, FieldInfo.boolAt_of_not_covers (Bool.eq_false_iff.mpr inside)]
    cases value[i]? <;> rfl

/-- One field after another: covered bytes come from the record, the others stay. -/
theorem decodeFields_spec {start limit : Nat} (record value : List UInt8)
    {fields : List (FieldInfo × UInt32)} (ordered : FieldsInOrder start limit fields)
    (inValue : ∀ x ∈ fields, x.1.EndsBy value.length) (inRecord : limit ≤ record.length) :
    ∃ out, decodeFields record value fields = .ok out ∧ out.length = value.length ∧
      ∀ i, out[i]? =
        if covered fields i then record[i]?.map (Bytes.settle (boolIn fields i)) else value[i]? := by
  induction fields generalizing start value with
  | nil => exact ⟨value, rfl, rfl, fun i => rfl⟩
  | cons x rest ih =>
    obtain ⟨f, place⟩ := x
    obtain ⟨t, type, same, _, later⟩ := ordered
    obtain ⟨first, others⟩ := List.forall_mem_cons.mp inValue
    have inside := later.start_le
    rcases Nat.eq_zero_or_pos t.size with empty | positive
    · obtain ⟨out, rested, length, bytes⟩ := ih value later others
      refine ⟨out, ?_, length, ?_⟩
      · simp only [decodeFields, decodeField_of_empty type empty]
        exact rested
      · intro i
        have outside := FieldInfo.covers_of_empty type empty place.toNat i
        rw [bytes, covered_cons, boolIn_cons, outside, FieldInfo.boolAt_of_not_covers outside]
        simp only [Bool.false_or]
    have ends : place.toNat + t.size ≤ value.length := by
      rw [← same]
      exact first t type positive
    have decoded := decodeField_eq type same (by omega : _ ≤ value.length) (by omega : _ ≤ record.length)
    obtain ⟨out, rested, length, bytes⟩ := ih (Bytes.settleBools t place.toNat
      (Bytes.put place.toNat (Bytes.sub place.toNat t.size record) value)) later (by simpa using others)
    refine ⟨out, ?_, by simpa using length, ?_⟩
    · simp only [decodeFields, decoded]
      exact rested
    · intro i
      rw [bytes, getElem?_decoded type (by omega) (by omega), covered_cons, boolIn_cons]
      by_cases further : covered rest i = true
      · have outside : f.covers place.toNat i = false :=
          Bool.eq_false_iff.mpr fun here => by
            have := (FieldInfo.covers_iff type _ i).mp here
            have := later.covered_between further
            omega
        simp [further, outside, FieldInfo.boolAt_of_not_covers outside]
      · have plain : boolIn rest i = false :=
          Bool.eq_false_iff.mpr fun isBool => further (covered_of_boolIn isBool)
        simp [further, plain]

/-! ### Storing -/

/-- One field after another: covered bytes of memory come from the value, the others stay. -/
theorem storeFields_spec (v : View) {start limit : Nat} (addr : UInt32) {value : List UInt8}
    {fields : List (FieldInfo × UInt32)} (m : LinearMemory) (ordered : FieldsInOrder start limit fields)
    (inValue : ∀ x ∈ fields, x.1.EndsBy value.length) (free : m.writesLeft = none)
    (room : addr.toNat + limit ≤ m.size.toNat) :
    ∃ after, v.storeFields addr value fields m = (after, .ok ()) ∧ after.size = m.size ∧
      after.readable = m.readable ∧
      ∀ a : UInt32, some (after.byte a) =
        if addr.toNat ≤ a.toNat ∧ covered fields (a.toNat - addr.toNat) = true then
          value[a.toNat - addr.toNat]?
        else some (m.byte a) := by
  induction fields generalizing start m with
  | nil => exact ⟨m, rfl, rfl, rfl, fun a => by simp [covered]⟩
  | cons x rest ih =>
    obtain ⟨f, place⟩ := x
    obtain ⟨t, type, same, _, later⟩ := ordered
    obtain ⟨first, others⟩ := List.forall_mem_cons.mp inValue
    have inside := later.start_le
    have small := m.size.toNat_lt
    have ends : t.size = 0 ∨ place.toNat + t.size ≤ value.length := by
      rw [← same]
      exact (Nat.eq_zero_or_pos t.size).imp_right (first t type)
    have length : (Bytes.sub place.toNat t.size value).length = t.size := by
      rcases ends with empty | fits
      · simp [Bytes.sub, empty]
      · exact Bytes.length_sub fits
    have target : (addr + place).toNat = addr.toNat + place.toNat :=
      LinearMemory.toNat_add_place (by omega)
    have written : v.storeField m addr value f place =
        (m.put (addr + place) (Bytes.sub place.toNat t.size value), .ok ()) := by
      have fits := (FieldInfo.endsBy_iff type value.length).mp first
      rw [same] at fits
      simp only [storeField, type, same]
      rw [fits, LinearMemory.write_inside free (by omega)]
      rfl
    obtain ⟨after, stored, size, readable, bytes⟩ := ih
      (m.put (addr + place) (Bytes.sub place.toNat t.size value)) later others free room
    refine ⟨after, ?_, size, readable, ?_⟩
    · simp only [storeFields, written]
      exact stored
    · intro a
      rw [bytes, LinearMemory.byte_put (by omega), covered_cons, length, target]
      have own := FieldInfo.covers_iff type place.toNat (a.toNat - addr.toNat)
      by_cases further : addr.toNat ≤ a.toNat ∧ covered rest (a.toNat - addr.toNat) = true
      · rw [if_pos further, if_pos ⟨further.1, by simp [further.2]⟩]
      · rw [if_neg further]
        split
        · rename_i here
          have covers := own.mpr (by omega)
          rw [if_pos ⟨by omega, by simp [covers]⟩, Bytes.getElem?_sub (by omega)]
          congr 1
          omega
        · rename_i outside
          rw [if_neg]
          rintro ⟨after, either⟩
          rcases Bool.or_eq_true_iff.mp either with here | there
          · have := own.mp here
            omega
          · exact further ⟨after, there⟩

end View

end TypeAtlas
