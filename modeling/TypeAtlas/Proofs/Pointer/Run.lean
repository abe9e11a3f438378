import TypeAtlas.Proofs.Pointer.Access

/-!
Whole runs of pointer operations. A program owns blocks of memory from the start; it makes pointers from
references into them or from nothing, derives pointers from pointers, and accesses memory through them.
A pointer is known by its position in the list of all pointers made so far, so what it was derived from
is known too. Every pointer has the region of the first one in its line, and no access leaves it.
-/

namespace TypeAtlas

/-! ### Programs -/

/-- Memory that is there from the start on. -/
structure Block where
  base : UInt64
  size : UInt64
  fits : base.toNat + size.toNat ≤ 2 ^ 64

def Block.Holds (b : Block) (a : UInt64) : Prop :=
  b.base.toNat ≤ a.toNat ∧ a.toNat < b.base.toNat + b.size.toNat

/-- A reference to so many bytes in one of the blocks. -/
structure Window (blocks : List Block) (bytes : Nat) where
  block : Block
  owned : block ∈ blocks
  start : UInt64
  inside : start.toNat + bytes ≤ block.size.toNat

def Window.address {blocks : List Block} {bytes : Nat} (w : Window blocks bytes) : UInt64 :=
  w.block.base + w.start

/-- What a pointer is made from that is not derived from another one. References may be absent. -/
inductive Root (blocks : List Block) (e : Element) where
  | null
  | address (addr : UInt64)
  | symbolic (size : UInt64)
  | reference (data : Option (Window blocks e.size.toNat))
  | slice (capacity : UInt64) (data : Option (Window blocks (capacity.toNat * e.size.toNat)))
  | bytes (capacity : UInt64) (data : Option (Window blocks capacity.toNat))

namespace Root

variable {blocks : List Block} {e : Element}

/-- The pointer; `id` tells regions without an address apart. -/
def pointer (id : Nat) : Root blocks e → Pointer e
  | .null => .null
  | .address addr => .ofAddress addr
  | .symbolic size => .symbolic id size
  | .reference data => .ofReference (data.map Window.address)
  | .slice capacity data => .ofSlice (data.map Window.address) capacity
  | .bytes capacity data => .ofBytes (data.map Window.address) capacity

/-- There is no reference to begin with. -/
def isBare : Root blocks e → Bool
  | .null | .address _ | .symbolic _ => true
  | .reference _ | .slice .. | .bytes .. => false

end Root

/-- The ways to get a pointer from another one; elements of slices are looked up in a slice of so many
elements from the pointer on. -/
inductive Derivation where
  | cast (f : Element)
  | move (m : Move)
  | checkedOffset (count : Int64)
  | get (length i : Int64)
  | getUnchecked (length i : Int64)
  | field (f : Element) (offset : UInt64)

namespace Derivation

variable {e : Element}

def pointer (p : Pointer e) : Derivation → (f : Element) × Pointer f
  | .cast f => ⟨f, p.cast⟩
  | .move m => ⟨e, p.move m⟩
  | .checkedOffset count => ⟨e, (p.checkedOffset count).1⟩
  | .get length i => ⟨e, ((Slice.mk p length).get? i).getD .null⟩
  | .getUnchecked length i => ⟨e, (Slice.mk p length).getUnchecked i⟩
  | .field f offset => ⟨f, p.field offset⟩

/-- Whether the derivation reports success. -/
def succeeds (p : Pointer e) : Derivation → Bool
  | .checkedOffset count => (p.checkedOffset count).2
  | .get length i => ((Slice.mk p length).get? i).isSome
  | .cast _ | .move _ | .getUnchecked .. | .field .. => true

/-- Only a look-up that fails gives a pointer that has nothing to do with the one it was asked of. -/
def isMiss (p : Pointer e) : Derivation → Bool
  | .get length i => ((Slice.mk p length).get? i).isNone
  | _ => false

end Derivation

inductive Access where
  | read
  | readUnaligned
  | write (value : List UInt8)
  | copyTo (target : Nat) (count : Int64)
  | copyToNonoverlapping (target : Nat) (count : Int64)

/-- One step of a program. Pointers are given by their positions. -/
inductive Operation (blocks : List Block) where
  | make (e : Element) (root : Root blocks e)
  | derive (position : Nat) (d : Derivation)
  | access (position : Nat) (a : Access)

/-- Where a pointer comes from. -/
inductive Maker where
  | root (isBare : Bool)
  | derived (parent : Nat)

structure Handle where
  element : Element
  pointer : Pointer element
  maker : Maker

/-- Memory and all pointers made so far. -/
structure Machine where
  memory : Memory
  handles : List Handle

namespace Machine

variable {blocks : List Block}

def start (m : Memory) : Machine := ⟨m, []⟩

def add (s : Machine) (h : Handle) : Machine :=
  { s with handles := s.handles ++ [h] }

@[simp]
theorem memory_add (s : Machine) (h : Handle) : (s.add h).memory = s.memory :=
  rfl

/-- The pointer at a position, if it points to such elements. -/
def target? (s : Machine) (e : Element) (position : Nat) : Option (Pointer e) :=
  match s.handles[position]? with
  | some h => if h.element = e then some h.pointer.cast else none
  | none => none

/-- The effect of an access through `h` on memory. -/
def perform (s : Machine) (h : Handle) (m : Memory) : Access → Memory × Option (List UInt8)
  | .read => (m, h.pointer.read m)
  | .readUnaligned => (m, h.pointer.readUnaligned m)
  | .write value => Pointer.report (h.pointer.write m value)
  | .copyTo target count =>
    match s.target? h.element target with
    | some q => Pointer.report (h.pointer.copyTo m q count)
    | none => (m, none)
  | .copyToNonoverlapping target count =>
    match s.target? h.element target with
    | some q => Pointer.report (h.pointer.copyToNonoverlapping m q count)
    | none => (m, none)

/-- The machine after a step, and the report: nothing for a failure, and else the bytes that were read.
A step that asks for a pointer which is not there fails. -/
def step (s : Machine) : Operation blocks → Machine × Option (List UInt8)
  | .make e root => (s.add ⟨e, root.pointer s.handles.length, .root root.isBare⟩, some [])
  | .derive position d =>
    match s.handles[position]? with
    | some h =>
      let maker := if d.isMiss h.pointer then .root true else .derived position
      (s.add ⟨(d.pointer h.pointer).1, (d.pointer h.pointer).2, maker⟩,
        if d.succeeds h.pointer then some [] else none)
    | none => (s, none)
  | .access position a =>
    match s.handles[position]? with
    | some h => ({ s with memory := (s.perform h s.memory a).1 }, (s.perform h s.memory a).2)
    | none => (s, none)

def run (s : Machine) (ops : List (Operation blocks)) : Machine :=
  ops.foldl (fun s op => (s.step op).1) s

/-! ### What a step may touch -/

/-- Bytes that an access reaches through a pointer. -/
structure Use where
  position : Nat
  handle : Handle
  bytes : Nat
  isWritten : Bool

def Use.range (u : Use) : Effect.Range :=
  ⟨u.handle.pointer.address, u.bytes, u.isWritten⟩

def Use.Has (u : Use) (a : UInt64) : Prop :=
  u.range.Has a

/-- The bytes of `count` elements, from the first pointer to the second. -/
def copyUses (s : Machine) (position : Nat) (h : Handle) (target : Nat) (count : Int64) : List Use :=
  match s.handles[target]? with
  | some g =>
    let bytes := count.toNatClampNeg * h.element.size.toNat
    if 0 < count then [⟨position, h, bytes, false⟩, ⟨target, g, bytes, true⟩] else []
  | none => []

def accessUses (s : Machine) (position : Nat) (h : Handle) : Access → List Use
  | .read | .readUnaligned => [⟨position, h, h.element.size.toNat, false⟩]
  | .write _ => [⟨position, h, h.element.size.toNat, true⟩]
  | .copyTo target count | .copyToNonoverlapping target count => s.copyUses position h target count

/-- The bytes that a step is about. -/
def uses (s : Machine) : Operation blocks → List Use
  | .make .. | .derive .. => []
  | .access position a =>
    match s.handles[position]? with
    | some h => s.accessUses position h a
    | none => []

/-- The pointer at a position was derived from the other one, in any number of steps. -/
inductive DescendsFrom (s : Machine) : Nat → Nat → Prop where
  | self (position : Nat) : DescendsFrom s position position
  | derived {position parent ancestor : Nat} {h : Handle} (found : s.handles[position]? = some h)
      (maker : h.maker = .derived parent) (line : DescendsFrom s parent ancestor) :
      DescendsFrom s position ancestor

/-- The pointer at a position was made without a reference. -/
def IsBare (s : Machine) (position : Nat) : Prop :=
  ∃ h, s.handles[position]? = some h ∧ h.maker = .root true

/-- What a step keeps to. -/
structure StaysInside (s : Machine) (op : Operation blocks) : Prop where
  -- A derived pointer has the region of the one it is derived from.
  region : ∀ position d h, op = .derive position d → s.handles[position]? = some h →
    (∀ length i, d = .get length i → (s.step op).2 ≠ none) →
      ∃ g, (s.step op).1.handles = s.handles ++ [g] ∧ g.pointer.region = h.pointer.region ∧
        g.maker = .derived position
  -- An access that succeeds touches only bytes of the region, all of them in a block.
  inside : (s.step op).2 ≠ none → ∀ u ∈ s.uses op, ∀ a, u.Has a →
    u.handle.pointer.region.Holds a ∧ ∃ b ∈ blocks, b.Holds a
  -- It goes through no pointer that descends from one made without a reference.
  grounded : (s.step op).2 ≠ none → ∀ u ∈ s.uses op, ∀ ancestor,
    s.DescendsFrom u.position ancestor → ¬ s.IsBare ancestor
  -- A failure changes nothing.
  refused : (s.step op).2 = none → (s.step op).1.memory = s.memory
  -- Only the destination of a write or a copy changes.
  frame : ∀ a, (s.step op).1.memory.byte a ≠ s.memory.byte a →
    ∃ u ∈ s.uses op, u.isWritten = true ∧ u.Has a
  -- No other byte has an influence on the report and on the bytes of the step.
  isolated : ∀ m, (∀ u ∈ s.uses op, ∀ a, u.Has a → m.byte a = s.memory.byte a) →
    ({ s with memory := m }.step op).2 = (s.step op).2 ∧
      ∀ u ∈ s.uses op, ∀ a, u.Has a →
        ({ s with memory := m }.step op).1.memory.byte a = (s.step op).1.memory.byte a

end Machine

/-! ### Regions of roots and of derived pointers -/

/-- The region ends inside the address space, and all its bytes belong to blocks. -/
structure Region.Within (r : Region) (blocks : List Block) : Prop where
  fits : r.Fits
  owned : ∀ a, r.Holds a → ∃ b ∈ blocks, b.Holds a

theorem Region.within_of_bare {r : Region} {blocks : List Block} (bare : ∀ base, r.origin ≠ .address base) :
    r.Within blocks := by
  constructor
  · intro base origin
    exact absurd origin (bare base)
  · rintro a ⟨base, origin, _⟩
    exact absurd origin (bare base)

theorem Window.within {blocks : List Block} {bytes : Nat} (w : Window blocks bytes) {size : UInt64}
    (same : size.toNat = bytes) : Region.Within ⟨.address w.address, size⟩ blocks := by
  have first := w.block.base.toNat_lt
  have fits := w.block.fits
  have inside := w.inside
  have base : w.address.toNat = (w.block.base.toNat + w.start.toNat) % 2 ^ 64 := UInt64.toNat_add _ _
  constructor
  · intro base' origin
    cases origin
    simp only
    omega
  · rintro a ⟨base', origin, after, before⟩
    cases origin
    simp only at before
    refine ⟨w.block, w.owned, ?_, ?_⟩ <;> omega

namespace Root

variable {blocks : List Block} {e : Element}

theorem bare_region {root : Root blocks e} (bare : root.isBare = true) (id : Nat) (base : UInt64) :
    (root.pointer id).region.origin ≠ .address base := by
  cases root with
  | null | address _ | symbolic _ => nofun
  | reference _ | slice _ _ | bytes _ _ => cases bare

theorem null_within : (Pointer.null : Pointer e).region.Within blocks :=
  Region.within_of_bare nofun

theorem slice_within {f : Element} {capacity : UInt64} {bytes : Nat} (data : Option (Window blocks bytes))
    (room : bytes = capacity.toNat * f.size.toNat) :
    (Pointer.ofSlice (data.map Window.address) capacity : Pointer f).region.Within blocks := by
  cases data with
  | none => exact null_within
  | some w =>
    apply w.within
    have small := w.block.size.toNat_lt
    have inside := w.inside
    rw [UInt64.toNat_mul, ← room, Nat.mod_eq_of_lt (by omega)]

theorem within (root : Root blocks e) (id : Nat) : (root.pointer id).region.Within blocks := by
  cases root with
  | null | address _ | symbolic _ => exact Region.within_of_bare (bare_region rfl id)
  | reference data =>
    cases data with
    | none => exact null_within
    | some w => exact w.within rfl
  | slice capacity data => exact slice_within data rfl
  | bytes capacity data =>
    have room : capacity.toNat = capacity.toNat * Element.byte.size.toNat := (Nat.mul_one _).symm
    exact slice_within data room

end Root

namespace Pointer

variable {e : Element}

@[simp]
theorem region_move (p : Pointer e) (m : Move) : (p.move m).region = p.region := by
  cases m <;> rfl

@[simp]
theorem region_checkedOffset (p : Pointer e) (count : Int64) :
    (p.checkedOffset count).1.region = p.region := by
  simp only [checkedOffset]
  repeat' split
  all_goals rfl

end Pointer

/-- All derivations keep the region, except a look-up that fails. -/
theorem Derivation.region_pointer {e : Element} {p : Pointer e} {d : Derivation}
    (hit : d.isMiss p = false) : (d.pointer p).2.region = p.region := by
  cases d with
  | cast f => rfl
  | move m => exact p.region_move m
  | checkedOffset count => exact p.region_checkedOffset count
  | get length i =>
    simp only [isMiss, Option.isNone_eq_false_iff] at hit
    simp only [pointer, Slice.get?] at hit ⊢
    split at hit
    · cases hit
    · rename_i inside
      rw [if_neg inside]
      rfl
  | getUnchecked length i => rfl
  | field f offset => rfl

theorem Derivation.region_of_isMiss {e : Element} {p : Pointer e} {d : Derivation}
    (miss : d.isMiss p = true) : (d.pointer p).2.region = .none := by
  cases d with
  | get length i =>
    simp only [isMiss, Option.isNone_iff_eq_none] at miss
    simp only [pointer, miss]
    rfl
  | cast _ | move _ | checkedOffset _ | getUnchecked _ _ | field _ _ => cases miss

/-! ### Every run is sound -/

/-- A handle whose region agrees with where it comes from. -/
structure Handle.Justified (blocks : List Block) (handles : List Handle) (h : Handle) : Prop where
  within : h.pointer.region.Within blocks
  bare : h.maker = .root true → ∀ base, h.pointer.region.origin ≠ .address base
  parent : ∀ position, h.maker = .derived position →
    ∃ g, handles[position]? = some g ∧ g.pointer.region = h.pointer.region

theorem Handle.Justified.append {blocks : List Block} {handles : List Handle} {h : Handle}
    (justified : h.Justified blocks handles) (g : Handle) : h.Justified blocks (handles ++ [g]) := by
  refine ⟨justified.within, justified.bare, ?_⟩
  intro position maker
  obtain ⟨parent, found, region⟩ := justified.parent position maker
  exact ⟨parent, List.getElem?_append_left (List.getElem?_eq_some_iff.mp found).1 ▸ found, region⟩

namespace Machine

variable {blocks : List Block} {s : Machine}

def Sound (blocks : List Block) (s : Machine) : Prop :=
  ∀ h ∈ s.handles, h.Justified blocks s.handles

theorem Sound.add (sound : s.Sound blocks) {g : Handle} (justified : g.Justified blocks s.handles) :
    (s.add g).Sound blocks := by
  intro h member
  rcases List.mem_append.mp member with old | new
  · exact (sound h old).append g
  · rw [List.mem_singleton.mp new]
    exact justified.append g

theorem Sound.step (sound : s.Sound blocks) (op : Operation blocks) : (s.step op).1.Sound blocks := by
  cases op with
  | make e root =>
    apply sound.add
    refine ⟨root.within _, ?_, nofun⟩
    intro bare
    exact root.bare_region (Maker.root.inj bare) _
  | derive position d =>
    simp only [Machine.step]
    split
    · rename_i h found
      have given := sound h (List.mem_of_getElem? found)
      apply sound.add
      cases miss : d.isMiss h.pointer with
      | true =>
        have region := Derivation.region_of_isMiss miss
        have bare : ∀ base, (d.pointer h.pointer).2.region.origin ≠ .address base := by
          rw [region]
          nofun
        exact ⟨Region.within_of_bare bare, fun _ => bare, nofun⟩
      | false =>
        have region := Derivation.region_pointer miss
        refine ⟨?_, nofun, ?_⟩
        · rw [region]
          exact given.within
        · rintro _ ⟨⟩
          exact ⟨h, found, region.symm⟩
    · exact sound
  | access position a =>
    simp only [Machine.step]
    split
    · exact sound
    · exact sound

theorem Sound.run (sound : s.Sound blocks) (ops : List (Operation blocks)) : (s.run ops).Sound blocks := by
  induction ops generalizing s with
  | nil => exact sound
  | cons op rest ih => exact ih (sound.step op)

theorem Sound.region_of_descends (sound : s.Sound blocks) {position ancestor : Nat} {h : Handle}
    (line : s.DescendsFrom position ancestor) (found : s.handles[position]? = some h) :
    ∃ g, s.handles[ancestor]? = some g ∧ g.pointer.region = h.pointer.region := by
  induction line generalizing h with
  | self position => exact ⟨h, found, rfl⟩
  | @derived _ _ _ h' found' maker _ ih =>
    obtain rfl : h = h' := Option.some.inj (found.symm.trans found')
    obtain ⟨parent, there, region⟩ := (sound h (List.mem_of_getElem? found)).parent _ maker
    obtain ⟨g, ancestor, same⟩ := ih there
    exact ⟨g, ancestor, same.trans region⟩

/-- A pointer into memory descends from references only. -/
theorem Sound.not_bare (sound : s.Sound blocks) {position ancestor : Nat} {h : Handle} {base : UInt64}
    (found : s.handles[position]? = some h) (origin : h.pointer.region.origin = .address base)
    (line : s.DescendsFrom position ancestor) : ¬ s.IsBare ancestor := by
  rintro ⟨g, there, maker⟩
  obtain ⟨g', there', region⟩ := sound.region_of_descends line found
  obtain rfl : g = g' := Option.some.inj (there.symm.trans there')
  apply (sound g (List.mem_of_getElem? there)).bare maker base
  rw [region]
  exact origin

/-! ### Accesses -/

/-- Where the pointers of the uses are, and that the bytes of each pass its bounds check. -/
def Allowed (s : Machine) (us : List Use) : Prop :=
  ∀ u ∈ us, s.handles[u.position]? = some u.handle ∧
    ∃ n : UInt64, n.toNat = u.bytes ∧ u.handle.pointer.hasBytes n = true

/-- An access does what an effect says, whatever memory holds. Unless it is refused, it touches the bytes
of the uses, and they are allowed. -/
def HasEffect (s : Machine) (act : Memory → Memory × Option (List UInt8)) (us : List Use) : Prop :=
  ∃ effect : Effect, (∀ m, act m = effect.run m) ∧
    (effect = .refused ∨ effect.ranges = us.map Use.range ∧ s.Allowed us)

theorem hasEffect_of_single {position : Nat} {h : Handle} {isWritten : Bool} {effect : Effect}
    {act : Memory → Memory × Option (List UInt8)} (found : s.handles[position]? = some h)
    (ranges : effect.ranges = [⟨h.pointer.address, h.element.size.toNat, isWritten⟩])
    (outcome : (∀ m, act m = Effect.refused.run m) ∨
      h.pointer.hasBytes h.element.size = true ∧ ∀ m, act m = effect.run m) :
    s.HasEffect act [⟨position, h, h.element.size.toNat, isWritten⟩] := by
  rcases outcome with refused | ⟨has, done⟩
  · exact ⟨_, refused, .inl rfl⟩
  · refine ⟨effect, done, .inr ⟨ranges, ?_⟩⟩
    intro u member
    obtain rfl := List.mem_singleton.mp member
    exact ⟨found, _, rfl, has⟩

theorem copyTo_hasEffect {position target : Nat} {h : Handle} {q : Pointer h.element}
    (found : s.handles[position]? = some h) (there : s.target? h.element target = some q) (count : Int64) :
    s.HasEffect (fun m => Pointer.report (h.pointer.copyTo m q count))
      (s.copyUses position h target count) := by
  unfold target? at there
  split at there
  · rename_i g found'
    split at there
    · cases there
      rw [copyUses, found']
      rcases h.pointer.copyTo_effect g.pointer.cast count with
        refused | ⟨none, done⟩ | ⟨some, n, bytes, first, second, done⟩
      · exact ⟨_, refused, .inl rfl⟩
      · subst none
        refine ⟨_, done, .inr ⟨rfl, ?_⟩⟩
        intro u member
        cases member
      · rw [bytes] at done
        simp only [if_pos some]
        refine ⟨_, done, .inr ⟨rfl, ?_⟩⟩
        simp only [Allowed, List.forall_mem_cons]
        exact ⟨⟨found, n, bytes, first⟩, ⟨found', n, bytes, second⟩, nofun⟩
    · cases there
  · cases there

theorem perform_hasEffect {position : Nat} {h : Handle} (found : s.handles[position]? = some h)
    (a : Access) : s.HasEffect (fun m => s.perform h m a) (s.accessUses position h a) := by
  have missing (us : List Use) : s.HasEffect (fun m => (m, none)) us := ⟨.refused, fun _ => rfl, .inl rfl⟩
  cases a with
  | read => exact hasEffect_of_single found rfl h.pointer.read_effect
  | readUnaligned => exact hasEffect_of_single found rfl h.pointer.readUnaligned_effect
  | write value =>
    refine hasEffect_of_single found ?_ (h.pointer.write_effect value)
    rw [Effect.ranges, Element.length_bytes]
  | copyTo target count =>
    simp only [perform, accessUses]
    split
    · rename_i q there
      exact copyTo_hasEffect found there count
    · exact missing _
  | copyToNonoverlapping target count =>
    simp only [perform, accessUses]
    split
    · rename_i q there
      rcases h.pointer.copyToNonoverlapping_cases q count with refused | copied
      · simp only [refused]
        exact missing _
      · simp only [copied]
        exact copyTo_hasEffect found there count
    · exact missing _

/-- Every step has an effect on memory; only accesses touch anything. -/
theorem step_hasEffect (s : Machine) (op : Operation blocks) :
    s.HasEffect (fun m => (({ s with memory := m }.step op).1.memory, ({ s with memory := m }.step op).2))
      (s.uses op) := by
  have idle : s.HasEffect (fun m => (m, some [])) [] := ⟨.nothing, fun _ => rfl, .inr ⟨rfl, nofun⟩⟩
  have missing : s.HasEffect (fun m => (m, none)) [] := ⟨.refused, fun _ => rfl, .inl rfl⟩
  cases op with
  | make e root => exact idle
  | derive position d =>
    simp only [step, uses]
    cases s.handles[position]? with
    | none => exact missing
    | some h =>
      cases succeeds : d.succeeds h.pointer with
      | true => simpa only [memory_add, succeeds, if_true] using idle
      | false => simpa only [memory_add, succeeds, Bool.false_eq_true, if_false] using missing
  | access position a =>
    simp only [step, uses]
    cases found : s.handles[position]? with
    | none => exact missing
    | some h =>
      have handles (m : Memory) : ({ s with memory := m } : Machine).perform h m a = s.perform h m a := by
        cases a <;> rfl
      simp only [handles]
      exact perform_hasEffect found a

namespace HasEffect

variable {act : Memory → Memory × Option (List UInt8)} {us : List Use}

theorem refused (acts : s.HasEffect act us) {m : Memory} (report : (act m).2 = none) : (act m).1 = m := by
  obtain ⟨effect, runs, _⟩ := acts
  rw [runs] at report ⊢
  exact Effect.run_eq_none report

theorem allowed (acts : s.HasEffect act us) {m : Memory} (report : (act m).2 ≠ none) : s.Allowed us := by
  obtain ⟨effect, runs, rfl | ⟨_, allowed⟩⟩ := acts
  · rw [runs] at report
    exact absurd rfl report
  · exact allowed

theorem frame (acts : s.HasEffect act us) {m : Memory} {a : UInt64}
    (changed : (act m).1.byte a ≠ m.byte a) : ∃ u ∈ us, u.isWritten = true ∧ u.Has a := by
  obtain ⟨effect, runs, rfl | ⟨ranges, _⟩⟩ := acts
  · rw [runs] at changed
    exact absurd rfl changed
  · rw [runs] at changed
    obtain ⟨r, member, isWritten, has⟩ := Effect.changed_isWritten changed
    rw [ranges] at member
    obtain ⟨u, found, rfl⟩ := List.mem_map.mp member
    exact ⟨u, found, isWritten, has⟩

theorem isolated (acts : s.HasEffect act us) {m m' : Memory}
    (same : ∀ u ∈ us, ∀ a, u.Has a → m'.byte a = m.byte a) :
    (act m').2 = (act m).2 ∧ ∀ u ∈ us, ∀ a, u.Has a → (act m').1.byte a = (act m).1.byte a := by
  obtain ⟨effect, runs, rfl | ⟨ranges, _⟩⟩ := acts
  · rw [runs, runs]
    exact ⟨rfl, same⟩
  · have agree : ∀ r ∈ effect.ranges, ∀ a, r.Has a → m'.byte a = m.byte a := by
      rw [ranges, List.forall_mem_map]
      exact same
    have alike := Effect.run_congr agree
    rw [ranges, List.forall_mem_map] at alike
    rw [runs, runs]
    exact alike

end HasEffect

theorem region_of_derive {position : Nat} {d : Derivation} {h : Handle}
    (found : s.handles[position]? = some h)
    (hit : ∀ length i, d = .get length i → (s.step (.derive position d : Operation blocks)).2 ≠ none) :
    ∃ g, (s.step (.derive position d : Operation blocks)).1.handles = s.handles ++ [g] ∧
      g.pointer.region = h.pointer.region ∧ g.maker = .derived position := by
  simp only [step, found] at hit ⊢
  have kept : d.isMiss h.pointer = false := by
    cases d with
    | get length i =>
      have found : Derivation.succeeds h.pointer (.get length i) = true := by
        simpa using hit length i rfl
      simpa [Derivation.isMiss, Derivation.succeeds, Option.isNone_eq_false_iff] using found
    | cast _ | move _ | checkedOffset _ | getUnchecked _ _ | field _ _ => rfl
  refine ⟨_, rfl, Derivation.region_pointer kept, ?_⟩
  simp only [kept, Bool.false_eq_true, if_false]

theorem Sound.staysInside (sound : s.Sound blocks) (op : Operation blocks) : s.StaysInside op := by
  have acts := s.step_hasEffect op
  constructor
  case region =>
    rintro position d h rfl found hit
    exact region_of_derive found hit
  case inside =>
    intro report u member a has
    obtain ⟨found, n, bytes, allowed⟩ := acts.allowed (m := s.memory) report u member
    have within := (sound u.handle (List.mem_of_getElem? found)).within
    have reached : Reaches u.handle.pointer.address n.toNat a := by
      rw [bytes]
      exact has
    have holds := Pointer.holds_of_hasBytes within.fits allowed reached
    exact ⟨holds, within.owned a holds⟩
  case grounded =>
    intro report u member ancestor line
    obtain ⟨found, n, _, allowed⟩ := acts.allowed (m := s.memory) report u member
    obtain ⟨base, origin⟩ := (Pointer.hasBytes_iff.mp allowed).1
    exact sound.not_bare found origin line
  case refused => exact acts.refused
  case frame => exact fun a => acts.frame
  case isolated => exact fun m => acts.isolated

/-- Whatever blocks a program owns and whatever steps it has taken, its next step stays inside. -/
theorem runs_stay_inside (blocks : List Block) (m : Memory) (before : List (Operation blocks))
    (op : Operation blocks) : ((start m).run before).StaysInside op := by
  have nothing : (start m).Sound blocks := nofun
  exact (nothing.run before).staysInside op

/-- Sixteen bytes. -/
def shelf : List Block := [⟨64, 16, by decide⟩]

/-- Makes a pointer to the first of four numbers, derives one far behind them from it and from that one a
pointer to the last of them, and writes through it. -/
def strayAndReturn : List (Operation shelf) :=
  [.make ⟨4, 4⟩ (.slice 4 (some ⟨⟨64, 16, by decide⟩, List.mem_cons_self, 0, by decide⟩)),
    .derive 0 (.move (.wrappingAdd 100)), .derive 1 (.move (.wrappingSub 97)),
    .access 2 (.write [1, 2, 3, 4])]

example : (((start ⟨fun _ => 0⟩).run strayAndReturn).step (.access 1 .read : Operation shelf)).2 = none := by
  decide

example : (((start ⟨fun _ => 0⟩).run strayAndReturn).step (.access 2 .read : Operation shelf)).2 =
    some [1, 2, 3, 4] := by
  decide

end Machine

end TypeAtlas
