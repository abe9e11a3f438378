import TypeAtlas.Text

/-!
Finite maps as lists of pairs, in the order in which keys were first set. A key occurs at most once as
long as the map is built with `set`.
-/

namespace TypeAtlas

/-- A finite map. -/
abbrev Keyed (κ ν : Type) := List (κ × ν)

namespace Keyed

variable {κ ν : Type} [DecidableEq κ]

def get? (m : Keyed κ ν) (k : κ) : Option ν :=
  (m.find? fun e => e.1 = k).map Prod.snd

/-- Sets the value of a key, in its place if it has one. -/
def set : Keyed κ ν → κ → ν → Keyed κ ν
  | [], k, v => [(k, v)]
  | (k', v') :: rest, k, v => if k' = k then (k, v) :: rest else (k', v') :: set rest k v

@[simp]
theorem get?_nil (k : κ) : get? ([] : Keyed κ ν) k = none :=
  rfl

theorem get?_cons (k' : κ) (v : ν) (m : Keyed κ ν) (k : κ) :
    get? ((k', v) :: m) k = if k' = k then some v else get? m k := by
  by_cases h : k' = k <;> simp [get?, h]

/-- Setting a key changes the value of that key only. -/
theorem get?_set (m : Keyed κ ν) (k k' : κ) (v : ν) :
    get? (set m k v) k' = if k = k' then some v else get? m k' := by
  induction m with
  | nil => simp [set, get?_cons]
  | cons e m ih =>
    obtain ⟨i, w⟩ := e
    by_cases h : i = k
    · subst h
      by_cases h' : i = k' <;> simp [set, get?_cons, h']
    · by_cases h' : i = k'
      · subst h'
        simp [set, get?_cons, h, Ne.symm h]
      · simp [set, get?_cons, h, h', ih]

end Keyed

end TypeAtlas
