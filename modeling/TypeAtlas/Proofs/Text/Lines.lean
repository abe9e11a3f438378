import TypeAtlas.Text

/-!
Texts that end with a line break, as everything does that is written line by line.
-/

namespace TypeAtlas.Text

/-- The text ends with a line break. -/
def EndsLine (t : Text) : Prop :=
  ∃ body : Text, t = body ++ [0x0A]

namespace EndsLine

variable {t : Text}

theorem append (ends : EndsLine t) (s : Text) : EndsLine (s ++ t) := by
  obtain ⟨body, rfl⟩ := ends
  exact ⟨s ++ body, (List.append_assoc ..).symm⟩

/-- Without its last byte the text lacks the line break and nothing else. -/
theorem dropLast_append (ends : EndsLine t) : t.dropLast ++ [0x0A] = t := by
  obtain ⟨body, rfl⟩ := ends
  rw [List.dropLast_concat]

theorem flatten {ts : List Text} (some : ts ≠ []) (each : ∀ t ∈ ts, EndsLine t) :
    EndsLine ts.flatten := by
  induction ts with
  | nil => exact absurd rfl some
  | cons t rest ih =>
    rw [List.forall_mem_cons] at each
    cases rest with
    | nil => simpa using each.1
    | cons next more => exact (ih (List.cons_ne_nil _ _) each.2).append t

end EndsLine

end TypeAtlas.Text
