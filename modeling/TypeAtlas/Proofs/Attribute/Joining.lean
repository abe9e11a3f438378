import TypeAtlas.Proofs.Attribute.Reading
import TypeAtlas.Source.Directive

/-!
Joining lists of attributes. An accepted list leaves no quote open, so after it and a comma the splitter starts
afresh; and unless the list ends in a comma, all of its entries are kept. Two lists that are accepted are
therefore accepted in one, with the attributes of both, and two comments that attach attributes say what one
comment says.
-/

namespace TypeAtlas

namespace Attribute

variable {s t : Text} {as bs : List Attribute}

/-- The last entry of a list is blank only if the list is, or ends in a comma. -/
theorem last_piece_not_blank (full : s.trim ≠ []) (ends : s.trim.getLast? ≠ some comma) {e : Entry}
    (last : (pieces .outside s).getLast? = some e) : e.text.trim ≠ [] := by
  intro empty
  rcases last_piece last with rfl | ⟨before, rfl⟩
  · exact full empty
  · have blank := Text.trim_eq_nil_iff.mp empty
    obtain ⟨l, whole, _⟩ := Text.exists_trim_concat (b := comma) (by decide) (by decide) before
    rw [← List.singleton_append, ← List.append_assoc, Text.trim_append_blank _ blank] at full ends
    have reached := List.getLast?_concat (l := before) (a := comma)
    rw [whole, List.getLast?_append, List.getLast?_eq_some_getLast full, Option.some_or,
      ← List.getLast?_eq_some_getLast full] at reached
    exact ends reached

/-- Lists joined with a comma are read one after the other. -/
theorem parse_append_comma (accepted : parse s = .ok as) (accepted' : parse t = .ok bs) (full : s.trim ≠ [])
    (ends : s.trim.getLast? ≠ some comma) : parse (s ++ comma :: t) = .ok (as ++ bs) := by
  have kept : withoutBlankEnd (pieces .outside s) = pieces .outside s :=
    withoutBlankEnd_eq_self fun _ => last_piece_not_blank full ends
  rw [parse_eq, kept] at accepted
  rw [parse_eq] at accepted'
  have closed : ∀ e ∈ pieces .outside s, e.closed = true := by
    intro e member
    obtain ⟨a, _, read⟩ := exists_result_of_mapM_eq_ok accepted e member
    exact (ofEntry_eq_ok_iff.mp read).closed
  rw [parse_eq, pieces_append_comma closed, withoutBlankEnd_append _ (pieces_ne_nil _ _), List.mapM_append,
    accepted, accepted']
  rfl

end Attribute

namespace Source.Directives

open Attribute (comma)

/-- A comment that attaches the attributes of a text. -/
def Attaches (comment argument : Text) : Prop :=
  ∃ rest : Text, comment = leader ++ ("attr" ++ 0x20 :: rest) ∧ rest.trim = argument

variable {path : List Text} {comment argument : Text}

theorem read_of_attaches (attaches : Attaches comment argument) (given : argument ≠ []) (d : Directives) :
    read path d comment = (Attribute.parse argument).map fun attrs => { d with attrs := d.attrs ++ attrs } := by
  obtain ⟨rest, rfl, rfl⟩ := attaches
  have leads : leader.isPrefixOf (leader ++ ("attr" ++ 0x20 :: rest)) = true :=
    List.isPrefixOf_iff_prefix.mpr (List.prefix_append _ _)
  have verb : Text.cut 0x20 ("attr" ++ 0x20 :: rest) = (("attr" : Text), some rest) :=
    Text.cut_append (by decide) rest
  have others : ("attr" : Text) ≠ "reflect" ∧ ("attr" : Text) ≠ "enum" ∧ ("attr" : Text) ≠ "func" := by decide
  simp [read, leads, verb, others, given]

variable {c₁ c₂ c₃ s t : Text} {as bs : List Attribute}

/-- Attaching two lists one after the other is attaching the list joined from them. -/
theorem read_joined (accepted : Attribute.parse s = .ok as) (accepted' : Attribute.parse t = .ok bs)
    (joined : Attribute.parse (s ++ comma :: t) = .ok (as ++ bs)) (full : s ≠ []) (full' : t ≠ [])
    (first : Attaches c₁ s) (second : Attaches c₂ t) (both : Attaches c₃ (s ++ comma :: t)) (d : Directives) :
    (read path d c₁ >>= fun d => read path d c₂) = read path d c₃ := by
  rw [read_of_attaches first full, read_of_attaches both (by simp), accepted, joined]
  show read path { d with attrs := d.attrs ++ as } c₂ = .ok { d with attrs := d.attrs ++ (as ++ bs) }
  rw [read_of_attaches second full', accepted', ← List.append_assoc]
  rfl

/-- Two steps in a row may be replaced by one that does the same. -/
theorem parse_congr (before after : List Text)
    (same : ∀ d, (read path d c₁ >>= fun d => read path d c₂) = read path d c₃) :
    parse path (before ++ c₁ :: c₂ :: after) = parse path (before ++ c₃ :: after) := by
  have steps : (before ++ c₁ :: c₂ :: after).foldlM (read path) {} =
      (before ++ c₃ :: after).foldlM (read path) {} := by
    rw [List.foldlM_append, List.foldlM_append]
    refine bind_congr fun d => ?_
    rw [List.foldlM_cons, List.foldlM_cons, ← same, bind_assoc]
    exact bind_congr fun _ => List.foldlM_cons
  rw [parse, parse, steps]

/-- Accepted lists joined with a comma are accepted with the attributes of both; and two comments that attach
them one after the other may be replaced by a comment that attaches the joined list. -/
theorem joined_lists (accepted : Attribute.parse s = .ok as) (accepted' : Attribute.parse t = .ok bs)
    (full : s.trim ≠ []) (ends : s.trim.getLast? ≠ some comma) :
    Attribute.parse (s ++ comma :: t) = .ok (as ++ bs) ∧
      ∀ path before after c₁ c₂ c₃, Attaches c₁ s → Attaches c₂ t → Attaches c₃ (s ++ comma :: t) →
        t.trim ≠ [] → parse path (before ++ c₁ :: c₂ :: after) = parse path (before ++ c₃ :: after) := by
  have joined := Attribute.parse_append_comma accepted accepted' full ends
  have nonempty {t : Text} (full : t.trim ≠ []) : t ≠ [] := by
    rintro rfl
    exact full rfl
  refine ⟨joined, fun path before after c₁ c₂ c₃ first second both full' => ?_⟩
  exact parse_congr before after
    (read_joined accepted accepted' joined (nonempty full) (nonempty full') first second both)

/-- A quoted value that ends in a backslash, before a list with a separator too many. -/
theorem joined_lists_backslash :
    Attribute.parse "skip,doc=\"a, b\\\\\",x = 1," =
        .ok [.flag "skip", .valued "doc" "a, b\\", .valued "x" "1"] ∧
      parse [] ["//introspect:reflect", "//introspect:attr skip,doc=\"a, b\\\\\"", "//introspect:attr x = 1,"] =
        parse [] ["//introspect:reflect", "//introspect:attr  skip,doc=\"a, b\\\\\",x = 1, "] := by
  have accepted : Attribute.parse "skip,doc=\"a, b\\\\\"" = .ok [.flag "skip", .valued "doc" "a, b\\"] := rfl
  have accepted' : Attribute.parse "x = 1," = .ok [.valued "x" "1"] := rfl
  have joined := joined_lists accepted accepted' (by decide) (by decide)
  refine ⟨joined.1, joined.2 [] ["//introspect:reflect"] [] _ _ _ ⟨_, rfl, rfl⟩ ⟨_, rfl, rfl⟩ ?_ (by decide)⟩
  exact ⟨" skip,doc=\"a, b\\\\\",x = 1, ", rfl, rfl⟩

end Source.Directives

end TypeAtlas
