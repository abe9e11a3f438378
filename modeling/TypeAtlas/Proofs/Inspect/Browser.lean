import TypeAtlas.Inspect.Browser
import TypeAtlas.Proofs.Outcome

/-!
The browser keeps its parts in agreement. What is visible is what the filter lets through, the selection is
among it, and a description is held exactly while it is shown. Each message preserves this, however the
filter line is edited, so every run does: opening the selected entry always finds one.

A description is never empty, which is what tells an open one from none.
-/

namespace TypeAtlas

/-! ### Written text stays -/

/-- A writing adds to what was written before, whether or not it is refused. -/
def Writing.Extends {α : Type} (w : Writing α) : Prop :=
  ∀ s : Sink, s.out <+: (w.run.run s).2.out

namespace Writing.Extends

theorem pure {α : Type} (a : α) : Extends (Pure.pure a : Writing α) :=
  fun _ => List.prefix_rfl

theorem write (t : Text) : Extends (Sink.write t) := by
  intro s
  simp only [ExceptT.run, StateT.run, Sink.write]
  split
  · exact List.prefix_append ..
  · exact List.prefix_rfl
  · exact List.prefix_append ..

theorem bind {α β : Type} {w : Writing α} {f : α → Writing β} (first : w.Extends)
    (next : ∀ a, (f a).Extends) : Extends (w >>= f) := by
  intro s
  have before := first s
  rw [ExceptT.run_bind, StateT.run_bind]
  revert before
  cases w.run.run s with
  | mk outcome s' =>
    intro before
    cases outcome with
    | ok a => exact before.trans (next a s')
    | error e => exact before

theorem forM {α : Type} {f : α → Writing Unit} (each : ∀ a, (f a).Extends) (xs : List α) :
    Extends (xs.forM f) := by
  induction xs with
  | nil => exact pure ()
  | cons x rest ih => exact bind (each x) fun _ => ih

end Writing.Extends

namespace Outline

/-- What is written after a first line on a sink that refuses nothing follows that line. -/
theorem line_prefix {line : Text} {rest : Writing Unit} (more : rest.Extends) :
    line <+: ((Sink.write line >>= fun _ => rest).run.run Sink.unbounded).2.out :=
  more { room := none, attempts := 1, out := line }

/-- Lines do not end before their last word. -/
theorem line_ne_nil (front : Text) {last : Text} (word : last.isEmpty = false) : front ++ last ≠ [] := by
  intro empty
  rw [(List.append_eq_nil_iff.mp empty).2] at word
  cases word

theorem extends_writeVariant (v : VariantInfo) : (writeVariant v).Extends := by
  unfold writeVariant
  split
  · exact .write _
  · split
    · exact .write _
    · exact .bind (.write _) fun _ => .forM (fun _ => .write _) _

/-- An outline starts with a line of its own. -/
theorem line_of_write? {d : Descriptor} {w : Writing Unit} (found : write? d = some w) :
    ∃ line : Text, line ≠ [] ∧ line <+: (w.run.run Sink.unbounded).2.out := by
  have ofStruct : ∀ {s : Option StructInfo}, s.map writeStruct = some w →
      ∃ line : Text, line ≠ [] ∧ line <+: (w.run.run Sink.unbounded).2.out := by
    intro s found
    obtain ⟨s, _, rfl⟩ := Option.map_eq_some_iff.mp found
    exact ⟨_, line_ne_nil _ (by decide), line_prefix (.forM (fun _ => .write _) _)⟩
  unfold write? at found
  split at found
  · exact ofStruct found
  · exact ofStruct found
  · exact ofStruct found
  · obtain ⟨e, _, rfl⟩ := Option.map_eq_some_iff.mp found
    exact ⟨_, line_ne_nil _ (by decide), line_prefix (.forM extends_writeVariant _)⟩
  · obtain ⟨f, _, rfl⟩ := Option.map_eq_some_iff.mp found
    refine ⟨_, line_ne_nil _ (by decide), line_prefix (.bind (.forM (fun _ => .write _) _) fun _ => ?_)⟩
    split
    · exact .pure ()
    · exact .write _
  · cases found

end Outline

namespace Inspect

open Registry (Entry)

/-! ### Descriptions -/

theorem outline_ne_nil (e : Entry) : outline e ≠ [] := by
  unfold outline
  split
  · exact Outline.line_ne_nil _ (by decide)
  · rename_i w found
    obtain ⟨line, nonempty, written⟩ := Outline.line_of_write? found
    change line <+: (w.run Sink.unbounded).2.out at written
    cases run : w.run Sink.unbounded with
    | mk outcome s =>
      rw [run] at written
      simp only
      cases outcome with
      | ok _ => exact fun empty => nonempty (List.prefix_nil.mp (empty ▸ written))
      | error f => exact Outline.line_ne_nil _ (by decide)

theorem describe_ne_nil {e : Entry} {t : Text} (described : describe e = .ok t) : t ≠ [] := by
  have outlined := outline_ne_nil e
  unfold describe at described
  split at described
  · obtain ⟨lines, _, rfl⟩ := map_eq_ok described
    simp [outlined]
  · cases described
    simp [outlined]

theorem absent_of_recordFields {s : ErasedStruct} {t : Trap}
    (stopped : WitType.recordFields s = .error (.trap t)) : t = .absent := by
  obtain ⟨⟨f, i⟩, _, failed⟩ := exists_of_mapM_eq_error stopped
  simp only [WitType.ofField] at failed
  split at failed
  · cases failed
    rfl
  · have fault := map_eq_error failed
    unfold Abort.ofFault at fault
    split at fault <;> cases fault

theorem absent_of_layoutLine {s : ErasedStruct} {t : Trap} (stopped : layoutLine s = .error t) :
    t = .absent := by
  unfold layoutLine at stopped
  split at stopped
  · cases stopped
  · cases stopped
  · rename_i checked
    cases stopped
    simp only [Layout.check] at checked
    split at checked
    · rename_i missing
      cases checked
      exact absent_of_recordFields missing
    · have wrong := (Prod.mk.inj checked).2
      split at wrong <;> cases wrong

theorem absent_of_recordLines {s : ErasedStruct} {t : Trap} (stopped : recordLines s = .error t) :
    t = .absent := by
  unfold recordLines at stopped
  split at stopped
  · rename_i missing
    cases stopped
    exact absent_of_recordFields missing
  · cases stopped
  · exact absent_of_layoutLine (map_eq_error stopped)

/-- A description is only ever stopped by a field without a type. -/
theorem absent_of_describe {e : Entry} {t : Trap} (stopped : describe e = .error t) : t = .absent := by
  unfold describe at stopped
  split at stopped
  · exact absent_of_recordLines (map_eq_error stopped)
  · cases stopped

/-! ### The parts agree -/

namespace Browser

/-- The parts of a browser agree with each other. -/
structure Sound (b : Browser) : Prop where
  visible : b.visible = matching b.entries b.filter.value
  first : b.visible = [] → b.selected = 0
  inside : b.visible ≠ [] → b.selected < b.visible.length
  detail : b.detail ≠ [] ↔ b.mode = .detail

theorem Sound.new (filter : Text) : (Browser.new filter).Sound where
  visible := by simp [Browser.new, matching]
  first _ := rfl
  inside shown := absurd rfl shown
  detail := by simp [Browser.new]

/-- Showing the matching entries again brings the selection among them. -/
theorem Sound.refresh {b : Browser} (detail : b.detail ≠ [] ↔ b.mode = .detail) : b.refresh.Sound where
  visible := rfl
  first none := by
    simp only [Browser.refresh] at none ⊢
    simp [none]
  inside some := by
    have shown := List.length_pos_iff.mpr some
    simp only [Browser.refresh] at shown ⊢
    split <;> omega
  detail := detail

theorem Sound.close {b : Browser} (sound : b.Sound) : b.close.Sound where
  visible := sound.visible
  first := sound.first
  inside := sound.inside
  detail := by simp [Browser.close]

theorem Sound.openSelected {b b' : Browser} (sound : b.Sound) (opened : b.openSelected = .ok b') :
    b'.Sound := by
  unfold Browser.openSelected at opened
  split at opened
  · cases opened
    exact sound
  · split at opened
    · cases opened
    · obtain ⟨detail, described, rfl⟩ := map_eq_ok opened
      have shown := describe_ne_nil described
      exact ⟨sound.visible, sound.first, sound.inside, by simp [shown]⟩

/-- The selection is one of the visible entries, so that what stops an opening is its description. -/
theorem Sound.absent_of_openSelected {b : Browser} {t : Trap} (sound : b.Sound)
    (stopped : b.openSelected = .error t) : t = .absent := by
  unfold Browser.openSelected at stopped
  split at stopped
  · cases stopped
  · rename_i shown
    split at stopped
    · rename_i outside
      have inside := sound.inside (by simpa using shown)
      have bound := List.getElem?_eq_none_iff.mp outside
      omega
    · exact absent_of_describe (map_eq_error stopped)

/-! ### Messages -/

variable {edit : FilterLine → Key → Except Trap FilterLine} {b b' : Browser} {quit : Bool}

theorem Sound.filterKey {k : Key} (sound : b.Sound) (typing : b.mode = .filter)
    (done : b.filterKey edit k = .ok (b', quit)) : b'.Sound := by
  have closed : b.detail = [] := by simpa [typing] using sound.detail
  simp only [Browser.filterKey] at done
  split at done
  · cases done
    exact sound
  · split at done
    · cases done
      exact ⟨sound.visible, sound.first, sound.inside, by simp [closed]⟩
    · obtain ⟨filter, _, same⟩ := map_eq_ok done
      cases same
      exact Sound.refresh sound.detail

theorem Sound.selectKey {name : Text} (sound : b.Sound) (listing : b.mode = .select)
    (done : b.selectKey name = .ok b') : b'.Sound := by
  have closed : b.detail = [] := by simpa [listing] using sound.detail
  unfold Browser.selectKey at done
  split at done
  · -- Up: a selection that moves was not the first.
    cases done
    refine ⟨sound.visible, ?_, ?_, sound.detail⟩
    · intro none
      simp only [sound.first none]
    · intro some
      have inside := sound.inside some
      simp only
      omega
  split at done
  · -- Down: there is another one below.
    cases done
    split
    · rename_i below
      refine ⟨sound.visible, ?_, fun _ => below, sound.detail⟩
      intro none
      rw [none] at below
      cases below
    · exact sound
  split at done
  · cases done
    exact ⟨sound.visible, sound.first, sound.inside, by simp [closed]⟩
  split at done
  · exact sound.openSelected done
  · cases done
    exact sound

theorem Sound.absent_of_selectKey {name : Text} {t : Trap} (sound : b.Sound)
    (stopped : b.selectKey name = .error t) : t = .absent := by
  unfold Browser.selectKey at stopped
  split at stopped
  · cases stopped
  split at stopped
  · cases stopped
  split at stopped
  · cases stopped
  split at stopped
  · exact sound.absent_of_openSelected stopped
  · cases stopped

theorem Sound.detailKey (sound : b.Sound) (name : Text) : (b.detailKey name).Sound := by
  unfold Browser.detailKey
  split
  · exact sound.close
  · exact sound

/-- Whatever the message and however the filter is edited, the parts go on agreeing. -/
theorem Sound.updateWith {m : Message} (sound : b.Sound)
    (done : b.updateWith edit m = .ok (b', quit)) : b'.Sound := by
  cases m with
  | loaded entries =>
    cases done
    exact Sound.refresh sound.detail
  | failed reason =>
    cases done
    exact ⟨sound.visible, sound.first, sound.inside, sound.detail⟩
  | key k =>
    simp only [Browser.updateWith] at done
    split at done
    · rename_i typing
      exact sound.filterKey typing done
    · split at done
      · cases done
        exact sound
      · split at done
        · rename_i listing
          obtain ⟨next, moved, same⟩ := map_eq_ok done
          cases same
          exact sound.selectKey listing moved
        · cases done
          exact sound.detailKey k.name

/-- Enter in the list describes the selected entry, which there is as soon as any entry is visible. -/
theorem Sound.enter {k : Key} (sound : b.Sound) (enter : k.name = ("enter" : Text))
    (listing : b.mode = .select) (shown : b.visible ≠ []) :
    ∃ e, b.visible[b.selected]? = some e ∧
      b.updateWith edit (.key k) =
        (describe e).map fun detail => ({ b with detail, mode := .detail }, false) := by
  obtain ⟨e, place⟩ : ∃ e, b.visible[b.selected]? = some e :=
    ⟨_, List.getElem?_eq_getElem (sound.inside shown)⟩
  have opened : b.selectKey "enter" = b.openSelected := by
    unfold Browser.selectKey
    rw [if_neg (by decide), if_neg (by decide), if_neg (by decide), if_pos (by decide)]
  have key : b.updateWith edit (.key k) = b.openSelected.map (·, false) := by
    simp only [Browser.updateWith, listing, enter, opened]
    rw [if_neg (by decide), if_pos trivial]
  refine ⟨e, place, ?_⟩
  rw [key, Browser.openSelected, if_neg (by simpa using shown), place]
  simp only
  cases describe e <;> rfl

/-- A message is stopped where the filter line is, or by a description. -/
theorem Sound.stop {m : Message} {t : Trap} (sound : b.Sound)
    (stopped : b.updateWith edit m = .error t) :
    (b.mode = .filter ∧ ∃ k, m = .key k ∧ edit b.filter k = .error t) ∨
      (b.mode = .select ∧ t = .absent) := by
  cases m with
  | loaded entries => cases stopped
  | failed reason => cases stopped
  | key k =>
    simp only [Browser.updateWith] at stopped
    split at stopped
    · rename_i typing
      simp only [Browser.filterKey] at stopped
      split at stopped
      · cases stopped
      · split at stopped
        · cases stopped
        · exact .inl ⟨typing, k, rfl, map_eq_error stopped⟩
    · split at stopped
      · cases stopped
      · split at stopped
        · rename_i listing
          exact .inr ⟨listing, sound.absent_of_selectKey (map_eq_error stopped)⟩
        · cases stopped

/-! ### Runs -/

theorem Sound.updatesWith {messages : List Message} (sound : b.Sound) :
    (b.updatesWith edit messages).1.Sound := by
  induction messages generalizing b with
  | nil => exact sound
  | cons m rest ih =>
    rw [Browser.updatesWith]
    split
    · exact sound
    · rename_i next quit done
      have agreed := sound.updateWith done
      split
      · exact agreed
      · exact ih agreed

/-- A run that is stopped leaves the state in which the message that stopped it arrived. -/
theorem stop_of_updatesWith {messages : List Message} {t : Trap}
    (stopped : (b.updatesWith edit messages).2 = .error t) :
    ∃ m ∈ messages, (b.updatesWith edit messages).1.updateWith edit m = .error t := by
  induction messages generalizing b with
  | nil => cases stopped
  | cons m rest ih =>
    cases done : b.updateWith edit m with
    | error t' =>
      simp only [Browser.updatesWith, done] at stopped ⊢
      cases stopped
      exact ⟨m, List.mem_cons_self, done⟩
    | ok answer =>
      obtain ⟨next, quit⟩ := answer
      cases more : rest.isEmpty with
      | true => simp [Browser.updatesWith, done, more] at stopped
      | false =>
        simp only [Browser.updatesWith, done, more, Bool.false_eq_true, if_false] at stopped ⊢
        obtain ⟨m', member, failed⟩ := ih stopped
        exact ⟨m', List.mem_cons_of_mem m member, failed⟩

/-- After any messages, whichever way the filter line takes its keys: what is visible are the entries that
match the filter, the selection is among them, and there is a description exactly while one is shown. Enter
never looks for an entry past the last one; in the list it describes the selected entry when there are any.
A run ends early only where the filter line is stopped, or a description is by a field without a type. -/
theorem browsing_keeps_selection (edit : FilterLine → Key → Except Trap FilterLine) (filter : Text)
    (messages : List Message) :
    let after := (new filter).updatesWith edit messages
    after.1.Sound ∧
      (∀ k : Key, k.name = ("enter" : Text) →
        (∀ place size, after.1.updateWith edit (.key k) ≠ .error (.index place size)) ∧
        (after.1.mode = .select → after.1.visible ≠ [] →
          ∃ e, after.1.visible[after.1.selected]? = some e ∧
            after.1.updateWith edit (.key k) =
              (describe e).map fun detail => ({ after.1 with detail, mode := .detail }, false))) ∧
      ∀ t, after.2 = .error t → t = .absent ∨ ∃ line key, edit line key = .error t := by
  have sound : ((new filter).updatesWith edit messages).1.Sound := (Sound.new filter).updatesWith
  refine ⟨sound, ?_, ?_⟩
  · intro k enter
    refine ⟨?_, sound.enter enter⟩
    intro place size stopped
    obtain ⟨typing, _⟩ | ⟨_, absent⟩ := sound.stop stopped
    · -- Enter leaves the filter line without a word to it.
      simp only [updateWith, typing, Browser.filterKey, enter] at stopped
      split at stopped <;> cases stopped
    · cases absent
  · intro t stopped
    obtain ⟨m, _, failed⟩ := stop_of_updatesWith stopped
    obtain ⟨_, k, _, refused⟩ | ⟨_, absent⟩ := sound.stop failed
    · exact .inr ⟨_, k, refused⟩
    · exact .inl absent

end Browser

end Inspect

end TypeAtlas
