import Inkwell.Glyph.Sheet.Reader
import Inkwell.Proofs.Glyph.RowArt
import Inkwell.Proofs.Glyph.Scaling

/-!
# Sheets that were accepted

A sheet comes about by adding drawings to an empty one or by reading a text.  Either
way, a word can count the pixels of each drawing, which all have a byte, and whatever id
the sheet gives out has a drawing.
-/

namespace Inkwell

/-- The drawing came about by one of the ways in which drawings are made. -/
inductive Drawing.Accepted : Drawing → Prop
  | blank (advance : UInt16) : Accepted (blank advance)
  | ofRows {rows : List String} {advance : UInt16} {d : Drawing}
      (isDrawing : ofRows rows advance = .ok (.ok d)) : Accepted d
  | withBearing {d : Drawing} (accepted : Accepted d) (x y : Int16) :
      Accepted (d.withBearing x y)

/-- The sheet came about by one of the ways in which sheets are made. -/
inductive Sheet.Accepted : Sheet → Prop
  | create (name : String) (design : UInt16) (metrics : LineMetrics) :
      Accepted (create name design metrics)
  | insert {s after : Sheet} {sequence : List Char} {d : Drawing} {id : UInt16}
      (accepted : Accepted s) (drawn : d.Accepted)
      (inserted : s.insert sequence d = .ok (id, after)) : Accepted after
  | read {text : String} {s : Sheet} (isSheet : read text = .ok (.ok s)) : Accepted s

namespace Drawing

theorem Sound.withBearing {d : Drawing} (sound : d.Sound) (x y : Int16) :
    (d.withBearing x y).Sound :=
  ⟨sound.countable, sound.covered⟩

theorem sound_blank (advance : UInt16) : (blank advance).Sound :=
  ⟨Nat.zero_lt_succ _, Nat.le_refl _⟩

theorem sound_of_ofRows {rows : List String} {advance : UInt16} {d : Drawing}
    (isDrawing : ofRows rows advance = .ok (.ok d)) : d.Sound := by
  obtain ⟨area_lt, bytes, read, rfl⟩ := exists_readRows_of_ofRows isDrawing
  refine ⟨area_lt, Nat.le_trans (Nat.mul_le_mul_left _ ?_)
    (Nat.le_trans (Nat.le_add_left _ _) (le_size_of_readRows read))⟩
  rw [inked, UInt32.toNat_ofNat']
  exact Nat.mod_le _ _

theorem Accepted.sound {d : Drawing} (accepted : d.Accepted) : d.Sound := by
  induction accepted with
  | blank advance => exact sound_blank advance
  | ofRows isDrawing => exact sound_of_ofRows isDrawing
  | withBearing _ x y inductionHypothesis => exact inductionHypothesis.withBearing x y

end Drawing

namespace Sheet

/-- All drawings are sound, and all ids have a drawing. -/
structure Sound (s : Sheet) : Prop where
  drawings : ∀ d ∈ s.drawings, d.Sound
  id_lt : ∀ (text : String) (id : UInt16), s.ids[text]? = some id →
    id.toNat < s.drawings.size

variable {s after : Sheet}

theorem sound_create (name : String) (design : UInt16) (metrics : LineMetrics) :
    (create name design metrics).Sound := by
  constructor
  · simp [create]
  · simp [create]

theorem Sound.put (sound : s.Sound) {sequence : List Char} {d : Drawing}
    (drawn : d.Sound) (accepted : s.refusal? sequence = none) :
    (s.put sequence d).2.Sound := by
  unfold Sheet.put
  cases known : s.ids[String.ofList sequence]? with
  | some id =>
      constructor
      · intro other member
        rcases Array.mem_or_eq_of_mem_setIfInBounds member with old | rfl
        · exact sound.drawings other old
        · exact drawn
      · intro text id found
        simpa using sound.id_lt text id found
  | none =>
      -- A new sequence is only taken while there is an id for its drawing.
      have room : s.drawings.size < 65536 := by
        simp only [refusal?] at accepted
        grind
      constructor
      · intro other member
        rcases Array.mem_push.mp member with old | rfl
        · exact sound.drawings other old
        · exact drawn
      · intro text id found
        dsimp only at found ⊢
        rw [Array.size_push]
        rw [Std.HashMap.getElem?_insert] at found
        split at found
        · cases found
          rw [UInt16.toNat_ofNat_of_lt' room]
          exact Nat.lt_succ_self _
        · exact Nat.lt_succ_of_lt (sound.id_lt text id found)

theorem Sound.insert (sound : s.Sound) {sequence : List Char} {d : Drawing}
    (drawn : d.Sound) {id : UInt16}
    (inserted : s.insert sequence d = .ok (id, after)) : after.Sound := by
  unfold Sheet.insert at inserted
  split at inserted
  · cases inserted
  · rename_i accepted
    have isAfter : s.put sequence d = (id, after) := Except.ok.inj inserted
    have sound := sound.put drawn accepted
    rw [isAfter] at sound
    exact sound

theorem Sound.addEntry (sound : s.Sound) {entry : Entry}
    (added : s.addEntry entry = .ok (.ok after)) : after.Sound := by
  unfold Sheet.addEntry at added
  split at added
  · cases added
  · obtain ⟨drawn, isDrawing, added⟩ := Checked.bind_eq_ok_iff.mp added
    cases drawn with
    | error e => cases added
    | ok d =>
        dsimp only at added
        split at added
        · cases added
        · rename_i inserted
          cases added
          exact sound.insert ((Drawing.sound_of_ofRows isDrawing).withBearing _ _) inserted

theorem Sound.addEntries {entries : List Entry} (sound : s.Sound)
    (added : addEntries entries s = .ok (.ok after)) : after.Sound := by
  induction entries generalizing s with
  | nil =>
      cases added
      exact sound
  | cons entry rest inductionHypothesis =>
      obtain ⟨outcome, isOutcome, added⟩ := Checked.bind_eq_ok_iff.mp added
      cases outcome with
      | error e => cases added
      | ok next => exact inductionHypothesis (sound.addEntry isOutcome) added

theorem sound_of_read {text : String} (isSheet : read text = .ok (.ok s)) : s.Sound := by
  unfold read at isSheet
  split at isSheet
  · cases isSheet
  · rename_i written _
    obtain ⟨outcome, isOutcome, isSheet⟩ := Checked.bind_eq_ok_iff.mp isSheet
    cases outcome with
    | error e => cases isSheet
    | ok last =>
        cases isSheet
        exact (sound_create _ _ _).addEntries isOutcome

theorem Accepted.sound (accepted : s.Accepted) : s.Sound := by
  induction accepted with
  | create name design metrics => exact sound_create name design metrics
  | insert _ drawn inserted inductionHypothesis =>
      exact inductionHypothesis.insert drawn.sound inserted
  | read isSheet => exact sound_of_read isSheet

/-- Whatever a sound sheet knows has a drawing. -/
theorem Sound.exists_drawing (sound : s.Sound) {cluster : Cluster} {id : UInt16}
    (found : s.glyphFor? cluster = some id) :
    ∃ d, s.drawings[id.toNat]? = some d ∧ d.Sound := by
  have bound := sound.id_lt _ _ found
  exact ⟨_, Array.getElem?_eq_getElem bound, sound.drawings _ (Array.getElem_mem bound)⟩

end Sheet

end Inkwell
