import Inkwell.Proofs.Layout.Stamping
import Inkwell.Studio

/-!
# Easels

An easel is a studio with a brush that its renderers draw with.  A sketch is any
sequence of drawing operations under the clip that the brush has.

Clipping is masking: a sketch under a clip leaves what the same sketch leaves on the
whole canvas, cut out along the clip and laid over the canvas as it was.  The
relation between the two brushes is kept by each operation, because an operation
paints the same region under both clips.
-/

namespace Inkwell

/-- A studio and a brush to draw with. -/
structure Easel where
  studio : Studio
  brush : Brush

/-- A drawing operation. -/
inductive SketchStep where
  | setColor (color : Color)
  | setStroke (stroke : Stroke)
  | plot (x y : Int32)
  | fillRect (rect : Rect)
  | clear (color : Color)
  | drawRect (rect : Rect)
  /-- Stamp a run that was laid out before. -/
  | stamp (run : Run)
  /-- Draw a text with a renderer; one that is not there draws nothing. -/
  | draw (desk : Nat) (units : List UInt16) (origin : Point) (anchor : Anchor)

namespace SketchStep

/-- The step draws a text. -/
def isDraw : SketchStep → Bool
  | .draw _ _ _ _ => true
  | _ => false

/-- If the step stamps a run, a word can count the pixels of each of its masks. -/
def Countable : SketchStep → Prop
  | .stamp run =>
      ∀ g ∈ run.glyphs, ∀ m ∈ g.mask, m.width.toNat * m.height.toNat ≤ 4294967296
  | _ => True

instance : DecidablePred Countable
  | .stamp run =>
      inferInstanceAs (Decidable (∀ g ∈ run.glyphs, ∀ m ∈ g.mask, _ ≤ _))
  | .setColor _ | .setStroke _ | .plot _ _ | .fillRect _ | .clear _ | .drawRect _
  | .draw _ _ _ _ => .isTrue trivial

end SketchStep

namespace Easel

/-- Perform a drawing operation.  What was painted before a fault stays. -/
def perform (e : Easel) : SketchStep → Checked Unit × Easel
  | .setColor color => (.ok (), { e with brush := { e.brush with color := color } })
  | .setStroke stroke =>
      (.ok (), { e with brush := { e.brush with stroke := stroke } })
  | .plot x y => (.ok (), { e with brush := e.brush.plot x.toInt y.toInt })
  | .fillRect rect => (.ok (), { e with brush := e.brush.fillRect rect })
  | .clear color => (.ok (), { e with brush := e.brush.clear color })
  | .drawRect rect =>
      match e.brush.drawRect rect with
      | .error fault => (.error fault, e)
      | .ok b => (.ok (), { e with brush := b })
  | .stamp run =>
      let stamped := e.brush.stamp run
      (stamped.1, { e with brush := stamped.2 })
  | .draw desk units origin anchor =>
      match e.studio.draw desk units origin anchor e.brush with
      | none => (.ok (), e)
      | some (.error fault, studio, b) => (.error fault, ⟨studio, b⟩)
      | some (.ok _, studio, b) => (.ok (), ⟨studio, b⟩)

/-- Perform drawing operations one after the other, up to the first fault. -/
def sketch : List SketchStep → Easel → Checked Unit × Easel
  | [], e => (.ok (), e)
  | step :: rest, e => Checked.andThen (e.perform step) (sketch rest)

/-- Every text of a sketch is drawn without a fault. -/
def DrawsReturn : List SketchStep → Easel → Prop
  | [], _ => True
  | step :: rest, e =>
      (step.isDraw = true → (e.perform step).1 = .ok ()) ∧
        DrawsReturn rest (e.perform step).2

end Easel

/-! ## One canvas masked by another -/

/-- Two brushes that painted the same, one under a clip and one on the whole canvas,
both beginning with the same canvas. -/
structure Brush.Masked (clip : Rect) (original : Canvas) (clipped full : Brush) :
    Prop where
  clip_eq : clipped.clip = clip.intersect original.bounds
  full_clip_eq : full.clip = original.bounds
  color_eq : clipped.color = full.color
  stroke_eq : clipped.stroke = full.stroke
  width_eq : clipped.canvas.width = original.width ∧ full.canvas.width = original.width
  height_eq :
    clipped.canvas.height = original.height ∧ full.canvas.height = original.height
  get?_eq : ∀ x y, clipped.canvas.get? x y =
    if clip.contains x y then full.canvas.get? x y else original.get? x y

namespace Brush

variable {clip : Rect} {original : Canvas} {clipped full : Brush}

/-- A brush masks itself before anything is painted. -/
theorem masked_start (b : Brush) (clip : Rect) :
    Masked clip b.canvas (b.setClip clip) b.resetClip where
  clip_eq := rfl
  full_clip_eq := rfl
  color_eq := rfl
  stroke_eq := rfl
  width_eq := ⟨rfl, rfl⟩
  height_eq := ⟨rfl, rfl⟩
  get?_eq x y := by
    split <;> rfl

namespace Masked

/-- Painting the same region with the same color keeps the relation. -/
theorem painted (masked : Masked clip original clipped full)
    {region : Int → Int → Prop} {color : Color} {clipped' full' : Brush}
    (clippedPainted : Painted region color clipped clipped')
    (fullPainted : Painted region color full full') :
    Masked clip original clipped' full' where
  clip_eq := clippedPainted.clip_eq.trans masked.clip_eq
  full_clip_eq := fullPainted.clip_eq.trans masked.full_clip_eq
  color_eq := by
    rw [clippedPainted.color_eq, fullPainted.color_eq, masked.color_eq]
  stroke_eq := by
    rw [clippedPainted.stroke_eq, fullPainted.stroke_eq, masked.stroke_eq]
  width_eq :=
    ⟨clippedPainted.width_eq.trans masked.width_eq.1,
      fullPainted.width_eq.trans masked.width_eq.2⟩
  height_eq :=
    ⟨clippedPainted.height_eq.trans masked.height_eq.1,
      fullPainted.height_eq.trans masked.height_eq.2⟩
  get?_eq := by
    intro x y
    have before := masked.get?_eq x y
    have inClipped : clipped.clip.contains x y = true ↔
        clip.contains x y = true ∧ full.clip.contains x y = true := by
      rw [masked.clip_eq, masked.full_clip_eq, Rect.contains_intersect]
    by_cases inClip : clip.contains x y = true
    · rw [if_pos inClip] at before ⊢
      by_cases inFull : full.clip.contains x y = true ∧ region x y
      · rw [clippedPainted.inside (inClipped.mpr ⟨inClip, inFull.1⟩) inFull.2,
          fullPainted.inside inFull.1 inFull.2, before]
      · rw [fullPainted.outside inFull, clippedPainted.outside, before]
        rintro ⟨stillInClip, inRegion⟩
        exact inFull ⟨(inClipped.mp stillInClip).2, inRegion⟩
    · rw [if_neg inClip] at before ⊢
      rw [clippedPainted.outside, before]
      rintro ⟨stillInClip, _⟩
      exact inClip (inClipped.mp stillInClip).1

/-- What can be stamped on the whole canvas can be stamped under the clip. -/
theorem stamp (masked : Masked clip original clipped full) {run : Run}
    (returns : (full.stamp run).1 = .ok ()) :
    (clipped.stamp run).1 = .ok () ∧
      Masked clip original (clipped.stamp run).2 (full.stamp run).2 := by
  have clippedReturns : (clipped.stamp run).1 = .ok () := by
    rw [stamp_returns_iff] at returns ⊢
    intro g member m isMask x y ⟨inArea, inClip⟩
    rw [masked.clip_eq, Rect.contains_intersect] at inClip
    exact returns g member m isMask x y ⟨inArea, masked.full_clip_eq ▸ inClip.2⟩
  have clippedPainted := painted_stamp clippedReturns
  rw [masked.color_eq] at clippedPainted
  exact ⟨clippedReturns, masked.painted clippedPainted (painted_stamp returns)⟩

end Masked

end Brush

/-! ## What every step preserves -/

namespace Easel

/-- Drawing a text lays it out and stamps the run. -/
theorem perform_draw (e : Easel) (desk : Nat) (units : List UInt16) (origin : Point)
    (anchor : Anchor) :
    e.perform (.draw desk units origin anchor) =
      match e.studio.prepare desk units origin (LineOptions.ofAnchor anchor) with
      | none => (.ok (), e)
      | some (.error fault, studio) => (.error fault, { e with studio := studio })
      | some (.ok run, studio) => { e with studio := studio }.perform (.stamp run) := by
  simp only [perform, Studio.draw, Studio.prepare]
  cases e.studio.at? desk with
  | none => rfl
  | some place =>
      obtain ⟨seat, cache⟩ := place
      simp only [bind, Option.bind, pure, Renderer.draw]
      rcases seat.renderer.prepare cache units origin (LineOptions.ofAnchor anchor) with
        ⟨outcome, after⟩
      cases outcome with
      | error fault => rfl
      | ok run =>
          rcases stamped : e.brush.stamp run with ⟨result, painted⟩
          cases result <;> simp only [stamped]

/-- Two easels with the same studio whose brushes mask each other. -/
structure Masked (clip : Rect) (original : Canvas) (clipped full : Easel) : Prop where
  studio_eq : clipped.studio = full.studio
  brush : Brush.Masked clip original clipped.brush full.brush

variable {clip : Rect} {original : Canvas} {clipped full : Easel}

namespace Masked

theorem perform_stamp (masked : Masked clip original clipped full) {run : Run}
    (returns : (full.perform (.stamp run)).1 = .ok ()) :
    (clipped.perform (.stamp run)).1 = .ok () ∧
      Masked clip original (clipped.perform (.stamp run)).2
        (full.perform (.stamp run)).2 := by
  obtain ⟨clippedReturns, stamped⟩ := masked.brush.stamp returns
  exact ⟨clippedReturns, masked.studio_eq, stamped⟩

/-- A text that is drawn on the whole canvas is drawn under the clip. -/
theorem perform_draw (masked : Masked clip original clipped full) {desk : Nat}
    {units : List UInt16} {origin : Point} {anchor : Anchor}
    (returns : (full.perform (.draw desk units origin anchor)).1 = .ok ()) :
    (clipped.perform (.draw desk units origin anchor)).1 = .ok () ∧
      Masked clip original (clipped.perform (.draw desk units origin anchor)).2
        (full.perform (.draw desk units origin anchor)).2 := by
  rw [Easel.perform_draw] at returns
  rw [Easel.perform_draw, Easel.perform_draw, masked.studio_eq]
  cases prepared : full.studio.prepare desk units origin
      (LineOptions.ofAnchor anchor) with
  | none => exact ⟨rfl, masked⟩
  | some result =>
      obtain ⟨outcome, studio⟩ := result
      rw [prepared] at returns
      cases outcome with
      | error fault => cases returns
      | ok run =>
          have moved : Masked clip original { clipped with studio := studio }
              { full with studio := studio } := ⟨rfl, masked.brush⟩
          exact moved.perform_stamp returns

/-- A step that paints a region under both clips. -/
theorem painted (masked : Masked clip original clipped full)
    {region : Int → Int → Prop} {color : Color} {clippedBrush fullBrush : Brush}
    (clippedPainted : Brush.Painted region color clipped.brush clippedBrush)
    (fullPainted : Brush.Painted region color full.brush fullBrush) :
    Masked clip original { clipped with brush := clippedBrush }
      { full with brush := fullBrush } :=
  ⟨masked.studio_eq, masked.brush.painted clippedPainted fullPainted⟩

/-- Every step returns under both clips and keeps the relation. -/
theorem perform (masked : Masked clip original clipped full) {step : SketchStep}
    (countable : step.Countable)
    (draws : step.isDraw = true → (full.perform step).1 = .ok ()) :
    (clipped.perform step).1 = .ok () ∧ (full.perform step).1 = .ok () ∧
      Masked clip original (clipped.perform step).2 (full.perform step).2 := by
  cases step with
  | setColor color =>
      exact ⟨rfl, rfl, masked.studio_eq, { masked.brush with color_eq := rfl }⟩
  | setStroke stroke =>
      exact ⟨rfl, rfl, masked.studio_eq, { masked.brush with stroke_eq := rfl }⟩
  | plot x y =>
      have clippedPainted := clipped.brush.painted_plot x.toInt y.toInt
      rw [masked.brush.color_eq] at clippedPainted
      exact ⟨rfl, rfl, masked.painted clippedPainted
        (full.brush.painted_plot x.toInt y.toInt)⟩
  | fillRect rect =>
      have clippedPainted := clipped.brush.painted_fillRect rect
      rw [masked.brush.color_eq] at clippedPainted
      exact ⟨rfl, rfl, masked.painted clippedPainted (full.brush.painted_fillRect rect)⟩
  | clear color =>
      exact ⟨rfl, rfl, masked.painted (clipped.brush.painted_clear color)
        (full.brush.painted_clear color)⟩
  | drawRect rect =>
      obtain ⟨clippedBrush, clippedReturns, clippedPainted⟩ :=
        clipped.brush.painted_drawRect rect
      obtain ⟨fullBrush, fullReturns, fullPainted⟩ := full.brush.painted_drawRect rect
      rw [masked.brush.color_eq, masked.brush.stroke_eq] at clippedPainted
      simp only [Easel.perform, clippedReturns, fullReturns]
      exact ⟨trivial, trivial, masked.painted clippedPainted fullPainted⟩
  | stamp run =>
      have returns : (full.perform (.stamp run)).1 = .ok () :=
        Brush.stamp_returns_iff.mpr fun g member m isMask x y inside =>
          Mask.readable_of_countable (countable g member m isMask) inside.1
      obtain ⟨clippedReturns, stamped⟩ := masked.perform_stamp returns
      exact ⟨clippedReturns, returns, stamped⟩
  | draw desk units origin anchor =>
      obtain ⟨clippedReturns, drawn⟩ := masked.perform_draw (draws rfl)
      exact ⟨clippedReturns, draws rfl, drawn⟩

/-- A sketch returns under both clips and keeps the relation. -/
theorem sketch (masked : Masked clip original clipped full) {steps : List SketchStep}
    (countable : ∀ step ∈ steps, step.Countable) (draws : DrawsReturn steps full) :
    (sketch steps clipped).1 = .ok () ∧ (sketch steps full).1 = .ok () ∧
      Masked clip original (sketch steps clipped).2 (sketch steps full).2 := by
  induction steps generalizing clipped full with
  | nil => exact ⟨rfl, rfl, masked⟩
  | cons step rest inductionHypothesis =>
      obtain ⟨clippedReturns, fullReturns, performed⟩ :=
        masked.perform (countable step List.mem_cons_self) draws.1
      rw [Easel.sketch, Easel.sketch, Checked.andThen_of_returns clippedReturns,
        Checked.andThen_of_returns fullReturns]
      exact inductionHypothesis performed
        (fun other member => countable other (List.mem_cons_of_mem _ member)) draws.2

end Masked

/-- Take any easel, any clip and any sketch whose stamped masks a word can count and
whose texts can be drawn on the whole canvas.  Under the clip the sketch leaves, at
every pixel in the clip, what it leaves there on the whole canvas, and at every other
pixel what was there before; the canvas keeps its size. -/
theorem clipping_is_masking (e : Easel) (clip : Rect) (steps : List SketchStep)
    (countable : ∀ step ∈ steps, step.Countable)
    (draws : DrawsReturn steps { e with brush := e.brush.resetClip }) :
    ∃ clipped full,
      sketch steps { e with brush := e.brush.setClip clip } = (.ok (), clipped) ∧
      sketch steps { e with brush := e.brush.resetClip } = (.ok (), full) ∧
      clipped.brush.canvas.SameSize e.brush.canvas ∧
      full.brush.canvas.SameSize e.brush.canvas ∧
      ∀ x y, clipped.brush.canvas.get? x y =
        if clip.contains x y then full.brush.canvas.get? x y
        else e.brush.canvas.get? x y := by
  have start : Masked clip e.brush.canvas { e with brush := e.brush.setClip clip }
      { e with brush := e.brush.resetClip } := ⟨rfl, e.brush.masked_start clip⟩
  obtain ⟨clippedReturns, fullReturns, masked⟩ := start.sketch countable draws
  refine ⟨_, _, Prod.ext clippedReturns rfl, Prod.ext fullReturns rfl, ?_, ?_,
    masked.brush.get?_eq⟩
  · exact Canvas.sameSize_of_extents masked.brush.width_eq.1 masked.brush.height_eq.1
  · exact Canvas.sameSize_of_extents masked.brush.width_eq.2 masked.brush.height_eq.2

/-- A source that has the same small mask for every cluster. -/
def dotSource : Source where
  name := "dot"
  glyphFor? _ := some 0
  advance _ _ := .ok 3
  lineMetrics _ := .ok ⟨2, 1⟩
  rasterize _ _ := .ok (.ok ⟨2, 2, 0, 2, #[255, 0, 255, 255]⟩)

def dotChain : Chain := ⟨#[⟨.base, 1, dotSource⟩]⟩

/-- A small canvas and one renderer. -/
def dotEasel : Easel where
  studio := (Studio.create [2]).addDesk (Renderer.ofChain dotChain) 1
  brush := Brush.ofCanvas (Canvas.blank 6 5)

theorem resolve_dotChain (cluster : Cluster) (size : UInt16) :
    dotChain.resolve cluster size = .ok ⟨0, 1, 0, 3⟩ := by
  have place : dotChain.placeOf? cluster = some 0 := by
    simp [Chain.placeOf?, dotChain, dotSource]
  rw [Chain.resolve, Chain.find?, place]
  rfl

/-- A sketch that reaches over the edges of the canvas and draws a text with half a
surrogate pair in it. -/
def dotSketch : List SketchStep :=
  [.setColor Color.red, .draw 0 [0x3F, 0xD83D] ⟨1, 1⟩ Anchor.topLeft,
    .setStroke .dotted, .drawRect ⟨1, -1, 5, 5⟩, .setColor Color.transparent,
    .fillRect ⟨-2, 3, 5, 2147483647⟩,
    .stamp ⟨[⟨⟨0, 1, 0, 3⟩, 0, 1, 2, 4, some ⟨2, 2, 0, 3, #[0, 255, 255]⟩⟩],
      Rect.zero, 0, 0⟩,
    .plot 3 2]

theorem drawsReturn_dotSketch :
    DrawsReturn dotSketch { dotEasel with brush := dotEasel.brush.resetClip } := by
  refine ⟨nofun, fun _ => ?_, nofun, nofun, nofun, nofun, nofun, nofun, trivial⟩
  have clusters : (Renderer.ofChain dotChain).clusters [0x3F, 0xD83D] =
      [.single '?' 0, .single (Char.ofNat 0xFFFD) 1] := by
    decide
  have seat : dotEasel.studio.at? 0 =
      some (⟨Renderer.ofChain dotChain, 1⟩, Cache.create 2) := rfl
  rw [perform_draw]
  simp only [Easel.perform, Studio.prepare, seat, bind, Option.bind, pure,
    Renderer.prepare, Renderer.resolve, clusters, Renderer.resolveAll]
  simp only [Renderer.ofChain, resolve_dotChain]
  decide

theorem clipping_is_masking_dots :
    (∀ step ∈ dotSketch, step.Countable) ∧
    DrawsReturn dotSketch { dotEasel with brush := dotEasel.brush.resetClip } ∧
    ∃ clipped full,
      sketch dotSketch { dotEasel with
        brush := dotEasel.brush.setClip ⟨-1, 2, 4, 2147483647⟩ } = (.ok (), clipped) ∧
      sketch dotSketch { dotEasel with brush := dotEasel.brush.resetClip } =
        (.ok (), full) ∧
      clipped.brush.canvas.SameSize dotEasel.brush.canvas ∧
      full.brush.canvas.SameSize dotEasel.brush.canvas ∧
      ∀ x y, clipped.brush.canvas.get? x y =
        if Rect.contains ⟨-1, 2, 4, 2147483647⟩ x y then full.brush.canvas.get? x y
        else dotEasel.brush.canvas.get? x y := by
  have countable : ∀ step ∈ dotSketch, step.Countable := by decide
  exact ⟨countable, drawsReturn_dotSketch,
    clipping_is_masking dotEasel ⟨-1, 2, 4, 2147483647⟩ dotSketch countable
      drawsReturn_dotSketch⟩

end Easel

end Inkwell
