import RuffleAvm1.Core.Names
import RuffleAvm1.Display.Float

/-! The stage (display_object/stage.rs): how `build_matrices` scales and places the movie in the
viewport, the view bounds it keeps for culling, the letterbox `render` draws, and the parsers of
the scale mode and the alignment. The `f64` and `f32` arithmetic is IEEE's (`Display.Float`); the
matrix translation and the view bounds are in twips, through swf's `Twips` (absent from src/). -/

namespace Ruffle

open Avm1 (foldCase Number)

/-- `Letterbox` (config.rs, absent from src/): whether the movie is letterboxed. -/
inductive Letterbox where
  | off
  | fullscreen
  | on
  deriving DecidableEq, Repr

inductive StageScaleMode where
  | exactFit
  | noBorder
  | noScale
  | showAll
  deriving DecidableEq, Repr

namespace StageScaleMode

def toString : StageScaleMode → String
  | exactFit => "exactFit"
  | noBorder => "noBorder"
  | noScale => "noScale"
  | showAll => "showAll"

def fromStr (s : String) : Option StageScaleMode :=
  match String.mk (foldCase s) with
  | "exactfit" => some exactFit
  | "noborder" => some noBorder
  | "noscale" => some noScale
  | "showall" => some showAll
  | _ => none

end StageScaleMode

structure StageAlign where
  top : Bool
  bottom : Bool
  left : Bool
  right : Bool
  deriving DecidableEq, Repr

namespace StageAlign

def empty : StageAlign := ⟨false, false, false, false⟩

def isEmpty (align : StageAlign) : Bool :=
  !(align.top || align.bottom || align.left || align.right)

theorem isEmpty_iff {align : StageAlign} : align.isEmpty = true ↔ align = empty := by
  rcases align with ⟨_ | _, _ | _, _ | _, _ | _⟩ <;> decide

/-- One step of `from_str`: the flag the uppercased character names; the bytes of other characters name none. -/
def insertChar (align : StageAlign) (c : Char) : StageAlign :=
  match c.toUpper with
  | 'T' => { align with top := true }
  | 'B' => { align with bottom := true }
  | 'L' => { align with left := true }
  | 'R' => { align with right := true }
  | _ => align

def fromStr (s : String) : StageAlign :=
  s.data.foldl insertChar empty

end StageAlign

/-- `Twips::from_pixels`: `(pixels * 20.0) as i32`. -/
def fromPixels (pixels : Number) : ℤ :=
  saturatingI32 (FloatFormat.binary64.mul pixels (.finite 20))

def toPixels (twips : ℤ) : Number :=
  FloatFormat.binary64.div (.finite twips) (.finite 20)

structure Matrix where
  a : Number
  b : Number
  c : Number
  d : Number
  tx : ℤ
  ty : ℤ
  deriving DecidableEq, Repr

structure BoundingBox where
  xMin : ℤ
  yMin : ℤ
  xMax : ℤ
  yMax : ℤ
  valid : Bool
  deriving DecidableEq, Repr

/-- The fields of `StageData` the sizing reads and writes, and the view matrix of its display object. -/
structure StageData where
  letterbox : Letterbox
  movieSize : UInt32 × UInt32
  stageSize : UInt32 × UInt32
  scaleMode : StageScaleMode
  align : StageAlign
  viewportSize : UInt32 × UInt32
  viewportScaleFactor : Number
  viewBounds : BoundingBox
  matrix : Matrix

/-- A bar of `draw_letterbox`, `Matrix::create_box(width, height, 0, x, y)`: `f32` size, place in twips. -/
structure Bar where
  width : Number
  height : Number
  x : ℤ
  y : ℤ
  deriving DecidableEq, Repr

/-- `x.round() as u32`: half away from zero, saturating at both ends; NaN gives 0. -/
def roundToU32 : Number → UInt32
  | .finite x => UInt32.ofNat (min (round x).toNat (2 ^ 32 - 1))
  | .infinity => UInt32.ofNat (2 ^ 32 - 1)
  | _ => 0

namespace StageData

open FloatFormat (binary32 binary64)

variable (stage : StageData)

def movieWidth : ℚ := stage.movieSize.1.toNat
def movieHeight : ℚ := stage.movieSize.2.toNat
def viewportWidth : ℚ := stage.viewportSize.1.toNat
def viewportHeight : ℚ := stage.viewportSize.2.toNat

def reportedSize : UInt32 × UInt32 :=
  if stage.scaleMode = .noScale then
    (roundToU32 (binary64.div (.finite stage.viewportWidth) stage.viewportScaleFactor),
      roundToU32 (binary64.div (.finite stage.viewportHeight) stage.viewportScaleFactor))
  else stage.movieSize

def scale : Number × Number :=
  let movieAspect := binary64.div (.finite stage.movieWidth) (.finite stage.movieHeight)
  let viewportAspect := binary64.div (.finite stage.viewportWidth) (.finite stage.viewportHeight)
  let fitHeight := binary64.div (.finite stage.viewportHeight) (.finite stage.movieHeight)
  let fitWidth := binary64.div (.finite stage.viewportWidth) (.finite stage.movieWidth)
  match stage.scaleMode with
  | .showAll =>
    let scale := if movieAspect.lt viewportAspect then fitHeight else fitWidth
    (scale, scale)
  | .noBorder =>
    let scale := if viewportAspect.lt movieAspect then fitHeight else fitWidth
    (scale, scale)
  | .exactFit => (fitWidth, fitHeight)
  | .noScale => (stage.viewportScaleFactor, stage.viewportScaleFactor)

def widthDelta : Number :=
  binary64.sub (.finite stage.viewportWidth) (binary64.mul (.finite stage.movieWidth) stage.scale.1)

def heightDelta : Number :=
  binary64.sub (.finite stage.viewportHeight) (binary64.mul (.finite stage.movieHeight) stage.scale.2)

def translation : Number × Number :=
  (if stage.align.left then .finite 0 else if stage.align.right then stage.widthDelta
    else binary64.div stage.widthDelta (.finite 2),
    if stage.align.top then .finite 0 else if stage.align.bottom then stage.heightDelta
    else binary64.div stage.heightDelta (.finite 2))

/-- `should_letterbox`: `ShowAll`, centred, and letterbox `On`, or `Fullscreen` while fullscreen. -/
def shouldLetterbox (isFullscreen : Bool) : Bool :=
  stage.scaleMode = .showAll && stage.align.isEmpty &&
    (stage.letterbox = .on || stage.letterbox = .fullscreen && isFullscreen)

def visibleBounds (letterboxed : Bool) : BoundingBox :=
  if letterboxed then ⟨0, 0, fromPixels (.finite stage.movieWidth), fromPixels (.finite stage.movieHeight), true⟩
  else
    let marginLeft := binary64.div stage.translation.1 stage.scale.1
    let marginRight := binary64.div (binary64.sub stage.widthDelta stage.translation.1) stage.scale.1
    let marginTop := binary64.div stage.translation.2 stage.scale.2
    let marginBottom := binary64.div (binary64.sub stage.heightDelta stage.translation.2) stage.scale.2
    ⟨fromPixels marginLeft.neg, fromPixels marginTop.neg,
      fromPixels (binary64.add (.finite stage.movieWidth) marginRight),
      fromPixels (binary64.add (.finite stage.movieHeight) marginBottom), true⟩

def viewMatrix : Matrix :=
  ⟨toBinary32 stage.scale.1, .finite 0, .finite 0, toBinary32 stage.scale.2,
    fromPixels stage.translation.1, fromPixels stage.translation.2⟩

/-- `build_matrices`: the stage with its reported size, view matrix and bounds, and whether resize fires. -/
def buildMatrices (isFullscreen : Bool) : StageData × Bool :=
  let prevStageSize := stage.stageSize
  let stage := { stage with stageSize := stage.reportedSize }
  let stageSizeChanged := prevStageSize ≠ stage.stageSize
  let stage := { stage with matrix := stage.viewMatrix }
  ({ stage with viewBounds := stage.visibleBounds (stage.shouldLetterbox isFullscreen) },
    stage.scaleMode = .noScale && stageSizeChanged)

def setScaleMode (scaleMode : StageScaleMode) (isFullscreen : Bool) : StageData × Bool :=
  { stage with scaleMode := scaleMode }.buildMatrices isFullscreen

def setAlign (align : StageAlign) (isFullscreen : Bool) : StageData × Bool :=
  { stage with align := align }.buildMatrices isFullscreen

def setViewportSize (width height : UInt32) (scaleFactor : Number) (isFullscreen : Bool) :
    StageData × Bool :=
  { stage with viewportSize := (width, height), viewportScaleFactor := scaleFactor }.buildMatrices
    isFullscreen

def setMovieSize (width height : UInt32) : StageData :=
  { stage with movieSize := (width, height) }

def setLetterbox (letterbox : Letterbox) : StageData :=
  { stage with letterbox := letterbox }

/-- `draw_letterbox` in `f32`: bars on the larger pair of margins, each only where it is positive. -/
def drawLetterbox : List Bar :=
  let viewportWidth := binary32.ofRat stage.viewportWidth
  let viewportHeight := binary32.ofRat stage.viewportHeight
  let movieWidth := binary32.mul (binary32.ofRat stage.movieWidth) stage.matrix.a
  let movieHeight := binary32.mul (binary32.ofRat stage.movieHeight) stage.matrix.d
  let marginLeft := toBinary32 (toPixels stage.matrix.tx)
  let marginRight := binary32.sub (binary32.sub viewportWidth movieWidth) marginLeft
  let marginTop := toBinary32 (toPixels stage.matrix.ty)
  let marginBottom := binary32.sub (binary32.sub viewportHeight movieHeight) marginTop
  if (binary32.add marginLeft marginRight).lt (binary32.add marginTop marginBottom) then
    (if (Number.finite 0).lt marginTop then [⟨viewportWidth, marginTop, 0, 0⟩] else []) ++
      (if (Number.finite 0).lt marginBottom then
        [⟨viewportWidth, marginBottom, 0, fromPixels (binary32.sub viewportHeight marginBottom)⟩] else [])
  else
    (if (Number.finite 0).lt marginLeft then [⟨marginLeft, viewportHeight, 0, 0⟩] else []) ++
      (if (Number.finite 0).lt marginRight then
        [⟨marginRight, viewportHeight, fromPixels (binary32.sub viewportWidth marginRight), 0⟩] else [])

def letterboxBars (isFullscreen : Bool) : List Bar :=
  if stage.shouldLetterbox isFullscreen then stage.drawLetterbox else []

def Positive : Prop :=
  0 < stage.movieSize.1.toNat ∧ 0 < stage.movieSize.2.toNat ∧ 0 < stage.viewportSize.1.toNat ∧
    0 < stage.viewportSize.2.toNat

instance : Decidable stage.Positive := inferInstanceAs (Decidable (_ ∧ _ ∧ _ ∧ _))

variable (isFullscreen : Bool)

theorem buildMatrices_eq : stage.buildMatrices isFullscreen =
    ({ stage with
        stageSize := stage.reportedSize
        matrix := stage.viewMatrix
        viewBounds := stage.visibleBounds (stage.shouldLetterbox isFullscreen) },
      stage.scaleMode = .noScale && stage.stageSize ≠ stage.reportedSize) := rfl

@[simp] theorem buildMatrices_matrix : (stage.buildMatrices isFullscreen).1.matrix = stage.viewMatrix := rfl

@[simp] theorem buildMatrices_viewBounds : (stage.buildMatrices isFullscreen).1.viewBounds =
    stage.visibleBounds (stage.shouldLetterbox isFullscreen) := rfl

@[simp] theorem movieWidth_buildMatrices :
    (stage.buildMatrices isFullscreen).1.movieWidth = stage.movieWidth := rfl

@[simp] theorem movieHeight_buildMatrices :
    (stage.buildMatrices isFullscreen).1.movieHeight = stage.movieHeight := rfl

@[simp] theorem viewportWidth_buildMatrices :
    (stage.buildMatrices isFullscreen).1.viewportWidth = stage.viewportWidth := rfl

@[simp] theorem viewportHeight_buildMatrices :
    (stage.buildMatrices isFullscreen).1.viewportHeight = stage.viewportHeight := rfl

@[simp] theorem shouldLetterbox_buildMatrices (isFullscreen' : Bool) :
    (stage.buildMatrices isFullscreen).1.shouldLetterbox isFullscreen' =
      stage.shouldLetterbox isFullscreen' := rfl

end StageData

def StageData.empty (width height : UInt32) : StageData :=
  ⟨.fullscreen, (width, height), (width, height), .showAll, .empty, (width, height), .finite 1,
    ⟨0, 0, 0, 0, false⟩, ⟨.finite 1, .finite 0, .finite 0, .finite 1, 0, 0⟩⟩

namespace StageAlign

theorem foldl_insertChar (align : StageAlign) (cs : List Char) :
    cs.foldl insertChar align =
      ⟨align.top || cs.any (·.toUpper == 'T'), align.bottom || cs.any (·.toUpper == 'B'),
        align.left || cs.any (·.toUpper == 'L'), align.right || cs.any (·.toUpper == 'R')⟩ := by
  induction cs generalizing align with
  | nil => simp
  | cons c cs ih =>
    rw [List.foldl_cons, ih]
    unfold insertChar
    split <;> simp_all [beq_false_of_ne]

theorem fromStr_sets_named_flags (s : String) :
    fromStr s = ⟨s.data.any (·.toUpper == 'T'), s.data.any (·.toUpper == 'B'),
      s.data.any (·.toUpper == 'L'), s.data.any (·.toUpper == 'R')⟩ :=
  foldl_insertChar empty s.data

end StageAlign

namespace StageScaleMode

theorem fromStr_toString (mode : StageScaleMode) : fromStr mode.toString = some mode := by
  cases mode <;> decide

end StageScaleMode

end Ruffle
