import Mathlib.Algebra.Order.Field.Basic
import Mathlib.Algebra.BigOperators.Group.List.Basic
import Mathlib.Data.Rat.Cast.Defs

/-! How icons are judged for a dark menu, by the Rust core and by the Go core. The
arithmetic is exact, in any ordered field, with the power 2.4 of the transfer curve given.
The two loops over the pixels are one: the cores differ in what they take of a pixel and in
the background they compare it with. -/
namespace FluxBar

/-- A pixel, with straight alpha, in eight bits a channel. -/
structure Rgba where
  r : UInt8
  g : UInt8
  b : UInt8
  a : UInt8
  deriving DecidableEq, Repr

/-- An image, row after row. -/
structure RgbaImage where
  width : Nat
  height : Nat
  pixels : List Rgba
  size : pixels.length = width * height

/-- `BackgroundMode`: whether a variant for dark menus gets a background, or the image
decides. -/
inductive BackgroundMode where
  | auto
  | always
  | never
  deriving DecidableEq, Repr

namespace Icons
variable {K : Type} [Field K] [LinearOrder K]

/-- What the loop over an image uses of a pixel, in the numbers of either core. -/
structure Sample (K : Type) where
  transparent : Bool
  visible : Bool
  alpha : K
  luminance : K

/-- The variables of the loop, which are sums over the visible pixels but for the last. -/
structure Sums (K : Type) where
  weightSum : K
  luminanceSum : K
  contrastSum : K
  lowContrastWeight : K
  transparentPixels : Nat

/-- `AppearanceAnalysis`: what an icon looks like on a dark menu. -/
structure AppearanceAnalysis (K : Type) where
  meanLuminance : K
  darkContrast : K
  lowContrastRatio : K
  visibleCoverage : K
  hasTransparency : Bool
  transparentRatio : K
  classifiedDark : Bool
  deriving DecidableEq

/-- `AppearanceAnalysis::default`. -/
def AppearanceAnalysis.default : AppearanceAnalysis K := ⟨0, 0, 0, 0, false, 0, false⟩

/-- The curve of `linear_srgb`, on the scale from 0 to 1. -/
def transferCurve (power : K → K) (value : K) : K :=
  if value ≤ 0.04045 then value / 12.92 else power ((value + 0.055) / 1.055)

/-- The three channels of a pixel, weighted. -/
def luminance (linear : K → K) (red green blue : K) : K :=
  0.2126 * linear red + 0.7152 * linear green + 0.0722 * linear blue

/-- One pixel of the loop: laid over the dark background, its contrast to it, and its share
in the sums. -/
def account (contrastRatio : K → K → K) (darkBackground : K) (sums : Sums K) (sample : Sample K) : Sums K :=
  let transparentPixels :=
    if sample.transparent then sums.transparentPixels + 1 else sums.transparentPixels
  if sample.visible then
    let composited := sample.alpha * sample.luminance + (1 - sample.alpha) * darkBackground
    let contrast := contrastRatio composited darkBackground
    { weightSum := sums.weightSum + sample.alpha
      luminanceSum := sums.luminanceSum + sample.luminance * sample.alpha
      contrastSum := sums.contrastSum + contrast * sample.alpha
      lowContrastWeight :=
        if contrast < 2.25 then sums.lowContrastWeight + sample.alpha else sums.lowContrastWeight
      transparentPixels }
  else { sums with transparentPixels }

/-- What is concluded from the sums; `MEANINGFUL_TRANSPARENCY_RATIO` is 0.10. An image
without visible pixels has only its transparency. -/
def conclude (pixelCount : Nat) (sums : Sums K) : AppearanceAnalysis K :=
  let transparentRatio := (sums.transparentPixels : K) / pixelCount
  let analysis : AppearanceAnalysis K := { AppearanceAnalysis.default with
    hasTransparency := transparentRatio ≥ 0.10
    transparentRatio }
  if sums.weightSum = 0 then analysis
  else
    let meanLuminance := sums.luminanceSum / sums.weightSum
    let lowContrastRatio := sums.lowContrastWeight / sums.weightSum
    let visibleCoverage := sums.weightSum / pixelCount
    { analysis with
      meanLuminance
      darkContrast := sums.contrastSum / sums.weightSum
      lowContrastRatio
      visibleCoverage
      classifiedDark := visibleCoverage ≥ 0.01 ∧ meanLuminance ≤ 0.32 ∧ lowContrastRatio ≥ 0.50 }

/-- The analysis of an image by either core, which differ in how they sample a pixel and in
the background. -/
def analyze (sample : Rgba → Sample K) (contrastRatio : K → K → K) (darkBackground : K)
    (source : RgbaImage) : AppearanceAnalysis K :=
  let pixelCount := source.width * source.height
  if pixelCount = 0 then .default
  else conclude pixelCount
    ((source.pixels.map sample).foldl (account contrastRatio darkBackground) ⟨0, 0, 0, 0, 0⟩)

/-! ## The Rust core -/

def contrastRatio (first second : K) : K :=
  let (lighter, darker) := if first > second then (first, second) else (second, first)
  (lighter + 0.05) / (darker + 0.05)

variable (power : K → K)

/-- `linear_srgb`, on the scale from 0 to 255. -/
def linearSrgb (value : K) : K := transferCurve power (value / 255)

/-- The body of the loop of `analyze_appearance` up to the luminance. -/
def sample (pixel : Rgba) : Sample K :=
  let alpha : K := pixel.a.toNat / 255
  let channel (value : UInt8) : K := min (value.toNat / alpha) 255
  { transparent := pixel.a < 255
    visible := pixel.a ≠ 0
    alpha
    luminance := luminance (linearSrgb power) (channel pixel.r) (channel pixel.g) (channel pixel.b) }

def analyzeAppearance : RgbaImage → AppearanceAnalysis K :=
  analyze (sample power) contrastRatio (linearSrgb power 0.12)

/-- Whether `dark_mode_variant` draws a background: under `auto` for dark icons that are
transparent. -/
def addBackground (analysis : AppearanceAnalysis K) : BackgroundMode → Bool
  | .auto => analysis.classifiedDark && analysis.hasTransparency
  | .always => true
  | .never => false

/-- What is decided about an icon: `has_transparency`, `classified_dark`, and whether a
background is added. -/
def darkModeDecision (source : RgbaImage) (mode : BackgroundMode) : Bool × Bool × Bool :=
  let analysis := analyzeAppearance power source
  (analysis.hasTransparency, analysis.classifiedDark, addBackground analysis mode)

end Icons

/-! ## The Go core -/

namespace GoIcons
variable {K : Type} [Field K] [LinearOrder K]
open Icons (AppearanceAnalysis Sample analyze luminance transferCurve)

def contrastRatio (first second : K) : K :=
  let (first, second) := if first < second then (second, first) else (first, second)
  (first + 0.05) / (second + 0.05)

variable (power : K → K)

/-- `linearSRGB`, on the scale from 0 to 1. -/
def linearSRGB (value : K) : K := transferCurve power value

/-- A channel of `color.NRGBA.RGBA`: 16 bits wide and premultiplied, here exactly. -/
def premultiplied (value alpha : UInt8) : K :=
  (0x101 * value.toNat) * (0x101 * alpha.toNat) / 0xffff

/-- The body of the loop of `analyzeAppearance` up to the luminance. -/
def sample (pixel : Rgba) : Sample K :=
  let a : K := 0x101 * pixel.a.toNat
  let channel (value : UInt8) : K := premultiplied value pixel.a / a
  { transparent := 0x101 * pixel.a.toNat < 0xffff
    visible := 0x101 * pixel.a.toNat ≠ 0
    alpha := a / 65535
    luminance := luminance (linearSRGB power) (channel pixel.r) (channel pixel.g) (channel pixel.b) }

def analyzeAppearance : RgbaImage → AppearanceAnalysis K :=
  analyze (sample power) contrastRatio (linearSRGB power 0.12)

/-- The modes, under their Go names; no name at all is `BackgroundAuto`. -/
def backgroundMode : BackgroundMode → String
  | .auto => "auto"
  | .always => "always"
  | .never => "never"

/-- What `DarkModeVariant` decides about an icon, or the mode it does not know. -/
def darkModeDecision (source : RgbaImage) (mode : String) : Except String (Bool × Bool × Bool) :=
  let mode := if mode = "" then "auto" else mode
  let analysis := analyzeAppearance power source
  let decided (addBackground : Bool) :=
    .ok (analysis.hasTransparency, analysis.classifiedDark, addBackground)
  if mode = "always" then decided true
  else if mode = "never" then decided false
  else if mode = "auto" then decided (analysis.classifiedDark && analysis.hasTransparency)
  else .error s!"unbekannter Hintergrundmodus {mode.quote}"

end GoIcons

/-! ## What an image shows -/

namespace Rgba
variable {K : Type} [Field K] [LinearOrder K] (power : K → K) (pixel : Rgba)
open Icons (luminance transferCurve)

/-- The alpha channel, from 0 to 1. -/
def weight : K := pixel.a.toNat / 255

/-- The luminance of the colour as it is stored. -/
def straight : K :=
  luminance (transferCurve power) (pixel.r.toNat / 255) (pixel.g.toNat / 255) (pixel.b.toNat / 255)

/-- The luminance of the colour divided by the alpha channel, as if it had been multiplied
by it. -/
def divided : K :=
  luminance (transferCurve power) (min (pixel.r.toNat / pixel.a.toNat) 1)
    (min (pixel.g.toNat / pixel.a.toNat) 1) (min (pixel.b.toNat / pixel.a.toNat) 1)

end Rgba

end FluxBar
