import FluxBar.IconAppearance
import Mathlib.Analysis.SpecialFunctions.Pow.Real

/-! The two cores on one image. The Rust core divides straight colours by their alpha once
more, and compares them with a background scaled down twice: it sees every pixel at least as
bright, before a background at most as bright. So an icon that is dark to it is dark to the
Go core, and the images between the two are those that only the Go core finds dark. -/
namespace FluxBar
open Icons (transferCurve luminance Sample Sums account)

/-! ## The loop in closed form -/

namespace Icons
variable {K : Type} [Field K] [LinearOrder K]

namespace Sample
variable (sample : Sample K)

def weight : K := if sample.visible then sample.alpha else 0

/-- The pixel stands out too little from the background. -/
def Low (contrastRatio : K → K → K) (darkBackground : K) : Prop :=
  contrastRatio (sample.alpha * sample.luminance + (1 - sample.alpha) * darkBackground)
    darkBackground < 2.25

instance (contrastRatio : K → K → K) (darkBackground : K) :
    Decidable (sample.Low contrastRatio darkBackground) :=
  inferInstanceAs (Decidable (_ < _))

end Sample

section Fold
variable {contrastRatio : K → K → K} {dark : K} {samples : List (Sample K)} {sums : Sums K}

/-- A variable of the loop to which every pixel adds something is the sum of what they add,
over the variable at entry. -/
theorem fold_account {M : Type} [AddCommMonoid M] (view : Sums K → M) (added : Sample K → M)
    (adds : ∀ sums sample, view (account contrastRatio dark sums sample) = view sums + added sample) :
    view (samples.foldl (account contrastRatio dark) sums) =
      view sums + (samples.map added).sum := by
  induction samples generalizing sums with
  | nil => simp
  | cons sample rest ih =>
    rw [List.foldl_cons, ih, adds, List.map_cons, List.sum_cons, add_assoc]

theorem weightSum_fold : (samples.foldl (account contrastRatio dark) sums).weightSum =
    sums.weightSum + (samples.map Sample.weight).sum := by
  refine fold_account Sums.weightSum _ fun sums sample => ?_
  unfold account Sample.weight
  cases sample.visible <;> simp

theorem luminanceSum_fold : (samples.foldl (account contrastRatio dark) sums).luminanceSum =
    sums.luminanceSum + (samples.map fun sample => sample.weight * sample.luminance).sum := by
  refine fold_account Sums.luminanceSum _ fun sums sample => ?_
  unfold account Sample.weight
  cases sample.visible <;> simp [mul_comm]

theorem lowContrastWeight_fold :
    (samples.foldl (account contrastRatio dark) sums).lowContrastWeight =
      sums.lowContrastWeight + (samples.map fun sample =>
        if sample.Low contrastRatio dark then sample.weight else 0).sum := by
  refine fold_account Sums.lowContrastWeight _ fun sums sample => ?_
  unfold account Sample.weight Sample.Low
  by_cases low : contrastRatio (sample.alpha * sample.luminance + (1 - sample.alpha) * dark) dark
      < 2.25
  · cases sample.visible <;> simp [low]
  · cases sample.visible <;> simp [low]

theorem transparentPixels_fold :
    (samples.foldl (account contrastRatio dark) sums).transparentPixels =
      sums.transparentPixels +
        (samples.map fun sample => if sample.transparent then 1 else 0).sum := by
  refine fold_account Sums.transparentPixels _ fun sums sample => ?_
  unfold account
  cases sample.visible <;> cases sample.transparent <;> rfl

end Fold

/-! ## The verdict in terms of the pixels -/

/-- Summed over the pixels of an image. -/
def total (source : RgbaImage) (value : Rgba → K) : K := (source.pixels.map value).sum

section Totals
variable {sample sample' : Rgba → Sample K} {contrastRatio contrastRatio' : K → K → K}
  {dark dark' : K} {source : RgbaImage}

theorem weightSum_total :
    ((source.pixels.map sample).foldl (account contrastRatio dark) ⟨0, 0, 0, 0, 0⟩).weightSum =
      total source fun pixel => (sample pixel).weight := by
  rw [weightSum_fold, zero_add, List.map_map]
  rfl

theorem luminanceSum_total :
    ((source.pixels.map sample).foldl (account contrastRatio dark) ⟨0, 0, 0, 0, 0⟩).luminanceSum =
      total source fun pixel => (sample pixel).weight * (sample pixel).luminance := by
  rw [luminanceSum_fold, zero_add, List.map_map]
  rfl

theorem lowContrastWeight_total :
    ((source.pixels.map sample).foldl (account contrastRatio dark)
      ⟨0, 0, 0, 0, 0⟩).lowContrastWeight = total source fun pixel =>
        if (sample pixel).Low contrastRatio dark then (sample pixel).weight else 0 := by
  rw [lowContrastWeight_fold, zero_add, List.map_map]
  rfl

omit [LinearOrder K] in
theorem total_empty {value : Rgba → K} (empty : source.width * source.height = 0) :
    total source value = 0 := by
  have none : source.pixels = [] := List.eq_nil_of_length_eq_zero (by rw [source.size, empty])
  simp [total, none]

/-- Transparency is a matter of the alpha channel only, on which the cores agree. -/
theorem hasTransparency_analyze
    (same : ∀ pixel, (sample pixel).transparent = (sample' pixel).transparent) :
    (analyze sample contrastRatio dark source).hasTransparency =
      (analyze sample' contrastRatio' dark' source).hasTransparency := by
  unfold analyze
  by_cases empty : source.width * source.height = 0
  · simp [empty]
  · simp only [empty, if_false]
    unfold conclude
    have counted : (source.pixels.map sample).map (fun sample => if sample.transparent then 1 else 0) =
        (source.pixels.map sample').map fun sample => if sample.transparent then 1 else 0 := by
      simp [same]
    rw [transparentPixels_fold, transparentPixels_fold, counted]
    split <;> split <;> rfl

end Totals

variable [IsStrictOrderedRing K]

theorem total_nonneg {source : RgbaImage} {value : Rgba → K} (nonneg : ∀ pixel, 0 ≤ value pixel) :
    0 ≤ total source value := by
  refine List.sum_nonneg fun _ listed => ?_
  obtain ⟨pixel, _, rfl⟩ := List.mem_map.mp listed
  exact nonneg pixel

theorem total_le {source : RgbaImage} {value value' : Rgba → K}
    (below : ∀ pixel, value pixel ≤ value' pixel) : total source value ≤ total source value' :=
  List.sum_le_sum fun pixel _ => below pixel

/-- A contrast under the threshold, with a background dark enough, is a bound on the
luminance that is linear in the background. -/
theorem contrastRatio_lt {value dark : K} (positive : 0 ≤ value) (above : 0 ≤ dark)
    (below : dark < 0.0625) :
    contrastRatio value dark < 2.25 ↔ value < 2.25 * dark + 0.0625 := by
  unfold contrastRatio
  by_cases lighter : value > dark
  · simp only [lighter, if_true]
    rw [div_lt_iff₀ (by linarith)]
    constructor <;> intro bound <;> linarith
  · simp only [lighter, if_false]
    rw [div_lt_iff₀ (by linarith)]
    constructor <;> intro bound <;> linarith

/-- What a core reads off a pixel, within its bounds: alpha from 0 to 1, and no negative
light. -/
structure Sample.Sound (sample : Sample K) : Prop where
  nonneg : 0 ≤ sample.alpha
  le_one : sample.alpha ≤ 1
  bright : 0 ≤ sample.luminance

theorem Sample.Sound.low_iff {sample : Sample K} (sound : sample.Sound) {dark : K}
    (above : 0 ≤ dark) (below : dark < 0.0625) :
    sample.Low contrastRatio dark ↔
      sample.alpha * sample.luminance < (1.25 + sample.alpha) * dark + 0.0625 := by
  have lit := mul_nonneg sound.nonneg sound.bright
  have rest := mul_nonneg (sub_nonneg.mpr sound.le_one) above
  unfold Sample.Low
  rw [contrastRatio_lt (by linarith) above below]
  constructor <;> intro bound <;> linarith

/-- An icon that is dark: visible enough, dull on the average, and in half of its weight
without contrast. The light of a pixel is its luminance times its weight. -/
structure Dark (weight light : Rgba → K) (dark : K) (source : RgbaImage) : Prop where
  visible : 0 < total source weight
  covered : (source.width * source.height : ℕ) ≤ 100 * total source weight
  dull : total source light ≤ 0.32 * total source weight
  low : total source weight ≤ 2 * total source fun pixel =>
    if light pixel < (1.25 + weight pixel) * dark + 0.0625 then weight pixel else 0

/-- Less light before a brighter background: what is dark stays so. The two cores are
compared by this, for one of them divides the colours and has the darker background. -/
theorem Dark.mono {weight light light' : Rgba → K} {dark dark' : K} {source : RgbaImage}
    (found : Dark weight light dark source) (nonneg : ∀ pixel, 0 ≤ weight pixel)
    (less : ∀ pixel, light' pixel ≤ light pixel) (brighter : dark ≤ dark') :
    Dark weight light' dark' source where
  visible := found.visible
  covered := found.covered
  dull := (total_le less).trans found.dull
  low := by
    refine found.low.trans (mul_le_mul_of_nonneg_left (total_le fun pixel => ?_) zero_le_two)
    have scaled : (1.25 + weight pixel) * dark ≤ (1.25 + weight pixel) * dark' :=
      mul_le_mul_of_nonneg_left brighter (by linarith [nonneg pixel])
    by_cases low : light pixel < (1.25 + weight pixel) * dark + 0.0625
    · rw [if_pos low, if_pos (by linarith [less pixel])]
    · rw [if_neg low]
      split
      · exact nonneg pixel
      · exact le_rfl

theorem classifiedDark_iff {sample : Rgba → Sample K} {dark : K} {source : RgbaImage}
    (sound : ∀ pixel, (sample pixel).Sound) (above : 0 ≤ dark) (below : dark < 0.0625) :
    (analyze sample contrastRatio dark source).classifiedDark = true ↔
      Dark (fun pixel => (sample pixel).weight)
        (fun pixel => (sample pixel).weight * (sample pixel).luminance) dark source := by
  have lowWeight : ∀ pixel, (if (sample pixel).Low contrastRatio dark then (sample pixel).weight else 0) =
      if (sample pixel).weight * (sample pixel).luminance < (1.25 + (sample pixel).weight) * dark + 0.0625
      then (sample pixel).weight else 0 := by
    intro pixel
    unfold Sample.weight
    cases (sample pixel).visible with
    | false => simp
    | true => simp only [if_true, (sound pixel).low_iff above below]
  have positive : 0 ≤ total source fun pixel => (sample pixel).weight := by
    refine total_nonneg fun pixel => ?_
    unfold Sample.weight
    split
    · exact (sound pixel).nonneg
    · exact le_rfl
  unfold analyze
  by_cases empty : source.width * source.height = 0
  · simp only [empty, if_true]
    refine ⟨fun absurd => (by cases absurd), fun found => ?_⟩
    exact absurd found.visible (by rw [total_empty empty]; exact lt_irrefl 0)
  · have counted : (0 : K) < (source.width * source.height : ℕ) :=
      Nat.cast_pos.mpr (Nat.pos_of_ne_zero empty)
    simp only [empty, if_false]
    unfold conclude
    rw [weightSum_total, luminanceSum_total, lowContrastWeight_total]
    simp only [lowWeight]
    by_cases none : total source (fun pixel => (sample pixel).weight) = 0
    · rw [if_pos none]
      refine ⟨fun absurd => (by cases absurd), fun found => ?_⟩
      exact absurd found.visible (by rw [none]; exact lt_irrefl 0)
    · have visible := lt_of_le_of_ne positive (Ne.symm none)
      rw [if_neg none]
      dsimp only
      rw [decide_eq_true_eq, ge_iff_le, ge_iff_le, le_div_iff₀ counted, div_le_iff₀ visible,
        le_div_iff₀ visible]
      constructor
      · rintro ⟨covered, dull, low⟩
        exact ⟨visible, by linarith, dull, by linarith⟩
      · intro found
        have covered := found.covered
        have low := found.low
        exact ⟨by linarith, found.dull, by linarith⟩

/-! ## The transfer curve -/

/-- What the comparison of the cores uses of the power 2.4; the real power has it, and other
curves may. -/
structure TransferPower (power : K → K) : Prop where
  mono : ∀ {x y}, 0 ≤ x → x ≤ y → power x ≤ power y
  joins : 0.04045 / 12.92 ≤ power (0.09545 / 1.055)
  one : power 1 = 1
  menu : power (0.175 / 1.055) < 0.0625

section Curve
variable {power : K → K} (laws : TransferPower power)
include laws

theorem transferCurve_mono {x y : K} (nonneg : 0 ≤ x) (le : x ≤ y) :
    transferCurve power x ≤ transferCurve power y := by
  unfold transferCurve
  by_cases first : x ≤ 0.04045
  · rw [if_pos first]
    by_cases second : y ≤ 0.04045
    · rw [if_pos second]
      gcongr
    · -- across the joint of the two pieces
      rw [if_neg second]
      have joint : (0.09545 / 1.055 : K) ≤ (y + 0.055) / 1.055 := by
        gcongr
        linarith
      calc x / 12.92 ≤ 0.04045 / 12.92 := by gcongr
        _ ≤ power (0.09545 / 1.055) := laws.joins
        _ ≤ power ((y + 0.055) / 1.055) := laws.mono (by norm_num) joint
  · rw [if_neg first, if_neg (by linarith)]
    refine laws.mono ?_ (by gcongr)
    positivity

theorem transferCurve_nonneg {x : K} (nonneg : 0 ≤ x) : 0 ≤ transferCurve power x := by
  have zero : transferCurve power 0 = 0 := by
    unfold transferCurve
    rw [if_pos (by norm_num), zero_div]
  exact zero ▸ transferCurve_mono laws le_rfl nonneg

theorem transferCurve_menu : transferCurve power 0.12 < 0.0625 := by
  unfold transferCurve
  rw [if_neg (by norm_num)]
  have sum : (0.12 + 0.055 : K) = 0.175 := by norm_num
  rw [sum]
  exact laws.menu

/-- Brighter channels, brighter pixel. -/
theorem luminance_mono {red green blue red' green' blue' : K} (r : 0 ≤ red ∧ red ≤ red')
    (g : 0 ≤ green ∧ green ≤ green') (b : 0 ≤ blue ∧ blue ≤ blue') :
    luminance (transferCurve power) red green blue ≤
      luminance (transferCurve power) red' green' blue' := by
  have first := transferCurve_mono laws r.1 r.2
  have second := transferCurve_mono laws g.1 g.2
  have third := transferCurve_mono laws b.1 b.2
  unfold luminance
  linarith

theorem luminance_nonneg {red green blue : K} (r : 0 ≤ red) (g : 0 ≤ green) (b : 0 ≤ blue) :
    0 ≤ luminance (transferCurve power) red green blue := by
  have first := transferCurve_nonneg laws r
  have second := transferCurve_nonneg laws g
  have third := transferCurve_nonneg laws b
  unfold luminance
  linarith

end Curve

end Icons

/-! ## What either core takes of a pixel -/

namespace Rgba
variable {K : Type} [Field K] [LinearOrder K] [IsStrictOrderedRing K] {power : K → K} {pixel : Rgba}

theorem weight_nonneg : (0 : K) ≤ pixel.weight := by
  unfold weight
  positivity

theorem weight_le_one : pixel.weight ≤ (1 : K) := by
  have bound : (pixel.a.toNat : K) ≤ 255 := by exact_mod_cast Nat.le_of_lt_succ pixel.a.toNat_lt
  unfold weight
  rw [div_le_one (by norm_num)]
  exact bound

/-- The Rust core divides the colours by the alpha channel, though they are stored without
it. -/
theorem sample_rust : (Icons.sample power pixel).luminance = pixel.divided power ∧
    (Icons.sample power pixel).weight = pixel.weight := by
  have channel : ∀ value : UInt8, Icons.linearSrgb power
      (min ((value.toNat : K) / ((pixel.a.toNat : K) / 255)) 255) =
        transferCurve power (min (value.toNat / pixel.a.toNat) 1) := by
    intro value
    unfold Icons.linearSrgb
    rw [← min_div_div_right (by norm_num), div_div, div_mul_cancel₀ _ (by norm_num),
      div_self (by norm_num)]
  constructor
  · unfold Icons.sample divided luminance
    simp only [channel]
  · unfold Icons.Sample.weight Icons.sample weight
    by_cases none : pixel.a = 0 <;> simp [none]

/-- The Go core takes them as they are: its library multiplies them by alpha, and it divides
that out again. -/
theorem sample_go :
    pixel.weight * (GoIcons.sample power pixel).luminance = pixel.weight * pixel.straight power ∧
    (GoIcons.sample power pixel).weight = pixel.weight := by
  have weighed : (GoIcons.sample power pixel).weight = (pixel.weight : K) := by
    unfold Icons.Sample.weight GoIcons.sample weight
    by_cases none : pixel.a = 0
    · simp [none]
    · have some : pixel.a.toNat ≠ 0 := fun zero => none (UInt8.toNat_inj.mp zero)
      have scale : (0x101 * (pixel.a.toNat : K)) / 65535 = pixel.a.toNat / 255 := by
        rw [div_eq_div_iff (by norm_num) (by norm_num)]
        ring
      simpa [some] using scale
  refine ⟨?_, weighed⟩
  by_cases none : pixel.a = 0
  · simp [weight, none]
  · have some : (pixel.a.toNat : K) ≠ 0 :=
      Nat.cast_ne_zero.mpr fun zero => none (UInt8.toNat_inj.mp zero)
    have channel : ∀ value : UInt8, GoIcons.premultiplied value pixel.a / (0x101 * pixel.a.toNat : K) =
        value.toNat / 255 := by
      intro value
      unfold GoIcons.premultiplied
      field_simp
      ring
    unfold GoIcons.sample GoIcons.linearSRGB straight luminance
    simp only [channel]

section Sound
variable (laws : Icons.TransferPower power)
include laws

theorem straight_le_divided (visible : pixel.a ≠ 0) :
    pixel.straight power ≤ pixel.divided power := by
  have some : (0 : K) < pixel.a.toNat :=
    Nat.cast_pos.mpr (Nat.pos_of_ne_zero fun zero => visible (UInt8.toNat_inj.mp zero))
  have channel : ∀ value : UInt8, 0 ≤ (value.toNat / 255 : K) ∧
      (value.toNat / 255 : K) ≤ min ((value.toNat : K) / pixel.a.toNat) 1 := by
    intro value
    have byte : ∀ value : UInt8, (value.toNat : K) ≤ 255 := fun value => by
      exact_mod_cast Nat.le_of_lt_succ value.toNat_lt
    refine ⟨by positivity, le_min ?_ ?_⟩
    · exact div_le_div_of_nonneg_left (Nat.cast_nonneg _) some (byte _)
    · rw [div_le_one (by norm_num)]
      exact byte value
  exact Icons.luminance_mono laws (channel pixel.r) (channel pixel.g) (channel pixel.b)

theorem sound_rust : (Icons.sample power pixel).Sound where
  nonneg := weight_nonneg
  le_one := weight_le_one
  bright := by
    rw [sample_rust.1]
    exact Icons.luminance_nonneg laws (by positivity) (by positivity) (by positivity)

theorem sound_go : (GoIcons.sample power pixel).Sound where
  nonneg := by
    unfold GoIcons.sample
    positivity
  le_one := by
    have bound : (pixel.a.toNat : K) ≤ 255 := by exact_mod_cast Nat.le_of_lt_succ pixel.a.toNat_lt
    unfold GoIcons.sample
    rw [div_le_one (by norm_num)]
    linarith
  bright := by
    unfold GoIcons.sample GoIcons.linearSRGB GoIcons.premultiplied
    exact Icons.luminance_nonneg laws (by positivity) (by positivity) (by positivity)

end Sound

end Rgba

/-! ## The two cores -/

theorem GoIcons.contrastRatio_eq {K : Type} [Field K] [LinearOrder K] :
    GoIcons.contrastRatio = (Icons.contrastRatio : K → K → K) := by
  funext first second
  unfold GoIcons.contrastRatio Icons.contrastRatio
  rcases lt_trichotomy first second with less | rfl | more
  · simp [less, not_lt_of_gt less]
  · simp
  · simp [more, not_lt_of_gt more]

/-- The Go core knows the modes of the Rust core, and draws a background alike. -/
theorem GoIcons.darkModeDecision_known {K : Type} [Field K] [LinearOrder K] {power : K → K}
    {source : RgbaImage} {mode : BackgroundMode} :
    GoIcons.darkModeDecision power source (GoIcons.backgroundMode mode) =
      .ok ((GoIcons.analyzeAppearance power source).hasTransparency,
        (GoIcons.analyzeAppearance power source).classifiedDark,
        Icons.addBackground (GoIcons.analyzeAppearance power source) mode) := by
  unfold GoIcons.darkModeDecision
  cases mode <;> simp [GoIcons.backgroundMode, Icons.addBackground]

namespace Icons
variable {K : Type} [Field K] [LinearOrder K] [IsStrictOrderedRing K] {power : K → K}
  {source : RgbaImage}

theorem transferCurve_menu_bounds (laws : TransferPower power) :
    (0 ≤ transferCurve power (0.12 / 255) ∧ transferCurve power (0.12 / 255) < 0.0625) ∧
    0 ≤ transferCurve power 0.12 ∧ transferCurve power 0.12 < 0.0625 ∧
    transferCurve power (0.12 / 255) ≤ transferCurve power 0.12 := by
  have menu := transferCurve_menu laws
  have scaled : transferCurve power (0.12 / 255) ≤ transferCurve power 0.12 :=
    transferCurve_mono laws (by norm_num) (by norm_num)
  exact ⟨⟨transferCurve_nonneg laws (by norm_num), by linarith⟩,
    transferCurve_nonneg laws (by norm_num), menu, scaled⟩

theorem rust_dark_iff (laws : TransferPower power) :
    (analyzeAppearance power source).classifiedDark = true ↔
      Dark Rgba.weight (fun pixel => pixel.weight * pixel.divided power)
        (transferCurve power (0.12 / 255)) source := by
  have bounds := (transferCurve_menu_bounds laws).1
  have read := @classifiedDark_iff K _ _ _ (sample power) _ source
    (fun _ => Rgba.sound_rust laws) bounds.1 bounds.2
  simp only [Rgba.sample_rust] at read
  exact read

theorem go_dark_iff (laws : TransferPower power) :
    (GoIcons.analyzeAppearance power source).classifiedDark = true ↔
      Dark Rgba.weight (fun pixel => pixel.weight * pixel.straight power)
        (transferCurve power 0.12) source := by
  have bounds := (transferCurve_menu_bounds laws).2
  have read := @classifiedDark_iff K _ _ _ (GoIcons.sample power) _ source
    (fun _ => Rgba.sound_go laws) bounds.1 bounds.2.1
  simp only [Rgba.sample_go] at read
  unfold GoIcons.analyzeAppearance
  rw [GoIcons.contrastRatio_eq]
  exact read

/-- An icon that is dark to the Rust core is dark to the Go core. -/
theorem go_dark_of_rust (laws : TransferPower power)
    (found : Dark Rgba.weight (fun pixel => pixel.weight * pixel.divided power)
      (transferCurve power (0.12 / 255)) source) :
    Dark Rgba.weight (fun pixel => pixel.weight * pixel.straight power)
      (transferCurve power 0.12) source := by
  refine found.mono (fun _ => Rgba.weight_nonneg) (fun pixel => ?_)
    (transferCurve_menu_bounds laws).2.2.2
  by_cases none : pixel.a = 0
  · simp [Rgba.weight, none]
  · exact mul_le_mul_of_nonneg_left (Rgba.straight_le_divided laws none) Rgba.weight_nonneg

/-- The icons between the two cores. Their pixels are dark as they are stored; with the colours
divided by the alpha channel, and before the background scaled twice, they are bright on the
average or too few of them lack contrast. -/
structure Between (power : K → K) (source : RgbaImage) : Prop where
  dark : Dark Rgba.weight (fun pixel => pixel.weight * pixel.straight power)
    (transferCurve power 0.12) source
  raised :
    0.32 * total source Rgba.weight <
      total source (fun pixel => pixel.weight * pixel.divided power) ∨
    (2 * total source fun pixel =>
      if pixel.weight * pixel.divided power <
          (1.25 + pixel.weight) * transferCurve power (0.12 / 255) + 0.0625 then pixel.weight
      else 0) < total source (Rgba.weight : Rgba → K)

theorem agree_iff (laws : TransferPower power) (mode : BackgroundMode) :
    GoIcons.darkModeDecision power source (GoIcons.backgroundMode mode) =
        .ok (darkModeDecision power source mode) ↔
      ¬ Between power source := by
  have transparency : (GoIcons.analyzeAppearance power source).hasTransparency =
      (analyzeAppearance power source).hasTransparency := by
    refine hasTransparency_analyze fun pixel => ?_
    have scaled : 0x101 * pixel.a.toNat < 0xffff ↔ pixel.a < 255 := by
      rw [UInt8.lt_iff_toNat_lt]
      change _ ↔ _ < 255
      omega
    exact decide_eq_decide.mpr scaled
  have same : GoIcons.darkModeDecision power source (GoIcons.backgroundMode mode) =
        .ok (darkModeDecision power source mode) ↔
      ((GoIcons.analyzeAppearance power source).classifiedDark = true ↔
        (analyzeAppearance power source).classifiedDark = true) := by
    rw [GoIcons.darkModeDecision_known, ← Bool.eq_iff_iff]
    unfold darkModeDecision
    dsimp only
    rw [transparency]
    constructor
    · intro equal
      exact (Prod.mk.inj (Prod.mk.inj (Except.ok.inj equal)).2).1
    · intro equal
      cases mode <;> simp [addBackground, equal, transparency]
  rw [same, rust_dark_iff laws, go_dark_iff laws]
  constructor
  · rintro alike ⟨dark, raised⟩
    have found := alike.mp dark
    rcases raised with bright | contrast
    · exact absurd found.dull (not_le.mpr bright)
    · exact absurd found.low (not_le.mpr contrast)
  · refine fun apart => ⟨fun dark => ?_, go_dark_of_rust laws⟩
    by_contra missed
    refine apart ⟨dark, ?_⟩
    by_contra neither
    push Not at neither
    exact missed ⟨dark.visible, dark.covered, neither.1, neither.2⟩

omit [LinearOrder K] [IsStrictOrderedRing K] in
theorem total_congr {value value' : Rgba → K}
    (same : ∀ pixel ∈ source.pixels, value pixel = value' pixel) :
    total source value = total source value' :=
  congrArg List.sum (List.map_congr_left same)

/-- An icon of black pixels, however faint, lies on one side for both cores. -/
theorem not_between_black (laws : TransferPower power)
    (black : ∀ pixel ∈ source.pixels, pixel.r = 0 ∧ pixel.g = 0 ∧ pixel.b = 0) :
    ¬ Between power source := by
  have unlit : ∀ pixel ∈ source.pixels, pixel.weight * pixel.divided power = 0 := by
    intro pixel listed
    obtain ⟨red, green, blue⟩ := black pixel listed
    have zero : ((0 : UInt8).toNat : K) = 0 := Nat.cast_zero
    have linear : (0 : K) ≤ 0.04045 := by norm_num
    unfold Rgba.divided luminance transferCurve
    simp [red, green, blue, linear]
  have menu := (transferCurve_menu_bounds laws).1.1
  rintro ⟨dark, bright | contrast⟩
  · have visible := dark.visible
    have none : total source (fun _ => (0 : K)) = 0 := by simp [total]
    rw [total_congr unlit, none] at bright
    linarith
  · have visible := dark.visible
    have low : ∀ pixel ∈ source.pixels, (if pixel.weight * pixel.divided power <
        (1.25 + pixel.weight) * transferCurve power (0.12 / 255) + 0.0625 then pixel.weight else 0) =
          (pixel.weight : K) := by
      intro pixel listed
      have heavy := @Rgba.weight_nonneg K _ _ _ pixel
      have raised : 0 ≤ (1.25 + pixel.weight) * transferCurve power (0.12 / 255) := by positivity
      rw [unlit pixel listed, if_pos (by linarith)]
    rw [total_congr low] at contrast
    have same : total source (fun pixel => (pixel.weight : K)) = total source Rgba.weight := rfl
    linarith

omit [IsStrictOrderedRing K] in
/-- So does one that is bright on the average as it is stored, since it is dark for neither
core. -/
theorem not_between_bright (bright : 0.32 * total source Rgba.weight <
    total source fun pixel => pixel.weight * pixel.straight power) : ¬ Between power source :=
  fun between => absurd between.dark.dull (not_le.mpr bright)
end Icons

/-! ## Over the real numbers -/

/-- `powf(2.4)`. -/
noncomputable def powf (value : ℝ) : ℝ := value ^ (2.4 : ℝ)

theorem powf_pow (value : ℝ) (nonneg : 0 ≤ value) : powf value ^ 5 = value ^ 12 := by
  unfold powf
  rw [← Real.rpow_natCast, ← Real.rpow_mul nonneg, ← Real.rpow_natCast]
  norm_num

theorem transferPower_powf : Icons.TransferPower powf where
  mono nonneg le := Real.rpow_le_rpow nonneg le (by norm_num)
  joins := by
    refine le_of_pow_le_pow_left₀ (n := 5) (by norm_num) (Real.rpow_nonneg (by norm_num) _) ?_
    rw [powf_pow _ (by norm_num)]
    norm_num
  one := Real.one_rpow _
  menu := by
    refine lt_of_pow_lt_pow_left₀ 5 (by norm_num) ?_
    rw [powf_pow _ (by norm_num)]
    norm_num

namespace Icons

/-- The cores decide alike about every icon that does not lie between them, in every mode:
on its transparency, on its darkness, and on whether it gets a background. -/
theorem decisions_agree_iff (source : RgbaImage) (mode : BackgroundMode) :
    GoIcons.darkModeDecision powf source (GoIcons.backgroundMode mode) =
        .ok (darkModeDecision powf source mode) ↔
      ¬ Between powf source :=
  agree_iff transferPower_powf mode

/-- They decide alike about a black icon, however faint its pixels, and about one whose colours
have a mean luminance above 0.32. -/
theorem plain_decisions_agree {source : RgbaImage} (mode : BackgroundMode)
    (plain : (∀ pixel ∈ source.pixels, pixel.r = 0 ∧ pixel.g = 0 ∧ pixel.b = 0) ∨
      0.32 * total source Rgba.weight < total source fun pixel => pixel.weight * pixel.straight powf) :
    GoIcons.darkModeDecision powf source (GoIcons.backgroundMode mode) =
      .ok (darkModeDecision powf source mode) := by
  refine (agree_iff transferPower_powf mode).mpr ?_
  rcases plain with black | bright
  · exact not_between_black transferPower_powf black
  · exact not_between_bright bright

/-- One faint grey pixel. -/
def faintIcon : RgbaImage := ⟨1, 1, [⟨10, 10, 10, 10⟩], rfl⟩

/-- It is dark as it is stored, and white with its colours divided by its alpha channel. -/
theorem between_faintIcon : Between powf faintIcon := by
  have laws := transferPower_powf
  have menu := (transferCurve_menu_bounds laws).2.1
  have ten : ((10 : UInt8).toNat : ℝ) = 10 := rfl
  have white : transferCurve powf 1 = 1 := by
    have full : ((1 + 0.055) / 1.055 : ℝ) = 1 := by norm_num
    unfold transferCurve
    rw [if_neg (by norm_num), full, laws.one]
  have divided : Rgba.divided powf ⟨10, 10, 10, 10⟩ = 1 := by
    have channel : min (((10 : UInt8).toNat : ℝ) / (10 : UInt8).toNat) 1 = 1 := by
      rw [ten]
      norm_num
    unfold Rgba.divided luminance
    rw [channel, white]
    norm_num
  have straight : Rgba.straight powf ⟨10, 10, 10, 10⟩ = 10 / 255 / 12.92 := by
    unfold Rgba.straight luminance transferCurve
    rw [ten, if_pos (by norm_num)]
    norm_num
  have weight : Rgba.weight ⟨10, 10, 10, 10⟩ = (10 / 255 : ℝ) := by rw [Rgba.weight, ten]
  have one : ∀ value : Rgba → ℝ, total faintIcon value = value ⟨10, 10, 10, 10⟩ := fun value => by
    simp [total, faintIcon]
  refine ⟨⟨?_, ?_, ?_, ?_⟩, .inl ?_⟩
  · rw [one, weight]
    norm_num
  · rw [one, weight]
    norm_num [faintIcon]
  · rw [one, one, weight, straight]
    norm_num
  · rw [one, one, weight, straight, if_pos (by linarith)]
    norm_num
  · rw [one, one, weight, divided]
    norm_num

/-- A single grey pixel, stored faint and read as bright: one core draws a background, the
other one none. -/
theorem faint_icon_differs : ¬ ∀ (source : RgbaImage) (mode : BackgroundMode),
    0 < source.width * source.height →
      GoIcons.darkModeDecision powf source (GoIcons.backgroundMode mode) =
        .ok (darkModeDecision powf source mode) := fun alike =>
  (agree_iff transferPower_powf .auto).mp (alike faintIcon .auto (by decide)) between_faintIcon

end Icons

end FluxBar
