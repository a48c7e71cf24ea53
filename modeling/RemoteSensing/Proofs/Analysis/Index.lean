import Mathlib
import RemoteSensing.Analysis
import RemoteSensing.Proofs.Session.Run

/-!
Which bands an index is made of.
-/

namespace RemoteSensing.Analysis

open List Session
open Value (strs)

variable {image result : Data} {bands : List String} {w : World}

/-- The server refuses nothing and says each time that the image has these bands. -/
structure Reports (bands : List String) (w : World) : Prop where
  refusals : w.refusals = []
  answers : w.answers = [.ok (strs bands)]

/-- An expression that the server takes. -/
structure Submitted (image : Data) : Prop where
  remote : image.kind?.isSome = true
  verified : verify [] image = .ok ()

theorem Submitted.call (h : Submitted image) (name : String) (args : List Data) (hargs : verifyAll [] args = .ok ())
    (hbodies : verifyBodies [] args = .ok ()) : Submitted (image.call name args) := by
  refine ⟨rfl, ?_⟩
  have hremote : ¬ image.kind?.isNone = true := by simpa [← Option.isSome_iff_ne_none] using h.remote
  rw [Value.call, verify, h.verified, hargs, hbodies]
  simp only [if_neg hremote]
  rfl

theorem Submitted.apply (h : Submitted image) (f : Formula) (name : String) :
    Submitted ((f.apply image).call "rename" [.str name]) := by
  refine Submitted.call ?_ _ _ rfl rfl
  cases f with
  | difference first second => exact h.call _ _ rfl rfl
  | enhanced infrared red blue =>
    have hband : ∀ b : String, verify [] (image.call "select" [.str b]) = .ok () :=
      fun b => (h.call "select" [.str b] rfl rfl).verified
    refine h.call _ _ ?_ rfl
    simp only [verifyAll, verify, verifyFields, hband]
    rfl

theorem runIn_bandNames (hw : Reports bands w) (himage : Submitted image) :
    ∃ v, (info (image.call "bandNames")).runIn w = (.ok (strs bands), v) ∧ Reports bands v := by
  have hasked := (himage.call "bandNames" [] rfl rfl).call "getInfo" [] rfl rfl
  rw [info, runIn_bind_of_ok (runIn_submit hw.refusals hasked.verified), ask, runIn_bind_of_ok (runIn_modify _ w),
    nextAnswer, runIn_bind_of_ok (runIn_get _)]
  simp only [hw.answers]
  exact ⟨_, rfl, hw.refusals, rfl⟩

theorem runIn_hasBands (hw : Reports bands w) (himage : Submitted image) (wanted : List String) :
    ∃ v, (hasBands image wanted).runIn w = (.ok (wanted.all bands.contains), v) ∧ Reports bands v := by
  induction wanted generalizing w with
  | nil => exact ⟨w, rfl, hw⟩
  | cons b r ih =>
    obtain ⟨u, hnames, hu⟩ := runIn_bandNames hw himage
    have hhas : (strs bands : Data).has b = .ok (bands.contains b) := by
      rw [strs, Value.has, any_map, Except.ok.injEq, Bool.eq_iff_iff, any_eq_true, contains_iff_mem]
      simp
    rw [hasBands, runIn_bind_of_ok hnames, hhas, runIn_liftM_ok, all_cons]
    cases bands.contains b with
    | false => exact ⟨u, rfl, hu⟩
    | true => exact ih hu

def fits (bands : List String) (r : Recipe) : Bool := r.bands.all bands.contains

theorem runIn_applicable (hw : Reports bands w) (himage : Submitted image) (recipes : List Recipe) :
    ∃ v, (applicable? image recipes).runIn w = (.ok (recipes.find? (fits bands)), v) ∧ Reports bands v := by
  induction recipes generalizing w with
  | nil => exact ⟨w, rfl, hw⟩
  | cons r rest ih =>
    obtain ⟨u, hbands, hu⟩ := runIn_hasBands hw himage r.bands
    rw [applicable?, runIn_bind_of_ok hbands, find?_cons, fits]
    cases r.bands.all bands.contains with
    | false => exact ih hu
    | true => exact ⟨u, rfl, hu⟩

/-- The formula of the first recipe that the bands are enough for. -/
def chosen (bands : List String) (name : String) : Option Formula :=
  (indices.find? fun i => name == i.name).bind fun i => (i.recipes.find? (fits bands)).map (·.formula)

def withIndex (image : Data) (formula : String → Option Formula) (result : Data) (name : String) : Data :=
  match formula name with
  | some f => result.call "addBands" [(f.apply image).call "rename" [.str name]]
  | none => result

theorem runIn_addIndex (hw : Reports bands w) (himage : Submitted image) (hresult : Submitted result) (name : String) :
    ∃ v, (addIndex image result (.str name)).runIn w = (.ok (withIndex image (chosen bands) result name), v) ∧
      Reports bands v ∧ Submitted (withIndex image (chosen bands) result name) := by
  rw [addIndex, withIndex, chosen]
  simp only [Value.isText]
  cases hindex : indices.find? fun i => name == i.name with
  | none => exact ⟨_, rfl, ⟨hw.refusals, hw.answers⟩, hresult⟩
  | some index =>
    have hname : name = index.name := by simpa using find?_some hindex
    obtain ⟨u, happlicable, hu⟩ := runIn_applicable hw himage index.recipes
    simp only [Option.bind_some]
    rw [runIn_bind_of_ok happlicable]
    rcases index.recipes.find? (fits bands) with _ | r
    · exact ⟨_, rfl, ⟨hu.refusals, hu.answers⟩, hresult⟩
    · have hband := himage.apply r.formula name
      have hsum : Submitted (result.call "addBands" [(r.formula.apply image).call "rename" [.str name]]) := by
        refine hresult.call _ _ ?_ rfl
        rw [verifyAll, hband.verified]
        rfl
      simp only [Option.map_some]
      rw [← hname, runIn_bind_of_ok (runIn_submit hu.refusals hband.verified), runIn_submit hu.refusals hsum.verified]
      exact ⟨u, rfl, hu, hsum⟩

theorem runIn_addIndices (hw : Reports bands w) (himage : Submitted image) (hresult : Submitted result)
    (names : List String) : ∃ v, ((names.map Value.str).foldlM (addIndex image) result).runIn w =
      (.ok (names.foldl (withIndex image (chosen bands)) result), v) := by
  induction names generalizing result w with
  | nil => exact ⟨w, rfl⟩
  | cons n r ih =>
    obtain ⟨u, hadd, hu, hnext⟩ := runIn_addIndex hw himage hresult n
    obtain ⟨v, hrest⟩ := ih hu hnext
    exact ⟨v, by rw [map_cons, foldlM_cons, runIn_bind_of_ok hadd, hrest, foldl_cons]⟩

def sentinelBands : List String := ["B8A", "B2", "B3", "B4", "B8", "B11"]

def sentinelFormulas : List (String × Formula) :=
  [("NDVI", .difference "B8" "B4"), ("NDWI", .difference "B3" "B8"), ("NDBI", .difference "B11" "B8"),
    ("EVI", .enhanced "B8" "B4" "B2")]

/-- With a band `B5` in the place of the near infrared, and `B6` in that of the short-wave infrared. -/
def landsatFormulas (bands : List String) : List (String × Formula) :=
  [("NDVI", .difference "B5" "B4"), ("NDWI", .difference "B3" "B5"),
    ("NDBI", if "B6" ∈ bands then .difference "B6" "B5" else .difference "B11" "B8"), ("EVI", .enhanced "B5" "B4" "B2")]

theorem chosen_eq (hbands : ∀ b ∈ sentinelBands, b ∈ bands) (n : String) :
    chosen bands n = lookup n (if "B5" ∈ bands then landsatFormulas bands else sentinelFormulas) := by
  simp only [sentinelBands, forall_mem_cons] at hbands
  obtain ⟨-, h2, h3, h4, h8, h11, -⟩ := hbands
  by_cases hname : n ∈ sentinelFormulas.map (·.1)
  · simp only [sentinelFormulas, map_cons, map_nil, mem_cons, not_mem_nil, or_false] at hname
    by_cases h5 : "B5" ∈ bands <;> by_cases h6 : "B6" ∈ bands <;> rcases hname with rfl | rfl | rfl | rfl <;>
      simp [chosen, indices, sentinelFormulas, landsatFormulas, lookup, fits, h2, h3, h4, h5, h6, h8, h11]
  · have hne : ∀ k ∈ sentinelFormulas.map (·.1), (n == k) = false := fun k hk => beq_false_of_ne fun h => hname (h ▸ hk)
    simp only [sentinelFormulas, map_cons, map_nil, forall_mem_cons] at hne
    split <;> simp [chosen, indices, sentinelFormulas, landsatFormulas, lookup, hne]

/-- **The indices of an image with the bands of Sentinel-2** are made of its bands, unless one of them is called `B5`:
then they are made of those that a Landsat image has under the same names. -/
theorem indices_of_bands (hw : Reports bands w) (himage : Submitted image) (hbands : ∀ b ∈ sentinelBands, b ∈ bands)
    (names : List String) : ((addIndicesCommand.call [image, strs names]).runIn w).1 = .ok (names.foldl (withIndex image
      (lookup · (if "B5" ∈ bands then landsatFormulas bands else sentinelFormulas))) image) := by
  obtain ⟨v, hrun⟩ := runIn_addIndices hw himage himage names
  rw [funext (chosen_eq hbands)] at hrun
  show ((orTell _ image ((names.map Value.str).foldlM (addIndex image) image)).runIn w).1 = _
  rw [runIn_orTell, hrun]

theorem indices_of_bands_without : "B5" ∉ sentinelBands ∧
    ((addIndicesCommand.call [.object .image "img", strs ["EVI", "NDBI", "SAVI"]]).runIn
      { answers := [.ok (strs sentinelBands)] }).1 = .ok (["EVI", "NDBI", "SAVI"].foldl
        (withIndex (.object .image "img") (lookup · sentinelFormulas)) (.object .image "img")) :=
  ⟨by decide, indices_of_bands ⟨rfl, rfl⟩ ⟨rfl, rfl⟩ (fun _ => id) _⟩

theorem red_edge_taken : ((addIndicesCommand.call [.object .image "img", strs ["NDVI"]]).runIn
    { answers := [.ok (strs ("B5" :: sentinelBands))] }).1 ≠ .ok (["NDVI"].foldl
      (withIndex (.object .image "img") (lookup · sentinelFormulas)) (.object .image "img")) := by
  intro h
  have hrun : ((addIndicesCommand.call [.object .image "img", strs ["NDVI"]]).runIn
    { answers := [.ok (strs ("B5" :: sentinelBands))] }).1 = .ok (["NDVI"].foldl
      (withIndex (.object .image "img") (lookup · (landsatFormulas []))) (.object .image "img")) := rfl
  rw [hrun] at h
  simp [withIndex, lookup, landsatFormulas, sentinelFormulas, Formula.apply, Value.call, strs] at h

end RemoteSensing.Analysis
