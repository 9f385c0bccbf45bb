import FacetSearch.Index.Entry

/-!
# A sample corpus

Six upscaling models with tags for scale, author, color and use, and with texts
weighted as in a catalogue.  It serves to try out searches.
-/

namespace FacetSearch.Catalogue

/-- An entry of the sample, with its texts in the order id and name, author,
description. -/
def sampleEntry {R : Type} [Scalar R] (id : String) (tags : List String)
    (name author description : String) : Entry String String R :=
  ⟨id, .ofList tags,
    [.ofText (id ++ "\n" ++ name) (8 : Nat), .ofText author (4 : Nat),
      .ofText description (1 : Nat)]⟩

/-- The sample corpus. -/
def sample {R : Type} [Scalar R] : List (Entry String String R) :=
  [sampleEntry "4x-animesharp"
      ["scale:4", "by:kim2091", "color:3", "anime", "general-upscaler"]
      "4x-AnimeSharp" "Kim2091" "Interpolation between 4x-UltraSharp and 4x-TextSharp-v0.5",
   sampleEntry "4x-ultrasharp"
      ["scale:4", "by:kim2091", "color:3", "photo", "general-upscaler"]
      "4x-UltraSharp" "Kim2091" "The best realistic upscaler for photos",
   sampleEntry "2x-anifilm-compact"
      ["scale:2", "by:kim2091", "color:3", "anime", "compression-removal"]
      "2x-AniFilm-Compact" "Kim2091" "Restores old anime film scans",
   sampleEntry "1x-mangajpeglq"
      ["scale:1", "by:joey", "color:1", "manga", "jpeg", "compression-removal"]
      "1x-MangaJPEGLQ" "Joey" "Removes heavy jpeg artifacts from grayscale manga",
   sampleEntry "1x-baldrickvhsfixv0-2"
      ["scale:1", "by:baldrick", "color:3", "video", "restoration"]
      "1x-BaldrickVHSFixV0-2" "Baldrick" "Cleans up VHS tape captures",
   sampleEntry "2x-dejpg-colorize"
      ["scale:2", "by:joey", "by:kim2091", "color:1-3", "colorize", "jpeg"]
      "2x-DeJPG-Colorize" "Joey, Kim2091" "Colorizes and de-jpegs grayscale images at 2x"]

end FacetSearch.Catalogue
