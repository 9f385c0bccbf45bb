/-!
# Platforms

A model runs on a platform if a file for it is shipped, or if the architecture
of the model can be converted to it.  `platformTags` says both: which platforms
are shipped for, and with which ones the model is compatible.
-/

namespace FacetSearch.Catalogue

/-- A platform that models run on. -/
inductive Platform where
  | pytorch
  | onnx
  | ncnn
deriving DecidableEq, Repr

namespace Platform

/-- All platforms, in order. -/
def all : List Platform :=
  [pytorch, onnx, ncnn]

/-- The name of a platform. -/
def name : Platform → String
  | pytorch => "pytorch"
  | onnx => "onnx"
  | ncnn => "ncnn"

end Platform

/-- The format of a file that comes with a model. -/
inductive FileFormat where
  | pth
  | onnx
deriving DecidableEq, Repr

/-- The platform that a file is for. -/
def FileFormat.platform : FileFormat → Platform
  | pth => .pytorch
  | onnx => .onnx

/-- A file that comes with a model. -/
structure Resource where
  format : FileFormat
deriving DecidableEq, Repr

/-- The platforms that an architecture can be converted to.  Its name is matched
exactly, and one that is not known here can be converted to none. -/
def compatiblePlatforms (architecture : String) : List Platform :=
  if architecture ∈ ["ESRGAN", "Compact"] then [.pytorch, .onnx, .ncnn]
  else if architecture = "SwinIR" then [.pytorch, .onnx]
  else if architecture ∈ ["CAIN", "CAIN YUV", "SPSR", "ESRGAN+", "SOFVSR", "RIFE",
      "EDSR (SRResNet)", "2C2-ESRGAN"] then [.pytorch]
  else []

/-- The tags of the platforms that a model is shipped for and compatible with. -/
def platformTags (architecture : String) (resources : List Resource) : List String :=
  let shipped := resources.map (·.format.platform)
  shipped.map (fun platform => "platform:" ++ platform.name)
    ++ (shipped ++ compatiblePlatforms architecture).map
      fun platform => "platform:" ++ platform.name ++ "-compatible"

end FacetSearch.Catalogue
