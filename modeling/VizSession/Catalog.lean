import VizSession.Properties

/-!
# The built-in catalog

The definitions every engine starts with.
-/

namespace VizSession

namespace PropertySpec

/-- A property that refers to an object and starts out unset. -/
def reference (name : String) : PropertySpec := ⟨name, .proxy, .unset⟩

/-- A property that holds a float. -/
def float (name : String) (x : Float) : PropertySpec := ⟨name, .float, .float x⟩

/-- A property that holds an integer. -/
def int (name : String) (n : Int64) : PropertySpec := ⟨name, .int, .int n⟩

/-- A property that holds a vector as long as its default. -/
def vec (name : String) (xs : List Float) : PropertySpec :=
  ⟨name, .vec (.ofNat xs.length), .vec xs⟩

end PropertySpec

/-- The built-in definitions. -/
def builtinCatalog : List Definition :=
  [ ⟨.sources, "SphereSource", "Sphere",
      [.float "Radius" 0.5, .vec "Center" [0.0, 0.0, 0.0], .int "ThetaResolution" 8,
        .int "PhiResolution" 8]⟩,
    ⟨.sources, "ConeSource", "Cone",
      [.float "Height" 1.0, .float "Radius" 0.5, .int "Resolution" 6]⟩,
    ⟨.sources, "RTAnalyticSource", "Wavelet", [.float "Maximum" 255.0]⟩,
    ⟨.sources, "ShrinkFilter", "Shrink", [.reference "Input", .float "ShrinkFactor" 0.5]⟩,
    ⟨.sources, "ClipClosedSurface", "Clip Closed Surface",
      [.reference "Input", .vec "Normal" [1.0, 0.0, 0.0]]⟩,
    ⟨.sources, "ArbitrarySourceGlyph", "3D Glyphs", [.reference "Input"]⟩,
    ⟨.views, "RenderView", "Render View",
      [.vec "ViewSize" [400.0, 400.0], .vec "Background" [0.32, 0.34, 0.43]]⟩,
    ⟨.views, "XYChartView", "Line Chart View", [⟨"ChartTitle", .text, .text ""⟩]⟩,
    ⟨.cameras, "Camera", "Camera",
      [.vec "Position" [0.0, 0.0, 1.0], .vec "FocalPoint" [0.0, 0.0, 0.0],
        .vec "ViewUp" [0.0, 1.0, 0.0]]⟩,
    ⟨.representations, "GeometryRepresentation", "Representation",
      [.reference "Input", ⟨"Visibility", .bool, .bool true⟩,
        ⟨"Representation", .choice ["Surface", "Wireframe", "Points"], .text "Surface"⟩]⟩,
    ⟨.lookupTables, "PVLookupTable", "Lookup Table",
      [.vec "RGBPoints" [0.0, 0.23, 0.30, 0.75, 1.0, 0.71, 0.02, 0.15]]⟩,
    ⟨.layouts, "ViewLayout", "Layout", []⟩ ]

end VizSession
