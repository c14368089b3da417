import Inkwell.Config
import Inkwell.Files
import Inkwell.Font.Face

/-!
# Font registries

A registry knows the faces of fonts from memory and from directories and finds
them by family.  What was looked up is remembered, also when nothing was found:
a face that was handed out once is handed out again, and a family that was not
there stays missing.  Faces from files are read when they are looked up.
-/

namespace Inkwell

/-- The slant of a face. -/
inductive Slant where
  | upright
  | oblique
  | italic
  deriving DecidableEq

/-- Where the bytes of a face are. -/
inductive FaceOrigin where
  | memory (bytes : ByteArray)
  | file (path : String)

/-- A face that a registry knows. -/
structure KnownFace where
  /-- The families it is found under, the one to list in front. -/
  families : List String
  slant : Slant
  weight : Nat
  /-- The width class, 5 for normal. -/
  width : Nat
  origin : FaceOrigin
  index : Nat

/-- A face that was handed out. -/
structure Loaded where
  /-- How many faces were handed out before it. -/
  number : Nat
  face : Face

/-- A family to be found: one with a name, or what the database takes for a generic
one. -/
inductive FamilyQuery where
  | named (name : String)
  | sansSerif
  | serif
  | monospace

/-- A database of fonts.  What it finds depends on the faces that it knows and on nothing
else, and the data of a face that it found stays as it is. -/
structure FontDatabase (Faces : Type) where
  /-- What it finds a face by. -/
  Id : Type
  /-- The best of some faces for a family. -/
  query : Faces → FamilyQuery → Option Id
  /-- Read a face that was found. -/
  read : Id → Checked (Except Error Face)

/-- Some face that the database finds belongs to the family. -/
def FontDatabase.has {Faces : Type} (db : FontDatabase Faces) (faces : Faces)
    (family : String) : Bool :=
  (db.query faces (.named family)).isSome

/-- Faces to be found by family. -/
structure Registry (Faces : Type := List KnownFace) where
  faces : Faces
  /-- What was looked up under each name: nothing, if it was not found. -/
  memo : List (String × Option Loaded)
  /-- The threshold of faces that are loaded from now on. -/
  threshold : UInt8
  /-- How many faces were handed out. -/
  count : Nat

/-- The width class that a font gives; an unknown one is normal. -/
def widthClass (width : Nat) : Nat :=
  if 1 ≤ width ∧ width ≤ 9 then width else 5

/-- The style of a face: slant, weight and width class.  A face whose angle is
not zero, or cannot be read, leans. -/
def styleOf (directory : Font.Directory) : Slant × Nat × Nat :=
  let leaning := match directory.table? "post" with
    | some table => Font.u32? table 4 != some 0
    | none => false
  match (directory.table? "OS/2").bind Font.os2? with
  | none => (if leaning then .italic else .upright, 400, 5)
  | some os2 =>
      let slant :=
        if os2.italic then Slant.italic
        else if os2.oblique then .oblique
        else if leaning then .italic
        else .upright
      (slant, os2.weight, widthClass os2.width)

/-- A face of a font as a registry knows it.  A face without a family or a
print name is not known. -/
def KnownFace.ofBytes? (origin : FaceOrigin) (bytes : ByteArray)
    (index : Nat) : Option KnownFace :=
  match Font.Directory.read bytes index with
  | .error _ => none
  | .ok directory => do
      let table ← directory.table? "name"
      let names ← Font.nameRecords? table
      let families := Font.familiesOf names
      if families.isEmpty || !Font.hasPostScriptName names then none
      let style := styleOf directory
      pure ⟨families, style.1, style.2.1, style.2.2, origin, index⟩

namespace Registry

/-- A registry that knows no fonts. -/
def empty : Registry := ⟨[], [], Config.defaultThreshold, 0⟩

/-- The faces of a font file, as a registry knows them. -/
def facesIn (origin : FaceOrigin) (bytes : ByteArray) : List KnownFace :=
  (List.range (min (Font.faceCount bytes) (bytes.size + 1))).filterMap
    (KnownFace.ofBytes? origin bytes)

/-- Add faces. -/
def add (r : Registry) (more : List KnownFace) : Registry :=
  { r with faces := r.faces ++ more }

/-- Add the faces of a font in memory. -/
def addBytes (r : Registry) (bytes : ByteArray) : Registry :=
  r.add (facesIn (.memory bytes) bytes)

/-- The endings of the names of font files. -/
def fontEndings : List String :=
  ["ttf", "ttc", "TTF", "TTC", "otf", "otc", "OTF", "OTC"]

/-- The file name is one of a font. -/
def isFontName (name : String) : Bool :=
  match (name.splitOn ".").reverse with
  | ending :: stem :: more =>
      fontEndings.contains ending && (!more.isEmpty || stem != "")
  | _ => false

/-- The faces of the fonts in a directory and the directories below it. -/
def facesBelow (files : Files) (path : String) : List KnownFace :=
  let fonts := (files.below path).filter fun f =>
    isFontName ((f.1.splitOn "/").getLastD "")
  fonts.flatMap fun f => facesIn (.file f.1) f.2

/-- Add the fonts in a directory and the directories below it. -/
def addDirectory (r : Registry) (files : Files) (path : String) : Registry :=
  r.add (facesBelow files path)

/-- A registry of the fonts that a configuration names. -/
def ofConfig (files : Files) (config : FontsConfig) : Registry :=
  config.fontDirs.foldl (fun r path => r.addDirectory files path) empty

/-- Of faces, those of the width class nearest to normal: normal itself, else
the widest narrow one, else the narrowest wide one. -/
def bestWidth (faces : List KnownFace) : List KnownFace :=
  let widths := faces.map (·.width)
  let narrow := widths.filter (· ≤ 5)
  let best :=
    if narrow.isEmpty then widths.min?.getD 5 else narrow.max?.getD 5
  faces.filter (·.width == best)

/-- Of faces, those of the best slant: upright, else oblique, else italic. -/
def bestSlant (faces : List KnownFace) : List KnownFace :=
  let best :=
    if faces.any (·.slant == .upright) then Slant.upright
    else if faces.any (·.slant == .oblique) then .oblique
    else .italic
  faces.filter (·.slant == best)

/-- Of faces, those of the weight nearest to normal: 400, else 500, else the
boldest lighter one, else the lightest bolder one. -/
def bestWeight (faces : List KnownFace) : List KnownFace :=
  let weights := faces.map (·.weight)
  let light := weights.filter (· ≤ 400)
  let best :=
    if weights.contains 400 then 400
    else if weights.contains 500 then 500
    else if light.isEmpty then weights.min?.getD 400
    else light.max?.getD 400
  faces.filter (·.weight == best)

/-- The best face of a family; of equal ones, the first that was added. -/
def find? (faces : List KnownFace) (family : String) : Option KnownFace :=
  (bestWeight (bestSlant (bestWidth
    (faces.filter (·.families.contains family))))).head?

/-- Some face belongs to the family. -/
def hasFont (r : Registry) (family : String) : Bool := (find? r.faces family).isSome

/-- The listed families in order, each once. -/
def families (r : Registry) : List String :=
  let names := r.faces.filterMap (·.families.head?)
  (names.mergeSort fun a b => a ≤ b).eraseReps

/-- The families that are tried for a generic one. -/
def fallbackFamilies : Generic → List String
  | .sansSerif =>
      ["DejaVu Sans", "Noto Sans", "Liberation Sans", "Helvetica", "Arial",
        "Segoe UI"]
  | .serif =>
      ["DejaVu Serif", "Noto Serif", "Liberation Serif", "Times New Roman",
        "Times"]
  | .monospace =>
      ["DejaVu Sans Mono", "Noto Sans Mono", "Liberation Mono", "Menlo",
        "Consolas", "Courier New"]
  | .emoji =>
      ["Noto Color Emoji", "Apple Color Emoji", "Segoe UI Emoji",
        "Twemoji Mozilla", "EmojiOne Color"]
  | .symbol =>
      ["Noto Sans Symbols 2", "Noto Sans Symbols", "Segoe UI Symbol",
        "Apple Symbols", "DejaVu Sans"]

/-- The database's own family for a generic one, which is tried first. -/
def systemQuery? : Generic → Option FamilyQuery
  | .sansSerif => some .sansSerif
  | .serif => some .serif
  | .monospace => some .monospace
  | .emoji => none
  | .symbol => none

/-- What is looked for: a family, or the families of a generic one. -/
def candidates : LoadTarget → List FamilyQuery
  | .family name => [.named name]
  | .generic kind =>
      (systemQuery? kind).toList ++ (fallbackFamilies kind).map .named

/-- The name under which a look-up is remembered. -/
def memoKey : LoadTarget → String
  | .family name => name
  | .generic kind => "__generic_" ++ kind.name

/-- The bytes of a face, read from its file if it has one. -/
def bytesOf (files : Files) : FaceOrigin → Except Error ByteArray
  | .memory bytes => .ok bytes
  | .file path =>
      match files.read path with
      | .ok bytes => .ok bytes
      | .error e => .error (.file path e)

/-- Read a face that the registry knows. -/
def readFace (files : Files) (known : KnownFace) :
    Checked (Except Error Face) :=
  match bytesOf files known.origin with
  | .error e => pure (.error e)
  | .ok bytes => do
      match ← Face.read bytes known.index with
      | .ok face => pure (.ok face)
      | .error e => pure (.error (.fontParse e))

/-- The family that a query asks for. -/
def familyOf : FamilyQuery → String
  | .named name => name
  | .sansSerif => "Arial"
  | .serif => "Times New Roman"
  | .monospace => "Courier New"

/-- The database of the faces that were added from memory and from the files. -/
def fonts (files : Files) : FontDatabase (List KnownFace) where
  Id := KnownFace
  query faces family := find? faces (familyOf family)
  read := readFace files

instance : Coe Files (FontDatabase (List KnownFace)) := ⟨fonts⟩

theorem hasFont_eq_has (r : Registry) (files : Files) (family : String) :
    r.hasFont family = (fonts files).has r.faces family :=
  rfl

section Lookups

variable {Faces : Type}

/-- Look a face up without remembering anything. -/
def search (r : Registry Faces) (db : FontDatabase Faces) (target : LoadTarget) :
    Checked (Except Error Face) :=
  match (candidates target).findSome? (db.query r.faces) with
  | none => pure (.error (.fontLoad target false))
  | some id => db.read id

/-- Look a face up, or recall what an earlier look-up found.  A look-up that is
abandoned is not remembered. -/
def load (r : Registry Faces) (db : FontDatabase Faces) (target : LoadTarget) :
    Checked (Except Error Loaded) × Registry Faces :=
  match r.memo.lookup (memoKey target) with
  | some (some loaded) => (pure (.ok loaded), r)
  | some none => (pure (.error (.fontLoad target true)), r)
  | none =>
      match r.search db target with
      | .error fault => (.error fault, r)
      | .ok (.ok face) =>
          let loaded : Loaded := ⟨r.count, face.withThreshold r.threshold⟩
          (pure (.ok loaded),
            { r with
              memo := (memoKey target, some loaded) :: r.memo
              count := r.count + 1 })
      | .ok (.error e) =>
          (pure (.error e),
            { r with memo := (memoKey target, none) :: r.memo })

/-- The first family of a list that can be loaded. -/
def loadFirst (db : FontDatabase Faces) :
    List String → Registry Faces → Checked (Option Loaded) × Registry Faces
  | [], r => (pure none, r)
  | name :: rest, r =>
      match r.load db (.family name) with
      | (.error fault, r) => (.error fault, r)
      | (.ok (.ok loaded), r) => (pure (some loaded), r)
      | (.ok (.error _), r) => loadFirst db rest r

end Lookups

end Registry

end Inkwell
