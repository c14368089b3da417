import Inkwell.Glyph.Sheet.Reader
import Inkwell.Registry

/-!
# Setting up from a configuration

The chain that a configuration describes: one font each for text, emoji and
symbols, where one can be found, and then its bitmap sheets, each of which has
to be there.
-/

namespace Inkwell

/-- Read a sheet from a file. -/
def Sheet.load (files : Files) (path : String) :
    Checked (Except Error Sheet) :=
  match files.readText path with
  | .error e => pure (.error (.file path e))
  | .ok text => Sheet.read text

/-- Read a configuration from a file. -/
def Config.load (files : Files) (path : String) : Except Error Config :=
  match files.readText path with
  | .error e => .error (.file path e)
  | .ok text => Config.read text

/-- Read a face from a font file. -/
def Face.load (files : Files) (path : String) :
    Checked (Except Error Face) :=
  match files.read path with
  | .error e => pure (.error (.file path e))
  | .ok bytes => do
      match ← Face.read bytes 0 with
      | .error e => pure (.error (.fontParse e))
      | .ok face => pure (.ok face)

namespace Chain

/-- The first font that a list of families or else a generic family has. -/
def findFont (files : Files) (names : List String) (generic : Generic)
    (registry : Registry) : Checked (Option Loaded) × Registry :=
  match Registry.loadFirst files names registry with
  | (.ok none, registry) =>
      match registry.load files (.generic generic) with
      | (.error fault, registry) => (.error fault, registry)
      | (.ok (.ok loaded), registry) => (pure (some loaded), registry)
      | (.ok (.error _), registry) => (pure none, registry)
  | found => found

/-- A font for each of some roles. -/
def pushFonts (files : Files) : List (Role × List String × Generic) → Chain →
    KeySupply → Registry → Checked Chain × KeySupply
  | [], c, keys, _ => (pure c, keys)
  | (role, names, generic) :: rest, c, keys, registry =>
      match findFont files names generic registry with
      | (.error fault, _) => (.error fault, keys)
      | (.ok none, registry) => pushFonts files rest c keys registry
      | (.ok (some loaded), registry) =>
          let pushed := c.push role loaded.face.toSource keys
          pushFonts files rest pushed.1 pushed.2 registry

/-- Add the sheets in files.  The keys that were taken stay taken when a sheet
cannot be read. -/
def pushSheets (files : Files) : List String → Chain → KeySupply →
    Checked (Except Error Chain) × KeySupply
  | [], c, keys => (pure (.ok c), keys)
  | path :: rest, c, keys =>
      match Sheet.load files path with
      | .error fault => (.error fault, keys)
      | .ok (.error e) => (pure (.error e), keys)
      | .ok (.ok sheet) =>
          let pushed := c.push .overlay sheet.toSource keys
          pushSheets files rest pushed.1 pushed.2

/-- The chain that a configuration describes. -/
def ofConfig (files : Files) (config : Config) (registry : Registry)
    (keys : KeySupply) : Checked (Except Error Chain) × KeySupply :=
  let registry := { registry with threshold := config.threshold }
  let fonts := config.fonts
  match pushFonts files
      [(.base, fonts.base, .sansSerif), (.emoji, fonts.emoji, .emoji),
        (.symbol, fonts.symbol, .symbol)] empty keys registry with
  | (.error fault, keys) => (.error fault, keys)
  | (.ok c, keys) => pushSheets files fonts.bitmapTables c keys

end Chain

/-- The renderer that a configuration describes. -/
def Renderer.ofConfig (files : Files) (config : Config) (keys : KeySupply) :
    Checked (Except Error Renderer) × KeySupply :=
  let built := Chain.ofConfig files config
    (Registry.ofConfig files config.fonts) keys
  (do
    match ← built.1 with
    | .error e => pure (.error e)
    | .ok chain =>
        pure (.ok
          ((Renderer.mk chain config.rules Renderer.defaultSize).withSize
            config.size)), built.2)

end Inkwell
