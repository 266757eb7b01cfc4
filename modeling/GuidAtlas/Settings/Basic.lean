import GuidAtlas.Export.Format
import GuidAtlas.Storage.Path

/-!
The settings of the program and their defaults.
-/

namespace GuidAtlas

open Text Storage

structure ScanSettings where
  sdkPath : Path
  sdkBuild : Nat
  onlyWinrt : Bool
  /-- Subfolders of the kit, their parts separated by slashes. -/
  subfolders : List Text
  deriving DecidableEq, Repr

structure ExportSettings where
  outputDir : Path
  formats : List ExportFormat
  deriving DecidableEq, Repr

structure LoggingSettings where
  level : Text
  /-- The directory of the log files; without one only the console is written to. -/
  path : Option Path
  json : Bool
  deriving DecidableEq, Repr

structure Settings where
  scan : ScanSettings
  output : ExportSettings
  logging : LoggingSettings
  deriving DecidableEq, Repr

namespace ScanSettings

def defaultSdkPath (build : Nat) : Path :=
  "C:\\Program Files (x86)\\Windows Kits\\10\\Include\\10.0." ++ decimal build ++ ".0"

def defaultBuild : Nat := 22000

def defaultSubfolders : List Text :=
  ["winrt", "cppwinrt/winrt", "cppwinrt/winrt/impl", "um", "shared"]

def standard : ScanSettings :=
  ⟨defaultSdkPath defaultBuild, defaultBuild, false, defaultSubfolders⟩

def isWinrtFolder (subfolder : Text) : Bool := contains subfolder "winrt"

def effectiveSubfolders (settings : ScanSettings) : List Text :=
  settings.subfolders.filter fun subfolder => !settings.onlyWinrt || isWinrtFolder subfolder

end ScanSettings

def ExportSettings.standard : ExportSettings := ⟨".", ExportFormat.all⟩

def LoggingSettings.standard : LoggingSettings := ⟨"info", none, false⟩

def Settings.standard : Settings :=
  ⟨ScanSettings.standard, ExportSettings.standard, LoggingSettings.standard⟩

end GuidAtlas
