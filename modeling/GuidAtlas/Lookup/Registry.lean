import GuidAtlas.Directory
import GuidAtlas.Guid.Basic
import GuidAtlas.Lookup.Database

/-!
Names looked up in a table that is part of the program. The last entry of a key counts.
-/

namespace GuidAtlas.Lookup

open Text

structure Registry where
  names : Directory Text

namespace Registry

def ofEntries (entries : List (Text × Text)) : Registry :=
  ⟨entries.foldl (fun names (guid, name) => names.insert (Guid.normalizeKey guid) name) .empty⟩

def size (registry : Registry) : Nat := registry.names.size

def isEmpty (registry : Registry) : Bool := registry.names.size = 0

def nameOf? (registry : Registry) (guid : Text) : Option Text :=
  registry.names.get? (Guid.normalizeKey guid)

def interfaceName (registry : Registry) (guid : Text) : Text :=
  (registry.nameOf? guid).getD guid

def embeddedEntries : List (Text × Text) :=
  [("DE27A01F-B561-4531-A278-FD012679EF1E",
      "ABI.Windows.Internal.Holographic.UI.IHolographicViewPropertiesFactory"),
    ("343BAA78-E34F-466C-9FFA-81AF5CE4CD34",
      "ABI.Windows.Internal.Security.SmartScreen.IAppReputationServiceFactory"),
    ("3EAD2336-B073-456F-BCAF-82587EB63487", "ABI.Windows.UI.Xaml.Hosting.IXamlIslandFactory"),
    ("00000035-0000-0000-C000-000000000046", "IActivationFactory"),
    ("94EA2B94-E9CC-49E0-C0FF-EE64CA8F5B90", "IAgileObject"),
    ("00000001-0000-0000-C000-000000000046", "IClassFactory"),
    ("00020400-0000-0000-C000-000000000046", "IDispatch"),
    ("AF86E2E0-B12D-4C6A-9C5A-D7AA65101E90", "IInspectable"),
    ("00000003-0000-0000-C000-000000000046", "IMarshal"),
    ("0000000C-0000-0000-C000-000000000046", "IStream"),
    ("00000000-0000-0000-C000-000000000046", "IUnknown"),
    ("00000037-0000-0000-C000-000000000046", "IWeakReference"),
    ("00000038-0000-0000-C000-000000000046", "IWeakReferenceSource")]

def embedded : Registry := ofEntries embeddedEntries

end Registry

/-- The name of a GUID in the database at a path, or in the embedded table if there is none. -/
def interfaceName (tree : Storage.Tree) (path : Option Storage.Path) (guid : Text) :
    Text × List Logging.Event :=
  match path with
  | some path => Database.query tree path guid
  | none => (Registry.embedded.interfaceName guid, [])

def enabledFeatures : List Text := ["lookup", "scanner"]

end GuidAtlas.Lookup
