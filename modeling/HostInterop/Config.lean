/-!
# Configuration

What a session is configured with: the package that receives registrations naming no package,
the package the foreign operations are installed in, and whether their symbols are exported.
The names are kept as written; packages upper-case them.
-/

namespace HostInterop

/-- The configuration of a session. -/
structure Config where
  /-- The package for registrations that name no package. -/
  defaultPackage : String := "CL-USER"
  /-- The package the foreign operations are installed in. -/
  foreignPackage : String := "FOREIGN"
  /-- Whether the foreign operations' symbols are exported. -/
  exportForeign : Bool := true

end HostInterop
