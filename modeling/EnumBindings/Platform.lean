import EnumBindings.Path
import EnumBindings.Text.Casing

/-!
# Build targets of the native library

The library behind the bindings is built elsewhere. This is the contract of that build: which
pairs of platform and architecture there are, what the static library is called, and where it
and its headers are installed.
-/

namespace EnumBindings

open EnumBindings.Text

/-- A family of operating systems. -/
inductive Platform where
  | darwin
  | linux
  | windows
deriving Repr, DecidableEq, Inhabited

namespace Platform

/-- All platforms in build order. -/
def all : List Platform := [darwin, linux, windows]

/-- The name of a platform. -/
def name : Platform → String
  | darwin => "darwin"
  | linux => "linux"
  | windows => "windows"

/-- The architectures that are built. -/
def architectures : Platform → List String
  | darwin => ["arm64", "x86_64"]
  | linux => ["amd64"]
  | windows => ["x64"]

/-- The file name of the static library. -/
def libraryName : Platform → String
  | darwin | linux => "libyogacore.a"
  | windows => "yogacore.lib"

/-- How a platform spells the 64-bit x86 architecture. -/
def x86Name : Platform → String
  | darwin => "x86_64"
  | linux => "amd64"
  | windows => "x64"

/-- An architecture in the spelling of a platform; one that is not known is only lower-cased. -/
def normalizeArchitecture (p : Platform) (architecture : String) : String :=
  let word := lowercase architecture
  if word = "x86_64" || word = "amd64" then p.x86Name
  else if word = "aarch64" || word = "arm64" then "arm64"
  else word

end Platform

/-- Why there is no such target. -/
inductive PlatformError where
  | unsupportedPlatform (name : String)
  | unsupportedArchitecture (platform : Platform) (architecture : String)
deriving Repr, DecidableEq

namespace PlatformError

/-- One line about the error. -/
def message : PlatformError → String
  | unsupportedPlatform name => "unsupported platform `" ++ name ++ "`"
  | unsupportedArchitecture platform architecture =>
    "unsupported architecture `" ++ architecture ++ "` for platform " ++ platform.name

/-- A stable name of the error. -/
def code : PlatformError → String
  | unsupportedPlatform _ => "flexgen::platform::unsupported"
  | unsupportedArchitecture .. => "flexgen::platform::unsupported_arch"

/-- General advice. -/
def help : PlatformError → Option String
  | unsupportedPlatform _ => some "supported platforms: darwin, linux, windows"
  | unsupportedArchitecture .. => none

end PlatformError

/-- A platform by name, in any case. -/
def Platform.parse (text : String) : Except PlatformError Platform :=
  let word := lowercase text
  if word = "darwin" || word = "macos" then .ok .darwin
  else if word = "linux" then .ok .linux
  else if word = "windows" then .ok .windows
  else .error (.unsupportedPlatform text)

/-- A platform with one of its architectures. -/
structure BuildTarget where
  platform : Platform
  architecture : String
deriving Repr, DecidableEq, Inhabited

namespace BuildTarget

/-- A target, if the platform has the architecture in this very spelling. -/
def of (platform : Platform) (architecture : String) : Except PlatformError BuildTarget :=
  if platform.architectures.contains architecture then .ok ⟨platform, architecture⟩
  else .error (.unsupportedArchitecture platform architecture)

/-- Every target, in build order. -/
def all : List BuildTarget :=
  Platform.all.flatMap fun p => p.architectures.map (BuildTarget.mk p)

/-- The target that the program itself runs on. -/
def host : BuildTarget := ⟨.linux, "amd64"⟩

/-- A target as text. -/
def text (t : BuildTarget) : String := t.platform.name ++ "-" ++ t.architecture

end BuildTarget

/-- Where the build installs its artifacts. -/
structure InstallLayout where
  /-- Holds the static libraries, a directory for each platform. -/
  libraries : Path
  /-- Holds the headers. -/
  headers : Path
deriving Repr, DecidableEq, Inhabited

namespace InstallLayout

/-- The layout below a project directory. -/
def below (root : Path) : InstallLayout := ⟨root.join ⟨"_libs"⟩, root.join ⟨"include"⟩⟩

/-- The static library of a target. -/
def library (layout : InstallLayout) (target : BuildTarget) : Path :=
  ((layout.libraries.join ⟨target.platform.name⟩).join ⟨target.architecture⟩).join
    ⟨target.platform.libraryName⟩

/-- The directory of the public headers. -/
def publicHeaders (layout : InstallLayout) : Path := layout.headers.join ⟨"yoga"⟩

end InstallLayout

end EnumBindings
