import AsterTeam.Library.FileTree
import AsterTeam.LicenseProtocol.Verifier

/-! The release manifest: its claims and their checks, the signature, and the verification of
a directory tree against the files that a manifest lists.
-/

namespace AsterTeam.ReleaseCore

open Json LicenseCore

def releaseSchema : String := "aster.release-manifest.v1"

def releaseManifestFile : String := "RELEASE.json"

structure ReleaseFile where
  path : String
  size : UInt64
  sha256 : String
  executable : Bool
  deriving DecidableEq

structure ReleaseClaims where
  (schema keyId product version platform architecture runtime createdAt : String)
  files : List ReleaseFile
  deriving DecidableEq

structure ReleaseDocument where
  claims : ReleaseClaims
  signature : String
  deriving DecidableEq

inductive ReleaseError
  | invalidJson
  | trailingJson
  | invalidManifest
  | invalidPath (path : String)
  | signatureEncoding
  | invalidSignature
  | untrustedKey (keyId : String)
  | treeMismatch (path : String)
  | io
  | canonicalSerialization
  deriving DecidableEq

/-- The systems that the crate distinguishes when it is compiled. -/
inductive Platform
  | unix
  | windows
  deriving DecidableEq

-- Paths

inductive Component
  | drive
  | curDir
  | parentDir
  | normal (name : String)
  deriving DecidableEq

def isControl (char : Char) : Bool :=
  char.val ≤ 0x1f || (0x7f ≤ char.val && char.val ≤ 0x9f)

def segments (value : List Char) : List (List Char) := value.splitOn '/'

/-- A segment of a path as the standard library reads it: a dot is nothing. -/
def component (segment : List Char) : List Component :=
  if segment = [] ∨ segment = ['.'] then []
  else if segment = ['.', '.'] then [.parentDir]
  else [.normal (String.ofList segment)]

/-- Only a dot at the beginning is a component of its own. -/
def segmentComponents : List (List Char) → List Component
  | [] => []
  | first :: rest =>
    (if first = ['.'] then [.curDir] else component first) ++ rest.flatMap component

/-- The components of a relative path without backslashes. -/
def components (platform : Platform) (value : List Char) : List Component :=
  match platform, value with
  | .windows, letter :: ':' :: rest =>
    if letter.isAlpha then .drive :: segmentComponents (segments rest)
    else segmentComponents (segments value)
  | _, _ => segmentComponents (segments value)

def Component.isNormal : Component → Bool
  | .normal _ => true
  | _ => false

def validRelativePath (platform : Platform) (value : String) : Bool :=
  !value.isEmpty
    && value.utf8ByteSize ≤ 512
    && value.toList.head? ≠ some '/'
    && value.toList.getLast? ≠ some '/'
    && (segments value.toList).all (fun segment => segment ≠ [])
    && !value.toList.contains '\\'
    && !value.toList.any isControl
    && (components platform value.toList).all Component.isNormal

def validateRelativePath (platform : Platform) (value : String) : Except ReleaseError Unit :=
  check (validRelativePath platform value) (.invalidPath value)

-- Claims

def validateIdentifier (value : String) : Bool :=
  3 ≤ value.utf8ByteSize && value.utf8ByteSize ≤ 128
    && value.toList.all fun char => char.isAlphanum || ['_', '-', '.', ':'].contains char

def validExactTime (crates : Crates) (value : String) : Bool :=
  value.utf8ByteSize == 24 && value.toUTF8.data[19]? == some '.'.toUInt8
    && value.toList.getLast? == some 'Z'
    && (crates.parseRfc3339 value).any (·.utc)

def isLowercaseHex (char : Char) : Bool :=
  char.isDigit || ('a' ≤ char && char ≤ 'f')

def validateFiles (platform : Platform) : Option String → List ReleaseFile
    → Except ReleaseError Unit
  | _, [] => .ok ()
  | previous, file :: rest => do
      validateRelativePath platform file.path
      check (!(file.path == releaseManifestFile
        || file.sha256.utf8ByteSize != 64
        || !file.sha256.toList.all isLowercaseHex
        || previous.any (fun path => decide (file.path ≤ path)))) .invalidManifest
      validateFiles platform (some file.path) rest

def validateClaims (platform : Platform) (crates : Crates) (claims : ReleaseClaims)
    : Except ReleaseError Unit := do
  check (claims.schema == releaseSchema
    && claims.product == "aster-team"
    && ["linux", "windows", "macos"].contains claims.platform
    && ["amd64", "arm64"].contains claims.architecture
    && [("linux", "musl-static"), ("windows", "msvc"), ("macos", "native")].contains
      (claims.platform, claims.runtime)
    && crates.parsesVersion claims.version
    && validateIdentifier claims.keyId
    && validExactTime crates claims.createdAt
    && !claims.files.isEmpty
    && claims.files.length ≤ 10000) .invalidManifest
  validateFiles platform none claims.files

def ReleaseFile.toValue (file : ReleaseFile) : Value :=
  .object [("path", .string file.path), ("size", .number file.size.toNat),
    ("sha256", .string file.sha256), ("executable", .bool file.executable)]

def ReleaseClaims.toValue (claims : ReleaseClaims) : Value :=
  .object [("schema", .string claims.schema), ("key_id", .string claims.keyId),
    ("product", .string claims.product), ("version", .string claims.version),
    ("platform", .string claims.platform), ("architecture", .string claims.architecture),
    ("runtime", .string claims.runtime), ("created_at", .string claims.createdAt),
    ("files", .array (claims.files.map ReleaseFile.toValue))]

def canonicalClaims (claims : ReleaseClaims) : Except ReleaseError String :=
  (canonicalize claims.toValue).mapError fun _ => .canonicalSerialization

-- The signature

/-- The other crates: JSON, base64, Ed25519 and SHA-256. -/
structure ReleaseCrates (Key : Type) extends Crates where
  decodeExact : List UInt8 → Except ReleaseError ReleaseDocument
  decodeBase64 : String → Option (List UInt8)
  verifySignature : Key → String → List UInt8 → Bool
  sha256 : List UInt8 → List UInt8

variable {Key : Type}

def verify (platform : Platform) (crates : ReleaseCrates Key) (data : List UInt8)
    (trustedKeys : List (String × Key))
    : Except ReleaseError ReleaseDocument := do
  let document ← crates.decodeExact data
  validateClaims platform crates.toCrates document.claims
  match crates.decodeBase64 document.signature with
  | none => .error .signatureEncoding
  | some signature => do
      check (signature.length == 64) .signatureEncoding
      match trustedKeys.lookup document.claims.keyId with
      | none => .error (.untrustedKey document.claims.keyId)
      | some key => do
          let payload ← canonicalClaims document.claims
          check (crates.verifySignature key payload signature) .invalidSignature
          return document

def Signed (crates : ReleaseCrates Key) (trustedKeys : List (String × Key))
    (document : ReleaseDocument)
    : Prop :=
  ∃ key payload signature, trustedKeys.lookup document.claims.keyId = some key
    ∧ canonicalClaims document.claims = .ok payload
    ∧ crates.decodeBase64 document.signature = some signature
    ∧ crates.verifySignature key payload signature = true

-- The tree

/-- A file name of the system. Not every one is Unicode. -/
inductive OsName
  | unicode (text : String)
  | other (bytes : List UInt8)
  deriving DecidableEq

def OsName.toStr : OsName → Option String
  | .unicode text => some text
  | .other _ => none

structure RegularFile where
  content : List UInt8
  mode : UInt32
  deriving DecidableEq

abbrev Tree := FileTree.Node OsName RegularFile

def Platform.separator : Platform → Char
  | .unix => '/'
  | .windows => '\\'

/-- The path below the root as text, if it is Unicode, with slashes for backslashes. -/
def relativePath (platform : Platform) (path : List OsName) : Option String := do
  let names ← path.mapM OsName.toStr
  let text := [platform.separator].intercalate (names.map String.toList)
  return String.ofList (text.map fun char => if char = '\\' then '/' else char)

mutual
/-- The files below a directory, in the order of its entries. -/
def collectReleaseFiles (platform : Platform) (directory : List OsName)
    : List (OsName × Tree) → Except ReleaseError (List String)
  | [] => .ok []
  | (name, node) :: rest => do
      let found ← collectEntry platform (directory ++ [name]) node
      let others ← collectReleaseFiles platform directory rest
      return found ++ others

def collectEntry (platform : Platform) (path : List OsName)
    : Tree → Except ReleaseError (List String)
  | .file _ =>
    match relativePath platform path with
    | none => .error .io
    | some relative =>
      if relative = releaseManifestFile then .ok []
      else do
        validateRelativePath platform relative
        return [relative]
  | .directory entries =>
    match relativePath platform path with
    | none => .error .io
    | some _ => collectReleaseFiles platform path entries
  | .symlink =>
    match relativePath platform path with
    | none => .error .io
    | some relative => .error (.treeMismatch relative)
  | .special =>
    match relativePath platform path with
    | none => .error .io
    | some relative => .error (.treeMismatch relative)
end

def lowercaseHex (value : List UInt8) : String :=
  String.ofList (value.flatMap fun byte =>
    [Nat.digitChar (byte.toNat / 16), Nat.digitChar (byte.toNat % 16)])

def location (platform : Platform) (path : String) : List OsName :=
  (components platform path.toList).filterMap fun
    | .normal name => some (.unicode name)
    | _ => none

def RegularFile.executable (file : RegularFile) : Bool := file.mode &&& 0o111 != 0

variable (platform : Platform) (crates : ReleaseCrates Key) (root : Tree)
  (release : ReleaseDocument)

/-- Only Unix has a mode to compare. -/
def sameExecutable (expected : ReleaseFile) (file : RegularFile) : Bool :=
  platform == .windows || file.executable == expected.executable

def verifyReleaseFile (expected : ReleaseFile) : Except ReleaseError Unit := do
  validateRelativePath platform expected.path
  match root.find (location platform expected.path) with
  | none => .error .io
  | some (.file file) => do
      check (file.content.length == expected.size.toNat) (.treeMismatch expected.path)
      check (sameExecutable platform expected file) (.treeMismatch expected.path)
      check (lowercaseHex (crates.sha256 file.content) == expected.sha256)
        (.treeMismatch expected.path)
  | some _ => .error (.treeMismatch expected.path)

def forEach {Item : Type} (action : Item → Except ReleaseError Unit)
    : List Item → Except ReleaseError Unit
  | [] => .ok ()
  | item :: rest => do
      action item
      forEach action rest

/-- The smallest path that only one of the two sides has. -/
def difference (actual expected : List String) : String :=
  ((actual.filter (· ∉ expected) ++ expected.filter (· ∉ actual)).min?).getD "."

def verifyReleaseFiles (requiredPaths : List String) : Except ReleaseError Unit :=
  match root with
  | .directory entries => do
      let expected := requiredPaths.insertionSort (· ≤ ·)
      check (!expected.isEmpty) .invalidManifest
      forEach (fun path => do
        validateRelativePath platform path
        check (release.claims.files.any fun file => file.path == path) (.treeMismatch path))
        expected
      let actual ← collectReleaseFiles platform [] entries
      check (actual.all (expected.contains ·) && expected.all (actual.contains ·))
        (.treeMismatch (difference actual expected))
      forEach (verifyReleaseFile platform crates root)
        (release.claims.files.filter fun file => expected.contains file.path)
  | _ => .error (.treeMismatch ".")

def verifyReleaseTree : Except ReleaseError Unit :=
  verifyReleaseFiles platform crates root release (release.claims.files.map (·.path))

def verifyReleaseSubset (requiredPaths : List String) : Except ReleaseError Unit :=
  verifyReleaseFiles platform crates root release requiredPaths

end AsterTeam.ReleaseCore
