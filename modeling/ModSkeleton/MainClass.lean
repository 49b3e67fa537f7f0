import ModSkeleton.ModId
import ModSkeleton.Text.Quoted

namespace ModSkeleton

/-!
# Main classes

A main class is a dotted name of at least two segments: the package and the
class. Every segment is a Java identifier in ASCII and no reserved word; one
final line feed is admitted behind each segment.

The package decides the Gradle coordinates: its last segment is the base name of
the archive and the rest the group. A package of one segment is its own group,
and the mod id names the archive.
-/

namespace MainClass

/-- Words that Java keeps for itself. -/
def reservedWords : List Text :=
  ["abstract", "assert", "boolean", "break", "byte", "case", "catch", "char",
   "class", "const", "continue", "default", "do", "double", "else", "enum",
   "extends", "false", "final", "finally", "float", "for", "goto", "if",
   "implements", "import", "instanceof", "int", "interface", "long", "native",
   "new", "null", "package", "private", "protected", "public", "return",
   "short", "static", "strictfp", "super", "switch", "synchronized", "this",
   "throw", "throws", "transient", "true", "try", "void", "volatile", "while",
   "_"].map String.toList

/-- The class that a project has unless another is asked for. -/
def default : Text :=
  "net.fabricmc.example.ExampleMod".toList

/-- Characters an identifier may start with. -/
def isIdentifierStart
    (c : Char) :
    Bool :=
  ('a' ≤ c && c ≤ 'z') || ('A' ≤ c && c ≤ 'Z') || c = '_' || c = '$'

/-- Characters an identifier may go on with. -/
def isIdentifierPart
    (c : Char) :
    Bool :=
  isIdentifierStart c || ('0' ≤ c && c ≤ '9')

/-- The shape of an identifier without a final line feed. -/
def hasIdentifierShape : Text → Bool
  | [] => false
  | first :: following => isIdentifierStart first && following.all isIdentifierPart

/-- Whether a segment is an identifier, one final line feed admitted. -/
def isIdentifier
    (segment : Text) :
    Bool :=
  hasIdentifierShape (Text.dropFinalNewline segment)

/-- Why a text is refused as a main class. -/
inductive Fault where
  | noPackage
  | notIdentifier (segment : Text)
  | reserved (segment : Text)
  deriving Repr, DecidableEq

/-- The wording of a fault. -/
def Fault.message : Fault → Text
  | .noPackage => "must include a package, e.g. com.example.MyMod".toList
  | .notIdentifier segment => Text.quoted segment ++ " is not a valid Java identifier".toList
  | .reserved segment => Text.quoted segment ++ " is a reserved Java keyword".toList

/-- The segments between the dots. -/
def segments
    (mainClass : Text) :
    List Text :=
  Text.splitOn '.' mainClass

/-- The fault of one segment, if it has any. -/
def segmentFault?
    (segment : Text) :
    Option Fault :=
  if !isIdentifier segment then some (.notIdentifier segment)
  else if reservedWords.contains segment then some (.reserved segment)
  else none

/-- The first fault of a main class, if it has any. -/
def fault?
    (mainClass : Text) :
    Option Fault :=
  let parts := segments mainClass
  if parts.length < 2 then some .noPackage else parts.findSome? segmentFault?

/-- The package: everything before the last dot. -/
def package
    (mainClass : Text) :
    Text :=
  Text.beforeLast '.' mainClass

/-- The class name: everything after the last dot. -/
def className
    (mainClass : Text) :
    Text :=
  Text.afterLast '.' mainClass

/-- The package as a relative directory. -/
def packagePath
    (mainClass : Text) :
    Text :=
  Text.replaceChar '.' ['/'] (package mainClass)

/-- The Maven group: the package without its last segment, or a lone segment. -/
def mavenGroup
    (mainClass : Text) :
    Text :=
  let parent := Text.beforeLast '.' (package mainClass)
  if parent.isEmpty then package mainClass else parent

/-- The last segment of a package that has several. -/
def lastPackageSegment?
    (mainClass : Text) :
    Option Text :=
  if (Text.beforeLast '.' (package mainClass)).isEmpty then none
  else some (Text.afterLast '.' (package mainClass))

/-- The base name of the archive: the last of several package segments, or the mod id. -/
def archivesBaseName
    (modId : Text)
    (mainClass : Text) :
    Text :=
  (lastPackageSegment? mainClass).getD modId

/-- The default main class has no fault. -/
example : fault? default = none := by decide

end MainClass

end ModSkeleton
