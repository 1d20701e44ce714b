import ApiAtlas.Path.Basic
import ApiAtlas.Text.Quoted

/-!
# Paths that cannot be used

A path can lead to something of the wrong form, or be longer than a file system allows. No file has
a null character in its name.
-/

set_option autoImplicit false

namespace ApiAtlas

/-- Why the file system refuses a path. -/
inductive FileProblem where
  | taken (path : FilePath)
  | notFolder (path : FilePath)
  | isFolder (path : FilePath)
  | tooLong (path : FilePath)
  deriving DecidableEq, Repr, Inhabited

/-- The wording of a problem, with its usual number. -/
def FileProblem.message : FileProblem → String
  | .taken p => "[Errno 17] File exists: " ++ Text.quoted p.toString
  | .notFolder p => "[Errno 20] Not a directory: " ++ Text.quoted p.toString
  | .isFolder p => "[Errno 21] Is a directory: " ++ Text.quoted p.toString
  | .tooLong p => "[Errno 36] File name too long: " ++ Text.quoted p.toString

namespace FilePath

/-- The most bytes that a name may have. -/
def nameLimit : Nat := 255

/-- The most bytes that a path may have. -/
def lengthLimit : Nat := 4095

/-- Whether a name has too many bytes. -/
def isLongName (name : String) : Bool :=
  nameLimit < name.utf8ByteSize

/-- Whether a path as a whole has too many bytes. -/
def isLong (p : FilePath) : Bool :=
  lengthLimit < p.toString.utf8ByteSize

/-- Whether a null character is in the path. -/
def hasNull (p : FilePath) : Bool :=
  p.names.any fun name => name.toList.contains '\x00'

end FilePath

end ApiAtlas
