import ModSkeleton.Text.Quoted

namespace ModSkeleton

/-!
# Source languages

The entry point of a project is written in Java or in Kotlin.
-/

/-- Source language of the entry point. -/
inductive Language where
  | java
  | kotlin
  deriving Repr, DecidableEq

namespace Language

/-- The name by which a language is chosen. -/
def name : Language → Text
  | .java => "java".toList
  | .kotlin => "kotlin".toList

/-- The language with a name. -/
def ofName?
    (text : Text) :
    Option Language :=
  if text = name .java then some .java
  else if text = name .kotlin then some .kotlin
  else none

/-- Directory under `src/main` that holds the sources. -/
def sourceDir
    (language : Language) :
    Text :=
  language.name

/-- Extension of a source file. -/
def extension : Language → Text
  | .java => "java".toList
  | .kotlin => "kt".toList

/-- The complaint about a value that is no language, given as it is shown. -/
def unknownMessage
    (shown : Text) :
    Text :=
  shown ++ " is not a valid Language".toList

/-- Every language is found by its name. -/
@[simp]
theorem ofName?_name
    (language : Language) :
    ofName? language.name = some language := by
  cases language <;> decide

end Language

end ModSkeleton
