import ModSkeleton.Proofs.Generation.Emission

namespace ModSkeleton

open FileTree Workspace

/-!
# What a failed generation leaves behind

On every host, a generation that fails before writing leaves everything as it was. One that
fails at a file has written the files before it and left those after it alone, and has made
no directories but such as lead to the files that it came to. Of the file where it failed
there may be a beginning, since a file is emptied before it is written; that takes a device
that fails while it is written, and then its fault is what is reported.
-/

end ModSkeleton
