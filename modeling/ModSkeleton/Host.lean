import ModSkeleton.FileTree.Basic

namespace ModSkeleton

/-!
# Hosts

What an operation on a file tree does depends on the tree and on the machine that
holds it. The machine is given from outside, by what its devices report and by how
deep the interpreter of the program may nest calls. Its answers may depend on the
whole tree, so that permissions, quotas and full devices are all covered.
-/

/-- What the devices of a machine report about operations at locations of a tree. -/
structure Device where
  /-- Looking up a name in a directory. -/
  search : FileTree → Location → Option DeviceFault
  /-- Listing the names in a directory. -/
  list : FileTree → Location → Option DeviceFault
  /-- Making a directory where nothing stands. -/
  make : FileTree → Location → Option DeviceFault
  /-- Opening a file for writing, or making a new one. -/
  openFile : FileTree → Location → Option DeviceFault
  /-- Writing bytes to a file that was opened: how many were written, and why no more. -/
  writeFile : FileTree → Location → Text.Bytes → Option (Nat × DeviceFault)

/-- Devices that report nothing. -/
def Device.faultless : Device where
  search _ _ := none
  list _ _ := none
  make _ _ := none
  openFile _ _ := none
  writeFile _ _ _ := none

/-- How often recursive operations may call themselves; `none` if there is always room. -/
structure Stack where
  making : Option Nat
  listing : Option Nat
  resolving : Option Nat
  deriving Repr, DecidableEq

namespace Stack

/-- A stack with room for any number of calls. -/
def unlimited : Stack :=
  ⟨none, none, none⟩

/-- The report about calls that are nested too deeply. -/
def exhaustedMessage : Text :=
  "maximum recursion depth exceeded".toList

/-- The same report where directories were to be made one within another. -/
def makingExhaustedMessage : Text :=
  exhaustedMessage ++ " while calling a Python object".toList

end Stack

/-- A machine with the interpreter that runs on it. -/
structure Host where
  device : Device
  stack : Stack

/-- The host on which nothing fails but what the tree determines. -/
def Host.faultless : Host :=
  ⟨.faultless, .unlimited⟩

end ModSkeleton
