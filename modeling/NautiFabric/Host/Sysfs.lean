import NautiFabric.Gpu.Rocm

/-!
# NautiFabric.Host.Sysfs — what the kernel shows of the hardware

The readers that inventory and discovery share, over a tree of files. A file that is
missing or cannot be read is nothing, never an error.
-/

namespace NautiFabric

/-- The files under `/sys`, and what the file system says of a path itself. -/
structure SysTree extends Sysfs where
  pathExists : String → Bool
  canonicalize : String → Option String

namespace SysTree

/-- The text of a file, without the white space around it. -/
def read (sys : SysTree) (path : String) : Option String := (sys.readToString path).map trim

/-- The names in a directory, in order. -/
def entries (sys : SysTree) (dir : String) : List String :=
  ((sys.readDir dir).getD []).mergeSort fun a b => decide (a ≤ b)

def linkName (sys : SysTree) (path : String) : Option String := (sys.readLink path).bind fileName

/-- The NUMA node of a PCI device. -/
def pciNuma (sys : SysTree) (deviceDir : String) : Option String :=
  (sys.read (deviceDir ++ "/numa_node")).filter fun n => n ≠ "-1"

theorem mem_entries {sys : SysTree} {dir name : String} :
    name ∈ sys.entries dir ↔ name ∈ (sys.readDir dir).getD [] :=
  List.mem_mergeSort

theorem entries_perm (sys : SysTree) (dir : String) :
    (sys.entries dir).Perm ((sys.readDir dir).getD []) :=
  List.mergeSort_perm _ _

end SysTree

end NautiFabric
