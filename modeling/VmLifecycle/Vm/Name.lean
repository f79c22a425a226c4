/-!
# VM names

Every VM that belongs to the platform has a name with a common beginning. Two
of these names are managed by the tool itself.
-/

namespace VmLifecycle.VmName

/-- What the names of all platform VMs begin with. -/
def family : String := "pcfdev-"

/-- Name of the VM that is imported from the bundled image. -/
def bundled : String := "pcfdev-v0.1.0"

/-- Name of the VM that is imported from an image of the user's. -/
def custom : String := "pcfdev-custom"

/-- Whether the name is one that the tool manages. -/
def isManaged (name : String) : Bool :=
  name = bundled || name = custom

/-- Whether the name is that of a platform VM, managed or not. -/
def inFamily (name : String) : Bool :=
  family.toList.isPrefixOf name.toList

end VmLifecycle.VmName
