/-!
# File paths

Paths are plain texts whose components are separated by slashes.
-/

namespace VmLifecycle.Text

/-- The entry `name` below the directory `dir`. A slash is put between them
unless `dir` is empty or already ends in one. -/
def joinPath (dir name : String) : String :=
  match dir.toList.getLast? with
  | none => name
  | some '/' => dir ++ name
  | some _ => dir ++ "/" ++ name

end VmLifecycle.Text
