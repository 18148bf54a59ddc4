import PushToTalk.Folder
import PushToTalk.Settings
import PushToTalk.Tick

/-
  What the detector and every upload worker share.

  Each part is changed on its own, in one step; there is no step that changes two of them unless
  it is said to.
-/

namespace PushToTalk

/-- The state that detector and workers share. -/
structure Station where
  settings : Settings
  users : UserDirectory
  /-- Ticks of the files that failed. -/
  cache : RetryCache
  /-- The session folders. -/
  folders : Registry
  disk : Disk
  deriving Repr

namespace Station

/-- A station at the start, with the given settings and an empty disk. -/
def start (settings : Settings) : Station :=
  ⟨settings, .empty, .empty, .empty, .blank⟩

/-- The name under which a user's recordings are filed. -/
def nameOf (s : Station) (user : UserId) : String :=
  (s.users.nameOf? user).getD user.fallbackName

/-- A job is done with the given folders. -/
def finish (s : Station) (folders : List Path) : Station :=
  let (disk, registry) := Registry.finish s.disk s.folders folders
  { s with disk, folders := registry }

/-- Forgets the tick of a file. -/
def forget (s : Station) (file : Path) : Station := { s with cache := s.cache.erase file }

/-- Remembers the tick of a file that failed. -/
def remember (s : Station) (file : Path) (tick : TickData) : Station :=
  { s with cache := s.cache.put file tick }

/-- Deletes a file, or leaves everything as it is when that fails. -/
def delete (s : Station) (file : Path) : Station :=
  match s.disk.removeFile file with
  | .ok disk => { s with disk }
  | .error _ => s

end Station

end PushToTalk
