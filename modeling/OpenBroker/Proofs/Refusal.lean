import OpenBroker.Proofs.Loading
import OpenBroker.Proofs.Settings

/-! # How loading a configuration fails

An environment is loaded as a configuration that is fit for use (`Accepted`), or it is refused with
an error about one of its settings.  There are two ways out besides.  The operating system may be
unable to say whether there is a catalog file, and then the obstacle itself is the error.  And the
line about a configuration that was loaded may be one that the console cannot write.

What the operating system cannot say something about is out of reach (`Files.Unreachable`).  The
names of a path are looked up one by one, so a name does no harm behind one that leads nowhere, nor
behind a file.
-/
namespace OpenBroker

/-! ## Paths that are out of reach -/

namespace Files

variable {entries : List (Text × Entry)} {p : Path} {name : Text} {names : List Text}
  {place : Place} {o : Obstacle}

/-- Where a path begins. -/
def start (entries : List (Text × Entry)) (p : Path) : Place :=
  if p.isRelative then .inside entries [] else .outside

end Files

namespace Settings

variable {env : Environment} {entries : List (Text × Files.Entry)} {name : Text} {c : Config}
  {e : Error}

/-! ## What is accepted, and what escapes -/

end Settings
end OpenBroker
