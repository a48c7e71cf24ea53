import RemoteSensing.Proofs.Catalog.Links

/-!
Loading a shared file.
-/

namespace RemoteSensing

open List Session

namespace Catalog

variable (address : String) (w : World)

end Catalog
end RemoteSensing
