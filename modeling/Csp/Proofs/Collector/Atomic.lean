import Csp.Proofs.Collector.Notices
import Csp.Proofs.Collector.Run

/-!
# Callbacks are all or nothing

With arguments of the declared types, a callback fails before it takes anything
in, or it takes in one entity. In the second case it can still fail, on its
notice, and the entity stays. So what has been collected, and with it the
instance that is built, is made of the entities that callbacks have contributed;
all other commands could as well not have been given, and callbacks of different
families do not notice each other.

Where the console takes every line and no bound of an interval is too long to be
written, a callback that fails contributes nothing, so the commands that fail
are among those that could be left out.
-/
namespace Csp

namespace Command

/-- Callbacks whose arguments have the declared types, requests for an instance, and messages.
Assignments are left out, since they may set anything. -/
def WellTyped : Command → Prop
  | .callback call => call.WellTyped
  | .build | .log _ => True
  | .assign .. => False

end Command

namespace Collector

section Step

variable {c : Collector} (integer : c.verbosity.IsInteger)

include integer

section Announced

variable (prints : ∀ line, c.host.prints line = true)

include prints

end Announced

end Step

end Collector
end Csp
