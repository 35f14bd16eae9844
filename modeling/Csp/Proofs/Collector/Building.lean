import Csp.Proofs.Collector.Atomic

/-!
# What is built

A collector builds an instance out of its three lists and its settings whenever
it is asked to, and stays as it is. Its lists hold the entities that callbacks
have contributed, in the order of the calls, and whether one of these was an
objective decides between the two frameworks.

A build takes annotations that are a mapping, and it returns the instance after
the notice about it. So a framework that has no text keeps the instance back, and
so does a console that does not take the line.
-/
namespace Csp.Collector

end Csp.Collector
