import Csp.Example.RowPatterns

/-!
# The report on the row patterns

Prints the report, or nothing if it could not be made.
-/

/-- Prints the lines of the report. -/
def main : IO Unit :=
  match Csp.RowPatterns.report with
  | .ok lines => lines.forM IO.println
  | .error _ => pure ()
