/-!
# Paths

The segments of a path stand between slashes. A segment of one point means the place itself and one
of two points the place before it; `normalPath` removes both. The beginning of a path has nothing
before it.
-/

set_option autoImplicit false

namespace Automation.Url

/-- The segments without those that are made of points. `done` holds the segments so far, the last
of them first. -/
def withoutDots : (done : List String) → List String → List String
  | done, [] => done.reverse
  | done, "." :: rest => withoutDots done rest
  | done, ".." :: rest => withoutDots (if done = [""] then done else done.tail) rest
  | done, s :: rest => withoutDots (s :: done) rest

/-- The path without the segments that are made of points. -/
def normalPath (path : String) : String :=
  String.intercalate "/" (withoutDots [] (path.splitOn "/"))

end Automation.Url
