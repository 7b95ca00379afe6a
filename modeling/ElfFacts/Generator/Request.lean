import ElfFacts.Path

/-!
# Requests

A request names main binaries, each of which gets a document, and libraries and compilers that
give context.
-/
namespace ElfFacts

structure Request where
  mains : List Path
  libraries : List Path := []
  compilers : List Path := []
  deriving DecidableEq, Repr

namespace Request

/-- Every input once, in the spelling seen first. -/
def inputs (r : Request) : List Path := Path.distinct (r.mains ++ r.libraries ++ r.compilers)

def context (r : Request) : List Path :=
  r.inputs.filter fun p => !r.mains.any p.same

end Request

end ElfFacts
