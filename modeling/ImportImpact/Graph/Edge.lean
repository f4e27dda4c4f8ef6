/-!
Import edges between repository paths: the source imports the target.
-/

namespace ImportImpact

structure Edge where
  source : String
  target : String
  deriving DecidableEq

namespace Edge

def relation : String := "imports"

def sourcesOf (edges : List Edge) (target : String) : List String :=
  (edges.filter fun edge => edge.target = target).map source

def targetsOf (edges : List Edge) (source : String) : List String :=
  (edges.filter fun edge => edge.source = source).map target

end Edge

end ImportImpact
