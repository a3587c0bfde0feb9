import SpatialQuery.Text.Basic

/-!
# Issues

One thing that is wrong with a query, with the path that leads to it.
-/

set_option autoImplicit false

namespace SpatialQuery

structure Issue where
  path : Text
  message : Text
deriving DecidableEq

namespace Issue

def pathOf (parts : List Text) : Text :=
  match parts with
  | [] => "(root)"
  | parts => Text.intercalate "." parts

def summarize (summary : Text) (issues : List Issue) : Text :=
  match issues with
  | [] => summary
  | issues =>
    summary ++ ": " ++ Text.intercalate "; " (issues.map fun issue => issue.path ++ ": " ++ issue.message)

end Issue

end SpatialQuery
