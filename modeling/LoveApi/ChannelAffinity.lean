import Mathlib.Data.String.Basic

/-!
# Channel affinity

A rule binds a value of a request to a channel, under a key that joins the parts of the request.
-/

namespace LoveApi

structure ChannelAffinityRule where
  name : String
  includeRuleName : Bool
  includeModelName : Bool
  includeUsingGroup : Bool

def buildChannelAffinityCacheKeySuffix (rule : ChannelAffinityRule) (modelName usingGroup affinityValue : String) :
    String :=
  let part (included : Bool) (text : String) := if included ∧ text ≠ "" then [text] else []
  ":".intercalate (part rule.includeRuleName rule.name ++ part rule.includeModelName modelName ++
    part rule.includeUsingGroup usingGroup ++ [affinityValue])

end LoveApi
