import LoveApi.Go
import LoveApi.Program.Loop

/-!
# The mapping of the requested model

`ModelMappedHelper` follows the mapping table of a channel from the requested model to the upstream model. For a compact
request it also rewrites the requested model.
-/

namespace LoveApi

open Program Go

/-- The mapping table of a channel. -/
abbrev ModelTable := List (String × String)

/-- The names of the model in the record of a request. -/
structure ModelInfo where
  originModelName : String
  upstreamModelName : String
  isModelMapped : Bool := false
deriving DecidableEq, Repr

/-- The variables of the loop of `ModelMappedHelper`. -/
structure MappingState where
  currentModel : String
  visitedModels : List String
  isModelMapped : Bool

/-- How the loop of `ModelMappedHelper` ends; `returned` is its early return. -/
inductive MappingEnd
  | cycle
  | returned
  | left (currentModel : String) (isModelMapped : Bool)
deriving DecidableEq, Repr

/-- One round of the loop. -/
def followMapping (modelMap : ModelTable) (originModelName : String) (s : MappingState) :
    Next MappingState MappingEnd :=
  match (modelMap.lookup s.currentModel).filter (· ≠ "") with
  | some mappedModel =>
    if mappedModel ∈ s.visitedModels then
      if mappedModel = s.currentModel then
        if s.currentModel = originModelName then .done .returned else .done (.left s.currentModel true)
      else .done .cycle
    else .again ⟨mappedModel, mappedModel :: s.visitedModels, true⟩
  | none => .done (.left s.currentModel s.isModelMapped)

/-- `CompactModelSuffix`. -/
def compactModelSuffix : String := "-openai-compact"

/-- `WithCompactModelSuffix`. -/
def withCompactModelSuffix (modelName : String) : String :=
  if hasSuffix modelName compactModelSuffix then modelName else modelName ++ compactModelSuffix

/-- The model that is looked up: a compact request is mapped without its suffix. -/
def mappingModelName (isResponsesCompact : Bool) (originModelName : String) : String :=
  if isResponsesCompact && hasSuffix originModelName compactModelSuffix then
    String.ofList (originModelName.toList.take (originModelName.length - compactModelSuffix.length))
  else originModelName

/-- `ModelMappedHelper` with the table of the channel, which is empty for the texts "" and "{}". -/
def modelMappedHelper (isResponsesCompact : Bool) (modelMap : ModelTable) (fuel : Nat) (info : ModelInfo) :
    Option (Except String ModelInfo) := do
  let name := mappingModelName isResponsesCompact info.originModelName
  match ← loop (followMapping modelMap info.originModelName) fuel ⟨name, [name], info.isModelMapped⟩ with
  | .cycle => return .error "model_mapping_contains_cycle"
  | .returned => return .ok { info with isModelMapped := false }
  | .left currentModel isModelMapped =>
    let upstream := if isModelMapped then currentModel else info.upstreamModelName
    if isResponsesCompact then
      let final := if isModelMapped && upstream ≠ "" then upstream else name
      return .ok ⟨withCompactModelSuffix final, final, isModelMapped⟩
    else return .ok ⟨info.originModelName, upstream, isModelMapped⟩

/-- `InitChannelMeta` after `SetupContextForSelectedChannel`, which stores the requested model for it. -/
def ModelInfo.initChannelMeta (originModelName : String) : ModelInfo := ⟨originModelName, originModelName, false⟩

/-- The mapping of an attempt of a compact request. -/
def compactAttempt (originModelName : String) (modelMap : ModelTable) : Option (Except String ModelInfo) :=
  modelMappedHelper true modelMap (modelMap.length + 1) (ModelInfo.initChannelMeta originModelName)

/-- The requested model after attempts; an error of the mapping is not followed by another one. -/
def originAfter : String → List ModelTable → Option String
  | originModelName, [] => some originModelName
  | originModelName, modelMap :: rest =>
    match compactAttempt originModelName modelMap with
    | some (.ok info) => originAfter info.originModelName rest
    | _ => none

end LoveApi
