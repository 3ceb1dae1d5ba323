import LoveApi.ChannelAffinity

/-!
# Keys of bindings

The keys of two scopes stay apart unless one scope begins with the text of the other.
-/

namespace LoveApi.Proofs

/-- The parts of a key before the value, under a rule that includes all of them. -/
structure AffinityScope where
  ruleName : String
  modelName : String
  usingGroup : String

namespace AffinityScope

/-- The key under which a value is bound. -/
def key (s : AffinityScope) (affinityValue : String) : String :=
  buildChannelAffinityCacheKeySuffix ⟨s.ruleName, true, true, true⟩ s.modelName s.usingGroup affinityValue

/-- No part is empty, so that none is left out of a key. -/
structure Complete (s : AffinityScope) : Prop where
  rule : s.ruleName ≠ ""
  model : s.modelName ≠ ""
  group : s.usingGroup ≠ ""

/-- The three parts, each with the separator behind it. -/
def start (s : AffinityScope) : List Char :=
  s.ruleName.toList ++ ':' :: (s.modelName.toList ++ ':' :: (s.usingGroup.toList ++ [':']))

/-- Different scopes have texts of which neither is the beginning of the other. -/
def Apart (s s' : AffinityScope) : Prop :=
  s ≠ s' → ¬ s.start <+: s'.start ∧ ¬ s'.start <+: s.start

end AffinityScope

variable {s s' : AffinityScope}

lemma key_toList (h : s.Complete) (value : String) : (s.key value).toList = s.start ++ value.toList := by
  simp [AffinityScope.key, AffinityScope.start, buildChannelAffinityCacheKeySuffix, h.rule, h.model, h.group,
    String.intercalate_cons_cons]

/-- A value that begins with the rest of the longer text takes the key of the other scope. -/
lemma exists_shared_key (h : s.Complete) (h' : s'.Complete) (hstart : s.start <+: s'.start) :
    ∃ value, value ≠ "" ∧ s.key value = s'.key "v" := by
  obtain ⟨rest, hrest⟩ := hstart
  refine ⟨String.ofList (rest ++ ['v']), fun hempty => ?_, ?_⟩
  · have hlength := congrArg (fun text => text.toList.length) hempty
    simp at hlength
  · apply String.toList_inj.mp
    rw [key_toList h, key_toList h', ← hrest]
    simp

/-- Two scopes share no key for different requests exactly if their texts are apart. -/
theorem affinityKeys_distinct_iff (h : s.Complete) (h' : s'.Complete) :
    (∀ value value', value ≠ "" → value' ≠ "" → s.key value = s'.key value' → s = s' ∧ value = value') ↔
      s.Apart s' := by
  constructor
  · intro hdistinct hne
    constructor
    · intro hstart
      obtain ⟨value, hvalue, hkey⟩ := exists_shared_key h h' hstart
      exact hne (hdistinct value "v" hvalue (by decide) hkey).1
    · intro hstart
      obtain ⟨value, hvalue, hkey⟩ := exists_shared_key h' h hstart
      exact hne (hdistinct "v" value (by decide) hvalue hkey.symm).1
  · intro hapart value value' _ _ hkey
    have hlist := congrArg String.toList hkey
    rw [key_toList h, key_toList h'] at hlist
    by_cases hs : s = s'
    · subst hs
      exact ⟨rfl, String.toList_inj.mp (List.append_cancel_left hlist)⟩
    · obtain ⟨hleft, hright⟩ := hapart hs
      -- of two beginnings of one text the shorter begins the longer
      rcases List.prefix_or_prefix_of_prefix (List.prefix_append s.start _)
        (hlist ▸ List.prefix_append s'.start value'.toList) with hstart | hstart
      · exact absurd hstart hleft
      · exact absurd hstart hright

theorem affinityKeys_distinct_models : AffinityScope.Apart ⟨"r", "llama3:8b", "g"⟩ ⟨"r", "qwen:7b", "g"⟩ ∧
    ∀ value value', value ≠ "" → value' ≠ "" →
      AffinityScope.key ⟨"r", "llama3:8b", "g"⟩ value = AffinityScope.key ⟨"r", "qwen:7b", "g"⟩ value' →
        (⟨"r", "llama3:8b", "g"⟩ : AffinityScope) = ⟨"r", "qwen:7b", "g"⟩ ∧ value = value' := by
  have hapart : AffinityScope.Apart ⟨"r", "llama3:8b", "g"⟩ ⟨"r", "qwen:7b", "g"⟩ := fun _ => by decide +kernel
  exact ⟨hapart,
    (affinityKeys_distinct_iff ⟨by decide, by decide, by decide⟩ ⟨by decide, by decide, by decide⟩).mpr hapart⟩

/-- A value that a client sends takes the key of another group. -/
theorem affinityKey_shared : AffinityScope.key ⟨"r", "m", "g"⟩ "h:v" = AffinityScope.key ⟨"r", "m", "g:h"⟩ "v" ∧
    (⟨"r", "m", "g"⟩ : AffinityScope) ≠ ⟨"r", "m", "g:h"⟩ :=
  ⟨by decide +kernel, by simp⟩

end LoveApi.Proofs
