import Mathlib.Data.List.Induction

/-!
# Programs that emit events

A step of such a program changes the state and appends events to those that were emitted before.
-/

namespace LoveApi.Program

/-- A change of a state that emits events. -/
abbrev Emitter (σ ε : Type) := σ → List ε × σ

namespace Emitter

variable {σ ε ι : Type}

def skip : Emitter σ ε := fun s => ([], s)

def andThen (f g : Emitter σ ε) : Emitter σ ε := fun s => ((f s).1 ++ (g (f s).2).1, (g (f s).2).2)

lemma andThen_assoc (f g h : Emitter σ ε) : (f.andThen g).andThen h = f.andThen (g.andThen h) := by
  funext s
  simp [andThen]

def feed (step : ι → Emitter σ ε) : List ι → Emitter σ ε
  | [] => skip
  | input :: rest => (step input).andThen (feed step rest)

lemma feed_append (step : ι → Emitter σ ε) (inputs inputs' : List ι) :
    feed step (inputs ++ inputs') = (feed step inputs).andThen (feed step inputs') := by
  induction inputs with
  | nil => rfl
  | cons input rest ih =>
    funext s
    rw [List.cons_append, feed, feed, ih]
    simp [andThen]

lemma feed_concat (step : ι → Emitter σ ε) (inputs : List ι) (input : ι) (s : σ) : feed step (inputs ++ [input]) s =
      ((feed step inputs s).1 ++ (step input (feed step inputs s).2).1, (step input (feed step inputs s).2).2) := by
  rw [feed_append]
  simp [feed, andThen, skip]

/-- The step keeps a relation between the events emitted so far and the state. -/
def Keeps (Inv : List ε → σ → Prop) (f : Emitter σ ε) : Prop :=
  ∀ events s, Inv events s → Inv (events ++ (f s).1) (f s).2

variable {Inv : List ε → σ → Prop} {f g : Emitter σ ε}

lemma Keeps.andThen (hf : Keeps Inv f) (hg : Keeps Inv g) : Keeps Inv (f.andThen g) := by
  intro events s h
  rw [Emitter.andThen, ← List.append_assoc]
  exact hg _ _ (hf _ _ h)

lemma Keeps.feed {step : ι → Emitter σ ε} {inputs : List ι} (h : ∀ input ∈ inputs, Keeps Inv (step input)) :
    Keeps Inv (feed step inputs) := by
  induction inputs with
  | nil =>
    intro events s h
    rwa [Emitter.feed, skip, List.append_nil]
  | cons input rest ih =>
    exact (h input List.mem_cons_self).andThen (ih fun other hother => h other (List.mem_cons_of_mem _ hother))

/-- Induction over the inputs that were fed, with the events emitted so far. -/
theorem feed_induction (P : List ι → List ε → σ → Prop) (step : ι → Emitter σ ε) (inputs : List ι) (s : σ)
    (hstart : P [] [] s)
    (hstep : ∀ before input after, inputs = before ++ input :: after → ∀ events s, P before events s →
      P (before ++ [input]) (events ++ (step input s).1) (step input s).2) :
    P inputs (feed step inputs s).1 (feed step inputs s).2 := by
  induction inputs using List.reverseRecOn with
  | nil => exact hstart
  | append_singleton inputs input ih =>
    rw [feed_concat]
    refine hstep inputs input [] rfl _ _ (ih fun before other after hsplit => ?_)
    exact hstep before other (after ++ [input]) (by rw [hsplit]; simp)

end Emitter

end LoveApi.Program
