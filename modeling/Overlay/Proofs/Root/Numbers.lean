import Overlay.Proofs.Root.Tasks

/-!
# Numbers of instances

No number is given to two instances of a job. Over every run of a root the numbers of the instances
that it creates for a job increase, also when instances leave in between, and the instances that are
there have some of these numbers, each its own (`RootTier.numbers_increase`). The one thing that ends
this is a counter that runs over 32 bits (`RootTier.CounterFits`).
-/

namespace Overlay.RootTier

variable {σ : Type} (R : RootTier σ)

/-- The numbers of all instances that a run creates for the job of a name, in the order in which they
are created. -/
def numbers : List RootTask → σ → String → List UInt32
  | [], _, _ => []
  | task :: earlier, s, name =>
    numbers earlier s name ++ R.tier.made (R.reached earlier s) name task

/-- The counter of the job of a name never runs over 32 bits. -/
def CounterFits : List RootTask → σ → String → Prop
  | [], _, _ => True
  | task :: earlier, s, name => CounterFits earlier s name ∧
    ∀ job ∈ (R.state earlier s).job? name,
      job.nextNumber.toNat + (R.tier.made (R.reached earlier s) name task).length < 2 ^ 32

/-- The numbers of a run are those that its job has given. -/
theorem counted (tasks : List RootTask) (s : σ) (name : String) (h : R.CounterFits tasks s name) :
    Job.Counted (R.numbers tasks s name) ((R.state tasks s).job? name) := by
  induction tasks with
  | nil =>
    rw [R.state_nil_job?]
    rfl
  | cons task earlier ih =>
    obtain ⟨hearlier, hroom⟩ := h
    exact ((R.state_turn task earlier s).jobs name).counted (ih hearlier) hroom

/-- **Numbers of instances.** As long as the counter of a job fits into 32 bits, the numbers of its
instances increase in the order in which they are created. The counter counts them, and the instances
that are there have numbers below it, each its own. -/
theorem numbers_increase (tasks : List RootTask) (s : σ) (name : String)
    (h : R.CounterFits tasks s name) :
    (R.numbers tasks s name).Pairwise (· < ·) ∧
      ∀ job, (R.state tasks s).job? name = some job →
        job.nextNumber.toNat = (R.numbers tasks s name).length ∧
        (job.instances.map (·.number)).Nodup ∧
        ∀ i ∈ job.instances, i.number ∈ R.numbers tasks s name ∧ i.number < job.nextNumber := by
  have hcounted := R.counted tasks s name h
  cases hjob : (R.state tasks s).job? name with
  | none =>
    rw [hjob] at hcounted
    have hnone : R.numbers tasks s name = [] := hcounted
    rw [hnone]
    exact ⟨.nil, nofun⟩
  | some job =>
    rw [hjob] at hcounted
    have hnumbered : job.Numbered (R.numbers tasks s name) := hcounted
    refine ⟨hnumbered.increasing, ?_⟩
    intro job' hjob'
    obtain rfl := Option.some.inj hjob'
    refine ⟨hnumbered.counter, hnumbered.distinct, fun i hi => ?_⟩
    have hlive := hnumbered.live i hi
    exact ⟨hlive, hnumbered.below i.number hlive⟩

/-- A job gets two instances, loses the last one, and gets another one. -/
def replaced : List RootTask :=
  [.call (.addInstances "J" 1 "c1"), .call (.undeployInstance "J" 1),
    .call (.addInstances "J" 2 "c1"), .call (.register ⟨"a", "n", "s", "n", ⟨none, none⟩⟩ "J")]

/-- The number that was free is not given again. -/
theorem numbers_increase_replaced :
    Standalone.delivering.numbers replaced (.start ⟨[], [], []⟩ []) "a.n.s.n" = [0, 1, 2] ∧
    ([0, 1, 2] : List UInt32).Pairwise (· < ·) := by
  have hnumbers : Standalone.delivering.numbers replaced (.start ⟨[], [], []⟩ []) "a.n.s.n" =
      [0, 1, 2] := by decide +kernel
  refine ⟨hnumbers, hnumbers ▸ (Standalone.delivering.numbers_increase replaced
    (.start ⟨[], [], []⟩ []) "a.n.s.n" ?_).1⟩
  exact ⟨⟨⟨⟨trivial, by decide +kernel⟩, by decide +kernel⟩, by decide +kernel⟩, by decide +kernel⟩

end Overlay.RootTier
