import ClusterOperator.Proofs.Schedule.Runs

/-!
# Edits and generations

The controller notices an edit of a deployment by its generation, which a write of the status leaves
alone. It remembers the generation that was told last under a name, also when the deployment is
gone. A deployment that is declared anew under that name counts its generations from the start: if
it is delivered with the generation that is remembered, it is taken for the one that is gone and
gets no pass.

## Main definitions

* `Controller.lastGeneration?`: the generation that was told last.
* `Controller.Starts`: a pass is started, whatever happens from then on.

## Main results

* `Controller.Run.generations_eq`: what a controller remembers is what was told last.
* `Controller.Run.applied_starts`: a deployment that is delivered gets a pass exactly if its
  generation is not the one that was told last.
-/

namespace ClusterOperator

namespace Controller

/-- The generation of a deployment that was told last. -/
def lastGeneration? (key : Key) (log : List (Nat × Occurrence)) : Option Int :=
  (log.filterMap fun e => e.2.generationOf? key).getLast?

theorem lastGeneration?_cons (key : Key) (time : Nat) (o : Occurrence)
    (log : List (Nat × Occurrence)) :
    lastGeneration? key ((time, o) :: log) =
      (lastGeneration? key log).or (o.generationOf? key) := by
  unfold lastGeneration?
  cases htold : o.generationOf? key with
  | none => rw [List.filterMap_cons_none (a := (time, o)) htold, Option.or_none]
  | some g =>
    rw [List.filterMap_cons_some (a := (time, o)) htold, List.getLast?_cons, Option.or_some]

/-- From a time on a pass of a deployment is started: unless the deployment is gone, one begins, and
until then it is due and can begin as soon as no other one of the deployment is running. -/
def Starts (c : Controller) (settings : Settings) (now : Nat) (key : Key) : Prop :=
  ∀ log last c', Run settings now c log last c' → (∀ e ∈ log, ¬ e.2.Deletes key) →
    (∃ e ∈ log, e.2.Begins key) ∨
      ((∃ t ≤ now, c'.nextPasses key = [t]) ∧
        (key ∉ c'.running → c'.Admits last (.begun key)))

variable {settings : Settings} {c c' : Controller} {now last : Nat} {key : Key}
  {log : List (Nat × Occurrence)}

/-- A pass that is due of a deployment that is known is started. -/
theorem starts_of_due {t : Nat} (due : c.due.get? key = some t) (le : t ≤ now)
    (cached : c.cache.contains key = true) : c.Starts settings now key := by
  intro log last c' run kept
  rcases run.begun_or_due cached due kept with hbegun | ⟨hcached, t', hle, hdue⟩
  · exact .inl hbegun
  · refine .inr ⟨⟨t', Nat.le_trans hle le, by rw [nextPasses_eq, hdue]; rfl⟩, fun hidle => ?_⟩
    exact ⟨⟨⟨t', hdue, Nat.le_trans hle (Nat.le_trans le run.le)⟩, hidle⟩, hcached⟩

/-- A deployment whose generation is new gets a pass. -/
theorem starts_of_generation_ne {d : Declaration} {g : Width.signed64.Val}
    (told : d.metadata.generation = some g) (new : c.generations.get? d.key ≠ some g.val) :
    (c.deliver now (.applied d)).Starts settings now d.key := by
  have hasked : d.key ∈ c.asked (.applied d) := by
    simp [asked, told, new]
  refine starts_of_due ((c.due_deliver now _ d.key).trans (if_pos hasked)) (earlier_le _ now) ?_
  rw [cache_deliver, cacheAfter, SortedMap.contains_insert, decide_eq_true rfl, Bool.true_or]

/-- A deployment whose generation is known already is only taken note of. -/
theorem deliver_of_generation_eq {d : Declaration} {g : Width.signed64.Val}
    (told : d.metadata.generation = some g) (known : c.generations.get? d.key = some g.val) :
    c.deliver now (.applied d) = { c with cache := c.cache.insert d.key d } := by
  simp [deliver, apply, told, known]

namespace Run

/-- What a controller remembers is the generation that was told last, or what it remembered at the
start. -/
theorem generations_eq (run : Run settings now c log last c') (key : Key) :
    c'.generations.get? key = (lastGeneration? key log).or (c.generations.get? key) := by
  induction run with
  | nil => rfl
  | cons later admits rest ih =>
    rw [ih, generations_react, lastGeneration?_cons, Option.or_assoc]

/-- A deployment that is delivered gets a pass unless its generation is the one that was told last
under its name; no matter whether it is still the same deployment. If it is that generation, then
nothing changes but what is known of the deployment, and no pass of it begins, if none was due or
running, until it is delivered again or one of its children is. -/
theorem applied_starts (run : Run settings 0 {} log last c) (now : Nat) {d : Declaration}
    {g : Width.signed64.Val} (told : d.metadata.generation = some g) :
    (lastGeneration? d.key log ≠ some g.val →
        (c.deliver now (.applied d)).Starts settings now d.key) ∧
      (lastGeneration? d.key log = some g.val →
        c.deliver now (.applied d) = { c with cache := c.cache.insert d.key d } ∧
          (c.nextPasses d.key = [] → d.key ∉ c.running →
            ∀ more last' c', Run settings now (c.deliver now (.applied d)) more last' c' →
              (∀ e ∈ more, ¬ e.2.Concerns d.key) → ∀ e ∈ more, ¬ e.2.Begins d.key)) := by
  have hremembered : c.generations.get? d.key = lastGeneration? d.key log :=
    (run.generations_eq d.key).trans Option.or_none
  refine ⟨fun hnew => starts_of_generation_ne told (hremembered ▸ hnew), fun hknown => ?_⟩
  have hdeliver : c.deliver now (.applied d) = { c with cache := c.cache.insert d.key d } :=
    deliver_of_generation_eq told (hremembered.trans hknown)
  refine ⟨hdeliver, fun hnone hidle more last' c' hmore hunconcerned => ?_⟩
  rw [nextPasses_eq, Option.toList_eq_nil_iff] at hnone
  rw [hdeliver] at hmore
  exact (hmore.stays_idle hnone hidle hunconcerned).2

end Run

end Controller

/-! ### A deployment that is declared anew -/

namespace Declaration

/-- A deployment that was never edited. -/
def freshSample (uid : String) : Declaration where
  metadata :=
    { name := some "nc", space := some "default", uid := some uid,
      generation := some ⟨1, by decide⟩ }

open Controller in
/-- A deployment gets its first pass and is gone by the time of the second one. -/
def freshSampleGone : List (Nat × Occurrence) :=
  [(0, .delivered (.applied (freshSample "u1"))), (0, .begun ⟨.declaration, "default", "nc"⟩),
    (5, .ended ⟨.declaration, "default", "nc"⟩ (.ok .converged)),
    (10, .delivered (.deleted (freshSample "u1"))), (35, .dropped ⟨.declaration, "default", "nc"⟩)]

open Controller in
theorem run_freshSampleGone :
    Run {} 0 {} freshSampleGone 35 (({} : Controller).follow {} freshSampleGone) :=
  .cons (by decide) (by decide) <| .cons (by decide) (by decide) <|
    .cons (by decide) (by decide) <| .cons (by decide) (by decide) <|
    .cons (by decide) (by decide) <| .nil _ _

end Declaration

open Declaration Controller in
/-- The first one to be declared gets a pass; one that takes its place does not. -/
theorem Declaration.freshSample_overlooked :
    (({} : Controller).deliver 0 (.applied (freshSample "u1"))).Starts {} 0 (freshSample "u1").key ∧
      ∃ c, Run {} 0 {} freshSampleGone 35 c ∧
        ∀ log last c', Run {} 40 (c.deliver 40 (.applied (freshSample "u2"))) log last c' →
          (∀ e ∈ log, ¬ e.2.Concerns (freshSample "u2").key) →
            ∀ e ∈ log, ¬ e.2.Begins (freshSample "u2").key := by
  refine ⟨?_, _, run_freshSampleGone, ?_⟩
  · exact (@Run.applied_starts {} _ _ _ (.nil 0 {}) 0 (freshSample "u1") _ rfl).1 (by decide)
  · exact ((@Run.applied_starts {} _ _ _ run_freshSampleGone 40 (freshSample "u2") _ rfl).2 rfl).2
      rfl nofun

end ClusterOperator
