import ClusterOperator.Controller
import ClusterOperator.Proofs.SortedMaps

/-!
# Runs of the controller

In a run of the controller the deliveries of the watches and the beginnings and ends of passes
follow each other in any order, at times that never go back. A pass begins at any time from when it
is due, unless another pass of the same deployment is running; if the deployment is gone by then,
the pass is dropped. A pass takes as long as it takes and ends in any way.

## Main definitions

* `Controller.Occurrence`, `Controller.Admits`, `Controller.react`: what can happen to the
  controller, and what it makes of it.
* `Controller.Run`: what happens one after the other.
* `Controller.nextPasses`: when the next passes of a deployment are due.
* `Controller.asked`: the deployments that get a pass because of a delivery.

## Main results

* `Controller.due_deliver`: when the next passes are due after a delivery.
* `Controller.admits_of_take?`: the pass that is taken is one that can begin or be dropped.
* `Controller.Run.append`, `Controller.Run.split`: runs one after the other.
* `Controller.Run.begun_or_due`: a pass that is due stays due until it begins.
-/

namespace ClusterOperator

namespace Controller

/-! ### What can happen -/

/-- What can happen to the controller. -/
inductive Occurrence where
  | delivered (delivery : Delivery)
  /-- A pass that is due begins. -/
  | begun (key : Key)
  /-- A pass that is due is dropped, since its deployment is gone. -/
  | dropped (key : Key)
  | ended (key : Key) (result : Except Error Outcome)

/-- A pass of a deployment is due, and no other one is running. -/
structure Ready (c : Controller) (now : Nat) (key : Key) : Prop where
  due : ∃ time, c.due.get? key = some time ∧ time ≤ now
  idle : key ∉ c.running

/-- What can happen at a time. -/
def Admits (c : Controller) (now : Nat) : Occurrence → Prop
  | .delivered _ => True
  | .begun key => c.Ready now key ∧ c.cache.contains key = true
  | .dropped key => c.Ready now key ∧ c.cache.contains key = false
  | .ended key _ => key ∈ c.running

instance (c : Controller) (now : Nat) (key : Key) : Decidable (c.Ready now key) :=
  decidable_of_iff ((∃ time ∈ c.due.get? key, time ≤ now) ∧ key ∉ c.running)
    ⟨fun ⟨due, idle⟩ => ⟨due, idle⟩, fun h => ⟨h.due, h.idle⟩⟩

instance (c : Controller) (now : Nat) : (o : Occurrence) → Decidable (c.Admits now o)
  | .delivered _ => isTrue trivial
  | .begun key => inferInstanceAs (Decidable (c.Ready now key ∧ c.cache.contains key = true))
  | .dropped key => inferInstanceAs (Decidable (c.Ready now key ∧ c.cache.contains key = false))
  | .ended key _ => inferInstanceAs (Decidable (key ∈ c.running))

/-- What the controller makes of what happens at a time. -/
def react (c : Controller) (settings : Settings) (now : Nat) : Occurrence → Controller
  | .delivered delivery => c.deliver now delivery
  | .begun key => { c with due := c.due.erase key, running := key :: c.running }
  | .dropped key => { c with due := c.due.erase key }
  | .ended key result => c.finish settings now key result

/-- What becomes of the controller when things happen one after the other. -/
def follow (c : Controller) (settings : Settings) (log : List (Nat × Occurrence)) : Controller :=
  log.foldl (fun c e => c.react settings e.1 e.2) c

/-- A run: from a time and a controller on, things happen one after the other. -/
inductive Run (settings : Settings) :
    Nat → Controller → List (Nat × Occurrence) → Nat → Controller → Prop
  | nil (now : Nat) (c : Controller) : Run settings now c [] now c
  | cons {now time last : Nat} {c c' : Controller} {o : Occurrence} {log : List (Nat × Occurrence)}
      (later : now ≤ time) (admits : c.Admits time o)
      (rest : Run settings time (c.react settings time o) log last c') :
      Run settings now c ((time, o) :: log) last c'

/-- The pass that is taken is one that can begin, or that is dropped. -/
theorem admits_of_take? {c c' : Controller} {now : Nat} {key : Key} (settings : Settings)
    (h : c.take? now = some (key, c')) :
    ∃ o, c.Admits now o ∧ c' = c.react settings now o ∧
      (o = .begun key ∧ c.cache.contains key = true ∨
        o = .dropped key ∧ c.cache.contains key = false) := by
  obtain ⟨⟨found, time⟩, hfind, heq⟩ := Option.map_eq_some_iff.mp h
  have hready := List.find?_some hfind
  simp only [Bool.and_eq_true, decide_eq_true_eq, Bool.not_eq_true', List.contains_eq_mem,
    decide_eq_false_iff_not] at hready
  have hdue : c.due.get? found = some time :=
    (SortedMap.mem_entries_iff c.due (found, time)).mp (List.mem_of_find?_eq_some hfind)
  obtain ⟨rfl, rfl⟩ := Prod.mk.inj heq
  have hready : c.Ready now found := ⟨⟨time, hdue, hready.1⟩, hready.2⟩
  cases hcached : c.cache.contains found with
  | true => exact ⟨.begun found, ⟨hready, hcached⟩, by simp [react], .inl ⟨rfl, rfl⟩⟩
  | false => exact ⟨.dropped found, ⟨hready, hcached⟩, by simp [react], .inr ⟨rfl, rfl⟩⟩

/-! ### When passes are due -/

/-- When the next passes of a deployment are due. -/
def nextPasses (c : Controller) (key : Key) : List Nat :=
  (c.due.entries.filter fun e => decide (e.1 = key)).map (·.2)

/-- At most one next pass of a deployment is due. -/
theorem nextPasses_eq (c : Controller) (key : Key) :
    c.nextPasses key = (c.due.get? key).toList :=
  SortedMap.filter_entries_key c.due key

/-- The earlier one of a time and one that may be known already. -/
def earlier (known : Option Nat) (time : Nat) : Nat := known.elim time (min · time)

theorem earlier_le (known : Option Nat) (time : Nat) : earlier known time ≤ time := by
  cases known with
  | none => exact Nat.le_refl _
  | some t => exact Nat.min_le_right t time

theorem earlier_some_le (t time : Nat) : earlier (some t) time ≤ t := Nat.min_le_left t time

/-- A pass that is asked for is merged with the one that is due. -/
theorem due_schedule (c : Controller) (key other : Key) (time : Nat) :
    (c.schedule key time).due.get? other =
      if other = key then some (earlier (c.due.get? key) time) else c.due.get? other := by
  unfold schedule
  cases hdue : c.due.get? key with
  | none => exact SortedMap.get?_insert c.due key other time
  | some t =>
    simp only [earlier, Option.elim_some]
    by_cases hle : t ≤ time
    · rw [if_pos hle, Nat.min_eq_left hle]
      split
      · next hkey => rw [hkey, hdue]
      · rfl
    · rw [if_neg hle, Nat.min_eq_right (by omega)]
      exact SortedMap.get?_insert c.due key other time

@[simp] theorem cache_schedule (c : Controller) (key : Key) (time : Nat) :
    (c.schedule key time).cache = c.cache := by
  unfold schedule
  split
  · split <;> rfl
  · rfl

@[simp] theorem generations_schedule (c : Controller) (key : Key) (time : Nat) :
    (c.schedule key time).generations = c.generations := by
  unfold schedule
  split
  · split <;> rfl
  · rfl

@[simp] theorem running_schedule (c : Controller) (key : Key) (time : Nat) :
    (c.schedule key time).running = c.running := by
  unfold schedule
  split
  · split <;> rfl
  · rfl

/-! ### Passes that are asked for at the same time -/

/-- The controller after passes of several deployments are asked for at the same time. -/
def scheduleAll (c : Controller) (keys : List Key) (time : Nat) : Controller :=
  keys.foldl (fun c key => c.schedule key time) c

theorem earlier_earlier (known : Option Nat) (time : Nat) :
    earlier (some (earlier known time)) time = earlier known time :=
  Nat.min_eq_left (earlier_le known time)

theorem due_scheduleAll (c : Controller) (keys : List Key) (time : Nat) (key : Key) :
    (c.scheduleAll keys time).due.get? key =
      if key ∈ keys then some (earlier (c.due.get? key) time) else c.due.get? key := by
  induction keys generalizing c with
  | nil => rfl
  | cons first rest ih =>
    have hcons : c.scheduleAll (first :: rest) time =
        (c.schedule first time).scheduleAll rest time := rfl
    rw [hcons, ih, due_schedule]
    by_cases hfirst : key = first
    · subst hfirst
      rw [if_pos rfl, earlier_earlier, ite_self, if_pos List.mem_cons_self]
    · simp only [List.mem_cons, hfirst, false_or, if_false]

theorem unchanged_scheduleAll (c : Controller) (keys : List Key) (time : Nat) :
    (c.scheduleAll keys time).cache = c.cache ∧
      (c.scheduleAll keys time).generations = c.generations ∧
      (c.scheduleAll keys time).running = c.running := by
  induction keys generalizing c with
  | nil => exact ⟨rfl, rfl, rfl⟩
  | cons first rest ih =>
    obtain ⟨hcache, hgenerations, hrunning⟩ := ih (c.schedule first time)
    exact ⟨hcache.trans (c.cache_schedule first time),
      hgenerations.trans (c.generations_schedule first time),
      hrunning.trans (c.running_schedule first time)⟩

/-! ### Deliveries -/

/-- The deployments that get a pass because of a delivery: one whose generation is new, or the
owners of a child. -/
def asked (c : Controller) : Delivery → List Key
  | .applied d =>
    match d.metadata.generation with
    | none => [d.key]
    | some g => if c.generations.get? d.key = some g.val then [] else [d.key]
  | .deleted _ => []
  | .touched child => child.owners

/-- The generation that a delivery tells of a deployment. -/
def generationOf? (key : Key) : Delivery → Option Int
  | .applied d => if d.key = key then d.metadata.generation.map (·.val) else none
  | .deleted _ | .touched _ => none

/-- The deployments as they are after a delivery. -/
def cacheAfter (c : Controller) : Delivery → SortedMap Key Declaration
  | .applied d => c.cache.insert d.key d
  | .deleted d => c.cache.erase d.key
  | .touched _ => c.cache

/-- The generations that are remembered after a delivery. -/
def generationsAfter (c : Controller) : Delivery → SortedMap Key Int
  | .applied d =>
    match d.metadata.generation with
    | none => c.generations
    | some g =>
      if c.generations.get? d.key = some g.val then c.generations
      else c.generations.insert d.key g.val
  | .deleted _ | .touched _ => c.generations

/-- A delivery is remembered, and then passes are asked for. -/
theorem deliver_eq (c : Controller) (now : Nat) (delivery : Delivery) :
    c.deliver now delivery = ({ c with
      cache := c.cacheAfter delivery
      generations := c.generationsAfter delivery } : Controller).scheduleAll
        (c.asked delivery) now := by
  cases delivery with
  | deleted d => rfl
  | touched child => rfl
  | applied d =>
    simp only [deliver, apply, asked, cacheAfter, generationsAfter]
    cases d.metadata.generation with
    | none => rfl
    | some g =>
      by_cases hknown : c.generations.get? d.key = some g.val
      · simp only [hknown, if_true]
        rfl
      · simp only [hknown, if_false]
        rfl

/-- When the next pass of a deployment is due after a delivery. -/
theorem due_deliver (c : Controller) (now : Nat) (delivery : Delivery) (key : Key) :
    (c.deliver now delivery).due.get? key =
      if key ∈ c.asked delivery then some (earlier (c.due.get? key) now)
      else c.due.get? key := by
  rw [deliver_eq, due_scheduleAll]

theorem running_deliver (c : Controller) (now : Nat) (delivery : Delivery) :
    (c.deliver now delivery).running = c.running := by
  rw [deliver_eq, (unchanged_scheduleAll _ _ _).2.2]

theorem cache_deliver (c : Controller) (now : Nat) (delivery : Delivery) :
    (c.deliver now delivery).cache = c.cacheAfter delivery := by
  rw [deliver_eq, (unchanged_scheduleAll _ _ _).1]

/-- The generation of a deployment that is remembered after a delivery. -/
theorem generations_deliver (c : Controller) (now : Nat) (delivery : Delivery) (key : Key) :
    (c.deliver now delivery).generations.get? key =
      (generationOf? key delivery).or (c.generations.get? key) := by
  rw [deliver_eq, (unchanged_scheduleAll _ _ _).2.1]
  cases delivery with
  | deleted d => rfl
  | touched child => rfl
  | applied d =>
    simp only [generationsAfter, generationOf?]
    cases d.metadata.generation with
    | none => rw [Option.map_none, ite_self, Option.none_or]
    | some g =>
      simp only [Option.map_some]
      by_cases hkey : d.key = key
      · subst hkey
        rw [if_pos rfl, Option.some_or]
        split
        · assumption
        · exact SortedMap.get?_insert_self _ _ _
      · rw [if_neg hkey, Option.none_or]
        split
        · rfl
        · exact SortedMap.get?_insert_of_ne _ _ (Ne.symm hkey)

/-! ### The end of a pass -/

/-- When the next pass of a deployment is due after the end of a pass. -/
theorem due_finish (c : Controller) (settings : Settings) (now : Nat) (key other : Key)
    (result : Except Error Outcome) :
    (c.finish settings now key result).due.get? other =
      match pause? settings result with
      | none => c.due.get? other
      | some pause =>
        if other = key then some (earlier (c.due.get? key) (now + pause))
        else c.due.get? other := by
  unfold finish
  cases pause? settings result with
  | none => rfl
  | some pause => exact due_schedule _ key other (now + pause)

theorem unchanged_finish (c : Controller) (settings : Settings) (now : Nat) (key : Key)
    (result : Except Error Outcome) :
    (c.finish settings now key result).cache = c.cache ∧
      (c.finish settings now key result).generations = c.generations ∧
      (c.finish settings now key result).running = c.running.filter (· ≠ key) := by
  unfold finish
  cases pause? settings result with
  | none => exact ⟨rfl, rfl, rfl⟩
  | some pause => simp

/-! ### What happens to one deployment -/

namespace Occurrence

/-- The end of a pass of a deployment. -/
def Ends (key : Key) : Occurrence → Prop
  | ended key' _ => key' = key
  | _ => False

/-- The beginning of a pass of a deployment. -/
def Begins (key : Key) : Occurrence → Prop
  | begun key' => key' = key
  | _ => False

/-- The delivery that a deployment is gone. -/
def Deletes (key : Key) : Occurrence → Prop
  | delivered (.deleted d) => d.key = key
  | _ => False

/-- A delivery about a deployment or about a child that it owns. -/
def Concerns (key : Key) : Occurrence → Prop
  | delivered (.applied d) => d.key = key
  | delivered (.touched child) => key ∈ child.owners
  | _ => False

/-- The generation that is told of a deployment. -/
def generationOf? (key : Key) : Occurrence → Option Int
  | delivered delivery => Controller.generationOf? key delivery
  | begun _ | dropped _ | ended _ _ => none

end Occurrence

variable {settings : Settings} {c c' : Controller} {now last : Nat} {key : Key} {o : Occurrence}
  {log : List (Nat × Occurrence)}

theorem concerns_of_mem_asked {delivery : Delivery} (h : key ∈ c.asked delivery) :
    (Occurrence.delivered delivery).Concerns key := by
  cases delivery with
  | applied d =>
    unfold asked at h
    simp only at h
    split at h
    · exact (List.mem_singleton.mp h).symm
    · split at h
      · cases h
      · exact (List.mem_singleton.mp h).symm
  | deleted d => cases h
  | touched child => exact h

/-- What happens makes the next pass of a deployment due earlier if at all, until it begins or is
dropped. -/
theorem due_react_le (admits : c.Admits now o) (begins : ¬ o.Begins key)
    (cached : c.cache.contains key = true) {t : Nat} (h : c.due.get? key = some t) :
    ∃ t' ≤ t, (c.react settings now o).due.get? key = some t' := by
  cases o with
  | delivered delivery =>
    refine ⟨if key ∈ c.asked delivery then earlier (some t) now else t, ?_, ?_⟩
    · split
      · exact earlier_some_le t now
      · exact Nat.le_refl t
    · show (c.deliver now delivery).due.get? key = _
      rw [due_deliver, h]
      split <;> rfl
  | begun other =>
    refine ⟨t, Nat.le_refl t, ?_⟩
    rw [react, SortedMap.get?_erase, if_neg (Ne.symm begins), h]
  | dropped other =>
    have hne : key ≠ other := by
      rintro rfl
      cases cached.symm.trans admits.2
    refine ⟨t, Nat.le_refl t, ?_⟩
    rw [react, SortedMap.get?_erase, if_neg hne, h]
  | ended other result =>
    show ∃ t' ≤ t, (c.finish settings now other result).due.get? key = some t'
    rw [due_finish]
    cases pause? settings result with
    | none => exact ⟨t, Nat.le_refl t, h⟩
    | some pause =>
      by_cases hkey : key = other
      · subst hkey
        exact ⟨_, earlier_some_le t _, (if_pos rfl).trans (by rw [h])⟩
      · exact ⟨t, Nat.le_refl t, (if_neg hkey).trans h⟩

/-- Nothing but a delivery about a deployment or the end of its pass makes a pass of it due. -/
theorem due_react_eq_none (concerns : ¬ o.Concerns key) (ends : ¬ o.Ends key)
    (h : c.due.get? key = none) : (c.react settings now o).due.get? key = none := by
  have herase : ∀ other, (c.due.erase other).get? key = none := by
    intro other
    rw [SortedMap.get?_erase, h, ite_self]
  cases o with
  | delivered delivery =>
    have hasked : key ∉ c.asked delivery := fun hmem => concerns (concerns_of_mem_asked hmem)
    show (c.deliver now delivery).due.get? key = none
    rw [due_deliver, if_neg hasked, h]
  | begun other => exact herase other
  | dropped other => exact herase other
  | ended other result =>
    show (c.finish settings now other result).due.get? key = none
    rw [due_finish]
    cases pause? settings result with
    | none => exact h
    | some pause => exact (if_neg (Ne.symm ends)).trans h

/-- A pass that is running goes on until it ends. -/
theorem mem_running_react (ends : ¬ o.Ends key) (h : key ∈ c.running) :
    key ∈ (c.react settings now o).running := by
  cases o with
  | delivered delivery => exact (c.running_deliver now delivery).symm ▸ h
  | begun other => exact List.mem_cons_of_mem _ h
  | dropped other => exact h
  | ended other result =>
    refine (c.unchanged_finish settings now other result).2.2.symm ▸ List.mem_filter.mpr ⟨h, ?_⟩
    exact decide_eq_true (Ne.symm ends)

/-- No pass is running before one begins. -/
theorem not_mem_running_react (begins : ¬ o.Begins key) (h : key ∉ c.running) :
    key ∉ (c.react settings now o).running := by
  cases o with
  | delivered delivery => exact (c.running_deliver now delivery).symm ▸ h
  | begun other => exact fun hmem => (List.mem_cons.mp hmem).elim (fun heq => begins heq.symm) h
  | dropped other => exact h
  | ended other result =>
    exact (c.unchanged_finish settings now other result).2.2.symm ▸ fun hmem =>
      h (List.mem_filter.mp hmem).1

/-- A deployment stays known until it is gone. -/
theorem contains_react (deletes : ¬ o.Deletes key) (h : c.cache.contains key = true) :
    (c.react settings now o).cache.contains key = true := by
  cases o with
  | delivered delivery =>
    show (c.deliver now delivery).cache.contains key = true
    rw [cache_deliver]
    cases delivery with
    | applied d => rw [cacheAfter, SortedMap.contains_insert, h, Bool.or_true]
    | deleted d =>
      have hne : key ≠ d.key := Ne.symm deletes
      rw [cacheAfter, SortedMap.contains_erase, h, decide_eq_true hne, Bool.true_and]
    | touched child => exact h
  | begun other => exact h
  | dropped other => exact h
  | ended other result => exact (c.unchanged_finish settings now other result).1.symm ▸ h

/-- The generation that is remembered of a deployment is the one that was told last. -/
theorem generations_react (c : Controller) (settings : Settings) (now : Nat) (o : Occurrence)
    (key : Key) : (c.react settings now o).generations.get? key =
      (o.generationOf? key).or (c.generations.get? key) := by
  cases o with
  | delivered delivery => exact c.generations_deliver now delivery key
  | ended other result =>
    exact congrArg (·.get? key) (c.unchanged_finish settings now other result).2.1
  | _ => rfl

/-! ### Runs -/

namespace Run

/-- What every occurrence of a kind preserves is preserved by a run of such occurrences. -/
theorem preserves {P : Controller → Prop} {Q : Occurrence → Prop}
    (step : ∀ (c : Controller) (time : Nat) (o : Occurrence), c.Admits time o → Q o → P c →
      P (c.react settings time o))
    (run : Run settings now c log last c') (h : P c) (hlog : ∀ e ∈ log, Q e.2) : P c' := by
  induction run with
  | nil => exact h
  | cons later admits rest ih =>
    obtain ⟨hfirst, hrest⟩ := List.forall_mem_cons.mp hlog
    exact ih (step _ _ _ admits hfirst h) hrest

/-- Unless a deployment is delivered or a child of it, no pass of it is due or begins. -/
theorem stays_idle (run : Run settings now c log last c') (undue : c.due.get? key = none)
    (idle : key ∉ c.running) (unconcerned : ∀ e ∈ log, ¬ e.2.Concerns key) :
    (c'.due.get? key = none ∧ key ∉ c'.running) ∧ ∀ e ∈ log, ¬ e.2.Begins key := by
  induction run with
  | nil => exact ⟨⟨undue, idle⟩, fun e he => nomatch he⟩
  | @cons now time last c c' o log later admits rest ih =>
    obtain ⟨hfirst, hrest⟩ := List.forall_mem_cons.mp unconcerned
    have hbegins : ¬ o.Begins key := by
      cases o with
      | begun other =>
        rintro rfl
        obtain ⟨t, hdue, -⟩ := admits.1.due
        cases hdue.symm.trans undue
      | _ => exact id
    have hends : ¬ o.Ends key := by
      cases o with
      | ended other result =>
        rintro rfl
        exact idle admits
      | _ => exact id
    obtain ⟨hafter, hlog⟩ :=
      ih (due_react_eq_none hfirst hends undue) (not_mem_running_react hbegins idle) hrest
    exact ⟨hafter, List.forall_mem_cons.mpr ⟨hbegins, hlog⟩⟩

/-- Time does not go back. -/
theorem le (run : Run settings now c log last c') : now ≤ last := by
  induction run with
  | nil => exact Nat.le_refl _
  | cons later admits rest ih => exact Nat.le_trans later ih

/-- What happens decides what becomes of the controller. -/
theorem eq_follow (run : Run settings now c log last c') : c' = c.follow settings log := by
  induction run with
  | nil => rfl
  | cons later admits rest ih => exact ih

/-- A pass that is due is due, or due earlier, until it begins, and its deployment is known until it
is gone. -/
theorem begun_or_due (run : Run settings now c log last c') {t : Nat}
    (cached : c.cache.contains key = true) (due : c.due.get? key = some t)
    (kept : ∀ e ∈ log, ¬ e.2.Deletes key) :
    (∃ e ∈ log, e.2.Begins key) ∨
      (c'.cache.contains key = true ∧ ∃ t' ≤ t, c'.due.get? key = some t') := by
  induction run generalizing t with
  | nil => exact .inr ⟨cached, t, Nat.le_refl t, due⟩
  | @cons now time last c c' o log later admits rest ih =>
    obtain ⟨hfirst, hrest⟩ := List.forall_mem_cons.mp kept
    by_cases begins : o.Begins key
    · exact .inl ⟨_, List.mem_cons_self, begins⟩
    · obtain ⟨t', hle, hdue⟩ : ∃ t' ≤ t, (c.react settings time o).due.get? key = some t' :=
        due_react_le admits begins cached due
      rcases ih (contains_react hfirst cached) hdue hrest with hbegun | ⟨hcached, t'', hle', h⟩
      · obtain ⟨e, he, hbegins⟩ := hbegun
        exact .inl ⟨e, List.mem_cons_of_mem _ he, hbegins⟩
      · exact .inr ⟨hcached, t'', Nat.le_trans hle' hle, h⟩

/-- A pass that has begun is running until it ends. -/
theorem running_of_begins (run : Run settings now c log last c')
    (unended : ∀ e ∈ log, ¬ e.2.Ends key) :
    (key ∈ c.running ∨ ∃ e ∈ log, e.2.Begins key) → key ∈ c'.running := by
  induction run with
  | nil => exact fun h => h.elim id fun ⟨e, he, _⟩ => nomatch he
  | @cons now time last c c' o log later admits rest ih =>
    obtain ⟨hfirst, hrest⟩ := List.forall_mem_cons.mp unended
    rintro (hrunning | ⟨e, he, hbegins⟩)
    · exact ih hrest (.inl (mem_running_react hfirst hrunning))
    · rcases List.mem_cons.mp he with rfl | he
      · cases o with
        | begun other =>
          obtain rfl : other = key := hbegins
          exact ih hrest (.inl List.mem_cons_self)
        | _ => exact hbegins.elim
      · exact ih hrest (.inr ⟨e, he, hbegins⟩)

/-- One run after another one. -/
theorem append {first second : List (Nat × Occurrence)} {middle : Nat} {between : Controller}
    (run : Run settings now c first middle between)
    (next : Run settings middle between second last c') :
    Run settings now c (first ++ second) last c' := by
  induction run with
  | nil => exact next
  | cons later admits rest ih => exact .cons later admits (ih next)

/-- A run of two parts is a run of one after a run of the other one. -/
theorem split {first second : List (Nat × Occurrence)}
    (run : Run settings now c (first ++ second) last c') :
    ∃ middle between, Run settings now c first middle between ∧
      Run settings middle between second last c' := by
  induction first generalizing now c with
  | nil => exact ⟨now, c, .nil now c, run⟩
  | cons e rest ih =>
    cases run with
    | cons later admits run =>
      obtain ⟨middle, between, hfirst, hsecond⟩ := ih run
      exact ⟨middle, between, .cons later admits hfirst, hsecond⟩

end Run

end Controller

end ClusterOperator
